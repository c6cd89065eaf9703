import AppNeo3.Foundation.Refinement
import AppNeo3.Session.Parses

/-!
# The review in hand

The data that a review shows are read when it is drawn. In a calm run, in which no
command comes while a review is on the screen and no part of a transaction between an
approval and the next wiping, they are those that the review was opened with
(`run_held`): the bytes received, the transaction that they are parsed to from zero,
their hash and the texts of the facts.
-/

set_option autoImplicit false

namespace AppNeo3

open Memory Runs

variable {sdk : Sdk} {build : Build}

/-- No command comes while a review is on the screen, and no part of a transaction
between an approval and the next wiping. -/
structure CalmTaken (entry : Taken) (older : History) : Prop where
  unreviewed : ∀ route, entry.Routed route → entry.before.pending = none
  begun : ∀ data chunk more, entry.Routed (.signTx data chunk more) → chunk ≠ 0 → chunk ≠ 1 →
    ¬ Approved older

/-- The application holds what the review shows. -/
structure Held (sdk : Sdk) (build : Build) (app : App) (review : TransactionReview) : Prop where
  built : review = app.review build
  parses : Parses sdk app.ctx.txInfo.received app.ctx.txInfo.transaction
  hash : app.ctx.txInfo.hash = sdk.sha256 app.ctx.txInfo.received
  texts : ∃ older, app.gTx = reviewTexts sdk app.ctx older

/-- A review that has just been opened is held. -/
theorem held_of_opened {outcomes : CxOutcomes} {app app' : App} {route : Route}
    {review : TransactionReview}
    (effect : Effect sdk build outcomes app route (some (app', .start (.transaction review))))
    (covered : ∀ data chunk more, route = .signTx data chunk more → chunk ≠ 0 → chunk ≠ 1 →
      app.ctx.Covered sdk) : Held sdk build app' review := by
  generalize handled : some (app', Answer.start (.transaction review)) = result at effect
  cases effect with
  | reviewOpened part request fits ok fill =>
      cases handled
      subst fill
      have leftovers := (covered _ _ _ rfl part.1 part.2).receive _ fits
      exact ⟨rfl, leftovers.parses ok, rfl, app.gTx, rfl⟩
  | _ => cases handled

/-- **In every calm run, what is reviewed is held.** -/
theorem run_held {history : History} {s : Device} (run : Run (device sdk build) history s)
    (calm : Along CalmTaken history) :
    ∀ review, s.pending = some (.transaction review) → Held sdk build s.app review := by
  induction run with
  | start starts => exact fun review pending => nomatch starts.2.1.symm.trans pending
  | step run moved ih =>
      intro review pending
      have held := ih calm.2
      have covered := run_covered run (running_of_step moved)
      cases step_transition (run_separate run) moved with
      | ended effect | sent effect =>
          exact nomatch (calm.1.unreviewed _ rfl).symm.trans pending
      | opened effect =>
          cases pending
          refine held_of_opened effect fun data chunk more routed first second => ?_
          exact covered (calm.1.begun data chunk more (congrArg some routed) first second)
      | badLength => exact held review pending
      | address pending' | transaction pending' offered validates => cases pending
      | setting pending' => exact nomatch pending'.symm.trans pending

/-! ## Calm screens -/

section Screens

variable {σ ε : Type}

/-- What a device with a screen is about: the routes of the commands among its events,
its states with a review on the screen, and its entries that approve a transaction. -/
structure Screened (σ ε : Type) where
  route : ε → Option Route
  reviewing : σ → Prop
  approves : Entry σ ε Output → Prop

namespace Screened

variable (screened : Screened σ ε)

/-- A transaction has been approved since the context was wiped. -/
def Approved : List (Entry σ ε Output) → Prop :=
  Since screened.approves fun entry =>
    ∃ route, screened.route entry.event = some route ∧ route.wipes = true

/-- No command comes while a review is on the screen, and no part of a transaction
between an approval and the next wiping. -/
structure Calm (entry : Entry σ ε Output) (older : List (Entry σ ε Output)) : Prop where
  unreviewed : ∀ route, screened.route entry.event = some route → ¬ screened.reviewing entry.before
  begun : ∀ data chunk more, screened.route entry.event = some (.signTx data chunk more) →
    chunk ≠ 0 → chunk ≠ 1 → ¬ screened.Approved older

/-- What the entries amount to on the device without a screen. -/
structure Tells (pairing : Pairing σ ε Output Device Event Output) : Prop where
  route : ∀ fine coarse, pairing.pairs fine coarse → coarse.event.route = screened.route fine.event
  pending : ∀ fine coarse, pairing.pairs fine coarse → ¬ screened.reviewing fine.before →
    coarse.before.pending = none
  approves : ∀ fine (coarse : Taken), pairing.pairs fine coarse →
    (∃ review, coarse.Decides true (.transaction review)) → screened.approves fine
  silent : ∀ fine, pairing.silent fine → screened.route fine.event = none

variable {screened}

/-- An event that is no command. -/
theorem calm_of_none {entry : Entry σ ε Output} (other : screened.route entry.event = none)
    (older : List (Entry σ ε Output)) : screened.Calm entry older := by
  constructor
  · intro _ routed
    cases other.symm.trans routed
  · intro _ _ _ routed
    cases other.symm.trans routed

variable {pairing : Pairing σ ε Output Device Event Output}
  {trace : List (Entry σ ε Output)} {history : History}

theorem Tells.approved (tells : screened.Tells pairing) (paired : Paired pairing trace history) :
    AppNeo3.Approved history → screened.Approved trace := by
  refine paired.since tells.approves ?_ ?_
  · rintro fine coarse same ⟨route, routed, wipes⟩
    exact ⟨route, (tells.route fine coarse same).trans routed, wipes⟩
  · rintro fine silent ⟨route, routed, _⟩
    cases (tells.silent fine silent).symm.trans routed

/-- **A calm run is one of the device without a screen.** -/
theorem Tells.calmTaken (tells : screened.Tells pairing) (paired : Paired pairing trace history)
    (calm : Along screened.Calm trace) : Along CalmTaken history := by
  refine paired.guarded ?_ calm
  intro fine older coarse older' same paired guarded
  have routes := tells.route fine coarse same
  constructor
  · intro route routed
    exact tells.pending fine coarse same (guarded.unreviewed route (routes.symm.trans routed))
  · intro data chunk more routed first second approved
    exact guarded.begun data chunk more (routes.symm.trans routed) first second
      (tells.approved paired approved)

end Screened

end Screens

/-! ## What a decision does -/

/-- A signature is of the digest of the context, and only an approval makes one. -/
theorem signing_validated {outcomes : CxOutcomes} {approved : Bool} {app : App} {signing : Signing}
    (signed : (uiActionValidateTransaction sdk outcomes approved app).2.2 = some signing) :
    approved = true ∧ signing.digest = sdk.digest app.ctx := by
  cases approved with
  | false => cases signed
  | true =>
      rw [uiActionValidateTransaction, if_pos rfl] at signed
      cases signs : outcomes.signs with
      | true =>
          obtain ⟨_, same⟩ := approveTransaction_of_signs sdk outcomes app signs
          rw [same] at signed
          cases signed
          exact ⟨rfl, rfl⟩
      | false =>
          obtain ⟨_, same⟩ := approveTransaction_of_not sdk outcomes app signs
          rw [same] at signed
          cases signed

end AppNeo3
