import AppNeo3.Session.BaglFollows

/-!
# Signatures on the device with two buttons

Whatever is signed, while no command comes during a review, has been on the screen page by
page (`signature_read`).
-/

set_option autoImplicit false

namespace AppNeo3

open Memory Runs

namespace Bagl

variable {sdk : Sdk} {engine : FlowEngine} {trace : List BaglTaken} {d : BaglDevice}
  {screen : FlowState}

/-- A signature that the entry makes is of the hash of bytes that parse, with the magic
whose name is among the texts, and every page of the review of these bytes has been on
the screen since it was opened. -/
def SignsRead (sdk : Sdk) (engine : FlowEngine) (entry : BaglTaken) (older : List BaglTaken) :
    Prop :=
  ∀ signing, entry.output.signing = some signing →
    let app := entry.before.app
    ∃ b tx screen, entry.before.ui = .transaction screen ∧ Parses sdk b tx ∧
      signing.digest = sdk.sha256 (ByteOrder.leBytes 4 app.ctx.networkMagic.toNat ++
        (sdk.sha256 b).cells) ∧
      (app.ctx.txInfo.transaction = tx ∧ ∃ texts, app.gTx = reviewTexts sdk app.ctx texts) ∧
      (∀ step ∈ createTransactionFlow tx app.storage, ∀ text,
        step.fixedLayout app.gTx = some text → step.decision = none →
          ShownWhole engine app.gTx (screen :: shownSince (reviewing sdk engine) older) text) ∧
      ∀ item ∈ Nbgl.dynItems tx, ∃ slot, HoldsItem sdk app.storage b tx item slot ∧
        ShownWhole engine app.gTx (screen :: shownSince (reviewing sdk engine) older) slot.layout

theorem ShownWhole.mono {g : GlobalItemStorage} {states states' : List FlowState} {text : Layout}
    (shown : ShownWhole engine g states text) (sub : ∀ s ∈ states, s ∈ states') :
    ShownWhole engine g states' text := by
  intro page inside
  obtain ⟨s, member, here⟩ := shown page inside
  exact ⟨s, sub s member, here⟩

/-- An approval of a review that is held and has been shown. -/
theorem signsRead_of_inner (inner : Inner (reviewing sdk engine) trace d screen)
    {review : TransactionReview} (held : Held sdk .bagl d.app review)
    (ui : d.ui = .transaction screen) (approve : screen.decision = some true) {event : BaglEvent}
    {output : Output} {d' : BaglDevice}
    (digest : ∀ signing, output.signing = some signing → signing.digest = sdk.digest d.app.ctx) :
    SignsRead sdk engine ⟨d, event, output, d'⟩ trace := by
  intro signing signed
  obtain ⟨visits, run, seen⟩ := inner
  have parses := held.parses
  refine ⟨_, _, screen, ui, parses, ?_, ⟨rfl, held.texts⟩, ?_, ?_⟩
  · rw [digest signing signed, Sdk.digest, GlobalCtx.signedData, held.hash]
  · intro step member text fixed passive
    exact (step_shown parses run approve member fixed passive).mono seen
  · intro item member
    obtain ⟨slot, holds, whole⟩ := item_shown parses run approve member
    exact ⟨slot, holds, whole.mono seen⟩

/-- **What is signed has been read.** In every calm run a signature is of bytes that have
been shown in full. -/
theorem signature_read (run : Run (baglDevice sdk engine) trace d)
    (calm : Along screened.Calm trace) : Along (SignsRead sdk engine) trace := by
  induction run with
  | start starts => trivial
  | @step trace d d' event output run moved ih =>
      refine ⟨?_, ih calm.2⟩
      have transition := (bagl_transition moved).2
      cases transition with
      | decided ui decides validates =>
          subst validates
          intro signing signed
          obtain ⟨rfl, digest⟩ := signing_validated signed
          obtain ⟨review, held⟩ := run_baglHeld run calm.2 ui
          refine signsRead_of_inner (run_reviewing run calm.2 ui) held ui decides ?_ signing signed
          intro other same
          cases signed.symm.trans same
          exact digest
      | _ =>
          intro signing signed
          cases signed

/-- The transfer is signed. -/
theorem signature_read_transfer : ∃ trace d, Run (baglDevice .reference .reference) trace d ∧
    (∃ entry ∈ trace, ∃ signing, entry.output.signing = some signing) ∧
    Along (SignsRead .reference .reference) trace := by
  obtain ⟨_, _, run, calm, _, member, signing, signed⟩ := run_signedTransfer .bagl
  obtain ⟨trace, d, follows⟩ := (baglFollowing .reference .reference).of_run run calm
  obtain ⟨entry, there, _, _, _, same⟩ := follows.paired.mem member
  exact ⟨trace, d, follows.run, ⟨entry, there, signing, same ▸ signed⟩,
    signature_read follows.run follows.calm⟩

end Bagl

end AppNeo3
