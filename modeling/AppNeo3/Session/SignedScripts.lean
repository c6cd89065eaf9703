import AppNeo3.Session.Parses

/-!
# The scripts that are signed

While the setting forbids other scripts, both builds offer the approval of a
transaction only when one of the two flags of the recognisers is set. The flags are
never cleared between two parses of a session. They say what the script is all the
same: the bytes that have set a flag are still at the front of the bytes received,
so a later parse that succeeds finds the same script.

The runs are those in which no command comes while a transaction is reviewed, and
in which a decision is followed by a chunk 0 before other parts come
(`script_signed`).
-/

set_option autoImplicit false

namespace AppNeo3

open Memory Runs

variable {sdk : Sdk} {build : Build}

/-! ## Scripts in the context -/

/-- The bytes of the script in the raw transaction. -/
def GlobalCtx.scriptBytes (ctx : GlobalCtx) : List UInt8 :=
  ctx.txInfo.transaction.scriptBytes ctx.txInfo.received

/-- The script is a transfer of NEO or GAS, or a vote. -/
def GlobalCtx.KnownScript (ctx : GlobalCtx) : Prop :=
  (∃ transfer : TransferImage, ctx.scriptBytes = transfer.bytes) ∨
    ∃ vote : VoteImage, ctx.scriptBytes = vote.bytes

/-- **The flags of a transaction that parses over covered leftovers are those of its
script.** -/
theorem knownScript_of_parse {ctx : GlobalCtx} (covered : ctx.Covered sdk)
    (ok : ctx.parseStatus sdk = .parsingOk) {storage : InternalStorage}
    (accepted : scriptRefused (ctx.parse sdk).txInfo.transaction storage = false)
    (forbidden : storage.scriptsAllowed = 0) : (ctx.parse sdk).KnownScript := by
  have parses : Parses sdk ctx.txInfo.received (ctx.parse sdk).txInfo.transaction :=
    Transaction.Covered.parses covered ok
  rw [scriptRefused, forbidden] at accepted
  cases transfer : (ctx.parse sdk).txInfo.transaction.isSystemAssetTransfer with
  | true => exact .inl (parses.transfer_iff.mp transfer)
  | false =>
      cases vote : (ctx.parse sdk).txInfo.transaction.isVoteScript with
      | true => exact .inr (parses.vote_iff.mp vote)
      | false =>
          rw [transfer, vote] at accepted
          exact absurd accepted (by decide)

/-! ## Reviews -/

/-- While the setting forbids other scripts, the review can only be approved for a
transfer or a vote. -/
def TransactionReview.OffersKnown (review : TransactionReview) (ctx : GlobalCtx) : Prop :=
  review.screen.approvable = true → review.settings.scriptsAllowed = 0 → ctx.KnownScript

/-- A review that is opened over covered leftovers. -/
theorem Effect.offersKnown {outcomes : CxOutcomes} {app app' : App} {route : Route}
    {review : TransactionReview} {handled : Handled}
    (effect : Effect sdk build outcomes app route handled)
    (done : handled = some (app', .start (.transaction review)))
    (covered : ∀ data chunk more, route = .signTx data chunk more → chunk ≠ 0 → chunk ≠ 1 →
      app.ctx.Covered sdk) : review.OffersKnown app'.ctx := by
  cases effect with
  | reviewOpened part request fits ok fill =>
      cases done
      subst fill
      intro approvable forbidden
      have leftovers := covered _ _ _ rfl part.1 part.2
      rw [App.review, approvable_startSignTxUi, Bool.not_eq_true'] at approvable
      exact knownScript_of_parse (leftovers.receive _ fits) ok approvable forbidden
  | keyShown accepted gAddress => cases done
  | refused sw | version | name | keyRefused path refusal | keySent accepted | keyEnded
  | pathRefused path refusal | pathAccepted accepted | misplaced later request
  | magicRefused request short | magicAccepted request magic | tooLong part request
  | partStored part request fits | parseFailed part request fits failed code
  | reviewEnded part request => cases done

/-- A transaction has been decided on since the newest chunk 0. -/
def Decided : History → Prop :=
  Since (fun entry : Taken => ∃ approved review, entry.Decides approved (.transaction review))
    Taken.Begins

theorem Approved.decided {history : History} (approved : Approved history) : Decided history := by
  refine Since.mono ?_ (fun _ begins => begins.wipes) approved
  rintro entry ⟨review, decides⟩
  exact ⟨true, review, decides⟩

/-- No command comes while a transaction is reviewed, and no part of a transaction
between a decision and a chunk 0. -/
structure DecidedInTurn (entry : Taken) (older : History) : Prop where
  unreviewed : ∀ cmd outcomes review, entry.event = .command cmd outcomes →
    entry.before.pending ≠ some (.transaction review)
  begun : ∀ data chunk more, entry.Routed (.signTx data chunk more) → chunk ≠ 0 → chunk ≠ 1 →
    ¬ Decided older

/-- What is kept while a transaction is reviewed. -/
def ReviewsKnown (s : Device) : Prop :=
  ∀ review, s.pending = some (.transaction review) → review.OffersKnown s.app.ctx

theorem ReviewsKnown.of_none {s : Device} (pending : s.pending = none) : ReviewsKnown s := by
  intro review shown
  cases pending.symm.trans shown

/-- **A step keeps what the review on the screen can be approved for.** -/
theorem Transition.reviewsKnown {history : History} {s s' : Device} {event : Event}
    {output : Output} (transition : Transition sdk build s event (s', output))
    (turn : DecidedInTurn ⟨s, event, output, s'⟩ history)
    (covered : ¬ Approved history → s.app.ctx.Covered sdk) (reviews : ReviewsKnown s) :
    ReviewsKnown s' := by
  cases transition with
  | ended effect | badLength => exact reviews
  | sent effect =>
      intro review shown
      exact absurd shown (turn.unreviewed _ _ review rfl)
  | opened effect =>
      intro review shown
      cases shown
      refine effect.offersKnown rfl fun data chunk more route first second => ?_
      have undecided := turn.begun data chunk more (congrArg some route) first second
      exact covered fun approved => undecided approved.decided
  | address pending | transaction pending offered validates => exact .of_none rfl
  | setting pending => exact .of_none pending

/-! ## What is signed -/

/-- A transaction that was reviewed while the setting forbids other scripts is only
approved when its script is a transfer or a vote. -/
def SignsKnownScript (entry : Taken) : Prop :=
  ∀ review, entry.Decides true (.transaction review) → review.settings.scriptsAllowed = 0 →
    entry.before.app.ctx.KnownScript

/-- **No arbitrary script is signed while the setting forbids it.** -/
theorem script_signed (sdk : Sdk) (build : Build) {history : History} {s : Device}
    (run : Run (device sdk build) history s) (turns : Along DecidedInTurn history) :
    Along (fun entry _ => SignsKnownScript entry) history := by
  refine @Run.along _ _ _ (device sdk build) DecidedInTurn (fun entry _ => SignsKnownScript entry)
    (fun _ s => ReviewsKnown s) ?_ ?_ ?_ _ _ run turns
  · exact fun s starts => .of_none starts.2.1
  · intro history s event s' output run reviews moved turn
    exact (step_transition (run_separate run) moved).reviewsKnown turn
      (run_covered run (running_of_step moved)) reviews
  · intro history s event s' output run reviews moved _ review decides forbidden
    obtain ⟨⟨outcomes, decision⟩, pending⟩ := decides
    have transition := step_transition (run_separate run) moved
    simp only at decision pending
    subst decision
    cases transition with
    | address pending' => cases pending.symm.trans pending'
    | transaction pending' offered validates =>
        cases pending.symm.trans pending'
        exact reviews review pending (offered rfl) forbidden

/-- A decision is on a review. -/
theorem not_decided_of_none {entry : Taken} (pending : entry.before.pending = none)
    {older : History} (undecided : ¬ Decided older) : ¬ Decided (entry :: older) := by
  rintro (⟨approved, review, _, shown⟩ | ⟨_, earlier⟩)
  · cases pending.symm.trans shown
  · exact undecided earlier

/-- An entry of the first session is in turn. -/
theorem decidedInTurn_of_none {entry : Taken} (pending : entry.before.pending = none)
    {older : History} (undecided : ¬ Decided older) : DecidedInTurn entry older := by
  refine ⟨fun cmd outcomes review _ shown => ?_, fun _ _ _ _ _ _ => undecided⟩
  cases pending.symm.trans shown

/-- The transfer is approved in the first session. -/
theorem script_signed_transfer : ∃ history s, Run (device .reference .nbgl) history s ∧
    history.length = 4 ∧ Along (fun entry _ => SignsKnownScript entry) history := by
  have run := Run.step (run_transfer .nbgl)
    (step_transaction rfl rfl (approvable_transferReview .nbgl) true CxOutcomes.success)
  refine ⟨_, _, run, rfl, script_signed .reference .nbgl run ⟨?_, ?_, ?_, ?_, trivial⟩⟩
  · refine ⟨fun cmd outcomes review command => ?_, fun data chunk more routed => ?_⟩
    · cases command
    · cases routed
  · exact decidedInTurn_of_none rfl (not_decided_of_none rfl (not_decided_of_none rfl id))
  · exact decidedInTurn_of_none rfl (not_decided_of_none rfl id)
  · exact decidedInTurn_of_none rfl id

end AppNeo3
