import AppNeo3.Session.Parses
import AppNeo3.Transaction.Truncation

/-!
# One review a session

A session has its transaction parsed when a last part comes, and the handler goes on
to take parts after that. No later part of the session opens another review: bytes
behind a whole transaction are refused, whatever an earlier parse has left over, and
an approval stores the magic over the version of the transaction. So every review
needs a chunk 0 of its own, and there are at most as many signatures as there are
chunks 0 (`session_reviewed_once`).

The magic stands for another version as long as its lowest byte is not zero, which
is so for both networks that have a name.
-/

set_option autoImplicit false

namespace AppNeo3

open Memory Runs

variable {sdk : Sdk} {build : Build}

/-! ## Bytes that cannot be parsed to a transaction any more -/

/-- A whole transaction is no longer one with bytes behind it. -/
theorem not_parses_append (image : TransactionImage) {more : List UInt8} (some' : more ≠ [])
    (tx : Transaction) : ¬ Parses sdk (image.bytes ++ more) tx := by
  intro parses
  obtain ⟨whole, short⟩ := parses.image_short
  have ok : layoutStatus sdk Leftovers.none (image.bytes ++ more) = .parsingOk :=
    (layoutStatus_ok_iff _).mpr ⟨short, whole⟩
  rw [layoutStatus_append image some'] at ok
  cases ok

/-- A transaction of another version is not parsed, whatever is left over. -/
theorem refused_of_version {tx : Transaction} {b : List UInt8} (version : b.head? ≠ some 0x00) :
    tx.parseStatus sdk b ≠ .parsingOk := by
  intro ok
  have afresh := (parsesAfresh_iff.mp (@parsesAfresh_of_version sdk tx b version)).1
  obtain ⟨_, image, rfl⟩ := (layoutStatus_ok_iff b).mp (afresh.symm.trans ok)
  exact version rfl

/-! ## Contexts of a session -/

namespace GlobalCtx

/-- The bytes received begin with another version. -/
def Overwritten (ctx : GlobalCtx) : Prop :=
  ∃ version rest, ctx.txInfo.received = version :: rest ∧ version ≠ 0x00

/-- The bytes received begin with a whole transaction. -/
def Completed (sdk : Sdk) (ctx : GlobalCtx) : Prop :=
  ctx.Covered sdk ∧ ∃ image : TransactionImage, ∃ more, ctx.txInfo.received = image.bytes ++ more

/-- What is left over is covered, as long as the bytes received are those sent. -/
def Accounted (sdk : Sdk) (ctx : GlobalCtx) : Prop := ctx.Covered sdk ∨ ctx.Overwritten

/-- No part can open a review. -/
def Spent (sdk : Sdk) (ctx : GlobalCtx) : Prop :=
  ctx.reqType ≠ .confirmTransaction ∨ ctx.Overwritten ∨ ctx.Completed sdk

variable {ctx ctx' : GlobalCtx}

theorem Overwritten.append (overwritten : ctx.Overwritten) {more : List UInt8}
    (longer : ctx'.txInfo.received = ctx.txInfo.received ++ more) : ctx'.Overwritten := by
  obtain ⟨version, rest, received, other⟩ := overwritten
  exact ⟨version, rest ++ more, by rw [longer, received]; rfl, other⟩

theorem Overwritten.refused (overwritten : ctx.Overwritten) :
    ctx.parseStatus sdk ≠ .parsingOk := by
  obtain ⟨version, rest, received, other⟩ := overwritten
  refine refused_of_version fun zero => other ?_
  rw [received] at zero
  exact Option.some.inj zero

/-- Bytes are received behind those that were there. -/
theorem received_receive (ctx : GlobalCtx) (bytes : List UInt8)
    (fits : ctx.txInfo.rawTxLen + bytes.length ≤ maxTransactionLen) :
    (ctx.receive bytes fits).txInfo.received = ctx.txInfo.received ++ bytes :=
  TransactionCtx.received_receive _ _ fits

/-- **A part of a session that is used up is not parsed to a transaction.** -/
theorem Spent.refused (spent : ctx.Spent sdk) (request : ctx.reqType = .confirmTransaction)
    {bytes : List UInt8} (some' : bytes ≠ [])
    (fits : ctx.txInfo.rawTxLen + bytes.length ≤ maxTransactionLen) :
    (ctx.receive bytes fits).parseStatus sdk ≠ .parsingOk := by
  rcases spent with other | overwritten | ⟨covered, image, more, received⟩
  · exact absurd request other
  · exact (overwritten.append (ctx.received_receive bytes fits)).refused
  · intro ok
    have parses := (covered.receive bytes fits).parses ok
    rw [received_receive, received, List.append_assoc] at parses
    exact not_parses_append image (by simp [some']) _ parses

/-- What has just been parsed to a transaction is used up. -/
theorem Accounted.completed (accounted : ctx.Accounted sdk) (ok : ctx.parseStatus sdk = .parsingOk) :
    (ctx.parse sdk).Completed sdk := by
  rcases accounted with covered | overwritten
  · obtain ⟨⟨image, bytes⟩, _⟩ := (Transaction.Covered.parses covered ok).image_short
    exact ⟨covered.parse, image, [], bytes.trans (List.append_nil _).symm⟩
  · exact absurd ok overwritten.refused

end GlobalCtx

/-! ## Commands -/

/-- A command that does not wipe the context only receives bytes behind those that
were there. -/
theorem Effect.received {outcomes : CxOutcomes} {app app' : App} {answer : Answer} {route : Route}
    {handled : Handled} (effect : Effect sdk build outcomes app route handled)
    (done : handled = some (app', answer)) (kept : route.wipes = false) :
    ∃ more, app'.ctx.txInfo.received = app.ctx.txInfo.received ++ more := by
  cases effect with
  | refused sw | version | name | misplaced later request | tooLong part request
  | magicRefused request short | magicAccepted request magic =>
      cases done
      exact ⟨[], (List.append_nil _).symm⟩
  | keyRefused path refusal | keySent accepted | keyShown accepted gAddress
  | pathRefused path refusal | pathAccepted accepted => cases kept
  | partStored part request fits | parseFailed part request fits failed code =>
      cases done
      exact ⟨_, app.ctx.received_receive _ fits⟩
  | reviewOpened part request fits ok fill =>
      cases done
      subst fill
      exact ⟨_, app.ctx.received_receive _ fits⟩
  | keyEnded | reviewEnded part request => cases done

/-- **A command keeps what is left over accounted for.** -/
theorem Effect.accounted {outcomes : CxOutcomes} {app app' : App} {answer : Answer} {route : Route}
    {handled : Handled} (effect : Effect sdk build outcomes app route handled)
    (done : handled = some (app', answer)) (accounted : app.ctx.Accounted sdk) :
    app'.ctx.Accounted sdk := by
  cases kept : route.wipes with
  | true => exact .inl (effect.covered done fun other => nomatch kept.symm.trans other)
  | false =>
      rcases accounted with covered | overwritten
      · exact .inl (effect.covered done fun _ => covered)
      · obtain ⟨more, longer⟩ := effect.received done kept
        exact .inr (overwritten.append longer)

/-- The request of a command that wipes the context and begins no session. -/
theorem Route.request_of_wipes {route : Route} (wipes : route.wipes = true)
    (other : route.begins = false) : route.request = some .confirmAddress := by
  cases route with
  | getPublicKey data showOnScreen => rfl
  | signTx data chunk more => cases wipes.symm.trans other
  | _ => cases wipes

theorem Route.request_of_kept {route : Route} (kept : route.wipes = false) :
    route.request = none := by
  cases route with
  | getPublicKey data showOnScreen => cases kept
  | signTx data chunk more => exact if_neg (beq_eq_false_iff_ne.mp kept)
  | _ => rfl

/-- **Only chunk 0 makes a context of use again.** -/
theorem Effect.spent {outcomes : CxOutcomes} {app app' : App} {answer : Answer} {route : Route}
    {handled : Handled} (effect : Effect sdk build outcomes app route handled)
    (done : handled = some (app', answer)) (other : route.begins = false)
    (spent : app.ctx.Spent sdk) : app'.ctx.Spent sdk := by
  have request := effect.reqType done
  cases kept : route.wipes with
  | true =>
      rw [Route.request_of_wipes kept other] at request
      exact .inl (request.trans_ne nofun)
  | false =>
      obtain ⟨more, longer⟩ := effect.received done kept
      rw [Route.request_of_kept kept] at request
      rcases spent with outside | overwritten | ⟨covered, image, rest, received⟩
      · exact .inl (request.trans_ne outside)
      · exact .inr (.inl (overwritten.append longer))
      · refine .inr (.inr ⟨effect.covered done fun _ => covered, image, rest ++ more, ?_⟩)
        rw [longer, received, List.append_assoc]

/-- The part of a command is not empty. -/
theorem data_ne_nil {cmd : Command} {data : List UInt8} {chunk : UInt8} {more : Bool}
    (route : cmd.route = .signTx data chunk more) : data ≠ [] := by
  have given : cmd.data = some data := by
    unfold Command.route at route
    repeat' split at route
    all_goals cases route
    assumption
  exact List.ne_nil_of_length_pos (cmd.data_le data given).1

/-! ## Approvals -/

/-- Signing stores the magic and the hash over the start of the raw transaction,
whether or not it succeeds. -/
theorem cryptoSignTx_rawTx (sdk : Sdk) (outcomes : CxOutcomes) (ctx : GlobalCtx) :
    let txInfo := (cryptoSignTx sdk outcomes ctx).1.txInfo
    txInfo.received = ctx.gatherSignedData.txInfo.received ∧
      txInfo.transaction = ctx.txInfo.transaction := by
  rw [cryptoSignTx]
  split
  · exact ⟨rfl, rfl⟩
  · split <;> exact ⟨rfl, rfl⟩

/-- An approval stores the magic and the hash over the start of the raw transaction. -/
theorem approved_rawTx (sdk : Sdk) (outcomes : CxOutcomes) (app : App) :
    let txInfo := (uiActionValidateTransaction sdk outcomes true app).1.ctx.txInfo
    txInfo.received = app.ctx.gatherSignedData.txInfo.received ∧
      txInfo.transaction = app.ctx.txInfo.transaction := by
  have signed := cryptoSignTx_rawTx sdk outcomes { app.ctx with state := .approved }
  rw [uiActionValidateTransaction, if_pos rfl, approveTransaction]
  split
  · exact signed
  · exact signed

/-- **The magic stands where the version was.** -/
theorem GlobalCtx.received_gatherSignedData {ctx : GlobalCtx} (some' : ctx.txInfo.received ≠ []) :
    ∃ rest, ctx.gatherSignedData.txInfo.received = ctx.networkMagic.toUInt8 :: rest := by
  have positive : ctx.txInfo.rawTxLen ≠ 0 := by
    rw [← ctx.txInfo.length_received]
    exact fun none => some' (List.eq_nil_of_length_eq_zero none)
  obtain ⟨len, length⟩ := Nat.exists_eq_succ_of_ne_zero positive
  obtain ⟨rest, cells⟩ : ∃ rest, overwrite ctx.txInfo.rawTx.cells 0 ctx.signedData =
      ctx.networkMagic.toUInt8 :: rest := by
    rw [overwrite_zero]
    exact ⟨_, rfl⟩
  refine ⟨rest.take len, ?_⟩
  show (overwrite ctx.txInfo.rawTx.cells 0 ctx.signedData).take ctx.txInfo.rawTxLen = _
  rw [cells, length, List.take_succ_cons]

/-- Nothing received stays nothing. -/
theorem GlobalCtx.received_gatherSignedData_nil {ctx : GlobalCtx} (nil : ctx.txInfo.received = []) :
    ctx.gatherSignedData.txInfo.received = [] := by
  have none : ctx.txInfo.rawTxLen = 0 := by
    rw [← ctx.txInfo.length_received, nil, List.length_nil]
  show (overwrite ctx.txInfo.rawTx.cells 0 ctx.signedData).take ctx.txInfo.rawTxLen = _
  rw [none, List.take_zero]

/-- The decision leaves the bytes received as they are, or overwritten. -/
theorem decided_rawTx (sdk : Sdk) (outcomes : CxOutcomes) {approved : Bool} {app : App}
    (marked : approved = true → app.ctx.networkMagic.toUInt8 ≠ 0x00) :
    let ctx := (uiActionValidateTransaction sdk outcomes approved app).1.ctx
    ctx.Overwritten ∨ ctx.txInfo.received = app.ctx.txInfo.received ∧
      ctx.txInfo.transaction = app.ctx.txInfo.transaction := by
  cases approved with
  | false => exact .inr ⟨rfl, rfl⟩
  | true =>
      obtain ⟨received, transaction⟩ := approved_rawTx sdk outcomes app
      by_cases nil : app.ctx.txInfo.received = []
      · right
        refine ⟨?_, transaction⟩
        rw [received, GlobalCtx.received_gatherSignedData_nil nil, nil]
      · left
        obtain ⟨rest, front⟩ := GlobalCtx.received_gatherSignedData nil
        exact ⟨_, rest, received.trans front, marked rfl⟩

/-! ## Steps -/

namespace Taken

/-- The entry opens the review of a transaction. -/
def Reviews (entry : Taken) : Prop :=
  ∃ review, entry.output.answer = some (.start (.transaction review))

/-- The entry makes a signature. -/
def Signs (entry : Taken) : Prop := ∃ signing, entry.output.signing = some signing

instance : DecidablePred Taken.Begins := fun entry =>
  decidable_of_iff (entry.event.route.any Route.begins = true) (by
    simp [Begins, Routed, Option.any_eq_true])

instance : DecidablePred Taken.Reviews := fun entry =>
  match answered : entry.output.answer with
  | some (.start (.transaction review)) => .isTrue ⟨review, answered⟩
  | some (.start (.address _)) | some (.send _) | none =>
      .isFalse fun ⟨_, other⟩ => nomatch answered.symm.trans other

instance : DecidablePred Taken.Signs := fun entry =>
  decidable_of_iff (entry.output.signing.isSome = true) Option.isSome_iff_exists

end Taken

/-- A session has begun since the newest review of a transaction. -/
def Begun : History → Prop := Since Taken.Begins Taken.Reviews

/-- A transaction is approved under a magic whose lowest byte is not zero. -/
def ApprovedMarked (entry : Taken) : Prop :=
  ∀ review, entry.Decides true (.transaction review) →
    entry.before.app.ctx.networkMagic.toUInt8 ≠ 0x00

/-- What is known of the context between two sessions. -/
structure SessionKept (sdk : Sdk) (history : History) (s : Device) : Prop where
  accounted : s.app.ctx.Accounted sdk
  spent : ¬ Begun history → s.app.ctx.Spent sdk

theorem Begun.of_kept {history : History} {entry : Taken} (begun : Begun history)
    (unopened : ¬ entry.Reviews) : Begun (entry :: history) := Since.keep begun unopened

namespace GlobalCtx

variable {ctx ctx' : GlobalCtx}

theorem Accounted.same (accounted : ctx.Accounted sdk)
    (received : ctx'.txInfo.received = ctx.txInfo.received)
    (transaction : ctx'.txInfo.transaction = ctx.txInfo.transaction) : ctx'.Accounted sdk := by
  rwa [Accounted, Covered, Overwritten, received, transaction]

theorem Spent.same (spent : ctx.Spent sdk) (request : ctx'.reqType = ctx.reqType)
    (received : ctx'.txInfo.received = ctx.txInfo.received)
    (transaction : ctx'.txInfo.transaction = ctx.txInfo.transaction) : ctx'.Spent sdk := by
  rwa [Spent, Overwritten, Completed, Covered, request, received, transaction]

end GlobalCtx

/-- The review of a transaction is opened for a context that was not used up, and
leaves it used up. -/
theorem Effect.reviews {outcomes : CxOutcomes} {app app' : App} {review : TransactionReview}
    {cmd : Command} {handled : Handled} (effect : Effect sdk build outcomes app cmd.route handled)
    (done : handled = some (app', .start (.transaction review)))
    (accounted : app.ctx.Accounted sdk) :
    ¬ app.ctx.Spent sdk ∧ app'.ctx.Completed sdk ∧ cmd.route.begins = false := by
  generalize routed : cmd.route = route at effect
  cases effect with
  | reviewOpened part request fits ok fill =>
      cases done
      subst fill
      have received : (app.ctx.receive _ fits).Accounted sdk := by
        rcases accounted with covered | overwritten
        · exact .inl (covered.receive _ fits)
        · exact .inr (overwritten.append (app.ctx.received_receive _ fits))
      exact ⟨fun spent => spent.refused request (data_ne_nil routed) fits ok,
        received.completed ok, beq_eq_false_iff_ne.mpr part.1⟩
  | _ => cases done

/-- An entry without the review of a transaction keeps what is known. -/
theorem SessionKept.keep {history : History} {s s' : Device} {entry : Taken}
    (kept : SessionKept sdk history s) (unopened : ¬ entry.Reviews)
    (accounted : s'.app.ctx.Accounted sdk)
    (spent : ¬ entry.Begins → s.app.ctx.Spent sdk → s'.app.ctx.Spent sdk) :
    SessionKept sdk (entry :: history) s' := by
  refine ⟨accounted, fun unbegun => spent (fun begins => unbegun (.inl begins)) ?_⟩
  exact kept.spent fun begun => unbegun (begun.of_kept unopened)

theorem not_reviews_of_none {entry : Taken} (answered : entry.output.answer = none) :
    ¬ entry.Reviews :=
  fun ⟨_, reviews⟩ => nomatch answered.symm.trans reviews

theorem not_reviews_of_send {entry : Taken} {reply : Reply}
    (answered : entry.output.answer = some (.send reply)) : ¬ entry.Reviews :=
  fun ⟨_, reviews⟩ => nomatch answered.symm.trans reviews

/-- **A step keeps what is known of the context.** -/
theorem Transition.sessionKept {history : History} {s s' : Device} {event : Event}
    {output : Output} (transition : Transition sdk build s event (s', output))
    (marked : ApprovedMarked ⟨s, event, output, s'⟩) (kept : SessionKept sdk history s) :
    SessionKept sdk (⟨s, event, output, s'⟩ :: history) s' := by
  have effected : ∀ {cmd : Command} {outcomes : CxOutcomes} {app : App} {answer : Answer},
      event = .command cmd outcomes →
      Effect sdk build outcomes s.app cmd.route (some (app, answer)) → s'.app = app →
      ¬ Taken.Reviews ⟨s, event, output, s'⟩ →
      SessionKept sdk (⟨s, event, output, s'⟩ :: history) s' := by
    rintro cmd outcomes app answer rfl effect rfl unopened
    refine kept.keep unopened (effect.accounted rfl kept.accounted) fun unbegun spent => ?_
    refine effect.spent rfl (Bool.eq_false_of_not_eq_true fun begins => unbegun ?_) spent
    exact ⟨cmd.route, rfl, begins⟩
  cases transition with
  | ended effect => exact kept.keep (not_reviews_of_none rfl) kept.accounted fun _ => id
  | sent effect => exact effected rfl effect rfl (not_reviews_of_send rfl)
  | @opened cmd outcomes app review effect =>
      cases review with
      | address review =>
          refine effected rfl effect rfl ?_
          rintro ⟨other, reviews⟩
          cases reviews
      | transaction review =>
          obtain ⟨_, completed, _⟩ := effect.reviews rfl kept.accounted
          exact ⟨.inl completed.1, fun _ => .inr (.inr completed)⟩
  | badLength => exact kept.keep (not_reviews_of_send rfl) kept.accounted fun _ => id
  | address pending => exact kept.keep (not_reviews_of_send rfl) kept.accounted fun _ => id
  | setting pending => exact kept.keep (not_reviews_of_none rfl) kept.accounted fun _ => id
  | @transaction approved outcomes review validated pending offered validates =>
      subst validates
      have magic : approved = true → s.app.ctx.networkMagic.toUInt8 ≠ 0x00 := by
        rintro rfl
        exact marked review ⟨⟨outcomes, rfl⟩, pending⟩
      have request := (validated_frame sdk outcomes approved s.app).1
      rcases decided_rawTx sdk outcomes magic with overwritten | ⟨received, transaction⟩
      · exact kept.keep (not_reviews_of_send rfl) (.inr overwritten)
          fun _ _ => .inr (.inl overwritten)
      · exact kept.keep (not_reviews_of_send rfl) (kept.accounted.same received transaction)
          fun _ spent => spent.same request received transaction

/-! ## Runs -/

/-- The entry opens the review of a transaction only in a session that has opened
none before. -/
def ReviewBegun (entry : Taken) (older : History) : Prop :=
  entry.Reviews → ¬ entry.Begins ∧ Begun older

/-- A review on the screen has been opened since the newest signature. -/
def Unsigned : History → Prop := Since Taken.Reviews Taken.Signs

/-- In every run whose approvals meet a marked magic, this is known of the context. -/
theorem run_sessionKept {history : History} {s : Device} (run : Run (device sdk build) history s)
    (marks : Along (fun entry _ => ApprovedMarked entry) history) : SessionKept sdk history s := by
  refine Run.guarded (fun s starts => ?_) (fun history s event s' output run kept moved mark => ?_)
    run marks
  · refine ⟨?_, fun _ => ?_⟩
    · rw [starts.1]
      exact .inl (.of_zero rfl)
    · rw [starts.1]
      exact .inl (by decide)
  · exact (step_transition (run_separate run) moved).sessionKept mark kept

theorem Transition.unsigned {history : History} {s s' : Device} {event : Event} {output : Output}
    (transition : Transition sdk build s event (s', output))
    (unsigned : ∀ review, s.pending = some (.transaction review) → Unsigned history)
    {review : TransactionReview} (pending' : s'.pending = some (.transaction review)) :
    Unsigned (⟨s, event, output, s'⟩ :: history) := by
  have kept : s.pending = some (.transaction review) → output.signing = none →
      Unsigned (⟨s, event, output, s'⟩ :: history) := by
    intro shown silent
    refine (unsigned review shown).keep ?_
    rintro ⟨signing, signs⟩
    cases silent.symm.trans signs
  cases transition with
  | ended effect | sent effect | badLength => exact kept pending' rfl
  | opened effect =>
      cases pending'
      exact .inl ⟨review, rfl⟩
  | address pending | transaction pending offered validates => cases pending'
  | setting pending => cases pending.symm.trans pending'

/-- A signature needs a review that has not been signed for. -/
def SignsReviewed (entry : Taken) (older : History) : Prop :=
  entry.Signs → ¬ entry.Reviews ∧ Unsigned older

theorem Transition.signsReviewed {history : History} {s s' : Device} {event : Event}
    {output : Output} (transition : Transition sdk build s event (s', output))
    (unsigned : ∀ review, s.pending = some (.transaction review) → Unsigned history) :
    SignsReviewed ⟨s, event, output, s'⟩ history := by
  rintro ⟨signing, signs⟩
  cases transition with
  | transaction pending offered validates =>
      exact ⟨not_reviews_of_send rfl, unsigned _ pending⟩
  | _ => cases signs

/-- **In every run, each signature has a review of its own.** -/
theorem run_signsReviewed {history : History} {s : Device}
    (run : Run (device sdk build) history s) : Along SignsReviewed history := by
  refine (@Run.every _ _ _ (device sdk build) SignsReviewed
    (fun history s => ∀ review, s.pending = some (.transaction review) → Unsigned history)
    ?_ ?_ ?_ _ _ run).2
  · intro s starts review pending
    cases starts.2.1.symm.trans pending
  · intro history s event s' output run unsigned moved review pending
    exact (step_transition (run_separate run) moved).unsigned unsigned pending
  · intro history s event s' output run unsigned moved
    exact (step_transition (run_separate run) moved).signsReviewed unsigned

theorem Transition.reviewBegun {history : History} {s s' : Device} {event : Event}
    {output : Output} (transition : Transition sdk build s event (s', output))
    (kept : SessionKept sdk history s) : ReviewBegun ⟨s, event, output, s'⟩ history := by
  rintro ⟨review, reviews⟩
  cases transition with
  | opened effect =>
      cases reviews
      obtain ⟨unspent, _, other⟩ := effect.reviews rfl kept.accounted
      refine ⟨not_begins_of_route rfl other, ?_⟩
      exact Classical.not_not.mp fun unbegun => unspent (kept.spent unbegun)
  | _ => cases reviews

/-- **A session opens at most one review of a transaction and gives at most one
signature.** -/
theorem session_reviewed_once (sdk : Sdk) (build : Build) {history : History} {s : Device}
    (run : Run (device sdk build) history s)
    (marks : Along (fun entry _ => ApprovedMarked entry) history) :
    Along ReviewBegun history ∧ times Taken.Signs history ≤ times Taken.Reviews history ∧
      times Taken.Reviews history ≤ times Taken.Begins history := by
  have begun : Along ReviewBegun history := by
    refine @Run.along _ _ _ (device sdk build) (fun entry _ => ApprovedMarked entry) ReviewBegun
      (SessionKept sdk) (fun s starts => run_sessionKept (.start starts) trivial) ?_ ?_ _ _ run marks
    · intro history s event s' output run kept moved mark
      exact (step_transition (run_separate run) moved).sessionKept mark kept
    · intro history s event s' output run kept moved _
      exact (step_transition (run_separate run) moved).reviewBegun kept
  exact ⟨begun, (run_signsReviewed run).times_le.1, begun.times_le.1⟩

/-- The transfer is reviewed and signed in the first session. -/
theorem session_reviewed_once_transfer : ∃ history s, Run (device .reference .bagl) history s ∧
    history.length = 4 ∧ Along ReviewBegun history ∧
      times Taken.Signs history ≤ times Taken.Begins history := by
  have run := Run.step (run_transfer .bagl)
    (step_transaction rfl rfl (approvable_transferReview .bagl) true CxOutcomes.success)
  have unsigned : ∀ {entry : Taken} {cmd : Command} {outcomes : CxOutcomes},
      entry.event = .command cmd outcomes → ApprovedMarked entry := by
    rintro entry cmd outcomes command review ⟨⟨outcomes', decision⟩, _⟩
    cases command.symm.trans decision
  obtain ⟨begun, signed, reviewed⟩ := session_reviewed_once .reference .bagl run
    ⟨fun _ _ => by decide, unsigned rfl, unsigned rfl, unsigned rfl, trivial⟩
  exact ⟨_, _, run, rfl, begun, signed.trans reviewed⟩

end AppNeo3
