import AppNeo3.Session.Approvals
import AppNeo3.Transaction.Leftovers

/-!
# Parses of a session

The last part of a transaction is parsed over whatever an earlier parse of the
session has left in the context. Until a transaction is approved the bytes received
only grow, so the leftovers stay covered by them (`run_covered`), and a parse that
succeeds is the one from zero. An approval stores other bytes over the transaction.

Only the duplicate check of the attributes looks at what is left over. A parse is
the one from zero in runs where no attribute is left over and nothing is parsed
after an approval (`parses_afresh`), and an attribute that is left over makes it
fail (`parses_afresh_attribute`).
-/

set_option autoImplicit false

namespace AppNeo3

open Memory Runs

variable {sdk : Sdk} {build : Build}

/-! ## Leftovers of a session -/

/-- What is left in the context is covered by the bytes received. -/
def GlobalCtx.Covered (sdk : Sdk) (ctx : GlobalCtx) : Prop :=
  ctx.txInfo.transaction.Covered sdk ctx.txInfo.received

namespace GlobalCtx.Covered

variable {ctx : GlobalCtx}

theorem of_zero (zero : ctx.txInfo.transaction = .zero) : ctx.Covered sdk := by
  rw [GlobalCtx.Covered, zero]
  exact .zero _

theorem receive (covered : ctx.Covered sdk) (bytes : List UInt8)
    (fits : ctx.txInfo.rawTxLen + bytes.length ≤ maxTransactionLen) :
    (ctx.receive bytes fits).Covered sdk := by
  have received : (ctx.receive bytes fits).txInfo.received = ctx.txInfo.received ++ bytes :=
    TransactionCtx.received_receive _ _ fits
  rw [GlobalCtx.Covered, received]
  refine Transaction.Covered.append covered ?_
  rw [List.length_append, TransactionCtx.length_received]
  exact fits

theorem parse (covered : ctx.Covered sdk) : (ctx.parse sdk).Covered sdk :=
  Transaction.Covered.parse covered

end GlobalCtx.Covered

/-- A command keeps the leftovers covered, or wipes them. -/
theorem Effect.covered {outcomes : CxOutcomes} {app app' : App} {answer : Answer} {route : Route}
    {handled : Handled} (effect : Effect sdk build outcomes app route handled)
    (done : handled = some (app', answer))
    (covered : route.wipes = false → app.ctx.Covered sdk) : app'.ctx.Covered sdk := by
  cases effect with
  | refused sw | version | name | magicRefused request short | magicAccepted request magic =>
      cases done
      exact covered rfl
  | misplaced later request =>
      cases done
      exact covered (beq_eq_false_iff_ne.mpr later)
  | tooLong part request =>
      cases done
      exact covered (beq_eq_false_iff_ne.mpr part.1)
  | keyRefused path refusal | keySent accepted | keyShown accepted gAddress
  | pathRefused path refusal | pathAccepted accepted =>
      cases done
      exact .of_zero rfl
  | partStored part request fits =>
      cases done
      exact (covered (beq_eq_false_iff_ne.mpr part.1)).receive _ fits
  | parseFailed part request fits failed code =>
      cases done
      exact ((covered (beq_eq_false_iff_ne.mpr part.1)).receive _ fits).parse
  | reviewOpened part request fits ok fill =>
      cases done
      subst fill
      exact ((covered (beq_eq_false_iff_ne.mpr part.1)).receive _ fits).parse
  | keyEnded | reviewEnded part request => cases done

theorem not_wipes_of_route {entry : Taken} {route : Route} (routed : entry.Routed route)
    (other : route.wipes = false) : ¬ entry.Wipes := by
  rintro ⟨route', routed', wipes⟩
  cases routed.symm.trans routed'
  cases other.symm.trans wipes

theorem not_wipes_of_none {entry : Taken} (other : entry.event.route = none) : ¬ entry.Wipes := by
  rintro ⟨route, routed, _⟩
  cases other.symm.trans routed

/-- **A step keeps the leftovers covered**, unless a transaction is approved. -/
theorem Transition.covered {history : History} {s s' : Device} {event : Event} {output : Output}
    (transition : Transition sdk build s event (s', output)) (running : s'.ended = false)
    (covered : ¬ Approved history → s.app.ctx.Covered sdk)
    (unapproved : ¬ Approved (⟨s, event, output, s'⟩ :: history)) : s'.app.ctx.Covered sdk := by
  cases transition with
  | ended effect => cases running
  | sent effect | opened effect =>
      refine effect.covered rfl fun kept => covered fun approved => unapproved ?_
      exact approved.keep (not_wipes_of_route rfl kept)
  | badLength | address pending | setting pending =>
      exact covered fun approved => unapproved (approved.keep (not_wipes_of_none rfl))
  | @transaction approved outcomes review validated pending offered validates =>
      subst validates
      cases approved with
      | true => exact absurd (Since.marked ⟨review, ⟨outcomes, rfl⟩, pending⟩) unapproved
      | false => exact covered fun earlier => unapproved (earlier.keep (not_wipes_of_none rfl))

/-- **In every run, what is left over is covered by the bytes received, until a
transaction is approved.** -/
theorem run_covered {history : History} {s : Device} (run : Run (device sdk build) history s) :
    s.ended = false → ¬ Approved history → s.app.ctx.Covered sdk := by
  induction run with
  | start starts =>
      intro _ _
      rw [starts.1]
      exact .of_zero rfl
  | step run moved covered =>
      intro running
      exact (step_transition (run_separate run) moved).covered running
        (covered (running_of_step moved))

/-! ## What reaches the parser -/

/-- What is parsed is what was there, with the bytes of the last part. -/
theorem parserInput_eq_some {app : App} {route : Route} {txInfo : TransactionCtx}
    (input : parserInput sdk app route = some txInfo) :
    ∃ data, ∃ fits : app.ctx.txInfo.rawTxLen + data.length ≤ maxTransactionLen,
      txInfo = (app.ctx.receive data fits).txInfo := by
  obtain ⟨data, chunk, rfl, _, received⟩ := route_of_parserInput input
  rw [receiveChunk_eq] at received
  split at received
  · rename_i fits
    cases received
    exact ⟨data, fits, rfl⟩
  · cases received

theorem parserInput_part {app : App} (request : app.ctx.reqType = .confirmTransaction)
    {data : List UInt8} {chunk : UInt8} (part : chunk ≠ 0 ∧ chunk ≠ 1)
    (fits : app.ctx.txInfo.rawTxLen + data.length ≤ maxTransactionLen) :
    parserInput sdk app (.signTx data chunk false) = some (app.ctx.receive data fits).txInfo := by
  have reaches : ¬ (chunk = 0 ∨ chunk = 1 ∨
      app.ctx.reqType ≠ .confirmTransaction ∧ app.ctx.state ≠ .magicOk) := by
    rintro (first | second | refused)
    · exact part.1 first
    · exact part.2 second
    · exact refused.1 request
  rw [parserInput, if_neg reaches, receiveChunk_eq, dif_pos fits]
  rfl

/-- What the entry parses is parsed as over an all-zero transaction. -/
def ParsesAfresh (sdk : Sdk) (entry : Taken) : Prop :=
  ∀ route txInfo, entry.Routed route → parserInput sdk entry.before.app route = some txInfo →
    txInfo.transaction.ParsesAfresh sdk txInfo.received

/-- What is parsed is of another version, or nothing has been approved since the
context was wiped and no attribute is left over. -/
def ParsedInTurn (sdk : Sdk) (entry : Taken) (older : History) : Prop :=
  ∀ route txInfo, entry.Routed route → parserInput sdk entry.before.app route = some txInfo →
    txInfo.received.head? ≠ some 0x00 ∨
      ¬ Approved older ∧ txInfo.transaction.attributes = Transaction.zero.attributes

/-- **When a parse does not depend on leftovers.** -/
theorem parses_afresh (sdk : Sdk) (build : Build) {history : History} {s : Device}
    (run : Run (device sdk build) history s) (turns : Along (ParsedInTurn sdk) history) :
    Along (fun entry _ => ParsesAfresh sdk entry) history := by
  refine @Run.along_steps _ _ _ (device sdk build) (ParsedInTurn sdk)
    (fun entry _ => ParsesAfresh sdk entry) ?_ _ _ run turns
  intro history s event s' output run moved turn route txInfo routed input
  rcases turn route txInfo routed input with version | ⟨unapproved, slots⟩
  · exact parsesAfresh_of_version version
  · obtain ⟨data, fits, rfl⟩ := parserInput_eq_some input
    have covered := run_covered run (running_of_step moved) unapproved
    exact (covered.receive data fits).parsesAfresh slots

/-- A command approves nothing. -/
theorem not_approved_of_command {entry : Taken} {cmd : Command} {outcomes : CxOutcomes}
    (command : entry.event = .command cmd outcomes) {older : History}
    (unapproved : ¬ Approved older) : ¬ Approved (entry :: older) := by
  rintro (⟨review, ⟨outcomes', decision⟩, _⟩ | ⟨_, earlier⟩)
  · cases command.symm.trans decision
  · exact unapproved earlier

/-- A part that is not the last one is not parsed. -/
theorem parsedInTurn_of_more {entry : Taken} {data : List UInt8} {chunk : UInt8}
    (routed : entry.Routed (.signTx data chunk true)) (older : History) :
    ParsedInTurn sdk entry older := by
  intro route txInfo routed' input
  cases routed.symm.trans routed'
  cases input

/-- The parse of a transfer in the first session. -/
theorem parses_afresh_transfer : ∃ history s, Run (device .reference .bagl) history s ∧
    history.length = 3 ∧ Along (fun entry _ => ParsesAfresh .reference entry) history := by
  refine ⟨_, _, run_transfer .bagl, rfl, parses_afresh .reference .bagl (run_transfer .bagl)
    ⟨?_, ?_, ?_, trivial⟩⟩
  · intro route txInfo _ input
    obtain ⟨data, fits, rfl⟩ := parserInput_eq_some input
    exact .inr ⟨not_approved_of_command rfl (not_approved_of_command rfl id), rfl⟩
  · refine @parsedInTurn_of_more .reference _ mainnetData 1 ?_ _
    exact congrArg some route_magicCommand
  · refine @parsedInTurn_of_more .reference _ firstPathData 0 ?_ _
    exact congrArg some route_pathCommand

/-- A transaction with an attribute. -/
def attributedImage : TransactionImage :=
  { SignerImage.transaction (.plain (Area.fill _ 0)) with
    attributes := .one }

def attributedCommand : Command := .signTx 2 false attributedImage.beforeScript (by decide)

/-- The script comes too late. -/
def lateScriptCommand : Command := .signTx 2 false attributedImage.script.bytes (by decide)

/-- The last part of a session, when it does not parse. -/
theorem handle_unparsed {outcomes : CxOutcomes} {app : App}
    (request : app.ctx.reqType = .confirmTransaction) {data : List UInt8} {chunk : UInt8}
    (part : chunk ≠ 0 ∧ chunk ≠ 1)
    (fits : app.ctx.txInfo.rawTxLen + data.length ≤ maxTransactionLen)
    (failed : (app.ctx.receive data fits).parseStatus sdk ≠ .parsingOk) :
    ∃ reply, handle sdk build outcomes app (.signTx data chunk false) =
      some (app.withCtx ((app.ctx.receive data fits).parse sdk), .send reply) := by
  have last := @handle_last sdk build outcomes app request data chunk part fits
  have unparsed : (app.withCtx (app.ctx.receive data fits)).ctx.parseStatus sdk ≠ .parsingOk :=
    failed
  rw [lastPart, if_pos unparsed] at last
  exact ⟨_, last⟩

/-- What is parsed when more bytes follow the first parse of a session. -/
theorem receive_parsed {ctx : GlobalCtx} (zero : ctx.txInfo = .zero) {first more : List UInt8}
    {fits : ctx.txInfo.rawTxLen + first.length ≤ maxTransactionLen}
    (moreFits : ((ctx.receive first fits).parse sdk).txInfo.rawTxLen + more.length ≤
      maxTransactionLen) :
    (((ctx.receive first fits).parse sdk).receive more moreFits).txInfo.received = first ++ more ∧
      (((ctx.receive first fits).parse sdk).receive more moreFits).txInfo.transaction =
        Transaction.zero.parse sdk first := by
  obtain ⟨received, transaction⟩ := receive_first zero fits
  constructor
  · exact (TransactionCtx.received_receive _ _ moreFits).trans (congrArg (· ++ more) received)
  · show (ctx.receive first fits).txInfo.transaction.parse sdk _ = _
    rw [transaction, received]

/-- **A parse fails on what is left over.** The transaction is sent without its
script and refused for that; when the script follows, its attribute is a duplicate
of itself. -/
theorem parses_afresh_attribute : ∃ history s, Run (device .reference .bagl) history s ∧
    ¬ Along (fun entry _ => ParsesAfresh .reference entry) history := by
  have one : attributedImage.attributes.count.value.toNat = 1 := by decide
  have short : attributedImage.bytes.length ≤ maxTransactionLen := by decide
  have front := attributedImage.length_beforeScript.trans short
  have fits : App.zero.onMainnet.ctx.txInfo.rawTxLen + attributedImage.beforeScript.length ≤
      maxTransactionLen := (Nat.zero_add _).trans_le front
  have status : (App.zero.onMainnet.ctx.receive _ fits).parseStatus .reference =
      .scriptLengthParsingError := by
    obtain ⟨received, transaction⟩ := receive_first rfl fits
    rw [GlobalCtx.parseStatus, received, transaction, Transaction.parseStatus]
    show layoutStatus _ Leftovers.none _ = _
    rw [layoutStatus, if_neg (Nat.not_lt.mpr front), TransactionImage.layout_beforeScript]
    rfl
  obtain ⟨reply, handled⟩ := @handle_unparsed .reference .bagl .success App.zero.onMainnet rfl _ _
    two_part fits (by rw [status]; decide)
  have route : attributedCommand.route = .signTx attributedImage.beforeScript 2 false :=
    Command.route_last
  rw [← route] at handled
  have run := run_answered (@run_session .bagl _ _ run_atStart rfl) rfl handled
  have late := @step_command .reference .bagl { Device.atStart with
    app := App.zero.onMainnet.withCtx ((App.zero.onMainnet.ctx.receive _ fits).parse .reference) }
    rfl lateScriptCommand .success
  generalize Device.afterCommand _ _ = result at late
  obtain ⟨s, output⟩ := result
  refine ⟨_, s, .step run late, fun afresh => ?_⟩
  have lateRoute : lateScriptCommand.route = .signTx attributedImage.script.bytes 2 false :=
    Command.route_last
  have lateFits : ((App.zero.onMainnet.ctx.receive _ fits).parse .reference).txInfo.rawTxLen +
      attributedImage.script.bytes.length ≤ maxTransactionLen := by
    have size : attributedImage.beforeScript.length + attributedImage.script.bytes.length ≤
        maxTransactionLen := by
      rw [← List.length_append]
      exact short
    exact (congrArg (· + _) (Nat.zero_add _)).trans_le size
  have parsed : (((App.zero.onMainnet.ctx.receive _ fits).parse .reference).receive _
      lateFits).txInfo.transaction.ParsesAfresh .reference _ :=
    afresh.1 _ _ (congrArg some lateRoute) (parserInput_part rfl two_part lateFits)
  obtain ⟨received, transaction⟩ := receive_parsed rfl lateFits
  rw [transaction, received] at parsed
  exact TransactionImage.not_parsesAfresh_stale one short parsed

end AppNeo3
