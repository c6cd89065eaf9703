import AppNeo3.Session.History

/-!
# Delivering a transaction in pieces

In a session the parts of a transaction are stored one behind the other, so that
the last one has the parser read their concatenation, however the host has cut it
(`delivery_independent`). The parts that are stored and the last one are received
alike: two parts received one after the other are one part received.
-/

set_option autoImplicit false

namespace AppNeo3

open Memory Runs

/-! ## Pieces -/

/-- A part of a transaction: its bytes, and the P1 it is sent with. -/
structure Piece where
  bytes : List UInt8
  size : 0 < bytes.length ∧ bytes.length ≤ 255
  chunk : UInt8
  part : 2 ≤ chunk ∧ chunk ≤ p1Max

namespace Piece

variable (piece : Piece)

def command (more : Bool) : Command := .signTx piece.chunk more piece.bytes piece.size

theorem later : piece.chunk ≠ 0 ∧ piece.chunk ≠ 1 := by
  constructor
  · intro first
    exact absurd (first ▸ piece.part.1) (by decide)
  · intro second
    exact absurd (second ▸ piece.part.1) (by decide)

theorem route_command (more : Bool) :
    (piece.command more).route = .signTx piece.bytes piece.chunk more :=
  Command.route_signTx piece.part.2 fun first => absurd first piece.later.1

end Piece

/-- The pieces are a cut of the bytes. -/
def Cut (b : List UInt8) (pieces : List Piece) : Prop :=
  pieces ≠ [] ∧ pieces.flatMap Piece.bytes = b

/-- The commands for pieces: only the last one does not announce more. -/
def deliveries (outcomes : CxOutcomes) : List Piece → List Event
  | [] => []
  | [last] => [.command (last.command false) outcomes]
  | piece :: next :: rest =>
      .command (piece.command true) outcomes :: deliveries outcomes (next :: rest)

/-! ## Receiving -/

/-- **Two parts received one after the other are one part received.** -/
theorem TransactionCtx.receive_receive (txInfo : TransactionCtx) {front back : List UInt8}
    (fits : txInfo.rawTxLen + (front ++ back).length ≤ maxTransactionLen)
    (fitsFront : txInfo.rawTxLen + front.length ≤ maxTransactionLen)
    (fitsBack : (txInfo.receive front fitsFront).rawTxLen + back.length ≤ maxTransactionLen) :
    (txInfo.receive front fitsFront).receive back fitsBack = txInfo.receive (front ++ back) fits := by
  have inside : txInfo.rawTxLen ≤ txInfo.rawTx.cells.length := by
    rw [txInfo.rawTx.size_eq]
    exact txInfo.rawTxLen_le
  have length : txInfo.rawTxLen + front.length + back.length =
      txInfo.rawTxLen + (front ++ back).length := by
    rw [List.length_append, Nat.add_assoc]
  simp only [receive, mk.injEq, and_true, true_and]
  exact ⟨Area.ext_cells (overwrite_overwrite inside rfl), length⟩

theorem GlobalCtx.receive_receive (ctx : GlobalCtx) {front back : List UInt8}
    (fits : ctx.txInfo.rawTxLen + (front ++ back).length ≤ maxTransactionLen)
    (fitsFront : ctx.txInfo.rawTxLen + front.length ≤ maxTransactionLen)
    (fitsBack : (ctx.receive front fitsFront).txInfo.rawTxLen + back.length ≤ maxTransactionLen) :
    (ctx.receive front fitsFront).receive back fitsBack = ctx.receive (front ++ back) fits :=
  congrArg (fun txInfo => { ctx with txInfo := txInfo })
    (ctx.txInfo.receive_receive fits fitsFront fitsBack)

variable {sdk : Sdk} {build : Build}

/-- What the pieces of a cut lead to: all but the last are stored, and the last one
has the bytes parsed behind those received before. -/
structure Delivered (sdk : Sdk) (build : Build) (outcomes : CxOutcomes) (history : History)
    (s : Device) (pieces : List Piece) (b : List UInt8)
    (fits : s.app.ctx.txInfo.rawTxLen + b.length ≤ maxTransactionLen) (stored : History)
    (last : Taken) : Prop where
  fed : (device sdk build).feed history s (deliveries outcomes pieces) =
    some (last :: (stored ++ history), last.after)
  accepted : ∀ entry : Taken, entry ∈ stored → entry.AnsweredBy .swoSuccess
  input : ∃ route, last.Routed route ∧
    parserInput sdk last.before.app route = some (s.app.ctx.txInfo.receive b fits)
  before : last.before = { s with app := last.before.app }
  result : (last.after, last.output) =
    last.before.afterCommand (lastPart sdk build outcomes (s.app.withCtx (s.app.ctx.receive b fits)))

/-- The last piece. -/
theorem delivered_last (outcomes : CxOutcomes) (piece : Piece) (history : History) {s : Device}
    (running : s.ended = false) (request : s.app.ctx.reqType = .confirmTransaction)
    (fits : s.app.ctx.txInfo.rawTxLen + piece.bytes.length ≤ maxTransactionLen) :
    ∃ last, Delivered sdk build outcomes history s [piece] piece.bytes fits [] last := by
  have route := piece.route_command false
  have moved := @step_command sdk build s running (piece.command false) outcomes
  rw [route, handle_last request piece.later fits] at moved
  let received : App := s.app.withCtx (s.app.ctx.receive piece.bytes fits)
  have reaches : ¬ (piece.chunk = 0 ∨ piece.chunk = 1 ∨
      s.app.ctx.reqType ≠ .confirmTransaction ∧ s.app.ctx.state ≠ .magicOk) :=
    not_or.mpr ⟨piece.later.1, not_or.mpr ⟨piece.later.2, fun other => other.1 request⟩⟩
  have input : parserInput sdk s.app (.signTx piece.bytes piece.chunk false) =
      some (s.app.ctx.txInfo.receive piece.bytes fits) := by
    rw [parserInput, if_neg reaches, receiveChunk_eq, dif_pos fits]
  let result := s.afterCommand (lastPart sdk build outcomes received)
  exact ⟨⟨s, .command (piece.command false) outcomes, result.2, result.1⟩,
    { fed := Machine.feed_of_step moved history []
      accepted := fun _ member => absurd member List.not_mem_nil
      input := ⟨_, congrArg some route, input⟩
      before := rfl
      result := rfl }⟩

/-- A piece in front of others. -/
theorem delivered_cons {outcomes : CxOutcomes} {piece next : Piece} {rest : List Piece}
    {b : List UInt8} {history : History} {s : Device} (running : s.ended = false)
    (request : s.app.ctx.reqType = .confirmTransaction)
    (fits : s.app.ctx.txInfo.rawTxLen + (piece.bytes ++ b).length ≤ maxTransactionLen)
    (fitsFront : s.app.ctx.txInfo.rawTxLen + piece.bytes.length ≤ maxTransactionLen)
    (fitsBack : (s.app.ctx.receive piece.bytes fitsFront).txInfo.rawTxLen + b.length ≤
      maxTransactionLen) {stored : History} {last : Taken}
    (delivered : Delivered sdk build outcomes
      (s.answered (.command (piece.command true) outcomes)
        (s.app.withCtx (s.app.ctx.receive piece.bytes fitsFront)) (.ofSw .swoSuccess) :: history)
      { s with app := s.app.withCtx (s.app.ctx.receive piece.bytes fitsFront) } (next :: rest) b
      fitsBack stored last) :
    ∃ stored', Delivered sdk build outcomes history s (piece :: next :: rest) (piece.bytes ++ b)
      fits stored' last := by
  have handled := @handle_part sdk build outcomes _ request _ _ piece.later fitsFront
  rw [← piece.route_command true] at handled
  have whole := s.app.ctx.receive_receive fits fitsFront fitsBack
  obtain ⟨fed, accepted, ⟨route, routed, input⟩, before, result⟩ := delivered
  refine ⟨stored ++ [s.answered (.command (piece.command true) outcomes)
    (s.app.withCtx (s.app.ctx.receive piece.bytes fitsFront)) (.ofSw .swoSuccess)],
    ?_, fun entry member => ?_, ⟨route, routed, ?_⟩, before, ?_⟩
  · rw [List.append_assoc]
    exact (Machine.feed_of_step (step_answered running handled) _ _).trans fed
  · rcases List.mem_append.mp member with earlier | first
    · exact accepted entry earlier
    · rw [List.mem_singleton.mp first]
      rfl
  · exact input.trans (congrArg some (s.app.ctx.txInfo.receive_receive fits fitsFront fitsBack))
  · rw [← whole]
    exact result

/-- **A cut is delivered.** -/
theorem delivered_of_cut (outcomes : CxOutcomes) :
    ∀ {pieces : List Piece} {b : List UInt8}, Cut b pieces → ∀ (history : History) {s : Device},
      s.ended = false → s.app.ctx.reqType = .confirmTransaction →
      ∀ fits : s.app.ctx.txInfo.rawTxLen + b.length ≤ maxTransactionLen,
        ∃ stored last, Delivered sdk build outcomes history s pieces b fits stored last
  | [], _, cut, _, _, _, _, _ => absurd rfl cut.1
  | [piece], _, ⟨_, bytes⟩, history, s, running, request, fits => by
      rw [List.flatMap_singleton] at bytes
      subst bytes
      obtain ⟨last, delivered⟩ := delivered_last outcomes piece history running request fits
      exact ⟨[], last, delivered⟩
  | piece :: next :: rest, _, ⟨_, bytes⟩, history, s, running, request, fits => by
      rw [List.flatMap_cons] at bytes
      subst bytes
      have length := @List.length_append _ piece.bytes ((next :: rest).flatMap Piece.bytes)
      have fitsFront : s.app.ctx.txInfo.rawTxLen + piece.bytes.length ≤ maxTransactionLen := by
        omega
      have fitsBack : (s.app.ctx.receive piece.bytes fitsFront).txInfo.rawTxLen +
          ((next :: rest).flatMap Piece.bytes).length ≤ maxTransactionLen := by
        show s.app.ctx.txInfo.rawTxLen + piece.bytes.length + _ ≤ _
        omega
      have cut : Cut ((next :: rest).flatMap Piece.bytes) (next :: rest) :=
        ⟨List.cons_ne_nil _ _, rfl⟩
      let received := s.app.withCtx (s.app.ctx.receive piece.bytes fitsFront)
      let entry := s.answered (.command (piece.command true) outcomes) received (.ofSw .swoSuccess)
      obtain ⟨stored, last, delivered⟩ := @delivered_of_cut outcomes _ _ cut (entry :: history)
        { s with app := received } running request fitsBack
      obtain ⟨stored', delivered'⟩ := delivered_cons running request fits fitsFront fitsBack delivered
      exact ⟨stored', last, delivered'⟩

/-! ## Sessions that are opened -/

theorem Effect.path_of_success {outcomes : CxOutcomes} {app app' : App} {data reply : List UInt8}
    {more : Bool} {handled : Handled}
    (effect : Effect sdk build outcomes app (.signTx data 0 more) handled)
    (done : handled = some (app', .send ⟨reply, .swoSuccess⟩)) :
    ∃ path, PathAccepted sdk data path ∧ app'.ctx = .ofPath path := by
  cases effect with
  | pathAccepted accepted =>
      cases done
      exact ⟨_, accepted, rfl⟩
  | pathRefused path refusal =>
      cases done
      exact absurd refusal (by unfold StatusWord.Refusal; decide)
  | misplaced later request => exact absurd rfl later
  | tooLong part request | partStored part request fits
  | parseFailed part request fits failed code | reviewOpened part request fits ok fill
  | reviewEnded part request => exact absurd rfl part.1

theorem Effect.magic_of_success {outcomes : CxOutcomes} {app app' : App} {data reply : List UInt8}
    {more : Bool} {handled : Handled}
    (effect : Effect sdk build outcomes app (.signTx data 1 more) handled)
    (done : handled = some (app', .send ⟨reply, .swoSuccess⟩)) :
    ∃ magic, app'.ctx = app.ctx.ofMagic magic := by
  cases effect with
  | magicAccepted request magic =>
      cases done
      exact ⟨magic, rfl⟩
  | misplaced later request | magicRefused request short => cases done
  | tooLong part request | partStored part request fits
  | parseFailed part request fits failed code | reviewOpened part request fits ok fill
  | reviewEnded part request => exact absurd rfl part.2

/-- What a command that is answered with success has done. -/
theorem effect_of_success {s s' : Device} {event : Event} {output : Output} {route : Route}
    (transition : Transition sdk build s event (s', output)) (routed : event.route = some route)
    {reply : List UInt8} (success : output.answer = some (.send ⟨reply, .swoSuccess⟩)) :
    s'.ended = s.ended ∧ ∃ outcomes, Effect sdk build outcomes s.app route
      (some (s'.app, .send ⟨reply, .swoSuccess⟩)) := by
  cases transition with
  | ended effect | opened effect => cases success
  | sent effect =>
      cases success
      cases routed
      exact ⟨rfl, _, effect⟩
  | badLength | address pending | transaction pending offered validates | setting pending =>
      cases routed

/-- A chunk 0 and a chunk 1 have been accepted, one after the other. -/
structure SessionOpened (path magic : Taken) : Prop where
  pathRouted : ∃ data more, path.Routed (.signTx data 0 more)
  pathAccepted : path.Succeeds
  magicRouted : ∃ data more, magic.Routed (.signTx data 1 more)
  magicAccepted : magic.Succeeds

/-- The state of a session that has just been opened. -/
theorem SessionOpened.state {older : History} {path magic : Taken} {s : Device}
    (opened : SessionOpened path magic)
    (run : Run (device sdk build) (magic :: path :: older) s) :
    s.ended = false ∧ s.app.ctx.reqType = .confirmTransaction ∧ s.app.ctx.txInfo = .zero := by
  obtain ⟨⟨_, _, pathRouted⟩, ⟨_, pathOk⟩, ⟨_, _, magicRouted⟩, ⟨_, magicOk⟩⟩ := opened
  cases run with
  | step run moved =>
      have second := step_transition (run_separate run) moved
      have running := running_of_step moved
      cases run with
      | step run moved =>
          have first := step_transition (run_separate run) moved
          obtain ⟨_, _, pathEffect⟩ := effect_of_success first pathRouted pathOk
          obtain ⟨ended, _, magicEffect⟩ := effect_of_success second magicRouted magicOk
          obtain ⟨_, _, onPath⟩ := pathEffect.path_of_success rfl
          obtain ⟨_, onMagic⟩ := magicEffect.magic_of_success rfl
          rw [onMagic, onPath]
          exact ⟨ended.trans running, rfl, rfl⟩

/-! ## Two cuts -/

/-- What a cut of the bytes leads to in a session that has just been opened. -/
structure ParsedWhole (sdk : Sdk) (build : Build) (outcomes : CxOutcomes) (history : History)
    (s : Device) (pieces : List Piece) (b : List UInt8) (stored : History) (last : Taken) :
    Prop where
  fed : (device sdk build).feed history s (deliveries outcomes pieces) =
    some (last :: (stored ++ history), last.after)
  accepted : ∀ entry : Taken, entry ∈ stored → entry.AnsweredBy .swoSuccess
  input : ∃ route txInfo, last.Routed route ∧
    parserInput sdk last.before.app route = some txInfo ∧ txInfo.received = b
  reviewed : last.Opens → last.after.app.ctx.txInfo.hash = sdk.sha256 b

/-- Two deliveries end alike: with the same answer and, unless the application ends,
with the same data. -/
structure SameEnd (first second : Taken) : Prop where
  output : first.output = second.output
  ended : first.after.ended = second.after.ended
  after : first.after.ended = false → first.after = second.after

theorem received_receive_zero {txInfo : TransactionCtx} (zero : txInfo = .zero) {b : List UInt8}
    (fits : txInfo.rawTxLen + b.length ≤ maxTransactionLen) :
    (txInfo.receive b fits).received = b := by
  subst zero
  exact TransactionCtx.received_receive _ _ fits

/-- A review that is opened has the hash of the bytes. -/
theorem hash_of_opens {outcomes : CxOutcomes} {before : Device} {received : App} {last : Taken}
    (result : (last.after, last.output) =
      before.afterCommand (lastPart sdk build outcomes received))
    (opens : last.Opens) :
    last.after.app.ctx.txInfo.hash = sdk.sha256 received.ctx.txInfo.received := by
  obtain ⟨review, answer⟩ := opens
  have output := congrArg Prod.snd result
  have after := congrArg Prod.fst result
  simp only at output after
  rw [output] at answer
  rw [after]
  rw [lastPart] at answer ⊢
  by_cases failed : received.ctx.parseStatus sdk ≠ .parsingOk
  · rw [if_pos failed] at answer
    cases answer
  · rw [if_neg failed] at answer ⊢
    by_cases hashes : outcomes.hashesOk 2 = true
    · rw [if_pos hashes]
      rfl
    · rw [if_neg hashes] at answer
      cases answer

/-- Two deliveries of the same bytes end alike. -/
theorem sameEnd_of_delivered {outcomes : CxOutcomes} {history : History} {s : Device}
    {first second : List Piece} {b : List UInt8}
    {fits : s.app.ctx.txInfo.rawTxLen + b.length ≤ maxTransactionLen} {stored₁ stored₂ : History}
    {last₁ last₂ : Taken}
    (delivered₁ : Delivered sdk build outcomes history s first b fits stored₁ last₁)
    (delivered₂ : Delivered sdk build outcomes history s second b fits stored₂ last₂) :
    SameEnd last₁ last₂ := by
  have before₁ := delivered₁.before
  have before₂ := delivered₂.before
  have result₁ := delivered₁.result
  have result₂ := delivered₂.result
  generalize lastPart sdk build outcomes (s.app.withCtx (s.app.ctx.receive b fits)) = handled
    at result₁ result₂
  rw [before₁] at result₁
  rw [before₂] at result₂
  cases handled with
  | none =>
      obtain ⟨after₁, output₁⟩ := Prod.mk.inj result₁
      obtain ⟨after₂, output₂⟩ := Prod.mk.inj result₂
      refine ⟨output₁.trans output₂.symm, ?_, fun running => ?_⟩
      · rw [after₁, after₂]
      · rw [after₁] at running
        cases running
  | some done =>
      obtain ⟨app, answer⟩ := done
      have same : (last₁.after, last₁.output) = (last₂.after, last₂.output) := by
        rw [result₁, result₂]
        cases answer <;> rfl
      obtain ⟨after, output⟩ := Prod.mk.inj same
      exact ⟨output, congrArg Device.ended after, fun _ => after⟩

/-- Two cuts of the same bytes, in a session that has just been opened. -/
theorem sameEnd_of_cuts (outcomes : CxOutcomes) {older : History} {path magic : Taken}
    {s : Device} (run : Run (device sdk build) (magic :: path :: older) s)
    (opened : SessionOpened path magic) {b : List UInt8} (short : b.length ≤ maxTransactionLen)
    {first second : List Piece} (cut₁ : Cut b first) (cut₂ : Cut b second) :
    ∃ stored₁ last₁ stored₂ last₂,
      ParsedWhole sdk build outcomes (magic :: path :: older) s first b stored₁ last₁ ∧
      ParsedWhole sdk build outcomes (magic :: path :: older) s second b stored₂ last₂ ∧
      SameEnd last₁ last₂ := by
  obtain ⟨running, request, zero⟩ := opened.state run
  have length : s.app.ctx.txInfo.rawTxLen = 0 := by
    rw [zero]
    rfl
  have fits : s.app.ctx.txInfo.rawTxLen + b.length ≤ maxTransactionLen := by
    rw [length, Nat.zero_add]
    exact short
  have received := received_receive_zero zero fits
  have whole : ∀ {pieces : List Piece} {stored : History} {last : Taken},
      Delivered sdk build outcomes (magic :: path :: older) s pieces b fits stored last →
      ParsedWhole sdk build outcomes (magic :: path :: older) s pieces b stored last := by
    intro pieces stored last delivered
    obtain ⟨route, routed, input⟩ := delivered.input
    refine ⟨delivered.fed, delivered.accepted, ⟨route, _, routed, input, received⟩, fun opens => ?_⟩
    rw [hash_of_opens delivered.result opens]
    exact congrArg sdk.sha256 received
  obtain ⟨stored₁, last₁, delivered₁⟩ :=
    delivered_of_cut outcomes cut₁ (magic :: path :: older) running request fits
  obtain ⟨stored₂, last₂, delivered₂⟩ :=
    delivered_of_cut outcomes cut₂ (magic :: path :: older) running request fits
  exact ⟨stored₁, last₁, stored₂, last₂, whole delivered₁, whole delivered₂,
    sameEnd_of_delivered delivered₁ delivered₂⟩

/-- A part that is too long is refused, and the device is as before. -/
theorem step_tooLong {s : Device} (separate : s.app.ctx.Separate) (running : s.ended = false)
    {cmd : Command} (outcomes : CxOutcomes) {data : List UInt8} {chunk : UInt8} {more : Bool}
    (route : cmd.route = .signTx data chunk more) (part : chunk ≠ 0 ∧ chunk ≠ 1)
    (long : maxTransactionLen < s.app.ctx.txInfo.rawTxLen + data.length) :
    (device sdk build).step s (.command cmd outcomes) = some (s, ⟨some (.send (.ofSw
      (if s.app.ctx.reqType = .confirmTransaction then .swWrongTxLength else .swBadState))),
      none⟩) := by
  rw [step_command running, route, handle, handlerSignTx, if_neg part.1, if_neg part.2]
  by_cases request : s.app.ctx.reqType = .confirmTransaction
  · rw [signTxPart_eq request, dif_neg (Nat.not_le.mpr long), if_pos request]
    rfl
  · rw [signTxPart, if_pos ((separate.refused (by decide)).mpr request), if_neg request]
    rfl

/-- **How the host cuts a transaction does not matter.** Two cuts of the same bytes
end alike; and the bytes received never exceed the limit, since a part that would
exceed it is refused. -/
theorem delivery_independent (sdk : Sdk) (build : Build) {history : History} {s : Device}
    (run : Run (device sdk build) history s) :
    (∀ path magic older, history = magic :: path :: older → SessionOpened path magic →
      ∀ (outcomes : CxOutcomes) (b : List UInt8) (first second : List Piece),
        b.length ≤ maxTransactionLen → Cut b first → Cut b second →
        ∃ stored₁ last₁ stored₂ last₂,
          ParsedWhole sdk build outcomes history s first b stored₁ last₁ ∧
          ParsedWhole sdk build outcomes history s second b stored₂ last₂ ∧
          SameEnd last₁ last₂) ∧
    s.app.ctx.txInfo.rawTxLen ≤ maxTransactionLen ∧
    ∀ cmd outcomes data chunk more, s.ended = false → cmd.route = .signTx data chunk more →
      chunk ≠ 0 ∧ chunk ≠ 1 → maxTransactionLen < s.app.ctx.txInfo.rawTxLen + data.length →
      (device sdk build).step s (.command cmd outcomes) = some (s, ⟨some (.send (.ofSw
        (if s.app.ctx.reqType = .confirmTransaction then .swWrongTxLength else .swBadState))),
        none⟩) := by
  refine ⟨?_, s.app.ctx.txInfo.rawTxLen_le, ?_⟩
  · rintro path magic older rfl opened outcomes b first second short cut₁ cut₂
    exact sameEnd_of_cuts outcomes run opened short cut₁ cut₂
  · intro cmd outcomes data chunk more running route part long
    exact step_tooLong (run_separate run) running outcomes route part long

/-- Three bytes, whole and in two pieces. -/
theorem delivery_independent_three : ∃ history s stored₁ last₁ stored₂ last₂,
    Run (device .reference .bagl) history s ∧
    ParsedWhole .reference .bagl .success history s
      [⟨[1, 2, 3], by decide, 2, by decide⟩] [1, 2, 3] stored₁ last₁ ∧
    ParsedWhole .reference .bagl .success history s
      [⟨[1], by decide, 6, by decide⟩, ⟨[2, 3], by decide, 2, by decide⟩] [1, 2, 3]
      stored₂ last₂ ∧
    SameEnd last₁ last₂ := by
  have run := @run_session .bagl _ _ run_atStart rfl
  have opened : SessionOpened
      (Device.answered .atStart (.command pathCommand .success) App.zero.onPath
        (.ofSw .swoSuccess))
      (Device.answered ⟨App.zero.onPath, none, false⟩ (.command magicCommand .success)
        App.zero.onMainnet (.ofSw .swoSuccess)) :=
    ⟨⟨_, _, congrArg some (Command.route_signTx (by decide) fun _ => rfl)⟩, ⟨_, rfl⟩,
      ⟨_, _, congrArg some (Command.route_signTx (by decide) fun _ => rfl)⟩, ⟨_, rfl⟩⟩
  obtain ⟨stored₁, last₁, stored₂, last₂, whole₁, whole₂, same⟩ :=
    (delivery_independent .reference .bagl run).1 _ _ _ rfl opened .success [1, 2, 3]
      [⟨[1, 2, 3], by decide, 2, by decide⟩]
      [⟨[1], by decide, 6, by decide⟩, ⟨[2, 3], by decide, 2, by decide⟩]
      (by decide) ⟨by decide, rfl⟩ ⟨by decide, rfl⟩
  exact ⟨_, _, stored₁, last₁, stored₂, last₂, run, whole₁, whole₂, same⟩

end AppNeo3
