import AppNeo3.Host.CommandBuilder
import AppNeo3.Session.Delivery
import AppNeo3.Transaction.Recognised

/-!
# The host and the device together

A signing session of the host, sent to the device as it is at any time. The commands
for a transaction of allowed length are the path, the magic and pieces that the
transaction is cut into (`transmitted_signTx`). The device answers each with success
until the last one; whether there is a last one depends on the length only
(`host_completes_iff`). When there is, and the user approves, the host receives the
signature of its own transaction (`host_signs`).
-/

set_option autoImplicit false

namespace AppNeo3

open Memory Runs

/-! ## What is sent -/

/-- The event of bytes that the device receives. -/
def ApduParser.event (parser : ApduParser) (outcomes : CxOutcomes) (bytes : List UInt8) : Event :=
  match parser.parse bytes with
  | some cmd => .command cmd outcomes
  | none => .badLength

/-- The events of the commands of a host. An error of the host ends them. -/
def transmitted (parser : ApduParser) (outcomes : CxOutcomes) :
    List (Bool × Option (List UInt8)) → List Event
  | (_, some bytes) :: commands =>
      parser.event outcomes bytes :: transmitted parser outcomes commands
  | _ => []

variable {parser : ApduParser} {outcomes : CxOutcomes}

theorem event_bytes (cmd : Command) : parser.event outcomes cmd.bytes = .command cmd outcomes := by
  rw [ApduParser.event, parser.parse_eq]

/-- The commands of stored pieces and of the last one, if any. -/
def pieceEvents (outcomes : CxOutcomes) (stored : List Piece) (last : Option Piece) : List Event :=
  stored.map (fun piece => .command (piece.command true) outcomes) ++
    (last.map fun piece => .command (piece.command false) outcomes).toList

/-- The index of a chunk of a transaction of allowed length is a P1 of a part. -/
theorem chunk_part {i : Nat} (few : i ≤ 4) :
    2 ≤ UInt8.ofNat (i + 2) ∧ UInt8.ofNat (i + 2) ≤ p1Max := by
  have index : (UInt8.ofNat (i + 2)).toNat = i + 2 :=
    UInt8.toNat_ofNat_of_lt' (by show i + 2 < 256; omega)
  have top : p1Max.toNat = 6 := rfl
  rw [UInt8.le_iff_toNat_le, UInt8.le_iff_toNat_le, index, top]
  exact ⟨Nat.le_add_left 2 i, by omega⟩

theorem serialize_part (more : Bool) {i : Nat} (few : i ≤ 4) {data : List UInt8}
    (size : 0 < data.length ∧ data.length ≤ 255) :
    serialize CommandBuilder.cla CommandBuilder.insSignTx (i + 2) (if more then 0x80 else 0x00) data =
      some ((⟨data, size, UInt8.ofNat (i + 2), chunk_part few⟩ : Piece).command more).bytes :=
  serialize_signTx more size (by omega)

/-- The chunks are sent as pieces. -/
theorem transmitted_chunks (last : Option (List UInt8)) :
    ∀ (fronts : List (List UInt8)) (i : Nat), i + fronts.length ≤ 4 →
      (∀ chunk ∈ fronts ++ last.toList, 0 < chunk.length ∧ chunk.length ≤ 255) →
      ∃ (stored : List Piece) (final : Option Piece),
        transmitted parser outcomes (CommandBuilder.signTxChunks i
          (fronts.map (false, ·) ++ (last.map (true, ·)).toList)) =
            pieceEvents outcomes stored final ∧
        stored.flatMap Piece.bytes = fronts.flatten ∧ final.map Piece.bytes = last
  | [], i, few, sizes => by
      cases last with
      | none => exact ⟨[], none, rfl, rfl, rfl⟩
      | some chunk =>
          have size : 0 < chunk.length ∧ chunk.length ≤ 255 := sizes chunk (.head _)
          have here : i ≤ 4 := few
          have sent := serialize_part false here size
          rw [if_neg Bool.false_ne_true] at sent
          refine ⟨[], some ⟨chunk, size, _, chunk_part here⟩, ?_, rfl, rfl⟩
          show transmitted parser outcomes [(true, serialize _ _ (i + 2) 0x00 chunk)] = _
          rw [sent, transmitted, event_bytes]
          rfl
  | front :: fronts, i, few, sizes => by
      rw [List.length_cons] at few
      obtain ⟨stored, final, events, flat, ended⟩ := transmitted_chunks last fronts (i + 1)
        (by omega) fun chunk member => sizes chunk (.tail _ member)
      have size : 0 < front.length ∧ front.length ≤ 255 := sizes front (.head _)
      have here : i ≤ 4 := by omega
      have sent := serialize_part true here size
      rw [if_pos rfl] at sent
      refine ⟨⟨front, size, _, chunk_part here⟩ :: stored, final, ?_, ?_, ended⟩
      · rw [List.map_cons, List.cons_append, CommandBuilder.signTxChunks, if_neg Bool.false_ne_true,
          sent, transmitted, event_bytes, events]
        rfl
      · rw [List.flatMap_cons, flat]
        rfl

/-- The command of the magic. -/
def magicPacked (networkMagic : UInt32) : Command :=
  .signTx 1 true (ByteOrder.leBytes 4 networkMagic.toNat) (by
    rw [ByteOrder.length_leBytes]
    decide)

/-- **A session of the host** is the path, the magic and the pieces of the transaction,
of which the last is announced unless the length is a larger multiple of 255. -/
theorem transmitted_signTx (parser : ApduParser) (outcomes : CxOutcomes) {packedPath : List UInt8}
    (size : 0 < packedPath.length ∧ packedPath.length ≤ 255) (networkMagic : UInt32)
    {b : List UInt8} (nonempty : b ≠ []) (short : b.length ≤ maxTransactionLen) :
    ∃ (stored : List Piece) (final : Option Piece),
      transmitted parser outcomes (CommandBuilder.signTx packedPath networkMagic b) =
        .command (.signTx 0 true packedPath size) outcomes ::
          .command (magicPacked networkMagic) outcomes :: pieceEvents outcomes stored final ∧
      stored.flatMap Piece.bytes ++ (final.map Piece.bytes).getD [] = b ∧
      (final.isSome ↔ b.length ≤ 255 ∨ ¬ 255 ∣ b.length) := by
  obtain ⟨fronts, last, chunks, whole, sizes, count, announced⟩ :=
    @chunkify_eq b nonempty CommandBuilder.maxApduLen (by decide)
  have few : 0 + fronts.length ≤ 4 := by
    have bound : b.length / 255 ≤ maxTransactionLen / 255 := Nat.div_le_div_right short
    rw [Nat.zero_add]
    exact count.trans bound
  obtain ⟨stored, final, events, flat, ended⟩ :=
    @transmitted_chunks parser outcomes last fronts 0 few sizes
  have path := @serialize_signTx 0 true packedPath size (by decide)
  have magic := @serialize_signTx 1 true (ByteOrder.leBytes 4 networkMagic.toNat)
    (by rw [ByteOrder.length_leBytes]; decide) (by decide)
  refine ⟨stored, final, ?_, ?_, ?_⟩
  · rw [CommandBuilder.signTx, chunks,
      show serialize CommandBuilder.cla CommandBuilder.insSignTx 0x00 0x80 packedPath = _ from path,
      show serialize CommandBuilder.cla CommandBuilder.insSignTx 0x01 0x80 _ = _ from magic,
      transmitted, transmitted, event_bytes, event_bytes, events]
    rfl
  · rw [flat, ended]
    exact whole
  · rw [← announced, ← ended, Option.isSome_map]

/-! ## What the device does -/

variable {sdk : Sdk} {build : Build}

/-- The bytes given to the parser, when an entry reaches it. -/
def Taken.parsed (sdk : Sdk) (entry : Taken) : Option (List UInt8) :=
  entry.event.route.bind fun route =>
    (parserInput sdk entry.before.app route).map TransactionCtx.received

/-- The entry is that of a command, which is answered with success and has nothing parsed.
A review that is on the screen stays there. -/
structure Taken.Stores (sdk : Sdk) (pending : Option Review) (entry : Taken) : Prop where
  answered : entry.AnsweredBy .swoSuccess
  unparsed : entry.parsed sdk = none
  pending : entry.before.pending = pending
  routed : ∃ route, entry.Routed route

/-- The oldest of the entries begins a session. -/
def OpensSession (entries : List Taken) : Prop :=
  ∃ later first, entries = later ++ [first] ∧ ∃ data more, first.Routed (.signTx data 0 more)

theorem GlobalCtx.receive_nil (ctx : GlobalCtx)
    (fits : ctx.txInfo.rawTxLen + ([] : List UInt8).length ≤ maxTransactionLen) :
    ctx.receive [] fits = ctx := by
  have same : overwrite ctx.txInfo.rawTx.cells ctx.txInfo.rawTxLen [] = ctx.txInfo.rawTx.cells := by
    rw [overwrite, List.append_nil, List.length_nil, Nat.add_zero, List.take_append_drop]
  have area : ctx.txInfo.rawTx.write ctx.txInfo.rawTxLen [] fits = ctx.txInfo.rawTx :=
    Area.ext_cells same
  exact congrArg (fun rawTx => { ctx with txInfo := { ctx.txInfo with rawTx := rawTx } }) area

/-- **Pieces that announce more are stored one behind the other.** -/
theorem stored_fed (outcomes : CxOutcomes) :
    ∀ (pieces : List Piece) (history : History) {s : Device}, s.ended = false →
      s.app.ctx.reqType = .confirmTransaction →
      ∀ fits : s.app.ctx.txInfo.rawTxLen + (pieces.flatMap Piece.bytes).length ≤ maxTransactionLen,
        ∃ entries, (device sdk build).feed history s
            (pieces.map fun piece => .command (piece.command true) outcomes) =
              some (entries ++ history,
                { s with app := s.app.withCtx (s.app.ctx.receive _ fits) }) ∧
          ∀ entry ∈ entries, Taken.Stores sdk s.pending entry
  | [], history, s, _, _, fits => by
      refine ⟨[], ?_, fun _ member => absurd member List.not_mem_nil⟩
      show some (history, s) = some (history, _)
      rw [show s.app.ctx.receive (([] : List Piece).flatMap Piece.bytes) fits = s.app.ctx from
        s.app.ctx.receive_nil fits]
      rfl
  | piece :: pieces, history, s, running, request, fits => by
      have length := @List.length_append _ piece.bytes (pieces.flatMap Piece.bytes)
      have front : s.app.ctx.txInfo.rawTxLen + piece.bytes.length ≤ maxTransactionLen := by
        rw [List.flatMap_cons] at fits
        omega
      have handled := @handle_part sdk build outcomes _ request _ _ piece.later front
      rw [← piece.route_command true] at handled
      let next : Device := { s with app := s.app.withCtx (s.app.ctx.receive piece.bytes front) }
      have back : next.app.ctx.txInfo.rawTxLen + (pieces.flatMap Piece.bytes).length ≤
          maxTransactionLen := by
        rw [List.flatMap_cons] at fits
        show s.app.ctx.txInfo.rawTxLen + piece.bytes.length + _ ≤ _
        omega
      let entry := s.answered (.command (piece.command true) outcomes) next.app (.ofSw .swoSuccess)
      obtain ⟨entries, fed, stores⟩ :=
        stored_fed outcomes pieces (entry :: history) (s := next) running request back
      refine ⟨entries ++ [entry], ?_, ?_⟩
      · rw [List.append_assoc, List.map_cons]
        refine (Machine.feed_of_step (step_answered running handled) _ _).trans (fed.trans ?_)
        have whole := s.app.ctx.receive_receive fits front back
        exact congrArg (fun ctx => some (entries ++ ([entry] ++ history),
          { s with app := s.app.withCtx ctx })) whole
      · intro other member
        rcases List.mem_append.mp member with later | first
        · exact stores other later
        · rw [List.mem_singleton.mp first]
          refine ⟨rfl, ?_, rfl, _, rfl⟩
          show ((some (piece.command true).route).bind _ : Option (List UInt8)) = none
          rw [piece.route_command true]
          rfl

/-- The magic that is packed is the one that is read. -/
theorem magicOf_packed (networkMagic : UInt32) :
    magicOf (ByteOrder.leBytes 4 networkMagic.toNat) = networkMagic := by
  have size := ByteOrder.length_leBytes 4 networkMagic.toNat
  have small : networkMagic.toNat < 256 ^ 4 := networkMagic.toNat_lt
  rw [magicOf, List.take_of_length_le (Nat.le_of_eq size), ByteOrder.leNat_leBytes,
    Nat.mod_eq_of_lt small]
  exact UInt32.ofNat_toNat

/-- The context of a session that has been opened. -/
def GlobalCtx.opened (path : Bip44Path) (networkMagic : UInt32) : GlobalCtx :=
  (GlobalCtx.ofPath path).ofMagic networkMagic

/-- **The commands in front of the last one** open a session, whatever the device was
doing, and store what they carry. -/
theorem session_fed (outcomes : CxOutcomes) (history : History) {s : Device}
    (running : s.ended = false) {packedPath : List UInt8} {path : Bip44Path}
    (accepted : PathAccepted sdk packedPath path)
    (size : 0 < packedPath.length ∧ packedPath.length ≤ 255) (networkMagic : UInt32)
    (stored : List Piece)
    (fits : (GlobalCtx.opened path networkMagic).txInfo.rawTxLen +
      (stored.flatMap Piece.bytes).length ≤ maxTransactionLen) :
    ∃ entries, (device sdk build).feed history s
        (.command (.signTx 0 true packedPath size) outcomes ::
          .command (magicPacked networkMagic) outcomes ::
            stored.map fun piece => .command (piece.command true) outcomes) =
          some (entries ++ history, { s with
            app := s.app.withCtx ((GlobalCtx.opened path networkMagic).receive _ fits) }) ∧
      (∀ entry ∈ entries, Taken.Stores sdk s.pending entry) ∧ OpensSession entries := by
  have pathRoute : (Command.signTx 0 true packedPath size).route = .signTx packedPath 0 true :=
    Command.route_signTx (by decide) fun _ => rfl
  have magicRoute : (magicPacked networkMagic).route =
      .signTx (ByteOrder.leBytes 4 networkMagic.toNat) 1 true :=
    Command.route_signTx (by decide) fun _ => rfl
  have onPath := @handle_path sdk build outcomes s.app _ _ accepted true
  rw [← pathRoute] at onPath
  have long : 4 ≤ (ByteOrder.leBytes 4 networkMagic.toNat).length := by
    rw [ByteOrder.length_leBytes]
  have onMagic := @handle_magic sdk build outcomes (s.app.withCtx (.ofPath path)) rfl _ long true
  rw [← magicRoute, magicOf_packed] at onMagic
  let opened : Device := { s with app := s.app.withCtx (.opened path networkMagic) }
  let first := s.answered (.command (.signTx 0 true packedPath size) outcomes)
    (s.app.withCtx (.ofPath path)) (.ofSw .swoSuccess)
  let second := Device.answered { s with app := s.app.withCtx (.ofPath path) }
    (.command (magicPacked networkMagic) outcomes) opened.app (.ofSw .swoSuccess)
  obtain ⟨entries, fed, stores⟩ := @stored_fed sdk build outcomes stored
    (second :: first :: history) opened running rfl fits
  refine ⟨entries ++ [second, first], ?_, ?_, entries ++ [second], first, ?_, packedPath, true, ?_⟩
  · rw [List.append_assoc]
    have pathStep := step_answered running onPath
    have magicStep := @step_answered sdk build { s with app := s.app.withCtx (.ofPath path) } running
      _ _ _ _ onMagic
    exact ((Machine.feed_of_step pathStep _ _).trans (Machine.feed_of_step magicStep _ _)).trans fed
  · intro entry member
    rcases List.mem_append.mp member with later | front
    · exact stores entry later
    · simp only [List.mem_cons, List.not_mem_nil, or_false] at front
      rcases front with rfl | rfl
      · refine ⟨rfl, ?_, rfl, _, rfl⟩
        show ((some (magicPacked networkMagic).route).bind _ : Option (List UInt8)) = none
        rw [magicRoute]
        rfl
      · refine ⟨rfl, ?_, rfl, _, rfl⟩
        show ((some (Command.signTx 0 true packedPath size).route).bind _ :
          Option (List UInt8)) = none
        rw [pathRoute]
        rfl
  · rw [List.append_assoc]
    rfl
  · exact congrArg some pathRoute

/-- The bytes received in a session that has been opened. -/
theorem received_opened (path : Bip44Path) (networkMagic : UInt32) {b : List UInt8}
    (fits : (GlobalCtx.opened path networkMagic).txInfo.rawTxLen + b.length ≤ maxTransactionLen) :
    ((GlobalCtx.opened path networkMagic).receive b fits).txInfo.received = b :=
  TransactionCtx.received_receive _ _ fits

section Exchange

variable (parser : ApduParser) (sdk : Sdk) (build : Build) (outcomes : CxOutcomes)
  (history : History) {s : Device}
  (running : s.ended = false) {packedPath : List UInt8} {path : Bip44Path}
  (accepted : PathAccepted sdk packedPath path)
  (size : 0 < packedPath.length ∧ packedPath.length ≤ 255) (networkMagic : UInt32)
  {b : List UInt8} (nonempty : b ≠ []) (short : b.length ≤ maxTransactionLen)
  (fits : (GlobalCtx.opened path networkMagic).txInfo.rawTxLen + b.length ≤ maxTransactionLen)
include running accepted size nonempty short

/-- **A session without a last command**: everything is stored, whatever the device was
doing. -/
theorem exchange_open (silent : ¬ (b.length ≤ 255 ∨ ¬ 255 ∣ b.length)) :
    ∃ entries, (device sdk build).feed history s
        (transmitted parser outcomes (CommandBuilder.signTx packedPath networkMagic b)) =
          some (entries ++ history, { s with
            app := s.app.withCtx ((GlobalCtx.opened path networkMagic).receive b fits) }) ∧
      ∀ entry ∈ entries, Taken.Stores sdk s.pending entry := by
  obtain ⟨stored, final, events, whole, announced⟩ :=
    transmitted_signTx parser outcomes size networkMagic nonempty short
  rw [events]
  cases final with
  | some piece => exact absurd (announced.mp rfl) silent
  | none =>
      rw [Option.map_none, Option.getD_none, List.append_nil] at whole
      subst whole
      rw [pieceEvents, Option.map_none, Option.toList_none, List.append_nil]
      obtain ⟨entries, fed, stores, _⟩ :=
        @session_fed sdk build outcomes history s running _ _ accepted size networkMagic stored fits
      exact ⟨entries, fed, stores⟩

/-- **A session with a last command** stores the commands before it, and has the
transaction parsed by it. -/
theorem exchange_closed (told : b.length ≤ 255 ∨ ¬ 255 ∣ b.length) :
    ∃ (stored : List Taken) (last : Taken), (device sdk build).feed history s
        (transmitted parser outcomes (CommandBuilder.signTx packedPath networkMagic b)) =
          some (last :: (stored ++ history), last.after) ∧
      (∀ entry ∈ stored, Taken.Stores sdk s.pending entry) ∧ OpensSession stored ∧
      last.parsed sdk = some b ∧ last.before.pending = s.pending ∧
      ∃ before, (last.after, last.output) = Device.afterCommand { s with app := before }
        (lastPart sdk build outcomes
          (s.app.withCtx ((GlobalCtx.opened path networkMagic).receive b fits))) := by
  obtain ⟨stored, final, events, whole, announced⟩ :=
    transmitted_signTx parser outcomes size networkMagic nonempty short
  rw [events]
  cases final with
  | none => exact absurd (announced.mpr told) Bool.false_ne_true
  | some piece =>
      rw [Option.map_some, Option.getD_some] at whole
      subst whole
      have length := @List.length_append _ (stored.flatMap Piece.bytes) piece.bytes
      have front : (GlobalCtx.opened path networkMagic).txInfo.rawTxLen +
          (stored.flatMap Piece.bytes).length ≤ maxTransactionLen := by omega
      obtain ⟨entries, fed, stores, begun⟩ := @session_fed sdk build outcomes history s running _ _
        accepted size networkMagic stored front
      let before : Device := { s with
        app := s.app.withCtx ((GlobalCtx.opened path networkMagic).receive _ front) }
      have back : before.app.ctx.txInfo.rawTxLen + piece.bytes.length ≤ maxTransactionLen := by
        show (GlobalCtx.opened path networkMagic).txInfo.rawTxLen + _ + piece.bytes.length ≤ _
        omega
      obtain ⟨last, delivered⟩ :=
        @delivered_last sdk build outcomes piece (entries ++ history) before running rfl back
      have joined := (GlobalCtx.opened path networkMagic).receive_receive fits front back
      refine ⟨entries, last, ?_, stores, begun, ?_, ?_, ?_⟩
      · rw [pieceEvents, ← List.cons_append, ← List.cons_append, Machine.feed_append, fed]
        exact delivered.fed
      · obtain ⟨route, routed, input⟩ := delivered.input
        rw [Taken.parsed, routed]
        show (parserInput sdk last.before.app route).map TransactionCtx.received = _
        rw [input]
        exact congrArg some (received_opened path networkMagic fits ▸
          congrArg (fun ctx => ctx.txInfo.received) joined)
      · rw [delivered.before]
      · refine ⟨last.before.app, ?_⟩
        rw [← joined]
        have result := delivered.result
        rw [delivered.before] at result
        exact result

end Exchange

/-! ## Whether the host completes its session -/

/-- **The host completes its session unless the length is a larger multiple of 255.**
Every command but the one that has the transaction parsed is answered with success,
so that otherwise the host is left without an answer to wait for. -/
theorem host_completes_iff (parser : ApduParser) (sdk : Sdk) (build : Build)
    (outcomes : CxOutcomes) (history : History) {s : Device} (running : s.ended = false)
    {packedPath : List UInt8} {path : Bip44Path} (accepted : PathAccepted sdk packedPath path)
    (size : 0 < packedPath.length ∧ packedPath.length ≤ 255) (networkMagic : UInt32)
    {b : List UInt8} (nonempty : b ≠ []) (short : b.length ≤ maxTransactionLen) :
    ∃ entries s', (device sdk build).feed history s
        (transmitted parser outcomes (CommandBuilder.signTx packedPath networkMagic b)) =
          some (entries ++ history, s') ∧
      (∀ entry ∈ entries, Taken.AnsweredBy entry .swoSuccess ∨ Taken.parsed sdk entry = some b) ∧
      ((∃ entry ∈ entries, Taken.parsed sdk entry = some b) ↔
        b.length ≤ 255 ∨ ¬ 255 ∣ b.length) := by
  have fits : (GlobalCtx.opened path networkMagic).txInfo.rawTxLen + b.length ≤
      maxTransactionLen := by
    show 0 + b.length ≤ _
    omega
  by_cases told : b.length ≤ 255 ∨ ¬ 255 ∣ b.length
  · obtain ⟨stored, last, fed, stores, _, parsed, _⟩ :=
      exchange_closed parser sdk build outcomes history running accepted size networkMagic nonempty
        short fits told
    refine ⟨last :: stored, last.after, fed, ?_, iff_of_true ⟨last, .head _, parsed⟩ told⟩
    intro entry member
    rcases List.mem_cons.mp member with rfl | earlier
    · exact .inr parsed
    · exact .inl (stores entry earlier).answered
  · obtain ⟨entries, fed, stores⟩ :=
      exchange_open parser sdk build outcomes history running accepted size networkMagic nonempty
        short fits told
    refine ⟨entries, _, fed, fun entry member => .inl (stores entry member).answered, ?_⟩
    refine iff_of_false ?_ told
    rintro ⟨entry, member, parsed⟩
    cases (stores entry member).unparsed.symm.trans parsed

/-- A transaction of 510 bytes is never parsed. -/
theorem host_completes_iff_510 : ∃ entries s', (device .reference .bagl).feed [] .atStart
      (transmitted .reference .success
        (CommandBuilder.signTx firstPathData networkMainnet (List.replicate 510 0))) =
        some (entries ++ [], s') ∧
    ¬ ∃ entry ∈ entries, Taken.parsed .reference entry = some (List.replicate 510 0) := by
  have nonempty : (List.replicate 510 0 : List UInt8) ≠ [] := List.cons_ne_nil _ _
  have length : (List.replicate 510 0 : List UInt8).length = 510 := List.length_replicate
  obtain ⟨entries, s', fed, _, completes⟩ :=
    host_completes_iff .reference .reference .bagl .success [] (s := .atStart) rfl
      firstPath_accepted (by decide) networkMainnet nonempty (by rw [length]; decide)
  refine ⟨entries, s', fed, completes.not.mpr ?_⟩
  rw [length]
  decide

/-! ## The signature that the host receives -/

theorem Parses.parse_eq {b : List UInt8} {tx : Transaction} (parses : Parses sdk b tx) :
    Transaction.zero.parseStatus sdk b = .parsingOk ∧ Transaction.zero.parse sdk b = tx := by
  obtain ⟨size, size', parsed⟩ := parses
  obtain ⟨_, run⟩ := @transactionDeserialize_eq sdk b Transaction.zero size
  rw [run] at parsed
  simp only [Option.some.injEq, Prod.mk.injEq] at parsed
  exact ⟨parsed.1, parsed.2.1⟩

/-- The last part of a transaction of the grammar opens its review. -/
theorem lastPart_of_parses (build : Build) (app : App) (path : Bip44Path) (networkMagic : UInt32)
    {b : List UInt8} {tx : Transaction} (parses : Parses sdk b tx)
    (hashes : outcomes.hashesOk 2 = true)
    (fits : (GlobalCtx.opened path networkMagic).txInfo.rawTxLen + b.length ≤ maxTransactionLen) :
    ∃ filled : App, filled.storage = app.storage ∧
      filled.ctx.bip44Path = path ∧ filled.ctx.networkMagic = networkMagic ∧
      filled.ctx.txInfo.hash = sdk.sha256 b ∧
      lastPart sdk build outcomes
          (app.withCtx ((GlobalCtx.opened path networkMagic).receive b fits)) =
        some (filled, .start (.transaction (filled.review build))) ∧
      filled.ctx.txInfo.transaction = tx := by
  obtain ⟨status, parse⟩ := parses.parse_eq
  have received := received_opened path networkMagic fits
  let ctx := (GlobalCtx.opened path networkMagic).receive b fits
  have ok : ctx.parseStatus sdk = .parsingOk := by
    rw [GlobalCtx.parseStatus, received]
    exact status
  refine ⟨(app.withCtx ctx).fill sdk ((ctx.parse sdk).reviewed sdk), rfl, rfl, rfl, ?_, ?_, ?_⟩
  · exact congrArg sdk.sha256 received
  · exact (if_neg (not_not_intro ok)).trans (if_pos hashes)
  · show Transaction.zero.parse sdk ctx.txInfo.received = tx
    rw [received]
    exact parse

/-- A session in which the user approves what the host has sent. -/
theorem exchange_signed (parser : ApduParser) (sdk : Sdk) (build : Build) (history : History)
    {s : Device} (running : s.ended = false) {packedPath : List UInt8} {path : Bip44Path}
    (accepted : PathAccepted sdk packedPath path)
    (size : 0 < packedPath.length ∧ packedPath.length ≤ 255) (networkMagic : UInt32)
    (image : TransactionImage) (short : image.bytes.length ≤ maxTransactionLen)
    (told : image.bytes.length ≤ 255 ∨ ¬ 255 ∣ image.bytes.length)
    (allowed : scriptRefused (image.parsed sdk) s.app.storage = false) :
    ∃ (stored : List Taken) (opened approved : Taken), (device sdk build).feed history s
        (transmitted parser .success (CommandBuilder.signTx packedPath networkMagic image.bytes) ++
          [.decision true .success]) =
          some (approved :: opened :: (stored ++ history), approved.after) ∧
      (∀ entry ∈ stored, Taken.Stores sdk s.pending entry) ∧ OpensSession stored ∧ opened.Opens ∧
      opened.before.pending = s.pending ∧ approved.event = .decision true .success ∧
      approved.output.answer = some (.send ⟨sdk.cxEcdsaSign (sdk.privateKey path)
        (sdk.sha256 (ByteOrder.leBytes 4 networkMagic.toNat ++ (sdk.sha256 image.bytes).cells)),
        .swoSuccess⟩) := by
  have nonempty : image.bytes ≠ [] := List.cons_ne_nil _ _
  have fits : (GlobalCtx.opened path networkMagic).txInfo.rawTxLen + image.bytes.length ≤
      maxTransactionLen := by
    show 0 + image.bytes.length ≤ _
    omega
  have parses := parses_image sdk short
  obtain ⟨stored, opened, fed, stores, begun, _, unreviewed, before, result⟩ :=
    exchange_closed parser sdk build .success history running accepted size networkMagic nonempty
      short fits told
  obtain ⟨filled, settings, ofPath, ofMagic, hash, opens, tx⟩ :=
    @lastPart_of_parses .success sdk build s.app path networkMagic _ _ parses (by decide) fits
  rw [opens] at result
  obtain ⟨after, output⟩ := Prod.mk.inj result
  have approvable : (filled.review build).screen.approvable = true := by
    show (startSignTxUi build filled.ctx.txInfo.transaction filled.storage).approvable = true
    rw [approvable_startSignTxUi, tx, settings, allowed]
    rfl
  have ended : opened.after.ended = false := by
    rw [after]
    exact running
  have pending : opened.after.pending = some (.transaction (filled.review build)) := by
    rw [after]
  have decided := @step_transaction sdk build _ ended _ pending approvable true .success
  have here : opened.after.app = filled := by rw [after]
  have key : cryptoDerivePrivateKey sdk .success filled.ctx.bip44Path = (sdk.privateKey path, 0) := by
    rw [ofPath]
    exact cryptoDerivePrivateKey_of_derives sdk .success (by decide) path
  have digest : sdk.digest filled.ctx = sdk.sha256
      (ByteOrder.leBytes 4 networkMagic.toNat ++ (sdk.sha256 image.bytes).cells) := by
    rw [Sdk.digest, GlobalCtx.signedData, ofMagic, hash]
  obtain ⟨app', signed⟩ := approveTransaction_of_signs sdk .success filled (by decide)
  rw [key, digest] at signed
  rw [here, uiActionValidateTransaction, if_pos rfl, signed] at decided
  let signing : Signing := ⟨sdk.privateKey path, sdk.sha256
    (ByteOrder.leBytes 4 networkMagic.toNat ++ (sdk.sha256 image.bytes).cells)⟩
  refine ⟨stored, opened, ⟨opened.after, .decision true .success, ⟨some (.send
    ⟨sdk.cxEcdsaSign signing.key signing.digest, .swoSuccess⟩), some signing⟩,
    { opened.after with app := app', pending := none }⟩, ?_,
    stores, begun, ⟨_, congrArg Output.answer output⟩, unreviewed, rfl, rfl⟩
  rw [Machine.feed_append, fed]
  exact Machine.feed_of_step decided _ _

/-- **What the host receives for a transaction that the user approves** is the
signature, by the key of its own path, of its own network and transaction: whatever the
device was doing before, and whatever else the host has sent to it. -/
theorem host_signs (parser : ApduParser) (sdk : Sdk) (build : Build) (history : History)
    {s : Device} (running : s.ended = false) {packedPath : List UInt8} {path : Bip44Path}
    (accepted : PathAccepted sdk packedPath path)
    (size : 0 < packedPath.length ∧ packedPath.length ≤ 255) (networkMagic : UInt32)
    (image : TransactionImage) (short : image.bytes.length ≤ maxTransactionLen)
    (told : image.bytes.length ≤ 255 ∨ ¬ 255 ∣ image.bytes.length)
    (allowed : scriptRefused (image.parsed sdk) s.app.storage = false) :
    ∃ (stored : List Taken) (opened approved : Taken), (device sdk build).feed history s
        (transmitted parser .success (CommandBuilder.signTx packedPath networkMagic image.bytes) ++
          [.decision true .success]) =
          some (approved :: opened :: (stored ++ history), approved.after) ∧
      (∀ entry ∈ stored, Taken.AnsweredBy entry .swoSuccess) ∧ opened.Opens ∧
      approved.output.answer = some (.send ⟨sdk.cxEcdsaSign (sdk.privateKey path)
        (sdk.sha256 (ByteOrder.leBytes 4 networkMagic.toNat ++ (sdk.sha256 image.bytes).cells)),
        .swoSuccess⟩) := by
  obtain ⟨stored, opened, approved, fed, stores, _, opens, _, _, answer⟩ :=
    exchange_signed parser sdk build history running accepted size networkMagic image short told
      allowed
  exact ⟨stored, opened, approved, fed, fun entry member => (stores entry member).answered, opens,
    answer⟩

/-- The plain transaction, for a device whose settings allow its script. -/
theorem host_signs_plain : ∃ (entries : List Taken) (s' : Device) (approved : Taken),
    (device .reference .nbgl).feed [] ⟨{ App.zero with storage := ⟨1, 0, 0⟩ }, none, false⟩
      (transmitted .reference .success (CommandBuilder.signTx firstPathData networkMainnet
        (SignerImage.transaction (.plain (Area.fill _ 0))).bytes) ++
        [.decision true .success]) = some (approved :: entries, s') ∧
    ∃ signature, approved.output.answer = some (.send ⟨signature, .swoSuccess⟩) := by
  have running : (⟨{ App.zero with storage := ⟨1, 0, 0⟩ }, none, false⟩ : Device).ended = false := rfl
  obtain ⟨stored, opened, approved, fed, _, _, answer⟩ :=
    host_signs .reference .reference .nbgl [] running firstPath_accepted (by decide)
      networkMainnet (SignerImage.transaction (.plain (Area.fill _ 0)))
      (SignerImage.transaction_short (by decide)) (by decide) (by simp [scriptRefused])
  exact ⟨opened :: (stored ++ []), approved.after, approved, fed, _, answer⟩

end AppNeo3
