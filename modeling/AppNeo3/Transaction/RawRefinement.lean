import AppNeo3.Foundation.Simulation
import AppNeo3.Transaction.DeserializeRefinement
import AppNeo3.Transaction.RawParser

/-!
# The parser never leaves its input

The raw parser simulates the parser on buffers that carry their own bounds. A raw
buffer that shows such a buffer is one that the SDK's functions are documented for,
and moving on in it keeps it one (`RawBuffer.Shows`), so the raw parser does nothing
that it must not, and has the parser's results (`raw_transactionDeserialize`).
-/

set_option autoImplicit false

namespace AppNeo3

open Memory CBody Body

variable {ρ α β : Type} {memory : List UInt8} {sdk : Sdk}

/-! ## Raw buffers that show buffers -/

/-- The raw buffer has the bytes of the buffer in the memory, and its offset. -/
structure RawBuffer.Shows (memory : List UInt8) (raw : RawBuffer) (buffer : Buffer) : Prop where
  inside : raw.ptr + raw.size ≤ memory.length
  bytes : buffer.ptr = slice memory raw.ptr raw.size
  offset : raw.offset = buffer.offset

namespace RawBuffer.Shows

variable {raw : RawBuffer} {buffer after : Buffer} {count : Nat}

theorem length (shown : raw.Shows memory buffer) : buffer.ptr.length = raw.size := by
  rw [shown.bytes, length_slice shown.inside]

theorem offset_le (shown : raw.Shows memory buffer) : raw.offset ≤ raw.size := by
  rw [← shown.length, shown.offset]
  exact buffer.offset_le

theorem view (shown : raw.Shows memory buffer) : raw.view memory = some buffer := by
  rw [RawBuffer.view, dif_pos ⟨shown.inside, shown.offset_le⟩]
  obtain ⟨ptr, offset, inside⟩ := buffer
  cases shown.bytes
  cases shown.offset
  rfl

/-- The raw buffer that has moved on shows the buffer that has. -/
theorem move (shown : raw.Shows memory buffer) (same : after.ptr = buffer.ptr) :
    RawBuffer.Shows memory { raw with offset := after.offset } after :=
  ⟨shown.inside, same.trans shown.bytes, rfl⟩

theorem length_rest (shown : raw.Shows memory buffer) :
    buffer.rest.length = raw.size - raw.offset := by
  rw [Buffer.length_rest, shown.length, shown.offset]

/-- The bytes that the pointer of the buffer points to are in the memory. -/
theorem slice_eq (shown : raw.Shows memory buffer) (fits : count ≤ buffer.rest.length) :
    raw.ptr + raw.offset + count ≤ memory.length ∧
      slice memory (raw.ptr + raw.offset) count = slice buffer.ptr buffer.offset count := by
  have inside := shown.inside
  have start := shown.offset_le
  rw [shown.length_rest] at fits
  refine ⟨by omega, ?_⟩
  rw [shown.bytes, ← shown.offset, slice, slice, slice, List.drop_take, List.drop_drop,
    List.take_take, Nat.min_eq_left fits]

end RawBuffer.Shows

theorem Buffer.ptr_read (buffer : Buffer) (count : Nat) (decode : List UInt8 → α) (zero : α) :
    (buffer.read count decode zero).2.2.ptr = buffer.ptr := by
  rw [Buffer.read]
  split <;> rfl

theorem ptr_bufferSeekCur (buffer : Buffer) (count : Nat) :
    (sdk.bufferSeekCur buffer count).2.ptr = buffer.ptr := by
  rw [sdk.bufferSeekCur_eq]
  split <;> rfl

/-! ## Steps on the buffer -/

section Steps

variable {s : RawState} {buffer : Buffer}

/-- **A call of the SDK** with a buffer that it is documented for. -/
theorem callSdk_run (shown : s.buf.Shows memory buffer) (call : Buffer → α × Buffer)
    (same : (call buffer).2.ptr = buffer.ptr) :
    (Raw.callSdk memory call : Body RawState ρ α) s =
      .next (call buffer).1 { s with buf := { s.buf with offset := (call buffer).2.offset } } := by
  have inside : (call buffer).2.offset ≤ s.buf.size := by
    have bound := (call buffer).2.offset_le
    rwa [same, shown.length] at bound
  have moved : (Raw.moveTo (call buffer).2.offset : Body RawState ρ Unit) s =
      .next () { s with buf := { s.buf with offset := (call buffer).2.offset } } := if_pos inside
  rw [Raw.callSdk, shown.view]
  exact bind_of_next moved _

theorem canRead_run (shown : s.buf.Shows memory buffer) (count : Nat) :
    (Raw.canRead memory sdk count : Body RawState ρ Bool) s =
      .next (sdk.bufferCanRead buffer count) s := by
  rw [Raw.canRead, callSdk_run shown _ rfl, ← shown.offset]

theorem seekCur_run (shown : s.buf.Shows memory buffer) (count : Nat) :
    (Raw.seekCur memory sdk count : Body RawState ρ Bool) s =
      .next (sdk.bufferSeekCur buffer count).1
        { s with buf := { s.buf with offset := (sdk.bufferSeekCur buffer count).2.offset } } :=
  callSdk_run shown _ (ptr_bufferSeekCur buffer count)

/-- The bytes at the pointer of the buffer can be loaded. -/
theorem load_run (shown : s.buf.Shows memory buffer) {count : Nat}
    (fits : count ≤ buffer.rest.length) :
    (Raw.load memory (s.buf.ptr + s.buf.offset) count : Body RawState ρ (List UInt8)) s =
      .next (slice buffer.ptr buffer.offset count) s := by
  obtain ⟨inside, same⟩ := shown.slice_eq fits
  rw [Raw.load, if_pos inside, same]

end Steps

/-! ## Readers -/

/-- The raw reader reads what the reader reads, and moves on as far. -/
def ReadsAs (memory : List UInt8) (raw : Body RawState ρ (Bool × α))
    (reader : Buffer → Bool × α × Buffer) : Prop :=
  ∀ s buffer, s.buf.Shows memory buffer → (reader buffer).2.2.ptr = buffer.ptr ∧
    raw s = .next ((reader buffer).1, (reader buffer).2.1)
      { s with buf := { s.buf with offset := (reader buffer).2.2.offset } }

theorem readsAs_sdk {reader : Buffer → Bool × α × Buffer} {count : Nat}
    {decode : List UInt8 → α} {zero : α}
    (reads : ∀ buffer, reader buffer = buffer.read count decode zero) :
    ReadsAs memory (Raw.sdkReader memory reader : Body RawState ρ (Bool × α)) reader := by
  intro s buffer shown
  have same : (reader buffer).2.2.ptr = buffer.ptr := by
    rw [reads]
    exact buffer.ptr_read count decode zero
  exact ⟨same, callSdk_run shown _ same⟩

/-- A signed reader, for a value that comes from the bytes at the offset. -/
theorem readsAs_signed {count : Nat} {zero : α} {value : List UInt8 → Nat → α}
    (decode : List UInt8 → α)
    (decodes : ∀ ptr offset, offset + count ≤ ptr.length →
      value ptr offset = decode (slice ptr offset count)) :
    ReadsAs memory (Raw.bufferReadSigned memory sdk count zero value : Body RawState ρ (Bool × α))
      (fun buffer => bufferReadSigned sdk buffer count zero value) := by
  intro s buffer shown
  have can := sdk.bufferCanRead_eq buffer count
  dsimp only
  rw [Raw.bufferReadSigned, bind_of_next (canRead_run shown count), bufferReadSigned]
  by_cases fits : count ≤ buffer.rest.length
  · rw [decide_eq_true fits] at can
    obtain ⟨inside, same⟩ := shown.slice_eq fits
    have start := buffer.offset_le
    rw [Buffer.length_rest] at fits
    have raw : value (memory.drop s.buf.ptr) s.buf.offset = value buffer.ptr buffer.offset := by
      rw [decodes _ _ (by rw [List.length_drop]; omega), decodes _ _ (by omega), ← same, slice,
        slice, List.drop_drop]
    rw [can, if_pos rfl, if_pos rfl]
    refine ⟨ptr_bufferSeekCur buffer count, ?_⟩
    rw [← raw]
    exact (bind_of_next (load_run shown (by rw [Buffer.length_rest]; exact fits)) _).trans
      (bind_of_next (seekCur_run shown count) _)
  · rw [decide_eq_false fits] at can
    rw [can, if_neg Bool.false_ne_true, if_neg Bool.false_ne_true, ← shown.offset]
    exact ⟨rfl, rfl⟩

theorem readsAs_s8 : ReadsAs memory (Raw.bufferReadS8 memory sdk : Body RawState ρ (Bool × Int8))
    (bufferReadS8 sdk) :=
  readsAs_signed (fun bytes => (bytes.headD 0).toInt8) fun _ _ => s8_eq_slice

theorem readsAs_s16 :
    ReadsAs memory (Raw.bufferReadS16 memory sdk .le : Body RawState ρ (Bool × Int16))
      (bufferReadS16 sdk · .le) :=
  readsAs_signed (fun bytes => (UInt16.ofNat (ByteOrder.leNat bytes)).toInt16)
    fun _ _ => s16_eq_slice

theorem readsAs_s32 :
    ReadsAs memory (Raw.bufferReadS32 memory sdk .le : Body RawState ρ (Bool × Int32))
      (bufferReadS32 sdk · .le) :=
  readsAs_signed (fun bytes => (UInt32.ofNat (ByteOrder.leNat bytes)).toInt32)
    fun _ _ => s32_eq_slice

theorem readsAs_s64 :
    ReadsAs memory (Raw.bufferReadS64 memory sdk .le : Body RawState ρ (Bool × Int64))
      (bufferReadS64 sdk · .le) :=
  readsAs_signed (fun bytes => (UInt64.ofNat (ByteOrder.leNat bytes)).toInt64)
    fun _ _ => s64_eq_slice

theorem readsAs_uvarint : ReadsAs memory
    (Raw.bufferReadUvarint memory sdk : Body RawState ρ (Bool × UInt64))
    (bufferReadUvarint sdk) := by
  intro s buffer shown
  have left : (Raw.remaining : Body RawState ρ Nat) s =
      .next (s.buf.size - s.buf.offset) s := if_pos shown.offset_le
  have all := load_run (ρ := ρ) shown (Nat.le_of_eq shown.length_rest.symm)
  have rest : slice buffer.ptr buffer.offset (s.buf.size - s.buf.offset) = buffer.rest := by
    rw [← shown.length_rest, slice, ← Buffer.rest, List.take_length]
  rw [rest] at all
  have start : (Raw.here : Body RawState ρ Nat) s = .next (s.buf.ptr + s.buf.offset) s := rfl
  rw [Raw.bufferReadUvarint, bind_of_next start, bind_of_next left, bind_of_next all,
    bufferReadUvarint, ← Buffer.rest]
  cases sdk.varintRead buffer.rest with
  | none =>
      refine ⟨rfl, ?_⟩
      rw [← shown.offset]
      rfl
  | some result =>
      obtain ⟨length, value⟩ := result
      exact ⟨ptr_bufferSeekCur buffer length, bind_of_next (seekCur_run shown length) _⟩

/-! ## The recognisers -/

/-- The raw state of a recogniser shows its state. -/
structure ScriptShows (memory : List UInt8) (raw : RawState) (s : ScriptState) : Prop where
  buf : raw.buf.Shows memory s.script
  tx : raw.tx = s.tx
  size : raw.size = s.size

/-- The raw recogniser does what the recogniser does. -/
abbrev ScriptSimulates (memory : List UInt8) (concrete : Raw.RawRecogniser α)
    (abstract : Recogniser α) : Prop :=
  Simulates (ScriptShows memory) Eq concrete abstract

theorem scriptSimulates_readSize {raw : Raw.RawRecogniser (Bool × α)}
    {reader : Buffer → Bool × α × Buffer} (reads : ReadsAs memory raw reader)
    (set : Data → α → Data) :
    ScriptSimulates memory (Raw.readSize raw set) (readSize reader set) := by
  intro r s shown
  obtain ⟨same, run⟩ := reads r s.script shown.buf
  rw [Raw.readSize, bind_of_next run]
  exact .next rfl ⟨shown.buf.move same, shown.tx, congrArg (set · _) shown.size⟩

theorem scriptSimulates_readOrReturn {γ : Type} {raw : Raw.RawRecogniser (Bool × α)}
    {reader : Buffer → Bool × α × Buffer} (reads : ReadsAs memory raw reader)
    (set : Data → α → Data) (member : Data → γ) :
    ScriptSimulates memory (Raw.readOrReturn raw set member) (readOrReturn reader set member) :=
  ((scriptSimulates_readSize reads set).orReturn ()).bind_eq fun _ _ _ shown =>
    .next (congrArg member shown.size) shown

theorem scriptSimulates_readU8 : ScriptSimulates memory (Raw.readU8 memory sdk)
    (readOrReturn sdk.bufferReadU8 Data.setU8 Data.u8) :=
  scriptSimulates_readOrReturn (readsAs_sdk sdk.bufferReadU8_eq) _ _

theorem scriptSimulates_readU16 : ScriptSimulates memory (Raw.readU16 memory sdk)
    (readOrReturn (sdk.bufferReadU16 · .be) Data.setU16 Data.u16) :=
  scriptSimulates_readOrReturn (readsAs_sdk (sdk.bufferReadU16_eq · .be)) _ _

theorem scriptSimulates_assign (write : TxWrite) :
    ScriptSimulates memory (Raw.assignScript write) (assignScript write) := fun _ _ shown =>
  .next rfl ⟨shown.buf, congrArg (·.assign write) shown.tx, shown.size⟩

theorem scriptSimulates_ret : ScriptSimulates memory (ret () : Raw.RawRecogniser α) (ret ()) :=
  fun _ _ shown => .ret shown

theorem scriptSimulates_seek (count : Nat) :
    ScriptSimulates memory (Raw.seekCur memory sdk count) (seekScript sdk count) := by
  intro r s shown
  rw [seekCur_run shown.buf count]
  exact .next rfl ⟨shown.buf.move (ptr_bufferSeekCur _ _), shown.tx, shown.size⟩

/-- The pointer points to the bytes. -/
structure Points (memory : List UInt8) (count position : Nat) (bytes : List UInt8) : Prop where
  inside : position + count ≤ memory.length
  slice_eq : slice memory position count = bytes

theorem Points.load_run {count position : Nat} {bytes : List UInt8}
    (points : Points memory count position bytes) (s : RawState) :
    (Raw.load memory position count : Body RawState ρ (List UInt8)) s = .next bytes s := by
  rw [Raw.load, if_pos points.inside, points.slice_eq]

theorem scriptSimulates_take (count : Nat) :
    Simulates (ScriptShows memory) (Points memory count) (Raw.takeScript memory sdk count)
      (takeScript sdk count) := by
  intro r s shown
  have raw : Raw.takeScript memory sdk count r = (orReturn (Raw.seekCur memory sdk count) () >>=
    fun _ => pure (r.buf.ptr + r.buf.offset) : Raw.RawRecogniser Nat) r := rfl
  have whole : takeScript sdk count s = (orReturn (seekScript sdk count) () >>=
    fun _ => pure (slice s.script.ptr s.script.offset count) : Recogniser (List UInt8)) s := rfl
  have moved := (@scriptSimulates_seek memory sdk count).orReturn () r s shown
  rw [raw, whole]
  by_cases fits : count ≤ s.script.rest.length
  · obtain ⟨inside, same⟩ := shown.buf.slice_eq fits
    exact moved.bind fun _ _ _ _ _ shown' => .next ⟨inside, same⟩ shown'
  · have short : seekScript sdk count s = .next false s := by
      rw [seekScript, sdk.bufferSeekCur_eq, dif_neg fits]
    have ended := orReturn_of_false short ()
    rw [ended] at moved
    rw [bind_of_ret ended]
    generalize stops : orReturn (Raw.seekCur memory sdk count) () r = outcome at moved
    cases moved with
    | ret state =>
        rw [bind_of_ret stops]
        exact .ret state

/-- Bytes are used that have been checked to be there. -/
theorem scriptSimulates_next {values : α → β → Prop} {count : Nat}
    {use : List UInt8 → Raw.RawRecogniser α} {use' : List UInt8 → Recogniser β}
    (uses : ∀ next, Simulates (ScriptShows memory) values (use next) (use' next)) :
    Simulates (ScriptShows memory) values
      (do
        let ok ← Raw.canRead memory sdk count
        returnIf (!ok) ()
        let position ← Raw.here
        let next ← Raw.load memory position count
        use next)
      (do
        let s ← get
        returnIf (!sdk.bufferCanRead s.script count) ()
        use' (slice s.script.ptr s.script.offset count)) := by
  intro r s shown
  rw [bind_of_next (canRead_run shown.buf count), bind_of_next (get_run s)]
  by_cases fits : count ≤ s.script.rest.length
  · have can : sdk.bufferCanRead s.script count = true :=
      (sdk.bufferCanRead_eq _ _).trans (decide_eq_true fits)
    have raw : (Raw.here >>= fun position => Raw.load memory position count >>= use) r =
        use (slice s.script.ptr s.script.offset count) r :=
      bind_of_next (load_run shown.buf fits) _
    have agrees := uses (slice s.script.ptr s.script.offset count) _ _ shown
    rw [← raw] at agrees
    rw [can]
    exact agrees
  · have cannot : sdk.bufferCanRead s.script count = false :=
      (sdk.bufferCanRead_eq _ _).trans (decide_eq_false fits)
    rw [cannot]
    exact .ret shown

/-- The comparison of the next bytes; the raw one returns nothing. -/
theorem scriptSimulates_expect (matching : List UInt8 → Bool) (count : Nat) :
    Simulates (ScriptShows memory) (fun _ _ => True)
      (Raw.expectScript memory sdk matching count) (expectScript sdk matching count) := by
  have uses : ∀ next, Simulates (ScriptShows memory) (fun _ _ => True)
      (do
        returnIf (!matching next) ()
        let _ ← Raw.seekCur memory sdk count)
      (do
        returnIf (!matching next) ()
        let _ ← seekScript sdk count
        pure next) := fun next =>
    .guard fun _ => (scriptSimulates_seek count).bind fun _ _ _ => .pure trivial
  exact scriptSimulates_next uses

theorem scriptSimulates_amount :
    ScriptSimulates memory (Raw.parseAmount memory sdk) (parseAmount sdk) := by
  refine scriptSimulates_readU8.bind_eq fun opcode => ?_
  split
  · exact scriptSimulates_assign _
  · split
    · exact (scriptSimulates_readOrReturn readsAs_s8 _ _).bind_eq
        fun _ => scriptSimulates_assign _
    · split
      · exact (scriptSimulates_readOrReturn readsAs_s16 _ _).bind_eq
          fun _ => scriptSimulates_assign _
      · split
        · exact (scriptSimulates_readOrReturn readsAs_s32 _ _).bind_eq
            fun _ => scriptSimulates_assign _
        · split
          · exact (scriptSimulates_readOrReturn readsAs_s64 _ _).bind_eq
              fun _ => scriptSimulates_assign _
          · exact scriptSimulates_ret

theorem scriptSimulates_pushData20 :
    Simulates (ScriptShows memory) (Points memory uint160Len) (Raw.parsePushData20 memory sdk)
      (parsePushData20 sdk) :=
  scriptSimulates_readU16.bind_eq fun _ => Simulates.guard fun _ => scriptSimulates_take uint160Len

theorem scriptSimulates_destination {position : Nat} {scriptHash : List UInt8}
    (points : Points memory uint160Len position scriptHash) :
    ScriptSimulates memory (Raw.storeDestination memory sdk position)
      (storeDestination sdk scriptHash) := by
  refine Simulates.skip points.load_run fun r s shown => .next rfl ⟨shown.buf, ?_, shown.size⟩
  simp only [shown.tx]

theorem scriptSimulates_flag (scriptHash : List UInt8) :
    ScriptSimulates memory (Raw.flagContract scriptHash) (flagContract scriptHash) := by
  rw [Raw.flagContract, flagContract]
  split
  · exact scriptSimulates_assign _
  · exact Simulates.returnIf _ _

theorem scriptSimulates_contract :
    ScriptSimulates memory (Raw.parseContract memory sdk) (parseContract sdk) := by
  have uses : ∀ next, ScriptSimulates memory
      (do
        Raw.flagContract next
        let _ ← Raw.seekCur memory sdk uint160Len)
      (do
        flagContract next
        let _ ← seekScript sdk uint160Len) := fun next =>
    (scriptSimulates_flag next).bind_eq fun _ =>
      (scriptSimulates_seek uint160Len).bind_eq fun _ => .pure rfl
  exact scriptSimulates_next uses

theorem scriptSimulates_end : ScriptSimulates memory Raw.expectScriptEnd expectScriptEnd := by
  intro r s shown
  have same : (r.buf.offset != r.tx.scriptSize.toNat) =
      (s.script.offset != s.tx.scriptSize.toNat) := by
    rw [shown.buf.offset, shown.tx]
  rw [Raw.expectScriptEnd, bind_of_next (get_run r), expectScriptEnd, bind_of_next (get_run s),
    same]
  exact Simulates.returnIf _ () r s shown

theorem scriptSimulates_transfer :
    ScriptSimulates memory (Raw.tryParseTransferScript memory sdk)
      (tryParseTransferScript sdk) := by
  have body : ScriptSimulates memory (Raw.parseTransfer memory sdk) (parseTransfer sdk) := by
    apply scriptSimulates_readU8.bind_eq
    intro first
    apply Simulates.guard
    intro _
    apply scriptSimulates_amount.bind_eq
    intro _
    apply scriptSimulates_pushData20.bind
    intro position scriptHash points
    apply (scriptSimulates_destination points).bind_eq
    intro _
    apply scriptSimulates_pushData20.bind
    intro _ _ _
    apply (scriptSimulates_expect _ _).bind
    intro _ _ _
    exact scriptSimulates_contract.bind_eq fun _ => (scriptSimulates_expect _ _).discard
  exact body.bind_eq fun _ => scriptSimulates_end.bind_eq fun _ => scriptSimulates_assign _

theorem scriptSimulates_voteTo {position : Nat} {publicKey : List UInt8}
    (points : Points memory ecpointLen position publicKey) :
    ScriptSimulates memory (Raw.storeVoteTo memory position)
      (parseCandidate.storeVoteTo publicKey) := by
  have size : publicKey.length = ecpointLen := by
    rw [← points.slice_eq, length_slice points.inside]
  refine Simulates.skip points.load_run fun r s shown => ?_
  rw [dif_pos size, parseCandidate.storeVoteTo, dif_pos size]
  exact scriptSimulates_assign _ r s shown

theorem scriptSimulates_candidate :
    ScriptSimulates memory (Raw.parseCandidate memory sdk) (parseCandidate sdk) := by
  refine scriptSimulates_readU8.bind_eq fun first => .guard fun _ => ?_
  split
  · exact scriptSimulates_assign _
  · refine scriptSimulates_readU8.bind_eq fun length => .guard fun _ => ?_
    refine (scriptSimulates_take ecpointLen).bind fun position publicKey points => ?_
    have byte : ∀ r, (Raw.load memory position 1 : Raw.RawRecogniser (List UInt8)) r =
        .next (publicKey.take 1) r := fun r => by
      have inside : position + 33 ≤ memory.length := points.inside
      rw [Raw.load, if_pos (by omega), ← points.slice_eq, slice, slice, List.take_take]
      rfl
    refine Simulates.skip byte ?_
    have head : (publicKey.take 1).headD 0 = publicKey.headD 0 := by
      cases publicKey <;> rfl
    rw [head]
    exact .guard fun _ => (scriptSimulates_voteTo points).bind_eq fun _ => scriptSimulates_assign _

theorem scriptSimulates_vote :
    ScriptSimulates memory (Raw.tryParseVoteScript memory sdk) (tryParseVoteScript sdk) := by
  have body : ScriptSimulates memory (Raw.parseVote memory sdk) (parseVote sdk) := by
    apply scriptSimulates_candidate.bind_eq
    intro _
    apply scriptSimulates_pushData20.bind
    intro _ _ _
    apply (scriptSimulates_expect _ _).bind
    intro _ _ _
    apply (scriptSimulates_expect _ _).bind
    intro _ _ _
    exact (scriptSimulates_expect _ _).discard
  exact body.bind_eq fun _ => scriptSimulates_end.bind_eq fun _ => scriptSimulates_assign _

/-! ## The parser -/

/-- The raw state of the parser shows its state: the buffer is the whole memory. -/
structure ParserShows (memory : List UInt8) (raw : RawState) (s : ParserState) : Prop where
  buf : raw.buf.Shows memory s.buf
  start : raw.buf.ptr = 0
  whole : raw.buf.size = memory.length
  tx : raw.tx = s.tx
  size : raw.size = s.size

/-- The raw parser does what the parser does. -/
abbrev TxSimulates (memory : List UInt8) (concrete : Raw.RawReader α) (abstract : TxReader α) :
    Prop :=
  Simulates (ParserShows memory) Eq concrete abstract

theorem ParserShows.ptr {r : RawState} {s : ParserState} (shown : ParserShows memory r s) :
    s.buf.ptr = memory := by
  rw [shown.buf.bytes, shown.start, shown.whole, slice, List.drop_zero, List.take_length]

theorem txSimulates_readBuffer {raw : Raw.RawReader (Bool × α)}
    {reader : Buffer → Bool × α × Buffer} (reads : ReadsAs memory raw reader) :
    TxSimulates memory raw (readBuffer reader) := by
  intro r s shown
  obtain ⟨same, run⟩ := reads r s.buf shown.buf
  rw [run]
  exact .next rfl ⟨shown.buf.move same, shown.start, shown.whole, shown.tx, shown.size⟩

theorem txSimulates_assign (write : TxWrite) :
    TxSimulates memory (Raw.assign write) (assign write) := by
  intro r s shown
  rw [Raw.assign, assign]
  split
  · exact .next rfl ⟨shown.buf, shown.start, shown.whole, congrArg (·.assign write) shown.tx,
      shown.size⟩
  · exact .fault

theorem txSimulates_readField {raw : Raw.RawReader (Bool × α)}
    {reader : Buffer → Bool × α × Buffer} (reads : ReadsAs memory raw reader) (write : α → TxWrite)
    (status : ParserStatus) :
    TxSimulates memory (Raw.readField raw write status) (readField reader write status) :=
  (txSimulates_readBuffer reads).bind_eq fun _ => (txSimulates_assign _).bind_eq fun _ =>
    .guard fun _ => .pure rfl

theorem txSimulates_readLocal {raw : Raw.RawReader (Bool × α)}
    {reader : Buffer → Bool × α × Buffer} (reads : ReadsAs memory raw reader)
    (status : ParserStatus) :
    TxSimulates memory (Raw.readLocal raw status) (readLocal reader status) :=
  (txSimulates_readBuffer reads).bind_eq fun _ => .guard fun _ => .pure rfl

theorem txSimulates_here : TxSimulates memory Raw.here here := by
  intro r s shown
  refine .next ?_ shown
  rw [shown.start, Nat.zero_add, shown.buf.offset]

theorem txSimulates_seek (count : Nat) (status : ParserStatus) :
    TxSimulates memory (Raw.seek memory sdk count status) (seek sdk count status) := by
  intro r s shown
  rw [Raw.seek, bind_of_next (seekCur_run shown.buf count)]
  exact Simulates.returnIf _ status _ _ ⟨shown.buf.move (ptr_bufferSeekCur _ _), shown.start,
    shown.whole, shown.tx, shown.size⟩

theorem txSimulates_header :
    TxSimulates memory (Raw.parseHeader memory sdk) (parseHeader sdk) := by
  apply (txSimulates_readField (readsAs_sdk sdk.bufferReadU8_eq) _ _).bind_eq
  intro version
  apply Simulates.guard
  intro _
  apply (txSimulates_readField (readsAs_sdk (sdk.bufferReadU32_eq · .le)) _ _).bind_eq
  intro _
  apply (txSimulates_readField readsAs_s64 _ _).bind_eq
  intro systemFee
  apply Simulates.guard
  intro _
  apply (txSimulates_readField readsAs_s64 _ _).bind_eq
  intro networkFee
  apply Simulates.guard
  intro _
  apply (txSimulates_readField (readsAs_sdk (sdk.bufferReadU32_eq · .le)) _ _).bind_eq
  intro _
  exact .pure rfl

/-! ### The signers -/

theorem txSimulates_accountAt (signer : Nat) :
    TxSimulates memory (Raw.accountAt memory signer) (accountAt signer) := by
  intro r s shown
  rw [Raw.accountAt, accountAt, shown.tx]
  cases found : s.tx.signers[signer]? with
  | none => exact .fault
  | some held =>
      simp only [Option.bind_some, Option.getD_some]
      cases held.account with
      | none => exact .fault
      | some position =>
          dsimp only
          rw [Raw.load, shown.ptr]
          split
          · exact .next rfl shown
          · exact .fault

theorem txSimulates_account (signer : Nat) :
    TxSimulates memory (Raw.parseAccount memory sdk signer) (parseAccount sdk signer) := by
  apply txSimulates_here.bind_eq
  intro position
  apply (txSimulates_assign _).bind_eq
  intro _
  apply (txSimulates_seek _ _).bind_eq
  intro _
  apply Simulates.loop
  intro earlier _ _
  apply (txSimulates_accountAt _).bind_eq
  intro _
  exact (txSimulates_accountAt _).bind_eq fun _ => .returnIf _ _

theorem txSimulates_scope (signer : Nat) :
    TxSimulates memory (Raw.parseScope memory sdk signer) (parseScope sdk signer) :=
  (txSimulates_readLocal (readsAs_sdk sdk.bufferReadU8_eq) _).bind_eq fun _ =>
  (txSimulates_assign _).bind_eq fun _ => .guard fun _ => .pure rfl

/-- A number that fits is narrowed. -/
theorem toU8_run {value : UInt64} (small : value.toNat < 2 ^ 8) (s : RawState) :
    (Raw.toU8 value : Body RawState ρ UInt8) s = .next value.toUInt8 s := if_pos small

theorem txSimulates_entries (list : EntryList) (few : list.maxEntries < 2 ^ 8) (signer : Nat)
    (scope : UInt8) :
    TxSimulates memory (Raw.parseOptionalEntries memory sdk list signer scope)
      (parseOptionalEntries sdk list signer scope) := by
  rw [Raw.parseOptionalEntries, parseOptionalEntries]
  split
  · refine (txSimulates_readLocal readsAs_uvarint _).bind_eq fun count => .guard fun passed => ?_
    have small : count.toNat ≤ list.maxEntries := Nat.not_lt.mp (of_decide_eq_false passed)
    refine .skip (toU8_run (small.trans_lt few)) ((txSimulates_assign _).bind_eq fun _ => ?_)
    exact .loop _ _ fun _ _ _ => txSimulates_here.bind_eq fun _ =>
      (txSimulates_assign _).bind_eq fun _ => txSimulates_seek _ _
  · exact .pure rfl

theorem txSimulates_signer (signer : Nat) :
    TxSimulates memory (Raw.parseSigner memory sdk signer) (parseSigner sdk signer) :=
  (txSimulates_account signer).bind_eq fun _ => (txSimulates_scope signer).bind_eq fun _ =>
  (txSimulates_entries allowedContracts (by decide) _ _).bind_eq fun _ =>
  txSimulates_entries allowedGroups (by decide) _ _

theorem txSimulates_signers :
    TxSimulates memory (Raw.parseSigners memory sdk) (parseSigners sdk) := by
  refine (txSimulates_readLocal readsAs_uvarint _).bind_eq fun count => .guard fun passed => ?_
  have few : count.toNat ≤ maxTxSigners := by
    rw [Bool.or_eq_false_iff] at passed
    exact Nat.not_lt.mp (of_decide_eq_false passed.2)
  refine .skip (toU8_run (few.trans_lt (by decide))) ((txSimulates_assign _).bind_eq fun _ => ?_)
  exact .loop _ _ fun signer _ _ => txSimulates_signer signer

/-! ### The attributes -/

theorem txSimulates_compareAttribute (attributeType : UInt8) (index : Nat) :
    TxSimulates memory (Raw.compareAttribute attributeType index)
      (compareAttribute attributeType index) := by
  intro r s shown
  rw [Raw.compareAttribute, compareAttribute, shown.tx]
  cases s.tx.attributes[index]? with
  | none => exact .fault
  | some stored => exact Simulates.returnIf _ _ r s shown

theorem txSimulates_attributes :
    TxSimulates memory (Raw.parseAttributes memory sdk) (parseAttributes sdk) := by
  refine (txSimulates_readLocal readsAs_uvarint _).bind_eq fun count => .guard fun passed => ?_
  have few : count.toNat ≤ maxAttributes := by
    rw [Bool.or_eq_false_iff] at passed
    exact Nat.not_lt.mp (of_decide_eq_false passed.1)
  refine .skip (toU8_run (few.trans_lt (by decide))) ((txSimulates_assign _).bind_eq fun _ => ?_)
  apply Simulates.loop
  intro index _ _
  apply (txSimulates_readBuffer (readsAs_sdk sdk.bufferReadU8_eq)).bind_eq
  intro read
  apply Simulates.guard
  intro _
  apply (Simulates.loop _ _ fun _ _ _ => txSimulates_compareAttribute _ _).bind_eq
  intro _
  exact txSimulates_assign _

/-! ### The script -/

/-- A recogniser is called with a buffer on bytes that are in the memory. -/
theorem txSimulates_callRecogniser {raw : Raw.RawRecogniser Unit} {recogniser : Recogniser Unit}
    (simulates : ScriptSimulates memory raw recogniser) {position count : Nat}
    (inside : position + count ≤ memory.length) :
    TxSimulates memory (Raw.callRecogniser raw position count)
      (callRecogniser recogniser (slice memory position count)) := by
  intro r s shown
  have start : ScriptShows memory { r with buf := ⟨position, count, 0⟩ }
      ⟨Buffer.ofBytes (slice memory position count), s.tx, s.size⟩ :=
    ⟨⟨inside, rfl, rfl⟩, shown.tx, shown.size⟩
  have agrees := simulates _ _ start
  rw [Raw.callRecogniser, callRecogniser]
  generalize raw { r with buf := ⟨position, count, 0⟩ } = outcome at agrees
  generalize recogniser ⟨Buffer.ofBytes (slice memory position count), s.tx, s.size⟩ = outcome'
    at agrees
  cases agrees with
  | next _ state => exact .next rfl ⟨shown.buf, shown.start, shown.whole, state.tx, state.size⟩
  | ret state => exact .next rfl ⟨shown.buf, shown.start, shown.whole, state.tx, state.size⟩
  | fault => exact .fault

theorem txSimulates_recognise {position count : Nat} (inside : position + count ≤ memory.length) :
    TxSimulates memory (Raw.recogniseScript memory sdk position count)
      (recogniseScript sdk (slice memory position count)) := by
  refine (txSimulates_callRecogniser scriptSimulates_transfer inside).bind_eq fun _ r s shown => ?_
  rw [bind_of_next (get_run r), bind_of_next (get_run s), shown.tx]
  cases s.tx.isSystemAssetTransfer with
  | true => exact .next rfl shown
  | false => exact txSimulates_callRecogniser scriptSimulates_vote inside r s shown

/-- When the parser moves on, the bytes it moves past are in the memory. -/
theorem agrees_seek {r : RawState} {s : ParserState} (shown : ParserShows memory r s) (count : Nat)
    (status : ParserStatus) :
    Agrees (ParserShows memory) (fun _ _ => s.buf.offset + count ≤ memory.length)
      (Raw.seek memory sdk count status r) (seek sdk count status s) := by
  have agrees := @txSimulates_seek memory sdk count status r s shown
  by_cases fits : count ≤ s.buf.rest.length
  · have inside : s.buf.offset + count ≤ memory.length := by
      have start := s.buf.offset_le
      rw [Buffer.length_rest, shown.ptr] at fits
      rw [shown.ptr] at start
      omega
    rw [seek_of_le fits] at agrees ⊢
    generalize Raw.seek memory sdk count status r = outcome at agrees
    cases agrees with
    | next _ state => exact .next inside state
  · rw [seek_of_not_le fits] at agrees ⊢
    generalize Raw.seek memory sdk count status r = outcome at agrees
    cases agrees with
    | ret state => exact .ret state

theorem txSimulates_script :
    TxSimulates memory (Raw.parseScript memory sdk) (parseScript sdk) := by
  refine (txSimulates_readLocal readsAs_uvarint _).bind_eq fun length r s shown => ?_
  have start : (Raw.here : Raw.RawReader Nat) r = .next s.buf.offset r := by
    rw [Raw.here, shown.start, Nat.zero_add, shown.buf.offset]
  have start' : here s = .next s.buf.offset s := rfl
  have pointed : Raw.assign (.script s.buf.offset) r =
      .next () { r with tx := r.tx.assign (.script s.buf.offset) } := if_pos rfl
  have pointed' : assign (.script s.buf.offset) s =
      .next () { s with tx := s.tx.assign (.script s.buf.offset) } := assign_of_inBounds rfl
  have shown₁ : ParserShows memory { r with tx := r.tx.assign (.script s.buf.offset) }
      { s with tx := s.tx.assign (.script s.buf.offset) } :=
    ⟨shown.buf, shown.start, shown.whole, by rw [shown.tx], shown.size⟩
  rw [bind_of_next start, bind_of_next start', bind_of_next pointed, bind_of_next pointed']
  cases stops : (decide (length.toNat > 0xFFFF) || length == 0) with
  | true => exact .ret shown₁
  | false =>
      have small : length.toNat ≤ 0xFFFF := by
        rw [Bool.or_eq_false_iff] at stops
        exact Nat.not_lt.mp (of_decide_eq_false stops.1)
      have size : ∀ r, (Raw.toSize length : Raw.RawReader Nat) r = .next length.toNat r := fun r =>
        if_pos (small.trans_lt (by decide))
      have narrow : ∀ r, (Raw.toU16 length : Raw.RawReader UInt16) r = .next length.toUInt16 r :=
        fun r => if_pos (small.trans_lt (by decide))
      refine (bind_of_next (size _) _).symm ▸ ?_
      refine (agrees_seek shown₁ length.toNat _).bind fun _ _ r₂ s₂ inside shown₂ => ?_
      refine (bind_of_next (narrow r₂) _).symm ▸ ?_
      refine (txSimulates_assign _ r₂ s₂ shown₂).bind fun _ _ r₃ s₃ _ shown₃ => ?_
      rw [bind_of_next (get_run s₃), shown₃.ptr]
      exact txSimulates_recognise inside r₃ s₃ shown₃

/-! ### The whole transaction -/

theorem txSimulates_transaction :
    TxSimulates memory (Raw.parseTransaction memory sdk) (parseTransaction sdk) :=
  txSimulates_header.bind_eq fun _ => txSimulates_signers.bind_eq fun _ =>
  txSimulates_attributes.bind_eq fun _ => txSimulates_script

theorem txSimulates_body :
    TxSimulates memory (Raw.deserializeBody memory sdk) (deserializeBody sdk) := by
  intro r s shown
  have whole : ∀ {r : RawState} {s : ParserState}, ParserShows memory r s →
      r.buf.size = s.buf.size := fun {r s} shown => by
    rw [Buffer.size, shown.ptr, shown.whole]
  rw [Raw.deserializeBody, deserializeBody, bind_of_next (get_run r), bind_of_next (get_run s),
    whole shown]
  refine Simulates.guard (fun _ => txSimulates_transaction.bind_eq fun _ r s shown => ?_) r s shown
  refine .next ?_ shown
  rw [whole shown, shown.buf.offset]

/-- **The parser on the memory of its input never does what it must not**, and it has the
results of the parser on the input, whatever earlier parses have left. -/
theorem raw_transactionDeserialize (memory : List UInt8) (sdk : Sdk) (tx : Transaction)
    (size : Data) :
    Raw.transactionDeserialize memory sdk tx size =
      transactionDeserialize sdk (Buffer.ofBytes memory) tx size := by
  have start : ParserShows memory ⟨⟨0, memory.length, 0⟩, tx, size⟩
      ⟨Buffer.ofBytes memory, tx, size⟩ :=
    ⟨⟨Nat.le_of_eq (Nat.zero_add _), by
      rw [slice, List.drop_zero, List.take_length, Buffer.ofBytes], rfl⟩, rfl, rfl, rfl, rfl⟩
  have agrees := @txSimulates_body memory sdk _ _ start
  obtain ⟨size', run⟩ := @transactionDeserialize_eq sdk memory tx size
  rw [Raw.transactionDeserialize]
  rw [transactionDeserialize] at run ⊢
  generalize Raw.deserializeBody memory sdk ⟨⟨0, memory.length, 0⟩, tx, size⟩ = outcome at agrees
  generalize deserializeBody sdk ⟨Buffer.ofBytes memory, tx, size⟩ = outcome' at agrees run
  cases agrees with
  | next value state =>
      cases value
      dsimp only
      rw [state.tx, state.size]
  | ret state =>
      dsimp only
      rw [state.tx, state.size]
  | fault => cases run

end AppNeo3
