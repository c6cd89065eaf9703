import AppNeo3.Transaction.Deserialize

/-!
# The parser on the memory of its input

The parser once more, closer to the machine. A `buffer_t` is a pointer, a size and
an offset about which nothing is promised, and a pointer is a position in the
memory, which holds the bytes to be parsed and nothing else. What the code must not
do is a fault: a load outside the memory, a call of the SDK with a buffer that its
functions are not documented for, an offset behind the size, a store to or a load
from an element outside an array, a difference of sizes below zero, and a narrowing
of a number that does not fit.
-/

set_option autoImplicit false

namespace AppNeo3

open Memory CBody Body

/-! ## Memory -/

/-- `buffer_t`, as the code has it. -/
structure RawBuffer where
  ptr : Nat
  size : Nat
  offset : Nat

/-- The state of the parser and of the recognisers: the buffer they read, the
transaction they fill, and the operand union. -/
structure RawState where
  buf : RawBuffer
  tx : Transaction
  size : Data

variable {ρ α : Type} (memory : List UInt8)

/-- The buffer that the SDK's functions are documented for: its bytes are in the
memory, and its offset is not behind its size. -/
def RawBuffer.view (raw : RawBuffer) : Option Buffer :=
  if inside : raw.ptr + raw.size ≤ memory.length ∧ raw.offset ≤ raw.size then
    some ⟨slice memory raw.ptr raw.size, raw.offset, by
      rw [length_slice inside.1]
      exact inside.2⟩
  else none

namespace Raw

/-- The bytes at a pointer. -/
def load (position count : Nat) : Body RawState ρ (List UInt8) := fun s =>
  if position + count ≤ memory.length then .next (slice memory position count) s else .fault

/-- `buf->ptr + buf->offset`. -/
def here : Body RawState ρ Nat := fun s => .next (s.buf.ptr + s.buf.offset) s

/-- `buf->size - buf->offset`, unsigned. -/
def remaining : Body RawState ρ Nat := fun s =>
  if s.buf.offset ≤ s.buf.size then .next (s.buf.size - s.buf.offset) s else .fault

/-- The offset that the SDK leaves in the buffer. -/
def moveTo (offset : Nat) : Body RawState ρ Unit := fun s =>
  if offset ≤ s.buf.size then .next () { s with buf := { s.buf with offset := offset } } else .fault

/-- A call of the SDK with the buffer. -/
def callSdk (call : Buffer → α × Buffer) : Body RawState ρ α := fun s =>
  match s.buf.view memory with
  | some buffer => (do
      moveTo (call buffer).2.offset
      pure (call buffer).1 : Body RawState ρ α) s
  | none => .fault

/-- `(uint8_t) value`. -/
def toU8 (value : UInt64) : Body RawState ρ UInt8 := fun s =>
  if value.toNat < 2 ^ 8 then .next value.toUInt8 s else .fault

/-- `(uint16_t) value`. -/
def toU16 (value : UInt64) : Body RawState ρ UInt16 := fun s =>
  if value.toNat < 2 ^ 16 then .next value.toUInt16 s else .fault

/-- A `size_t` of the device, which has 32 bits. -/
def toSize (value : UInt64) : Body RawState ρ Nat := fun s =>
  if value.toNat < 2 ^ 32 then .next value.toNat s else .fault

/-! ## Buffers -/

variable (sdk : Sdk)

def canRead (count : Nat) : Body RawState ρ Bool :=
  callSdk memory fun buffer => (sdk.bufferCanRead buffer count, buffer)

def seekCur (count : Nat) : Body RawState ρ Bool :=
  callSdk memory fun buffer => sdk.bufferSeekCur buffer count

/-- A reader of the SDK. -/
def sdkReader (reader : Buffer → Bool × α × Buffer) : Body RawState ρ (Bool × α) :=
  callSdk memory fun buffer => (((reader buffer).1, (reader buffer).2.1), (reader buffer).2.2)

/-- A signed reader of `app_buffer.c`. The value is taken from the bytes at the
pointer, from the offset on. -/
def bufferReadSigned (count : Nat) (zero : α) (value : List UInt8 → Nat → α) :
    Body RawState ρ (Bool × α) := do
  let ok ← canRead memory sdk count
  if ok then do
    let position ← here
    let _ ← load memory position count
    let s ← get
    let read := value (memory.drop s.buf.ptr) s.buf.offset
    let _ ← seekCur memory sdk count
    pure (true, read)
  else pure (false, zero)

def bufferReadS8 : Body RawState ρ (Bool × Int8) :=
  bufferReadSigned memory sdk 1 0 fun ptr offset => (ptr.getD offset 0).toInt8

def bufferReadS16 (endianness : Endianness) : Body RawState ρ (Bool × Int16) :=
  bufferReadSigned memory sdk 2 0 fun ptr offset =>
    if endianness = .be then readS16Be sdk ptr offset else readS16Le sdk ptr offset

def bufferReadS32 (endianness : Endianness) : Body RawState ρ (Bool × Int32) :=
  bufferReadSigned memory sdk 4 0 fun ptr offset =>
    if endianness = .be then readS32Be sdk ptr offset else readS32Le sdk ptr offset

def bufferReadS64 (endianness : Endianness) : Body RawState ρ (Bool × Int64) :=
  bufferReadSigned memory sdk 8 0 fun ptr offset =>
    if endianness = .be then readS64Be sdk ptr offset else readS64Le sdk ptr offset

/-- The varint reader of the SDK may read all bytes that remain. -/
def bufferReadUvarint : Body RawState ρ (Bool × UInt64) := do
  let position ← here
  let count ← remaining
  let bytes ← load memory position count
  match sdk.varintRead bytes with
  | some (length, value) => do
      let _ ← seekCur memory sdk length
      pure (true, value)
  | none => pure (false, 0)

/-! ## The recognisers -/

/-- A recogniser returns nothing. -/
abbrev RawRecogniser : Type → Type := Body RawState Unit

/-- Read into a member of `size`; the result of the reader. -/
def readSize (reader : RawRecogniser (Bool × α)) (set : Data → α → Data) : RawRecogniser Bool := do
  let r ← reader
  modify fun s => { s with size := set s.size r.2 }
  pure r.1

def readOrReturn {γ : Type} (reader : RawRecogniser (Bool × α)) (set : Data → α → Data)
    (member : Data → γ) : RawRecogniser γ := do
  orReturn (readSize reader set) ()
  let s ← get
  pure (member s.size)

def readU8 : RawRecogniser UInt8 :=
  readOrReturn (sdkReader memory sdk.bufferReadU8) Data.setU8 Data.u8

def readU16 : RawRecogniser UInt16 :=
  readOrReturn (sdkReader memory (sdk.bufferReadU16 · .be)) Data.setU16 Data.u16

/-- The pointer into the script, once the script has moved past `count` bytes. -/
def takeScript (count : Nat) : RawRecogniser Nat := do
  let position ← here
  orReturn (seekCur memory sdk count) ()
  pure position

/-- Compare the next bytes, and move past them. -/
def expectScript (matching : List UInt8 → Bool) (count : Nat) : RawRecogniser Unit := do
  let ok ← canRead memory sdk count
  returnIf (!ok) ()
  let position ← here
  let next ← load memory position count
  returnIf (!matching next) ()
  let _ ← seekCur memory sdk count

def assignScript (write : TxWrite) : RawRecogniser Unit :=
  modify fun s => { s with tx := s.tx.assign write }

def parseAmount : RawRecogniser Unit := do
  let opcode ← readU8 memory sdk
  if 0x10 ≤ opcode ∧ opcode ≤ 0x20 then
    assignScript (.amount (opcode.toUInt64.toInt64 - 0x10))
  else if opcode = 0x00 then do
    let operand ← readOrReturn (bufferReadS8 memory sdk) Data.setS8 Data.u8
    assignScript (.amount operand.toUInt64.toInt64)
  else if opcode = 0x01 then do
    let operand ← readOrReturn (bufferReadS16 memory sdk .le) Data.setS16 Data.s16
    assignScript (.amount operand.toInt64)
  else if opcode = 0x02 then do
    let operand ← readOrReturn (bufferReadS32 memory sdk .le) Data.setS32 Data.s32
    assignScript (.amount operand.toInt64)
  else if opcode = 0x03 then do
    let operand ← readOrReturn (bufferReadS64 memory sdk .le) Data.setS64 Data.s64
    assignScript (.amount operand)
  else ret ()

/-- PUSHDATA1 with 20 bytes; the pointer to them. -/
def parsePushData20 : RawRecogniser Nat := do
  let header ← readU16 memory sdk
  returnIf (header != pushData20) ()
  takeScript memory sdk uint160Len

/-- Write the address of the script hash at a pointer over the one stored. -/
def storeDestination (position : Nat) : RawRecogniser Unit := do
  let scriptHash ← load memory position uint160Len
  modify fun s =>
    { s with tx := s.tx.assign (.dstAddress (scriptHashToAddress sdk s.tx.dstAddress scriptHash)) }

def flagContract (scriptHash : List UInt8) : RawRecogniser Unit :=
  if scriptHash = neoScriptHash then assignScript (.isNeo true)
  else returnIf (scriptHash != gasScriptHash) ()

def parseContract : RawRecogniser Unit := do
  let ok ← canRead memory sdk uint160Len
  returnIf (!ok) ()
  let position ← here
  let scriptHash ← load memory position uint160Len
  flagContract scriptHash
  let _ ← seekCur memory sdk uint160Len

def expectScriptEnd : RawRecogniser Unit := do
  let s ← get
  returnIf (s.buf.offset != s.tx.scriptSize.toNat) ()

def parseTransfer : RawRecogniser Unit := do
  let first ← readU8 memory sdk
  returnIf (first != 0x0B) ()
  parseAmount memory sdk
  let destination ← parsePushData20 memory sdk
  storeDestination memory sdk destination
  let _ ← parsePushData20 memory sdk
  expectScript memory sdk (· == transferSequence) transferSequence.length
  parseContract memory sdk
  expectScript memory sdk (· == syscallSequence) syscallSequence.length

def tryParseTransferScript : RawRecogniser Unit := do
  parseTransfer memory sdk
  expectScriptEnd
  assignScript (.isSystemAssetTransfer true)

/-- `memcpy(tx->vote_to, public_key, ECPOINT_LEN)`. -/
def storeVoteTo (position : Nat) : RawRecogniser Unit := do
  let publicKey ← load memory position ecpointLen
  if size : publicKey.length = ecpointLen then assignScript (.voteTo ⟨publicKey, size⟩) else fault

def parseCandidate : RawRecogniser Unit := do
  let first ← readU8 memory sdk
  returnIf (first != 0x0B && first != 0x0C) ()
  if first = 0x0B then assignScript (.isRemoveVote true)
  else do
    let length ← readU8 memory sdk
    returnIf (length != 0x21) ()
    let publicKey ← takeScript memory sdk ecpointLen
    let firstByte ← load memory publicKey 1
    returnIf (firstByte.headD 0 != 0x02 && firstByte.headD 0 != 0x03) ()
    storeVoteTo memory publicKey
    assignScript (.isRemoveVote false)

def parseVote : RawRecogniser Unit := do
  parseCandidate memory sdk
  let _ ← parsePushData20 memory sdk
  expectScript memory sdk (· == voteSequence) voteSequence.length
  expectScript memory sdk (· == neoScriptHash) uint160Len
  expectScript memory sdk (· == syscallSequence) syscallSequence.length

def tryParseVoteScript : RawRecogniser Unit := do
  parseVote memory sdk
  expectScriptEnd
  assignScript (.isVoteScript true)

/-! ## The parser -/

/-- The parser returns a status. -/
abbrev RawReader : Type → Type := Body RawState ParserStatus

/-- An assignment to the transaction, inside its arrays. -/
def assign (write : TxWrite) : RawReader Unit := fun s =>
  if write.target.inBounds then .next () { s with tx := s.tx.assign write } else .fault

def readField (reader : RawReader (Bool × α)) (write : α → TxWrite) (status : ParserStatus) :
    RawReader α := do
  let r ← reader
  assign (write r.2)
  returnIf (!r.1) status
  pure r.2

def readLocal (reader : RawReader (Bool × α)) (status : ParserStatus) : RawReader α := do
  let r ← reader
  returnIf (!r.1) status
  pure r.2

def seek (count : Nat) (status : ParserStatus) : RawReader Unit := do
  let ok ← seekCur memory sdk count
  returnIf (!ok) status

def parseHeader : RawReader Unit := do
  let version ← readField (sdkReader memory sdk.bufferReadU8) .version .versionParsingError
  returnIf (version > 0) .versionValueError
  let _ ← readField (sdkReader memory (sdk.bufferReadU32 · .le)) .nonce .nonceParsingError
  let systemFee ← readField (bufferReadS64 memory sdk .le) .systemFee .systemFeeParsingError
  returnIf (systemFee < 0) .systemFeeValueError
  let networkFee ← readField (bufferReadS64 memory sdk .le) .networkFee .networkFeeParsingError
  returnIf (networkFee < 0) .networkFeeValueError
  let _ ← readField (sdkReader memory (sdk.bufferReadU32 · .le)) .validUntilBlock
    .validUntilBlockParsingError

/-- The 20 bytes at the account pointer of a signer. -/
def accountAt (signer : Nat) : RawReader (List UInt8) := fun s =>
  match (s.tx.signers[signer]?).bind Signer.account with
  | some position => load memory position uint160Len s
  | none => .fault

def compareAccounts (signer earlier : Nat) : RawReader Unit := do
  let earlierAccount ← accountAt memory earlier
  let account ← accountAt memory signer
  returnIf (earlierAccount == account) .signerAccountDuplicateError

def parseAccount (signer : Nat) : RawReader Unit := do
  let position ← here
  assign (.signer signer (.account position))
  seek memory sdk uint160Len .signerAccountParsingError
  loop (compareAccounts memory signer) signer 0

def parseScope (signer : Nat) : RawReader UInt8 := do
  let value ← readLocal (sdkReader memory sdk.bufferReadU8) .signerScopeParsingError
  assign (.signer signer (.scope value))
  returnIf (globalWithOtherFlags value) .signerScopeValueErrorGlobalFlag
  pure value

def parseEntry (list : EntryList) (signer index : Nat) : RawReader Unit := do
  let position ← here
  assign (.signer signer (list.entryWrite index position))
  seek memory sdk list.width list.entryParsingError

def parseEntries (list : EntryList) (signer : Nat) : RawReader Unit := do
  let varIntLength ← readLocal (bufferReadUvarint memory sdk) list.lengthParsingError
  returnIf (varIntLength.toNat > list.maxEntries) list.lengthValueError
  let size ← toU8 varIntLength
  assign (.signer signer (list.sizeWrite size))
  loop (parseEntry memory sdk list signer) varIntLength.toNat 0

def parseOptionalEntries (list : EntryList) (signer : Nat) (scope : UInt8) : RawReader Unit :=
  if scope &&& list.flag = list.flag then parseEntries memory sdk list signer else pure ()

def parseSigner (signer : Nat) : RawReader Unit := do
  parseAccount memory sdk signer
  let scope ← parseScope memory sdk signer
  parseOptionalEntries memory sdk allowedContracts signer scope
  parseOptionalEntries memory sdk allowedGroups signer scope

def parseSigners : RawReader Unit := do
  let signerLength ← readLocal (bufferReadUvarint memory sdk) .signerLengthParsingError
  returnIf (signerLength.toNat < minTxSigners || signerLength.toNat > maxTxSigners)
    .signerLengthValueError
  let size ← toU8 signerLength
  assign (.signersSize size)
  loop (parseSigner memory sdk) size.toNat 0

def compareAttribute (attributeType : UInt8) (index : Nat) : RawReader Unit := fun s =>
  match s.tx.attributes[index]? with
  | some stored => returnIf (stored.type == attributeType) .attributesDuplicateType s
  | none => .fault

def parseAttribute (attributesSize index : Nat) : RawReader Unit := do
  let r ← sdkReader memory sdk.bufferReadU8
  returnIf (!r.1 || r.2 != highPriority) .attributesUnsupportedType
  loop (compareAttribute r.2) attributesSize 0
  assign (.attributeType index r.2)

def parseAttributes : RawReader Unit := do
  let attributesLength ← readLocal (bufferReadUvarint memory sdk) .attributesLengthParsingError
  returnIf (attributesLength.toNat > maxAttributes || attributesLength > 2)
    .attributesLengthValueError
  let size ← toU8 attributesLength
  assign (.attributesSize size)
  loop (parseAttribute memory sdk size.toNat) size.toNat 0

/-- Call a recogniser with a buffer of its own, from the start of the script. -/
def callRecogniser (recogniser : RawRecogniser Unit) (position count : Nat) : RawReader Unit :=
  fun s =>
    match recogniser { s with buf := ⟨position, count, 0⟩ } with
    | .next _ r | .ret _ r => .next () { s with tx := r.tx, size := r.size }
    | .fault => .fault

def recogniseScript (position count : Nat) : RawReader Unit := do
  callRecogniser (tryParseTransferScript memory sdk) position count
  let s ← get
  if !s.tx.isSystemAssetTransfer then
    callRecogniser (tryParseVoteScript memory sdk) position count
  else pure ()

def parseScript : RawReader Unit := do
  let scriptLength ← readLocal (bufferReadUvarint memory sdk) .scriptLengthParsingError
  let position ← here
  assign (.script position)
  returnIf (scriptLength.toNat > 0xFFFF || scriptLength == 0) .scriptLengthValueError
  let count ← toSize scriptLength
  seek memory sdk count .scriptLengthValueError
  let size ← toU16 scriptLength
  assign (.scriptSize size)
  recogniseScript memory sdk position count

def parseTransaction : RawReader Unit := do
  parseHeader memory sdk
  parseSigners memory sdk
  parseAttributes memory sdk
  parseScript memory sdk

def deserializeBody : RawReader ParserStatus := do
  let s ← get
  returnIf (s.buf.size > maxTransactionLen) .invalidLengthError
  parseTransaction memory sdk
  let s ← get
  pure (if s.buf.offset == s.buf.size then .parsingOk else .invalidLengthError)

/-- Parse the whole memory. Nothing is returned when the code does what it must not. -/
def transactionDeserialize (tx : Transaction) (size : Data) :
    Option (ParserStatus × Transaction × Data) :=
  match deserializeBody memory sdk ⟨⟨0, memory.length, 0⟩, tx, size⟩ with
  | .next status s | .ret status s => some (status, s.tx, s.size)
  | .fault => none

end Raw

end AppNeo3
