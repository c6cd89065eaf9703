import AppNeo3.Common.AppBuffer
import AppNeo3.Foundation.CBody
import AppNeo3.Transaction.Types
import AppNeo3.Ui.Utils

/-!
# The script recognisers

`tx_utils.c`: the two recognisers walk over a script and store what they find in
the transaction on the way, also when they give up later. They read operands
through the members of one global union, `size`. The hashes they compute are
asserted to succeed: a failed one stops the application, so only runs in which
they succeed have a result.
-/

set_option autoImplicit false

namespace AppNeo3

open Memory CBody Body

/-! ## The operand union -/

/-- The union `data`, as its eight bytes. -/
abbrev Data : Type := Area UInt8 8

namespace Data

/-- Store the lowest `count` bytes of a number at the start of the union. -/
def store (data : Data) (count : Nat) (fits : count ≤ 8) (value : Nat) : Data :=
  data.write 0 (ByteOrder.leBytes count value) (by rw [ByteOrder.length_leBytes]; omega)

/-- The number in the first `count` bytes of the union. -/
def load (data : Data) (count : Nat) : Nat := ByteOrder.leNat (data.cells.take count)

theorem load_store (data : Data) {count value : Nat} (fits : count ≤ 8)
    (small : value < 256 ^ count) : (data.store count fits value).load count = value := by
  have size := ByteOrder.length_leBytes count value
  rw [load, store, Area.write_cells, overwrite_zero, List.take_append_of_le_length (by omega),
    List.take_of_length_le (by omega), ByteOrder.leNat_leBytes, Nat.mod_eq_of_lt small]

def u8 (data : Data) : UInt8 := UInt8.ofNat (data.load 1)
def u16 (data : Data) : UInt16 := UInt16.ofNat (data.load 2)
def s16 (data : Data) : Int16 := (UInt16.ofNat (data.load 2)).toInt16
def s32 (data : Data) : Int32 := (UInt32.ofNat (data.load 4)).toInt32
def s64 (data : Data) : Int64 := (UInt64.ofNat (data.load 8)).toInt64

def setU8 (data : Data) (value : UInt8) : Data := data.store 1 (by decide) value.toNat
def setS8 (data : Data) (value : Int8) : Data := data.store 1 (by decide) value.toUInt8.toNat
def setU16 (data : Data) (value : UInt16) : Data := data.store 2 (by decide) value.toNat
def setS16 (data : Data) (value : Int16) : Data := data.store 2 (by decide) value.toUInt16.toNat
def setS32 (data : Data) (value : Int32) : Data := data.store 4 (by decide) value.toUInt32.toNat
def setS64 (data : Data) (value : Int64) : Data := data.store 8 (by decide) value.toUInt64.toNat

@[simp] theorem u8_setU8 (data : Data) (value : UInt8) : (data.setU8 value).u8 = value := by
  rw [u8, setU8, load_store _ _ value.toNat_lt, UInt8.ofNat_toNat]

/-- The unsigned member shows the two's complement of a signed one. -/
@[simp] theorem u8_setS8 (data : Data) (value : Int8) : (data.setS8 value).u8 = value.toUInt8 := by
  rw [u8, setS8, load_store _ _ value.toUInt8.toNat_lt, UInt8.ofNat_toNat]

@[simp] theorem u16_setU16 (data : Data) (value : UInt16) : (data.setU16 value).u16 = value := by
  rw [u16, setU16, load_store _ _ value.toNat_lt, UInt16.ofNat_toNat]

@[simp] theorem s16_setS16 (data : Data) (value : Int16) : (data.setS16 value).s16 = value := by
  rw [s16, setS16, load_store _ _ value.toUInt16.toNat_lt, UInt16.ofNat_toNat,
    Int16.toInt16_toUInt16]

@[simp] theorem s32_setS32 (data : Data) (value : Int32) : (data.setS32 value).s32 = value := by
  rw [s32, setS32, load_store _ _ value.toUInt32.toNat_lt, UInt32.ofNat_toNat,
    Int32.toInt32_toUInt32]

@[simp] theorem s64_setS64 (data : Data) (value : Int64) : (data.setS64 value).s64 = value := by
  rw [s64, setS64, load_store _ _ value.toUInt64.toNat_lt, UInt64.ofNat_toNat,
    Int64.toInt64_toUInt64]

end Data

/-! ## Steps of a recogniser -/

/-- The state of a recogniser. -/
structure ScriptState where
  script : Buffer
  tx : Transaction
  size : Data

/-- A recogniser returns nothing. -/
abbrev Recogniser : Type → Type := Body ScriptState Unit

variable (sdk : Sdk)

/-- Read into a member of `size`; the result of the reader. -/
def readSize {α : Type} (reader : Buffer → Bool × α × Buffer) (set : Data → α → Data) :
    Recogniser Bool := fun s =>
  let (ok, value, script) := reader s.script
  .next ok { s with script := script, size := set s.size value }

/-- Read into a member of `size`, return when it fails, and take a member. -/
def readOrReturn {α γ : Type} (reader : Buffer → Bool × α × Buffer) (set : Data → α → Data)
    (member : Data → γ) : Recogniser γ := do
  orReturn (readSize reader set) ()
  let s ← get
  pure (member s.size)

/-- Move on in the script; the result of the SDK's function. -/
def seekScript (count : Nat) : Recogniser Bool := fun s =>
  let (ok, script) := sdk.bufferSeekCur s.script count
  .next ok { s with script := script }

/-- The bytes at the pointer into the script, once the script has moved past
them. -/
def takeScript (count : Nat) : Recogniser (List UInt8) := do
  let s ← get
  orReturn (seekScript sdk count) ()
  pure (slice s.script.ptr s.script.offset count)

/-- Return unless the next bytes are the given ones, and move past them. The
result of moving is not looked at. -/
def expectScript (matching : List UInt8 → Bool) (count : Nat) : Recogniser (List UInt8) := do
  let s ← get
  returnIf (!sdk.bufferCanRead s.script count) ()
  let next := slice s.script.ptr s.script.offset count
  returnIf (!matching next) ()
  let _ ← seekScript sdk count
  pure next

def assignScript (write : TxWrite) : Recogniser Unit :=
  modify fun s => { s with tx := s.tx.assign write }

/-! ## Byte sequences -/

/-- PUSHDATA1 with a length of 20 bytes. -/
def pushData20 : UInt16 := 0x0C14

/-- PUSH4, PACK, PUSH15, PUSHDATA1 8 'transfer', PUSHDATA1 20. -/
def transferSequence : List UInt8 :=
  [0x14, 0xC0, 0x1F, 0x0C, 0x08, 0x74, 0x72, 0x61, 0x6E, 0x73, 0x66, 0x65, 0x72, 0x0C, 0x14]

/-- PUSH2, PACK, PUSH15, PUSHDATA1 4 'vote', PUSHDATA1 20. -/
def voteSequence : List UInt8 :=
  [0x12, 0xC0, 0x1F, 0x0C, 0x04, 0x76, 0x6F, 0x74, 0x65, 0x0C, 0x14]

/-- SYSCALL 'System.Contract.Call'. -/
def syscallSequence : List UInt8 := [0x41, 0x62, 0x7D, 0x5B, 0x52]

def neoScriptHash : List UInt8 :=
  [0xF5, 0x63, 0xEA, 0x40, 0xBC, 0x28, 0x3D, 0x4D, 0x0E, 0x05, 0xC4, 0x8E, 0xA3, 0x05, 0xB3, 0xF2,
    0xA0, 0x73, 0x40, 0xEF]

def gasScriptHash : List UInt8 :=
  [0xCF, 0x76, 0xE2, 0x8B, 0xD0, 0x06, 0x2C, 0x4A, 0x47, 0x8E, 0xE3, 0x55, 0x61, 0x01, 0x13, 0x19,
    0xF3, 0xCF, 0xA4, 0xD2]

/-! ## `try_parse_transfer_script` -/

/-- The amount instruction. For PUSHINT8 the source reads the signed member and
takes the unsigned one. -/
def parseAmount : Recogniser Unit := do
  let opcode ← readOrReturn sdk.bufferReadU8 Data.setU8 Data.u8
  if 0x10 ≤ opcode ∧ opcode ≤ 0x20 then
    assignScript (.amount (opcode.toUInt64.toInt64 - 0x10))
  else if opcode = 0x00 then do
    let operand ← readOrReturn (bufferReadS8 sdk) Data.setS8 Data.u8
    assignScript (.amount operand.toUInt64.toInt64)
  else if opcode = 0x01 then do
    let operand ← readOrReturn (bufferReadS16 sdk · .le) Data.setS16 Data.s16
    assignScript (.amount operand.toInt64)
  else if opcode = 0x02 then do
    let operand ← readOrReturn (bufferReadS32 sdk · .le) Data.setS32 Data.s32
    assignScript (.amount operand.toInt64)
  else if opcode = 0x03 then do
    let operand ← readOrReturn (bufferReadS64 sdk · .le) Data.setS64 Data.s64
    assignScript (.amount operand)
  else ret ()

/-- PUSHDATA1 with 20 bytes; the bytes. -/
def parsePushData20 : Recogniser (List UInt8) := do
  let header ← readOrReturn (sdk.bufferReadU16 · .be) Data.setU16 Data.u16
  returnIf (header != pushData20) ()
  takeScript sdk uint160Len

/-- Write the destination address over the one stored. -/
def storeDestination (scriptHash : List UInt8) : Recogniser Unit :=
  modify fun s =>
    { s with tx := s.tx.assign (.dstAddress (scriptHashToAddress sdk s.tx.dstAddress scriptHash)) }

/-- NEO sets the flag, GAS leaves it, anything else returns. -/
def flagContract (scriptHash : List UInt8) : Recogniser Unit :=
  if scriptHash = neoScriptHash then assignScript (.isNeo true)
  else returnIf (scriptHash != gasScriptHash) ()

/-- The contract hash. -/
def parseContract : Recogniser Unit := do
  let s ← get
  returnIf (!sdk.bufferCanRead s.script uint160Len) ()
  flagContract (slice s.script.ptr s.script.offset uint160Len)
  let _ ← seekScript sdk uint160Len

/-- Nothing may follow: the whole script has been read. -/
def expectScriptEnd : Recogniser Unit := do
  let s ← get
  returnIf (s.script.offset != s.tx.scriptSize.toNat) ()

/-- The instructions of a transfer. -/
def parseTransfer : Recogniser Unit := do
  let first ← readOrReturn sdk.bufferReadU8 Data.setU8 Data.u8
  returnIf (first != 0x0B) ()
  parseAmount sdk
  let destination ← parsePushData20 sdk
  storeDestination sdk destination
  let _ ← parsePushData20 sdk
  let _ ← expectScript sdk (· == transferSequence) transferSequence.length
  parseContract sdk
  let _ ← expectScript sdk (· == syscallSequence) syscallSequence.length

def tryParseTransferScript : Recogniser Unit := do
  parseTransfer sdk
  expectScriptEnd
  assignScript (.isSystemAssetTransfer true)

/-! ## `try_parse_vote_script` -/

/-- The candidate: PUSHNULL retracts a vote, PUSHDATA1 33 casts one. -/
def parseCandidate : Recogniser Unit := do
  let first ← readOrReturn sdk.bufferReadU8 Data.setU8 Data.u8
  returnIf (first != 0x0B && first != 0x0C) ()
  if first = 0x0B then assignScript (.isRemoveVote true)
  else do
    let length ← readOrReturn sdk.bufferReadU8 Data.setU8 Data.u8
    returnIf (length != 0x21) ()
    let publicKey ← takeScript sdk ecpointLen
    returnIf (publicKey.headD 0 != 0x02 && publicKey.headD 0 != 0x03) ()
    storeVoteTo publicKey
    assignScript (.isRemoveVote false)
where
  /-- `memcpy(tx->vote_to, public_key, ECPOINT_LEN)`. -/
  storeVoteTo (publicKey : List UInt8) : Recogniser Unit := fun s =>
    if size : publicKey.length = ecpointLen then
      .next () { s with tx := s.tx.assign (.voteTo ⟨publicKey, size⟩) }
    else .fault

/-- The instructions of a vote. -/
def parseVote : Recogniser Unit := do
  parseCandidate sdk
  let _ ← parsePushData20 sdk
  let _ ← expectScript sdk (· == voteSequence) voteSequence.length
  let _ ← expectScript sdk (· == neoScriptHash) uint160Len
  let _ ← expectScript sdk (· == syscallSequence) syscallSequence.length

def tryParseVoteScript : Recogniser Unit := do
  parseVote sdk
  expectScriptEnd
  assignScript (.isVoteScript true)

end AppNeo3
