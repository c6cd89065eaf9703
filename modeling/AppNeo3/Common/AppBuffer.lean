import AppNeo3.Sdk.Interface

/-!
# Reading signed numbers and varints

`app_read.c` and `app_buffer.c`: the signed readers cast what the SDK's unsigned
readers find, and `bufferReadUvarint` wraps the SDK's varint reader. Each has one
lemma that gives it as a reading of a fixed width.
-/

set_option autoImplicit false

namespace AppNeo3

open Memory

variable (sdk : Sdk)

/-! ## `app_read.c` -/

def readS16Be (ptr : List UInt8) (offset : Nat) : Int16 := (sdk.readU16 .be ptr offset).toInt16

def readS32Be (ptr : List UInt8) (offset : Nat) : Int32 := (sdk.readU32 .be ptr offset).toInt32

def readS64Be (ptr : List UInt8) (offset : Nat) : Int64 := (sdk.readU64 .be ptr offset).toInt64

/-- The source widens to 64 bits before it narrows to 16. -/
def readS16Le (ptr : List UInt8) (offset : Nat) : Int16 :=
  (sdk.readU16 .le ptr offset).toUInt64.toInt64.toInt16

def readS32Le (ptr : List UInt8) (offset : Nat) : Int32 := (sdk.readU32 .le ptr offset).toInt32

def readS64Le (ptr : List UInt8) (offset : Nat) : Int64 := (sdk.readU64 .le ptr offset).toInt64

/-! ## `app_buffer.c` -/

/-- A signed reader: `count` bytes, or zero when the buffer has fewer. -/
def bufferReadSigned {α : Type} (buffer : Buffer) (count : Nat) (zero : α)
    (value : List UInt8 → Nat → α) : Bool × α × Buffer :=
  if sdk.bufferCanRead buffer count then
    (true, value buffer.ptr buffer.offset, (sdk.bufferSeekCur buffer count).2)
  else (false, zero, buffer)

def bufferReadS8 (buffer : Buffer) : Bool × Int8 × Buffer :=
  bufferReadSigned sdk buffer 1 0 fun ptr offset => (ptr.getD offset 0).toInt8

def bufferReadS16 (buffer : Buffer) (endianness : Endianness) : Bool × Int16 × Buffer :=
  bufferReadSigned sdk buffer 2 0 fun ptr offset =>
    if endianness = .be then readS16Be sdk ptr offset else readS16Le sdk ptr offset

def bufferReadS32 (buffer : Buffer) (endianness : Endianness) : Bool × Int32 × Buffer :=
  bufferReadSigned sdk buffer 4 0 fun ptr offset =>
    if endianness = .be then readS32Be sdk ptr offset else readS32Le sdk ptr offset

def bufferReadS64 (buffer : Buffer) (endianness : Endianness) : Bool × Int64 × Buffer :=
  bufferReadSigned sdk buffer 8 0 fun ptr offset =>
    if endianness = .be then readS64Be sdk ptr offset else readS64Le sdk ptr offset

def bufferReadUvarint (buffer : Buffer) : Bool × UInt64 × Buffer :=
  match sdk.varintRead (buffer.ptr.drop buffer.offset) with
  | some (length, value) => (true, value, (sdk.bufferSeekCur buffer length).2)
  | none => (false, 0, buffer)

/-! ## What the readers read -/

variable {sdk}

theorem bufferSeekCur_of_le {buffer : Buffer} {count : Nat} (fits : count ≤ buffer.rest.length) :
    (sdk.bufferSeekCur buffer count).2 = buffer.advance count fits := by
  rw [sdk.bufferSeekCur_eq, dif_pos fits]

/-- A signed reader reads the value of the next `count` bytes. -/
theorem bufferReadSigned_eq {α : Type} {buffer : Buffer} {count : Nat} {zero : α}
    {value : List UInt8 → Nat → α} {decode : List UInt8 → α}
    (decodes : ∀ ptr offset, offset + count ≤ ptr.length →
      value ptr offset = decode (slice ptr offset count)) :
    bufferReadSigned sdk buffer count zero value = buffer.read count decode zero := by
  rw [bufferReadSigned, Buffer.read, sdk.bufferCanRead_eq]
  by_cases fits : count ≤ buffer.rest.length
  · have inside : buffer.offset + count ≤ buffer.ptr.length := by
      have fits' := fits
      have start := buffer.offset_le
      rw [Buffer.length_rest] at fits'
      omega
    rw [if_pos (decide_eq_true fits), dif_pos fits, bufferSeekCur_of_le fits,
      decodes _ _ inside]
    rfl
  · rw [if_neg (by simpa using fits), dif_neg fits]

section Values

variable {ptr : List UInt8} {offset : Nat}

theorem s8_eq_slice (inside : offset + 1 ≤ ptr.length) :
    (ptr.getD offset 0).toInt8 = ((slice ptr offset 1).headD 0).toInt8 := by
  have here : offset < ptr.length := inside
  rw [slice, List.drop_eq_getElem_cons here, List.take_succ_cons, List.headD_cons,
    List.getD_eq_getElem?_getD, List.getElem?_eq_getElem here]
  rfl

theorem s16_eq_slice (inside : offset + 2 ≤ ptr.length) :
    readS16Le sdk ptr offset =
      (UInt16.ofNat (ByteOrder.leNat (slice ptr offset 2))).toInt16 := by
  rw [readS16Le, sdk.readU16_eq .le ptr offset inside]
  exact ByteOrder.toInt16_toInt64_toUInt64 _

theorem s32_eq_slice (inside : offset + 4 ≤ ptr.length) :
    readS32Le sdk ptr offset =
      (UInt32.ofNat (ByteOrder.leNat (slice ptr offset 4))).toInt32 := by
  rw [readS32Le, sdk.readU32_eq .le ptr offset inside]
  rfl

theorem s64_eq_slice (inside : offset + 8 ≤ ptr.length) :
    readS64Le sdk ptr offset =
      (UInt64.ofNat (ByteOrder.leNat (slice ptr offset 8))).toInt64 := by
  rw [readS64Le, sdk.readU64_eq .le ptr offset inside]
  rfl

end Values

theorem bufferReadS8_eq (buffer : Buffer) :
    bufferReadS8 sdk buffer = buffer.read 1 (fun bytes => (bytes.headD 0).toInt8) 0 :=
  bufferReadSigned_eq fun _ _ => s8_eq_slice

theorem bufferReadS16_eq (buffer : Buffer) :
    bufferReadS16 sdk buffer .le =
      buffer.read 2 (fun bytes => (UInt16.ofNat (ByteOrder.leNat bytes)).toInt16) 0 :=
  bufferReadSigned_eq fun _ _ => s16_eq_slice

theorem bufferReadS32_eq (buffer : Buffer) :
    bufferReadS32 sdk buffer .le =
      buffer.read 4 (fun bytes => (UInt32.ofNat (ByteOrder.leNat bytes)).toInt32) 0 :=
  bufferReadSigned_eq fun _ _ => s32_eq_slice

theorem bufferReadS64_eq (buffer : Buffer) :
    bufferReadS64 sdk buffer .le =
      buffer.read 8 (fun bytes => (UInt64.ofNat (ByteOrder.leNat bytes)).toInt64) 0 :=
  bufferReadSigned_eq fun _ _ => s64_eq_slice

/-- A varint at the front of the unread bytes is read. -/
theorem bufferReadUvarint_of_some {buffer : Buffer} {length : Nat} {value : UInt64}
    (encoded : Varint.decode buffer.rest = some (length, value)) :
    ∃ fits, bufferReadUvarint sdk buffer = (true, value, buffer.advance length fits) := by
  have fits : length ≤ buffer.rest.length := (Varint.decode_length encoded).2
  refine ⟨fits, ?_⟩
  rw [Buffer.rest] at encoded
  rw [bufferReadUvarint, sdk.varintRead_eq, encoded]
  simp only [bufferSeekCur_of_le fits]

theorem bufferReadUvarint_of_none {buffer : Buffer} (missing : Varint.decode buffer.rest = none) :
    bufferReadUvarint sdk buffer = (false, 0, buffer) := by
  rw [Buffer.rest] at missing
  rw [bufferReadUvarint, sdk.varintRead_eq, missing]

end AppNeo3
