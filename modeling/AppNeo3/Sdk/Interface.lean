import AppNeo3.Foundation.Memory
import AppNeo3.Foundation.CText
import AppNeo3.Foundation.ByteOrder
import AppNeo3.Foundation.Varint
import AppNeo3.Foundation.DecimalText
import AppNeo3.Foundation.Base58

/-!
# What the application uses of the SDK

The application calls functions of the device's SDK that are not part of its
sources. They are the fields of `Sdk`, and the fields ending in `_eq` are what
the application relies on: the documented effect of the buffer, varint and
formatting functions. Hashing, key derivation and signing are functions without
any law.
-/

set_option autoImplicit false

namespace AppNeo3

open Memory

/-! ## Buffers -/

/-- `endianness_t`. -/
inductive Endianness where
  | be
  | le
deriving DecidableEq

/-- The number that bytes stand for in a byte order. -/
def Endianness.nat : Endianness → List UInt8 → Nat
  | .be => ByteOrder.beNat
  | .le => ByteOrder.leNat

/-- `buffer_t`: the `size` bytes at `ptr`, and how many of them have been read. -/
structure Buffer where
  ptr : List UInt8
  offset : Nat
  offset_le : offset ≤ ptr.length
deriving DecidableEq

namespace Buffer

/-- The number of bytes of the buffer. -/
def size (buffer : Buffer) : Nat := buffer.ptr.length

/-- The bytes that have not been read. -/
def rest (buffer : Buffer) : List UInt8 := buffer.ptr.drop buffer.offset

/-- A buffer of which nothing has been read. -/
def ofBytes (bytes : List UInt8) : Buffer := ⟨bytes, 0, Nat.zero_le _⟩

theorem length_rest (buffer : Buffer) : buffer.rest.length = buffer.ptr.length - buffer.offset :=
  List.length_drop

/-- A buffer has been read when its position is its end. -/
theorem isEmpty_rest (buffer : Buffer) :
    buffer.rest.isEmpty = (buffer.offset == buffer.size) := by
  have inside := buffer.offset_le
  rw [Bool.eq_iff_iff, List.isEmpty_iff_length_eq_zero, length_rest, beq_iff_eq, size]
  omega

/-- The buffer after reading `count` of the unread bytes. -/
def advance (buffer : Buffer) (count : Nat) (fits : count ≤ buffer.rest.length) : Buffer :=
  ⟨buffer.ptr, buffer.offset + count, by
    have inside := buffer.offset_le
    rw [length_rest] at fits
    omega⟩

@[simp] theorem ptr_advance (buffer : Buffer) (count : Nat) (fits : count ≤ buffer.rest.length) :
    (buffer.advance count fits).ptr = buffer.ptr := rfl

@[simp] theorem offset_advance (buffer : Buffer) (count : Nat)
    (fits : count ≤ buffer.rest.length) :
    (buffer.advance count fits).offset = buffer.offset + count := rfl

@[simp] theorem rest_advance (buffer : Buffer) (count : Nat) (fits : count ≤ buffer.rest.length) :
    (buffer.advance count fits).rest = buffer.rest.drop count :=
  List.drop_drop.symm

@[simp] theorem rest_ofBytes (bytes : List UInt8) : (ofBytes bytes).rest = bytes := rfl

@[simp] theorem size_ofBytes (bytes : List UInt8) : (ofBytes bytes).size = bytes.length := rfl

/-- Reading a value of `count` bytes: a buffer too short for it is left as it is,
and the value read is zero. -/
def read {α : Type} (buffer : Buffer) (count : Nat) (decode : List UInt8 → α) (zero : α) :
    Bool × α × Buffer :=
  if fits : count ≤ buffer.rest.length then
    (true, decode (buffer.rest.take count), buffer.advance count fits)
  else (false, zero, buffer)

end Buffer

/-! ## Hexadecimal text -/

/-- The upper-case hexadecimal digit of a number below 16. -/
def hexDigit (n : Nat) : Char := ("0123456789ABCDEF".toList).getD n '0'

/-- The upper-case hexadecimal text of a byte string. -/
def hexText (bytes : List UInt8) : List Char :=
  bytes.flatMap fun byte => [hexDigit (byte.toNat / 16), hexDigit (byte.toNat % 16)]

theorem length_hexText (bytes : List UInt8) : (hexText bytes).length = 2 * bytes.length := by
  induction bytes with
  | nil => rfl
  | cons byte bytes ih =>
      rw [hexText, List.flatMap_cons, List.length_append, List.length_cons]
      rw [hexText] at ih
      rw [ih]
      simp only [List.length_cons, List.length_nil]
      omega

/-- The 16 digits are different characters, none of them a terminator. -/
theorem hexDigit_inj : ∀ first < 16, ∀ second < 16, hexDigit first = hexDigit second →
    first = second := by
  decide

theorem nul_not_mem_hexText (bytes : List UInt8) : CText.nul ∉ hexText bytes := by
  have digit : ∀ n < 16, hexDigit n ≠ CText.nul := by decide
  intro member
  obtain ⟨byte, _, here⟩ := List.mem_flatMap.mp member
  have small := byte.toNat_lt
  simp only [List.mem_cons, List.not_mem_nil, or_false] at here
  rcases here with high | low
  · exact digit _ (by omega) high.symm
  · exact digit _ (by omega) low.symm

/-- **The hexadecimal text determines the bytes.** -/
theorem hexText_inj : ∀ {first second : List UInt8}, hexText first = hexText second →
    first = second
  | [], [], _ => rfl
  | byte :: bytes, byte' :: bytes', same => by
      simp only [hexText, List.flatMap_cons, List.cons_append, List.nil_append,
        List.cons.injEq] at same
      obtain ⟨high, low, rest⟩ := same
      have small := byte.toNat_lt
      have small' := byte'.toNat_lt
      have highSame := hexDigit_inj _ (by omega) _ (by omega) high
      have lowSame := hexDigit_inj _ (by omega) _ (by omega) low
      have value : byte.toNat = byte'.toNat := by omega
      rw [UInt8.toNat.inj value, hexText_inj rest]

/-! ## The interface -/

/-- A private key of a curve, as the cryptographic functions hold it. -/
structure PrivateKey where
  curve : UInt8
  d : Area UInt8 32
deriving DecidableEq

/-- The zeroed key. -/
def PrivateKey.zero : PrivateKey := ⟨0, Area.fill 32 0⟩

/-- The functions of the SDK. -/
structure Sdk where
  bufferCanRead : Buffer → Nat → Bool
  bufferSeekCur : Buffer → Nat → Bool × Buffer
  bufferReadU8 : Buffer → Bool × UInt8 × Buffer
  bufferReadU16 : Buffer → Endianness → Bool × UInt16 × Buffer
  bufferReadU32 : Buffer → Endianness → Bool × UInt32 × Buffer
  /-- The bytes copied to a destination of the given size. -/
  bufferMove : Buffer → Nat → Option (List UInt8 × Buffer)
  readU16 : Endianness → List UInt8 → Nat → UInt16
  readU32 : Endianness → List UInt8 → Nat → UInt32
  readU64 : Endianness → List UInt8 → Nat → UInt64
  /-- How many bytes were read, and the number. -/
  varintRead : List UInt8 → Option (Nat × UInt64)
  formatU64 : {n : Nat} → Area Char n → UInt64 → Bool × Area Char n
  formatHex : {n : Nat} → List UInt8 → Area Char n → Int × Area Char n
  base58Encode : {n : Nat} → List UInt8 → Area Char n → Int × Area Char n
  sha256 : List UInt8 → Area UInt8 32
  ripemd160 : List UInt8 → Area UInt8 20
  /-- The key material of a path. -/
  osDeriveBip32WithSeed : List UInt32 → Area UInt8 64
  /-- The private key made of key material. -/
  cxEcfpInitPrivateKey : Area UInt8 64 → PrivateKey
  /-- The two coordinates of the public key of a private key. -/
  cxEcfpGeneratePair : PrivateKey → Area UInt8 64
  /-- The signature of a digest. -/
  cxEcdsaSign : PrivateKey → Area UInt8 32 → List UInt8
  bufferCanRead_eq : ∀ buffer count,
    bufferCanRead buffer count = decide (count ≤ buffer.rest.length)
  bufferSeekCur_eq : ∀ buffer count, bufferSeekCur buffer count =
    if fits : count ≤ buffer.rest.length then (true, buffer.advance count fits)
    else (false, buffer)
  bufferReadU8_eq : ∀ buffer, bufferReadU8 buffer = buffer.read 1 (fun bytes => bytes.headD 0) 0
  bufferReadU16_eq : ∀ buffer endianness, bufferReadU16 buffer endianness =
    buffer.read 2 (fun bytes => UInt16.ofNat (endianness.nat bytes)) 0
  bufferReadU32_eq : ∀ buffer endianness, bufferReadU32 buffer endianness =
    buffer.read 4 (fun bytes => UInt32.ofNat (endianness.nat bytes)) 0
  bufferMove_eq : ∀ buffer room, bufferMove buffer room =
    if buffer.rest.length ≤ room then some (buffer.rest, (bufferSeekCur buffer room).2) else none
  readU16_eq : ∀ endianness bytes offset, offset + 2 ≤ bytes.length →
    readU16 endianness bytes offset = UInt16.ofNat (endianness.nat (slice bytes offset 2))
  readU32_eq : ∀ endianness bytes offset, offset + 4 ≤ bytes.length →
    readU32 endianness bytes offset = UInt32.ofNat (endianness.nat (slice bytes offset 4))
  readU64_eq : ∀ endianness bytes offset, offset + 8 ≤ bytes.length →
    readU64 endianness bytes offset = UInt64.ofNat (endianness.nat (slice bytes offset 8))
  varintRead_eq : ∀ bytes, varintRead bytes = Varint.decode bytes
  formatU64_eq : ∀ {n : Nat} (dest : Area Char n) value,
    ∀ fits : (DecimalText.digits value.toNat).length < n,
      formatU64 dest value = (true, CText.strcpy dest (DecimalText.digits value.toNat) fits)
  formatHex_eq : ∀ {n : Nat} bytes (dest : Area Char n), formatHex bytes dest =
    if fits : (hexText bytes).length < n then
      (Int.ofNat (2 * bytes.length + 1), CText.strcpy dest (hexText bytes) fits)
    else (-1, dest)
  base58Encode_eq : ∀ {n : Nat} bytes (dest : Area Char n), bytes.length ≤ 120 →
    base58Encode bytes dest =
      if fits : 0 + (Base58.encode bytes).length ≤ n then
        (Int.ofNat (Base58.encode bytes).length, dest.write 0 (Base58.encode bytes) fits)
      else (-1, dest)
  cxEcdsaSign_length : ∀ key digest, (cxEcdsaSign key digest).length ≤ 72

namespace Sdk

variable {n : Nat} {sdk : Sdk} {bytes : List UInt8} {dest : Area Char n}

/-- No more bytes are copied than there is room for. -/
theorem length_le_of_bufferMove {buffer after : Buffer} {room : Nat}
    (moved : sdk.bufferMove buffer room = some (bytes, after)) : bytes.length ≤ room := by
  rw [sdk.bufferMove_eq] at moved
  split at moved
  · rename_i fits
    cases moved
    exact fits
  · cases moved

/-- A hexadecimal text that fits is written with its terminator. -/
theorem text_formatHex (fits : 2 * bytes.length < n) :
    CText.text (sdk.formatHex bytes dest).2.cells = hexText bytes := by
  have room : (hexText bytes).length < n := by
    rw [length_hexText]
    exact fits
  rw [sdk.formatHex_eq, dif_pos room]
  exact CText.text_strcpy room (nul_not_mem_hexText bytes)

/-- A hexadecimal text that does not fit is not written. -/
theorem formatHex_of_le (small : n ≤ 2 * bytes.length) : sdk.formatHex bytes dest = (-1, dest) := by
  have unfit : ¬ (hexText bytes).length < n := by
    rw [length_hexText]
    exact Nat.not_lt.mpr small
  rw [sdk.formatHex_eq, dif_neg unfit]

end Sdk

/-! ## Error codes of the cryptographic functions -/

/-- `cx_err_t`. -/
abbrev CxErr : Type := UInt32

/-- The code of success. -/
def cxOk : CxErr := 0

/-- What the cryptographic functions answer while one event is handled. A hash
function may be called several times; the calls are numbered from zero. -/
structure CxOutcomes where
  osDeriveBip32WithSeed : CxErr
  cxEcfpInitPrivateKey : CxErr
  cxEcfpGeneratePair : CxErr
  cxHash : Nat → CxErr
  cxEcdsaSign : CxErr

/-- Every call succeeds. -/
def CxOutcomes.success : CxOutcomes := ⟨cxOk, cxOk, cxOk, fun _ => cxOk, cxOk⟩

/-- The first `calls` hash calls of the event succeed. -/
def CxOutcomes.hashesOk (outcomes : CxOutcomes) (calls : Nat) : Bool :=
  (List.range calls).all fun call => outcomes.cxHash call == cxOk

end AppNeo3
