import AppNeo3.Sdk.Interface

/-!
# A reference SDK

The buffer, varint and formatting functions as their documentation gives them,
with small stand-ins for the cryptographic functions, none of which has a law:
the hashes gather the bytes of their argument, and a key and a signature repeat
the bytes they are made from. It shows that the laws of `Sdk` can be met, and it
runs.
-/

set_option autoImplicit false

namespace AppNeo3

open Memory

/-- Four bytes that stand for a byte string. -/
def gathered (bytes : List UInt8) : List UInt8 :=
  ByteOrder.leBytes 4 (ByteOrder.leNat bytes % 4294967291)

/-- The reference SDK. -/
def Sdk.reference : Sdk where
  bufferCanRead buffer count := decide (count ≤ buffer.rest.length)
  bufferSeekCur buffer count :=
    if fits : count ≤ buffer.rest.length then (true, buffer.advance count fits)
    else (false, buffer)
  bufferReadU8 buffer := buffer.read 1 (fun bytes => bytes.headD 0) 0
  bufferReadU16 buffer endianness :=
    buffer.read 2 (fun bytes => UInt16.ofNat (endianness.nat bytes)) 0
  bufferReadU32 buffer endianness :=
    buffer.read 4 (fun bytes => UInt32.ofNat (endianness.nat bytes)) 0
  bufferMove buffer room :=
    if buffer.rest.length ≤ room then
      some (buffer.rest,
        if fits : room ≤ buffer.rest.length then buffer.advance room fits else buffer)
    else none
  readU16 endianness bytes offset := UInt16.ofNat (endianness.nat (slice bytes offset 2))
  readU32 endianness bytes offset := UInt32.ofNat (endianness.nat (slice bytes offset 4))
  readU64 endianness bytes offset := UInt64.ofNat (endianness.nat (slice bytes offset 8))
  varintRead := Varint.decode
  formatU64 {n} dest value :=
    if fits : (DecimalText.digits value.toNat).length < n then
      (true, CText.strcpy dest (DecimalText.digits value.toNat) fits)
    else (false, dest)
  formatHex {n} bytes dest :=
    if fits : (hexText bytes).length < n then
      (Int.ofNat (2 * bytes.length + 1), CText.strcpy dest (hexText bytes) fits)
    else (-1, dest)
  base58Encode {n} bytes dest :=
    if fits : 0 + (Base58.encode bytes).length ≤ n then
      (Int.ofNat (Base58.encode bytes).length, dest.write 0 (Base58.encode bytes) fits)
    else (-1, dest)
  sha256 bytes := Area.ofList 32 0 (gathered bytes)
  ripemd160 bytes := Area.ofList 20 0 (gathered bytes)
  osDeriveBip32WithSeed path := Area.ofList 64 0 (path.flatMap fun level => [level.toUInt8])
  cxEcfpInitPrivateKey material := ⟨4, Area.ofList 32 0 material.cells⟩
  cxEcfpGeneratePair key := Area.ofList 64 0 key.d.cells
  cxEcdsaSign key digest := [key.d.cells.headD 0, digest.cells.headD 0]
  bufferCanRead_eq _ _ := rfl
  bufferSeekCur_eq _ _ := rfl
  bufferReadU8_eq _ := rfl
  bufferReadU16_eq _ _ := rfl
  bufferReadU32_eq _ _ := rfl
  bufferMove_eq buffer room := by
    by_cases short : buffer.rest.length ≤ room
    · rw [if_pos short, if_pos short]
      by_cases fits : room ≤ buffer.rest.length
      · rw [dif_pos fits, dif_pos fits]
      · rw [dif_neg fits, dif_neg fits]
    · rw [if_neg short, if_neg short]
  readU16_eq _ _ _ _ := rfl
  readU32_eq _ _ _ _ := rfl
  readU64_eq _ _ _ _ := rfl
  varintRead_eq _ := rfl
  formatU64_eq _ _ fits := dif_pos fits
  formatHex_eq _ _ := rfl
  base58Encode_eq _ _ _ := rfl
  cxEcdsaSign_length _ _ := (by decide : 2 ≤ 72)

end AppNeo3
