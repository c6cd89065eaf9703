import AppNeo3.Constants
import AppNeo3.Sdk.Reference

/-!
# Addresses

`utils.c`: the address of a script hash is the base-58 text of a version byte,
the script hash and four bytes of checksum. The text always has 34 characters
(`length_addressText`), so a buffer of 34 characters holds it, and it can be read
back: `address_identifies` says what an address tells of the script hash, and of
the key it comes from.
-/

set_option autoImplicit false

namespace AppNeo3

open Memory

variable {n : Nat} (sdk : Sdk)

/-- The current version of the address field. -/
def addressVersion : UInt8 := 0x35

/-- Length of the checksum of an address. -/
def scriptHashChecksumLen : Nat := 4

/-- The bytes of an address before encoding: version, script hash, checksum. -/
def addressBytes (scriptHash : List UInt8) : List UInt8 :=
  let address := addressVersion :: scriptHash.take uint160Len
  let dataHash1 := sdk.sha256 address
  let dataHash2 := sdk.sha256 dataHash1.cells
  address ++ dataHash2.cells.take scriptHashChecksumLen

/-- Write the address of a script hash to `out`. The result of the encoder is
not looked at. -/
def scriptHashToAddress (out : Area Char n) (scriptHash : List UInt8) : Area Char n :=
  (sdk.base58Encode (addressBytes sdk scriptHash) out).2

/-- The verification script of a single public key. -/
def createSignatureRedeemScript (publicKey : Area UInt8 64) : List UInt8 :=
  [0x0C, 0x21, if (publicKey.cells.getD 63 0) &&& 1 = 1 then 0x03 else 0x02] ++
    publicKey.cells.take 32 ++ 0x41 :: ByteOrder.leBytes 4 0x27B3E756

def publicKeyHash160 (bytes : List UInt8) : Area UInt8 20 :=
  sdk.ripemd160 (sdk.sha256 bytes).cells

/-- Write the address of a public key to `out`. Each of the four hashes is
asserted to succeed, and a failed one stops the application. -/
def addressFromPubkey (outcomes : CxOutcomes) (publicKey : Area UInt8 64) (out : Area Char n) :
    Option (Bool × Area Char n) :=
  if outcomes.hashesOk 4 then
    let scriptHash := publicKeyHash160 sdk (createSignatureRedeemScript publicKey)
    some (true, scriptHashToAddress sdk out scriptHash.cells)
  else none

/-! ## The text of an address -/

/-- The address of a script hash. -/
def addressText (scriptHash : List UInt8) : List Char :=
  Base58.encode (addressBytes sdk scriptHash)

variable {scriptHash : List UInt8}

theorem addressBytes_eq (size : scriptHash.length = uint160Len) :
    ∃ checksum : List UInt8, checksum.length = 4 ∧
      addressBytes sdk scriptHash = addressVersion :: (scriptHash ++ checksum) := by
  refine ⟨(sdk.sha256 (sdk.sha256 (addressVersion :: scriptHash)).cells).cells.take 4, ?_, ?_⟩
  · rw [List.length_take, Area.size_eq]
    rfl
  · rw [addressBytes, List.take_of_length_le (Nat.le_of_eq size)]
    rfl

/-- **An address has 34 characters.** -/
theorem length_addressText (size : scriptHash.length = uint160Len) :
    (addressText sdk scriptHash).length = addressLen := by
  obtain ⟨checksum, checksumSize, bytes⟩ := addressBytes_eq sdk size
  have tailSize : (scriptHash ++ checksum).length = 24 := by
    rw [List.length_append, size, checksumSize]
  rw [addressText, bytes]
  refine Base58.length_encode (by decide) ?_ ?_
  · rw [tailSize]
    decide
  · rw [tailSize]
    decide

/-- **The address determines the script hash.** -/
theorem addressText_inj {first second : List UInt8} (firstSize : first.length = uint160Len)
    (secondSize : second.length = uint160Len)
    (same : addressText sdk first = addressText sdk second) : first = second := by
  obtain ⟨firstSum, firstSumSize, firstBytes⟩ := addressBytes_eq sdk firstSize
  obtain ⟨secondSum, secondSumSize, secondBytes⟩ := addressBytes_eq sdk secondSize
  have bytes := Base58.encode_inj same
  rw [firstBytes, secondBytes] at bytes
  exact (List.append_inj (List.cons.inj bytes).2 (firstSize.trans secondSize.symm)).1

theorem length_addressBytes (size : scriptHash.length = uint160Len) :
    (addressBytes sdk scriptHash).length = 25 := by
  obtain ⟨checksum, checksumSize, bytes⟩ := addressBytes_eq sdk size
  rw [bytes, List.length_cons, List.length_append, size, checksumSize]

theorem nul_not_mem_addressText : CText.nul ∉ addressText sdk scriptHash := by
  intro member
  exact absurd (Base58.mem_alphabet_of_mem_encode member) (by decide)

/-- An address is written whole to a buffer with room for it. -/
theorem scriptHashToAddress_eq {out : Area Char n} (size : scriptHash.length = uint160Len)
    (room : addressLen ≤ n) :
    scriptHashToAddress sdk out scriptHash =
      out.write 0 (addressText sdk scriptHash) (by
        rw [length_addressText sdk size]
        omega) := by
  have fits : 0 + (Base58.encode (addressBytes sdk scriptHash)).length ≤ n := by
    have length := length_addressText sdk size
    rw [addressText] at length
    omega
  rw [scriptHashToAddress, sdk.base58Encode_eq _ _ (by rw [length_addressBytes sdk size]; decide),
    dif_pos fits]
  rfl

/-- A buffer with room for an address holds the address and what stood behind it. -/
theorem cells_scriptHashToAddress {out : Area Char n} (size : scriptHash.length = uint160Len)
    (room : addressLen ≤ n) :
    (scriptHashToAddress sdk out scriptHash).cells =
      addressText sdk scriptHash ++ out.cells.drop addressLen := by
  rw [scriptHashToAddress_eq sdk size room, Area.write_cells, overwrite_zero,
    length_addressText sdk size]

/-- The address stands at the start of the buffer. -/
theorem take_scriptHashToAddress (out : Area Char n) (size : scriptHash.length = uint160Len)
    (room : addressLen ≤ n) :
    (scriptHashToAddress sdk out scriptHash).cells.take addressLen = addressText sdk scriptHash := by
  rw [cells_scriptHashToAddress sdk size room, List.take_left' (length_addressText sdk size)]

/-! ## What an address tells -/

/-- The bytes under the checksum. -/
def versioned (scriptHash : Area UInt8 uint160Len) : List UInt8 := 0x35 :: scriptHash.cells

/-- A base-58 text of 34 characters for the version byte, the script hash and the
first four bytes of the double hash of these. -/
structure IsAddressOf (scriptHash : Area UInt8 uint160Len) (text : List Char) : Prop where
  length : text.length = 34
  base58 : ∀ c ∈ text, c ∈ Base58.alphabet
  decodes : Base58.decode text =
    some (versioned scriptHash ++ (sdk.sha256 (sdk.sha256 (versioned scriptHash)).cells).cells.take 4)

theorem isAddressOf_addressText (scriptHash : Area UInt8 uint160Len) :
    IsAddressOf sdk scriptHash (addressText sdk scriptHash.cells) where
  length := length_addressText sdk scriptHash.size_eq
  base58 _ member := Base58.mem_alphabet_of_mem_encode member
  decodes := by
    have whole : scriptHash.cells.take uint160Len = scriptHash.cells :=
      List.take_of_length_le (Nat.le_of_eq scriptHash.size_eq)
    rw [addressText, Base58.decode_encode, addressBytes, whole]
    rfl

/-- The compressed form of a key: its first coordinate behind the parity of the second. -/
def compressedKey (publicKey : Area UInt8 64) : List UInt8 :=
  (if (publicKey.cells.getD 63 0).toNat % 2 = 1 then 0x03 else 0x02) :: publicKey.cells.take 32

theorem createSignatureRedeemScript_eq (publicKey : Area UInt8 64) :
    createSignatureRedeemScript publicKey =
      [0x0C, 0x21] ++ compressedKey publicKey ++ [0x41, 0x56, 0xE7, 0xB3, 0x27] := by
  have parity : ∀ byte : UInt8, byte &&& 1 = 1 ↔ byte.toNat % 2 = 1 := by
    intro byte
    rw [← UInt8.toNat_inj, UInt8.toNat_and]
    exact iff_of_eq (congrArg (· = 1) (Nat.and_one_is_mod _))
  have syscall : ByteOrder.leBytes 4 0x27B3E756 = [0x56, 0xE7, 0xB3, 0x27] := by decide
  simp only [createSignatureRedeemScript, compressedKey, parity, syscall, List.cons_append,
    List.nil_append]

/-- **Addresses fit and identify their script hash.** In a buffer of 34 characters
or more the encoder succeeds and writes the address of the script hash and nothing
behind it, two script hashes never get one address, and the address of a key is
that of the hash of its verification script. -/
theorem address_identifies (room : addressLen ≤ n) (out : Area Char n) :
    (∀ scriptHash : Area UInt8 uint160Len,
      (sdk.base58Encode (addressBytes sdk scriptHash.cells) out).1 = 34 ∧
      ∃ text, IsAddressOf sdk scriptHash text ∧
        (scriptHashToAddress sdk out scriptHash.cells).cells = text ++ out.cells.drop 34) ∧
    (∀ first second : Area UInt8 uint160Len,
      (scriptHashToAddress sdk out first.cells).cells.take 34 =
        (scriptHashToAddress sdk out second.cells).cells.take 34 → first = second) ∧
    ∀ outcomes publicKey,
      addressFromPubkey sdk outcomes publicKey out =
        if outcomes.hashesOk 4 then
          some (true, scriptHashToAddress sdk out (sdk.ripemd160 (sdk.sha256
            ([0x0C, 0x21] ++ compressedKey publicKey ++ [0x41, 0x56, 0xE7, 0xB3, 0x27])).cells).cells)
        else none := by
  refine ⟨fun scriptHash => ⟨?_, addressText sdk scriptHash.cells,
    isAddressOf_addressText sdk scriptHash,
    cells_scriptHashToAddress sdk scriptHash.size_eq room⟩, fun first second same => ?_,
    fun outcomes publicKey => ?_⟩
  · have length := length_addressText sdk scriptHash.size_eq
    rw [addressText] at length
    have small : (addressBytes sdk scriptHash.cells).length ≤ 120 := by
      rw [length_addressBytes sdk scriptHash.size_eq]
      decide
    rw [sdk.base58Encode_eq _ _ small, dif_pos (by rw [length, Nat.zero_add]; exact room)]
    exact congrArg Int.ofNat length
  · have firstText := take_scriptHashToAddress sdk out first.size_eq room
    have secondText := take_scriptHashToAddress sdk out second.size_eq room
    have texts := firstText.symm.trans (same.trans secondText)
    exact Area.ext_cells (addressText_inj sdk first.size_eq second.size_eq texts)
  · rw [addressFromPubkey, createSignatureRedeemScript_eq, publicKeyHash160]

theorem address_identifies_reference :
    addressLen ≤ 34 ∧ ∃ text,
      IsAddressOf Sdk.reference (Area.fill uint160Len 0) text ∧
        (scriptHashToAddress Sdk.reference (Area.fill 34 CText.nul)
          (Area.fill uint160Len 0).cells).cells = text ++ [] :=
  ⟨by decide, ((address_identifies Sdk.reference (n := 34) (by decide)
    (Area.fill 34 CText.nul)).1 (Area.fill uint160Len 0)).2⟩

end AppNeo3
