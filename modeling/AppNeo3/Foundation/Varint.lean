import AppNeo3.Foundation.ByteOrder

/-!
# Variable-length integers

A number below `0xFD` is stored in one byte. The bytes `0xFD`, `0xFE` and `0xFF`
announce a number of two, four or eight bytes, lowest byte first. How many bytes
are read depends on the first byte alone, so reading a varint does not depend on
what follows it, and a number may be stored in more bytes than it needs.
-/

set_option autoImplicit false

namespace Varint

open ByteOrder

/-- How many bytes follow the first byte. -/
def width (first : UInt8) : Nat :=
  if first = 0xFF then 8 else if first = 0xFE then 4 else if first = 0xFD then 2 else 0

/-- Read a varint at the start of a byte string: how many bytes it takes, and
the number. -/
def decode : List UInt8 → Option (Nat × UInt64)
  | [] => none
  | first :: rest =>
      if width first ≤ rest.length then
        some (1 + width first,
          if width first = 0 then first.toUInt64
          else UInt64.ofNat (leNat (rest.take (width first))))
      else none

/-- The byte string is one varint, nothing before it and nothing after it. -/
def Encodes (bytes : List UInt8) (value : UInt64) : Prop :=
  decode bytes = some (bytes.length, value)

instance (bytes : List UInt8) (value : UInt64) : Decidable (Encodes bytes value) :=
  inferInstanceAs (Decidable (decode bytes = some (bytes.length, value)))

/-- What has been read: the first byte and as many bytes as it announces. -/
theorem decode_eq_some {bytes : List UInt8} {count : Nat} {value : UInt64}
    (read : decode bytes = some (count, value)) :
    ∃ first rest, bytes = first :: rest ∧ width first ≤ rest.length ∧ count = 1 + width first ∧
      value = if width first = 0 then first.toUInt64
        else UInt64.ofNat (leNat (rest.take (width first))) := by
  cases bytes with
  | nil => cases read
  | cons first rest =>
      rw [decode] at read
      split at read
      · rename_i fits
        cases read
        exact ⟨first, rest, rfl, fits, rfl, rfl⟩
      · cases read

/-- A varint lies inside the bytes it is read from, and takes at least one. -/
theorem decode_length {bytes : List UInt8} {count : Nat} {value : UInt64}
    (read : decode bytes = some (count, value)) : 0 < count ∧ count ≤ bytes.length := by
  obtain ⟨first, rest, rfl, fits, rfl, _⟩ := decode_eq_some read
  rw [List.length_cons]
  omega

/-- **What follows a varint does not change its reading.** -/
theorem decode_take_append {bytes : List UInt8} {count : Nat} {value : UInt64}
    (read : decode bytes = some (count, value)) (more : List UInt8) :
    decode (bytes.take count ++ more) = some (count, value) := by
  obtain ⟨first, rest, rfl, fits, rfl, rfl⟩ := decode_eq_some read
  have size : (rest.take (width first)).length = width first := by
    rw [List.length_take, Nat.min_eq_left fits]
  rw [Nat.add_comm 1 (width first), List.take_succ_cons, List.cons_append]
  simp only [decode, List.length_append, size, Nat.le_add_right, if_true,
    List.take_append_of_le_length (Nat.le_of_eq size.symm), List.take_take, Nat.min_self,
    Nat.add_comm 1 (width first)]

/-- A varint followed by anything is read back. -/
theorem Encodes.decode_append {bytes : List UInt8} {value : UInt64}
    (encodes : Encodes bytes value) (more : List UInt8) :
    decode (bytes ++ more) = some (bytes.length, value) := by
  simpa only [List.take_length] using decode_take_append encodes more

/-- **A varint that is cut short cannot be read.** -/
theorem Encodes.decode_take {bytes : List UInt8} {value : UInt64} (encodes : Encodes bytes value)
    {count : Nat} (short : count < bytes.length) : decode (bytes.take count) = none := by
  cases read : decode (bytes.take count) with
  | none => rfl
  | some result =>
      obtain ⟨length, other⟩ := result
      have inside := (decode_length read).2
      have whole := decode_take_append read (bytes.drop length)
      rw [List.take_take] at whole
      rw [List.length_take] at inside
      rw [Nat.min_eq_left (by omega), List.take_append_drop, show decode bytes = _ from encodes]
        at whole
      have same : bytes.length = length := congrArg Prod.fst (Option.some.inj whole)
      omega

/-- The bytes a varint was read from are that varint. -/
theorem encodes_take {bytes : List UInt8} {count : Nat} {value : UInt64}
    (read : decode bytes = some (count, value)) : Encodes (bytes.take count) value := by
  have size : (bytes.take count).length = count := by
    rw [List.length_take, Nat.min_eq_left (decode_length read).2]
  have same := decode_take_append read []
  rw [List.append_nil] at same
  rw [Encodes, size, same]

/-- Reading more bytes finds the same varint. -/
theorem decode_append_of_decode {bytes : List UInt8} {count : Nat} {value : UInt64}
    (read : decode bytes = some (count, value)) (more : List UInt8) :
    decode (bytes ++ more) = some (count, value) := by
  have whole := decode_take_append read (bytes.drop count ++ more)
  rwa [← List.append_assoc, List.take_append_drop] at whole

/-- The forms of a varint, by the first byte. -/
theorem encodes_iff {bytes : List UInt8} {value : UInt64} :
    Encodes bytes value ↔ ∃ first rest, bytes = first :: rest ∧ rest.length = width first ∧
      value = if width first = 0 then first.toUInt64 else UInt64.ofNat (leNat rest) := by
  constructor
  · intro encodes
    obtain ⟨first, rest, rfl, _, size, rfl⟩ := decode_eq_some encodes
    rw [List.length_cons] at size
    have exact_size : rest.length = width first := by omega
    exact ⟨first, rest, rfl, exact_size, by rw [← exact_size, List.take_length]⟩
  · rintro ⟨first, rest, rfl, size, rfl⟩
    have whole : rest.take (width first) = rest := by rw [← size, List.take_length]
    rw [Encodes, decode, if_pos (Nat.le_of_eq size.symm), whole, List.length_cons, size,
      Nat.add_comm 1]

/-- A number below `0xFD` is its own encoding. -/
theorem encodes_single {n : Nat} (small : n < 0xFD) :
    Encodes [UInt8.ofNat n] (UInt64.ofNat n) := by
  have value : (UInt8.ofNat n).toNat = n := by
    rw [UInt8.toNat_ofNat', Nat.mod_eq_of_lt (by omega)]
  have other : ∀ first : UInt8, 0xFD ≤ first.toNat → UInt8.ofNat n ≠ first := by
    rintro _ large rfl
    omega
  have none : width (UInt8.ofNat n) = 0 := by
    rw [width, if_neg (other 0xFF (by decide)), if_neg (other 0xFE (by decide)),
      if_neg (other 0xFD (by decide))]
  refine encodes_iff.mpr ⟨_, [], rfl, none.symm, ?_⟩
  rw [if_pos none]
  apply UInt64.toNat_inj.mp
  rw [UInt8.toNat_toUInt64, value, UInt64.toNat_ofNat', Nat.mod_eq_of_lt (by omega)]

example : Encodes [0xFD, 0x02, 0x00] 2 := by decide

end Varint
