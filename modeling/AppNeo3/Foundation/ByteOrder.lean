import Mathlib.Data.Nat.Digits.Lemmas

/-!
# Numbers stored as bytes

A byte string is a number in base 256, with its lowest byte first (`leNat`) or
last (`beNat`). Byte strings of one length are the numbers below a power of 256,
so two of them that stand for one number are equal.
-/

set_option autoImplicit false

namespace ByteOrder

/-- The number stored with its lowest byte first. -/
def leNat (bytes : List UInt8) : Nat := Nat.ofDigits 256 (bytes.map UInt8.toNat)

/-- The number stored with its highest byte first. -/
def beNat (bytes : List UInt8) : Nat := leNat bytes.reverse

/-- The lowest `count` bytes of a number, lowest byte first. -/
def leBytes : Nat → Nat → List UInt8
  | 0, _ => []
  | count + 1, n => UInt8.ofNat n :: leBytes count (n / 256)

@[simp] theorem leNat_nil : leNat [] = 0 := rfl

theorem leNat_cons (byte : UInt8) (bytes : List UInt8) :
    leNat (byte :: bytes) = byte.toNat + 256 * leNat bytes := by
  simp only [leNat, List.map_cons, Nat.ofDigits_cons]

theorem leNat_append (front back : List UInt8) :
    leNat (front ++ back) = leNat front + 256 ^ front.length * leNat back := by
  simp only [leNat, List.map_append, Nat.ofDigits_append, List.length_map]

private theorem toNat_lt_of_mem (bytes : List UInt8) :
    ∀ digit ∈ bytes.map UInt8.toNat, digit < 256 := by
  intro digit member
  obtain ⟨byte, _, rfl⟩ := List.mem_map.mp member
  exact byte.toNat_lt

theorem leNat_lt (bytes : List UInt8) : leNat bytes < 256 ^ bytes.length := by
  have bound := Nat.ofDigits_lt_base_pow_length (by decide : 1 < 256) (toNat_lt_of_mem bytes)
  rwa [List.length_map] at bound

theorem beNat_lt (bytes : List UInt8) : beNat bytes < 256 ^ bytes.length := by
  simpa only [beNat, List.length_reverse] using leNat_lt bytes.reverse

/-- **Byte strings of one length are determined by their number.** -/
theorem leNat_inj {first second : List UInt8} (size : first.length = second.length)
    (same : leNat first = leNat second) : first = second := by
  have digits := Nat.ofDigits_inj_of_len_eq (by decide : 1 < 256)
    (by rw [List.length_map, List.length_map, size]) (toNat_lt_of_mem _) (toNat_lt_of_mem _) same
  exact List.map_injective_iff.mpr (fun _ _ => UInt8.toNat_inj.mp) digits

theorem beNat_inj {first second : List UInt8} (size : first.length = second.length)
    (same : beNat first = beNat second) : first = second :=
  List.reverse_injective (leNat_inj (by rw [List.length_reverse, List.length_reverse, size]) same)

/-- The highest byte of a number stored with its highest byte first. -/
theorem beNat_cons (byte : UInt8) (bytes : List UInt8) :
    beNat (byte :: bytes) = byte.toNat * 256 ^ bytes.length + beNat bytes := by
  rw [beNat, List.reverse_cons, leNat_append, leNat_cons, List.length_reverse, beNat, leNat_nil]
  ring

theorem length_leBytes (count n : Nat) : (leBytes count n).length = count := by
  induction count generalizing n with
  | zero => rfl
  | succ count ih => rw [leBytes, List.length_cons, ih]

/-- The lowest bytes of a number are the number up to a power of 256. -/
theorem leNat_leBytes (count n : Nat) : leNat (leBytes count n) = n % 256 ^ count := by
  induction count generalizing n with
  | zero => rw [leBytes, leNat_nil, Nat.pow_zero, Nat.mod_one]
  | succ count ih =>
      have split : n % 256 ^ (count + 1) = n % 256 + 256 * (n / 256 % 256 ^ count) := by
        rw [Nat.pow_succ', Nat.mod_mul]
      rw [leBytes, leNat_cons, ih, UInt8.toNat_ofNat', split]

/-- Four bytes stand for their number as a 32-bit word. -/
theorem toNat_four {bytes : List UInt8} (size : bytes.length = 4) :
    (UInt32.ofNat (leNat bytes)).toNat = leNat bytes := by
  have small : leNat bytes < 2 ^ 32 := by
    have bound := leNat_lt bytes
    rwa [size] at bound
  rw [UInt32.toNat_ofNat', Nat.mod_eq_of_lt small]

/-! ## Signed numbers -/

/-- The two's-complement number stored with its lowest byte first. -/
def leInt (bytes : List UInt8) : Int := (leNat bytes : Int).bmod (256 ^ bytes.length)

theorem toInt_one {bytes : List UInt8} (size : bytes.length = 1) :
    (bytes.headD 0).toInt8.toInt = leInt bytes := by
  obtain ⟨byte, rfl⟩ := List.length_eq_one_iff.mp size
  rw [List.headD_cons, Int8.toInt, UInt8.toBitVec_toInt8, BitVec.toInt_eq_toNat_bmod, leInt,
    leNat_cons]
  simp

theorem toInt_two {bytes : List UInt8} (size : bytes.length = 2) :
    (UInt16.ofNat (leNat bytes)).toInt16.toInt = leInt bytes := by
  have small : leNat bytes < 2 ^ 16 := by
    have bound := leNat_lt bytes
    rwa [size] at bound
  rw [Int16.toInt, UInt16.toBitVec_toInt16, BitVec.toInt_eq_toNat_bmod, UInt16.toNat_toBitVec,
    UInt16.toNat_ofNat', Nat.mod_eq_of_lt small, leInt, size]
  rfl

theorem toInt_four {bytes : List UInt8} (size : bytes.length = 4) :
    (UInt32.ofNat (leNat bytes)).toInt32.toInt = leInt bytes := by
  have small : leNat bytes < 2 ^ 32 := by
    have bound := leNat_lt bytes
    rwa [size] at bound
  rw [Int32.toInt, UInt32.toBitVec_toInt32, BitVec.toInt_eq_toNat_bmod, UInt32.toNat_toBitVec,
    UInt32.toNat_ofNat', Nat.mod_eq_of_lt small, leInt, size]
  rfl

theorem toInt_eight {bytes : List UInt8} (size : bytes.length = 8) :
    (UInt64.ofNat (leNat bytes)).toInt64.toInt = leInt bytes := by
  have small : leNat bytes < 2 ^ 64 := by
    have bound := leNat_lt bytes
    rwa [size] at bound
  rw [Int64.toInt, UInt64.toBitVec_toInt64, BitVec.toInt_eq_toNat_bmod, UInt64.toNat_toBitVec,
    UInt64.toNat_ofNat', Nat.mod_eq_of_lt small, leInt, size]
  rfl

/-- Eight bytes with the top bit clear stand for their number. -/
theorem toInt_eight_of_lt {bytes : List UInt8} (size : bytes.length = 8)
    (small : leNat bytes < 2 ^ 63) :
    (UInt64.ofNat (leNat bytes)).toInt64.toInt = leNat bytes := by
  rw [toInt_eight size, leInt, size]
  exact Int.bmod_eq_of_le (by omega) (by omega)

/-- Eight bytes stand for a negative number when their top bit is set. -/
theorem toInt64_neg_iff {bytes : List UInt8} (size : bytes.length = 8) :
    (UInt64.ofNat (leNat bytes)).toInt64 < 0 ↔ 2 ^ 63 ≤ leNat bytes := by
  have bound : leNat bytes < 2 ^ 64 := by
    have bound := leNat_lt bytes
    rwa [size] at bound
  rw [Int64.lt_iff_toInt_lt, toInt_eight size, leInt, size, Int.bmod_def]
  have zero : (0 : Int64).toInt = 0 := rfl
  rw [zero]
  split <;> omega

/-- The unsigned number that a signed one that is not negative is cast to. -/
theorem toNat_toUInt64_of_nonneg {amount : Int64} (nonneg : 0 ≤ amount.toInt) :
    (amount.toUInt64.toNat : Int) = amount.toInt := by
  have upper := amount.toInt_lt
  rw [Int64.toInt, BitVec.toInt_eq_toNat_bmod, Int.bmod_def] at *
  show (amount.toBitVec.toNat : Int) = _
  have small := amount.toBitVec.isLt
  split at nonneg <;> omega

/-- Widening to 64 bits and narrowing again changes nothing. -/
theorem toInt16_toInt64_toUInt64 (value : UInt16) :
    value.toUInt64.toInt64.toInt16 = value.toInt16 := by
  have small := value.toNat_lt
  have wide : value.toUInt64.toInt64.toInt = value.toNat := by
    rw [Int64.toInt, UInt64.toBitVec_toInt64, BitVec.toInt_eq_toNat_bmod, UInt64.toNat_toBitVec,
      UInt16.toNat_toUInt64, Int.bmod_eq_of_le (by omega) (by omega)]
  apply Int16.toInt_inj.mp
  rw [Int64.toInt_toInt16, wide, Int16.toInt, UInt16.toBitVec_toInt16,
    BitVec.toInt_eq_toNat_bmod, UInt16.toNat_toBitVec]

example : leInt [0xFE, 0xFF] = -2 := by decide
example : beNat [0x0C, 0x14] = 0x0C14 := by decide
example : leBytes 4 860833102 = [0x4E, 0x45, 0x4F, 0x33] := by decide

end ByteOrder
