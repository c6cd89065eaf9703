import Mathlib.Data.Nat.Digits.Lemmas

/-!
# Decimal text of numbers

The decimal digits of a natural number, and its rendering with a point before
the last `decimals` digits. A number of at least `10 ^ count` has the digits of
its quotient followed by its last `count` digits (`digits_split`), and a smaller
one has those last digits up to leading zeros (`padded_of_lt`); the two facts
cover the two ways in which a point can be placed.
-/

set_option autoImplicit false

namespace DecimalText

/-- The decimal digits of a number, without leading zeros. -/
abbrev digits (n : Nat) : List Char := Nat.toDigits 10 n

/-- The last `count` decimal digits of a number, with leading zeros. -/
def padded : Nat → Nat → List Char
  | 0, _ => []
  | count + 1, n => (n / 10 ^ count % 10).digitChar :: padded count n

/-- The decimal text of `n / 10 ^ decimals`: the integer part, a point, and
exactly `decimals` digits, or one zero when `decimals` is zero. -/
def fixedPoint (decimals n : Nat) : List Char :=
  digits (n / 10 ^ decimals) ++
    '.' :: (if decimals = 0 then ['0'] else padded decimals n)

/-- The decimal text of `v / 10 ^ decimals` for a signed number. -/
def signedFixedPoint (decimals : Nat) (v : Int) : List Char :=
  if v < 0 then '-' :: fixedPoint decimals v.natAbs else fixedPoint decimals v.natAbs

theorem padded_succ (count n : Nat) :
    padded (count + 1) n = (n / 10 ^ count % 10).digitChar :: padded count n := rfl

theorem length_padded (count n : Nat) : (padded count n).length = count := by
  induction count with
  | zero => rfl
  | succ count ih => rw [padded, List.length_cons, ih]

theorem digits_ne_nil (n : Nat) : digits n ≠ [] := Nat.toDigits_ne_nil

theorem length_digits_pos (n : Nat) : 0 < (digits n).length := Nat.length_toDigits_pos

/-- A number has at most `count` digits exactly when it is below `10 ^ count`. -/
theorem length_digits_le_iff {n count : Nat} (positive : 0 < count) :
    (digits n).length ≤ count ↔ n < 10 ^ count :=
  Nat.length_toDigits_le_iff (by decide) positive

/-- One more digit at the end. -/
theorem digits_snoc {n : Nat} (large : 10 ≤ n) :
    digits n = digits (n / 10) ++ [(n % 10).digitChar] :=
  Nat.toDigits_of_base_le (by decide) large

/-- **A number of at least `10 ^ count` is its quotient followed by its last
`count` digits.** -/
theorem digits_split {n : Nat} :
    ∀ {count : Nat}, 10 ^ count ≤ n → digits n = digits (n / 10 ^ count) ++ padded count n
  | 0, _ => by simp [padded]
  | count + 1, large => by
      have smaller : 10 ^ count ≤ n :=
        (Nat.pow_le_pow_right (by decide) (Nat.le_succ count)).trans large
      have quotient : 10 ≤ n / 10 ^ count := by
        rw [Nat.le_div_iff_mul_le (Nat.pow_pos (by decide)), Nat.mul_comm, ← Nat.pow_succ]
        exact large
      have shift : n / 10 ^ count / 10 = n / 10 ^ (count + 1) := by
        rw [Nat.div_div_eq_div_mul, Nat.pow_succ]
      rw [digits_split smaller, digits_snoc quotient, shift, padded, List.append_assoc]
      rfl

/-- A number below `10 ^ count` is its last `count` digits up to leading zeros. -/
theorem padded_of_lt {n : Nat} :
    ∀ {count : Nat}, 0 < count → n < 10 ^ count →
      padded count n = List.replicate (count - (digits n).length) '0' ++ digits n
  | 0, positive, _ => absurd positive (Nat.lt_irrefl 0)
  | 1, _, small => by
      have single : digits n = [n.digitChar] := Nat.toDigits_of_lt_base (by simpa using small)
      have same : n / 10 ^ 0 % 10 = n := by
        rw [Nat.pow_zero, Nat.div_one, Nat.mod_eq_of_lt (by simpa using small)]
      simp only [single, padded, same, List.length_singleton]
      rfl
  | count + 2, _, small => by
      by_cases smaller : n < 10 ^ (count + 1)
      · have short : (digits n).length ≤ count + 1 :=
          (length_digits_le_iff (Nat.succ_pos count)).mpr smaller
        have leading : n / 10 ^ (count + 1) % 10 = 0 := by
          rw [Nat.div_eq_of_lt smaller]
        have zeros : count + 2 - (digits n).length = (count + 1 - (digits n).length) + 1 := by
          omega
        rw [padded_succ, padded_of_lt (Nat.succ_pos count) smaller, leading, zeros,
          List.replicate_succ]
        rfl
      · have large : 10 ^ (count + 1) ≤ n := Nat.le_of_not_lt smaller
        have quotient : n / 10 ^ (count + 1) < 10 := by
          rw [Nat.div_lt_iff_lt_mul (Nat.pow_pos (by decide)), Nat.mul_comm, ← Nat.pow_succ]
          exact small
        have single : digits (n / 10 ^ (count + 1)) = [(n / 10 ^ (count + 1)).digitChar] :=
          Nat.toDigits_of_lt_base quotient
        have whole : digits n = padded (count + 2) n := by
          rw [digits_split large, single, padded_succ (count + 1), Nat.mod_eq_of_lt quotient]
          rfl
        rw [whole, length_padded, Nat.sub_self]
        rfl

/-- Digits are not the terminating character. -/
theorem nul_not_mem_digits (n : Nat) : Char.ofNat 0 ∉ digits n := by
  intro member
  have digit := Nat.isDigit_of_mem_toDigits (by decide) (by decide) member
  exact absurd digit (by decide)

theorem nul_not_mem_padded (count n : Nat) : Char.ofNat 0 ∉ padded count n := by
  induction count with
  | zero => simp [padded]
  | succ count ih =>
      rw [padded, List.mem_cons, not_or]
      refine ⟨fun same => ?_, ih⟩
      have digit : (n / 10 ^ count % 10).digitChar.isDigit = true := by
        rw [Nat.isDigit_digitChar, decide_eq_true_eq]
        exact Nat.mod_lt _ (by decide)
      rw [← same] at digit
      exact absurd digit (by decide)

theorem nul_not_mem_fixedPoint (decimals n : Nat) : Char.ofNat 0 ∉ fixedPoint decimals n := by
  rw [fixedPoint, List.mem_append, List.mem_cons, not_or, not_or]
  refine ⟨nul_not_mem_digits _, by decide, ?_⟩
  split
  · decide
  · exact nul_not_mem_padded _ _

/-- The first digit of a number. -/
theorem head_digits (n : Nat) : ∃ first rest, digits n = first :: rest ∧ first.isDigit = true := by
  obtain ⟨first, rest, same⟩ := List.exists_cons_of_ne_nil (digits_ne_nil n)
  exact ⟨first, rest, same,
    Nat.isDigit_of_mem_toDigits (by decide) (by decide) (same ▸ List.mem_cons_self)⟩

/-- **The digits determine the number.** -/
theorem digits_inj {first second : Nat} (same : digits first = digits second) :
    first = second := by
  have numbers := congrArg (fun chars => Nat.ofDigitChars 10 chars 0) same
  simpa only [Nat.ofDigitChars_ten_toDigits] using numbers

/-- The first character of an unsigned rendering is not the minus sign. -/
theorem head_fixedPoint_ne_minus (decimals n : Nat) :
    (fixedPoint decimals n).head? ≠ some '-' := by
  intro minus
  obtain ⟨first, rest, same, digit⟩ := head_digits (n / 10 ^ decimals)
  rw [fixedPoint, same] at minus
  have firstMinus : first = '-' := by simpa using minus
  rw [firstMinus] at digit
  exact absurd digit (by decide)

example : fixedPoint 8 1 = "0.00000001".toList := by decide
example : fixedPoint 0 12 = "12.0".toList := by decide

end DecimalText
