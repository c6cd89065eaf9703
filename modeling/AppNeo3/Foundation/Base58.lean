import AppNeo3.Foundation.ByteOrder

/-!
# Base-58 text of byte strings

A byte string, read as a number with its highest byte first, is written in base
58, with one `1` in front for every zero byte at its start. The length of the
text of a byte string that starts with a given non-zero byte lies between bounds
on its number (`length_encode`), and decoding the text gives the byte string back
(`decode_encode`).
-/

set_option autoImplicit false

namespace Base58

open ByteOrder

/-- The 58 digits. -/
def alphabet : List Char :=
  ['1', '2', '3', '4', '5', '6', '7', '8', '9', 'A', 'B', 'C', 'D', 'E', 'F', 'G', 'H', 'J', 'K',
    'L', 'M', 'N', 'P', 'Q', 'R', 'S', 'T', 'U', 'V', 'W', 'X', 'Y', 'Z', 'a', 'b', 'c', 'd', 'e',
    'f', 'g', 'h', 'i', 'j', 'k', 'm', 'n', 'o', 'p', 'q', 'r', 's', 't', 'u', 'v', 'w', 'x', 'y',
    'z']

/-- The character of a digit. -/
def symbol (digit : Nat) : Char := alphabet.getD digit '1'

/-- The base-58 text of a byte string. -/
def encode (bytes : List UInt8) : List Char :=
  List.replicate (bytes.takeWhile (· == 0)).length '1' ++
    (Nat.digits 58 (beNat bytes)).reverse.map symbol

/-- The digit of a character. -/
def digitOf (c : Char) : Nat := alphabet.idxOf c

theorem digitOf_symbol {digit : Nat} (small : digit < 58) : digitOf (symbol digit) = digit := by
  have every : ∀ d ∈ List.range 58, digitOf (symbol d) = d := by decide +kernel
  exact every digit (List.mem_range.mpr small)

/-- The characters of digits determine the digits. -/
theorem map_digitOf_symbol {digits : List Nat} (small : ∀ digit ∈ digits, digit < 58) :
    (digits.map symbol).map digitOf = digits := by
  rw [List.map_map]
  refine (List.map_congr_left fun digit member => ?_).trans (List.map_id digits)
  exact digitOf_symbol (small digit member)

theorem symbol_mem (digit : Nat) : symbol digit ∈ alphabet := by
  rw [symbol, List.getD_eq_getElem?_getD]
  cases found : alphabet[digit]? with
  | none => decide
  | some c => exact List.mem_of_getElem? found

/-- The text is made of digits. -/
theorem mem_alphabet_of_mem_encode {bytes : List UInt8} {c : Char} (member : c ∈ encode bytes) :
    c ∈ alphabet := by
  rcases List.mem_append.mp member with one | digit
  · rw [List.eq_of_mem_replicate one]
    decide
  · obtain ⟨value, _, rfl⟩ := List.mem_map.mp digit
    exact symbol_mem value

/-- Without zero bytes in front the text is the digits of the number. -/
theorem encode_of_ne_zero {head : UInt8} (nonzero : head ≠ 0) (tail : List UInt8) :
    encode (head :: tail) = (Nat.digits 58 (beNat (head :: tail))).reverse.map symbol := by
  have none_zero : (head :: tail).takeWhile (· == 0) = [] := by
    rw [List.takeWhile_cons, if_neg (by simpa using nonzero)]
  rw [encode, none_zero]
  rfl

/-- **The length of the text**, from bounds on the numbers that start with `head`. -/
theorem length_encode {head : UInt8} {tail : List UInt8} {len : Nat} (nonzero : head ≠ 0)
    (lower : 58 ^ len ≤ head.toNat * 256 ^ tail.length)
    (upper : (head.toNat + 1) * 256 ^ tail.length ≤ 58 ^ (len + 1)) :
    (encode (head :: tail)).length = len + 1 := by
  have value := beNat_cons head tail
  have tailSmall := beNat_lt tail
  have above : len < (Nat.digits 58 (beNat (head :: tail))).length :=
    (Nat.lt_digits_length_iff (by decide) _).mpr (by rw [value]; omega)
  have below : ¬ len + 1 < (Nat.digits 58 (beNat (head :: tail))).length := by
    rw [Nat.lt_digits_length_iff (by decide), value]
    have := Nat.add_mul head.toNat 1 (256 ^ tail.length)
    omega
  rw [encode_of_ne_zero nonzero, List.length_map, List.length_reverse]
  omega

/-! ## Decoding -/

/-- The bytes of a number, highest byte first, without zero bytes in front. -/
def numberBytes (n : Nat) : List UInt8 := (Nat.digits 256 n).reverse.map UInt8.ofNat

/-- The byte string of a text, when all of its characters are digits: a zero byte
for every `1` at its start, and the bytes of its number. -/
def decode (text : List Char) : Option (List UInt8) :=
  if text.all alphabet.contains then
    some (List.replicate (text.takeWhile (· == '1')).length 0 ++
      numberBytes (Nat.ofDigits 58 (text.map digitOf).reverse))
  else none

/-- The zero bytes in front, and the rest. -/
theorem zeros_append (bytes : List UInt8) :
    List.replicate (bytes.takeWhile (· == 0)).length 0 ++ bytes.dropWhile (· == 0) = bytes := by
  have zeros : bytes.takeWhile (· == 0) =
      List.replicate (bytes.takeWhile (· == 0)).length 0 :=
    List.eq_replicate_of_mem fun byte member => by
      have zero := List.all_eq_true.mp (List.all_takeWhile (p := (· == 0)) (l := bytes)) byte member
      exact eq_of_beq zero
  rw [← zeros, List.takeWhile_append_dropWhile]

/-- Zero bytes in front do not change the number. -/
theorem beNat_zeros (count : Nat) (bytes : List UInt8) :
    beNat (List.replicate count 0 ++ bytes) = beNat bytes := by
  induction count with
  | zero => rfl
  | succ count ih => rw [List.replicate_succ, List.cons_append, beNat_cons, ih, UInt8.toNat_zero,
      Nat.zero_mul, Nat.zero_add]

/-- Bytes that do not start with zero are those of their number. -/
theorem numberBytes_beNat {bytes : List UInt8} (nonzero : bytes.head? ≠ some 0) :
    numberBytes (beNat bytes) = bytes := by
  have small : ∀ digit ∈ bytes.reverse.map UInt8.toNat, digit < 256 := by
    intro digit member
    obtain ⟨byte, _, rfl⟩ := List.mem_map.mp member
    exact byte.toNat_lt
  have last : ∀ nonempty : bytes.reverse.map UInt8.toNat ≠ [],
      (bytes.reverse.map UInt8.toNat).getLast nonempty ≠ 0 := by
    intro nonempty zero
    cases bytes with
    | nil => exact nonempty rfl
    | cons head tail =>
        simp only [List.reverse_cons, List.map_append, List.map_cons, List.map_nil,
          List.getLast_append_singleton] at zero
        exact nonzero (congrArg some (UInt8.toNat_inj.mp zero))
  rw [numberBytes, beNat, leNat, Nat.digits_ofDigits 256 (by decide) _ small last]
  rw [← List.map_reverse, List.reverse_reverse, List.map_map]
  exact (List.map_congr_left fun byte _ => UInt8.ofNat_toNat).trans (List.map_id bytes)

/-- Without a zero digit in front the text of digits does not start with `1`. -/
theorem takeWhile_symbols (n : Nat) :
    ((Nat.digits 58 n).reverse.map symbol).takeWhile (· == '1') = [] := by
  cases digits : (Nat.digits 58 n).reverse with
  | nil => rfl
  | cons first others =>
      have list : Nat.digits 58 n = others.reverse ++ [first] := by
        rw [← List.reverse_reverse (Nat.digits 58 n), digits, List.reverse_cons]
      have positive : n ≠ 0 := by
        rintro rfl
        rw [Nat.digits_zero] at list
        exact List.append_ne_nil_of_right_ne_nil _ (List.cons_ne_nil _ _) list.symm
      have nonzero : first ≠ 0 := by
        have last := Nat.getLast_digit_ne_zero 58 positive
        simpa only [list, List.getLast_append_singleton] using last
      have member : first ∈ Nat.digits 58 n := by
        rw [list]
        exact List.mem_append_right _ (List.mem_singleton.mpr rfl)
      have small : first < 58 := Nat.digits_lt_base (by decide) member
      have other : symbol first ≠ '1' := fun one => nonzero
        ((digitOf_symbol small).symm.trans (congrArg digitOf one))
      rw [List.map_cons, List.takeWhile_cons, if_neg (by simpa using other)]

/-- **Decoding the text of a byte string gives the byte string.** -/
theorem decode_encode (bytes : List UInt8) : decode (encode bytes) = some bytes := by
  have small : ∀ digit ∈ (Nat.digits 58 (beNat bytes)).reverse, digit < 58 := fun digit member =>
    Nat.digits_lt_base (by decide) (List.mem_reverse.mp member)
  have ones : (encode bytes).takeWhile (· == '1') =
      List.replicate (bytes.takeWhile (· == 0)).length '1' := by
    rw [encode, List.takeWhile_append_of_pos fun c member => by
      rw [List.eq_of_mem_replicate member]
      rfl, takeWhile_symbols, List.append_nil]
  have number : Nat.ofDigits 58 ((encode bytes).map digitOf).reverse = beNat bytes := by
    have one : digitOf '1' = 0 := rfl
    rw [encode, List.map_append, map_digitOf_symbol small, List.map_replicate, one,
      List.reverse_append, List.reverse_reverse, List.reverse_replicate,
      Nat.ofDigits_append_replicate_zero, Nat.ofDigits_digits]
  have rest : (bytes.dropWhile (· == 0)).head? ≠ some 0 := by
    intro zero
    have stops := List.head?_dropWhile_not (· == 0) bytes
    rw [zero] at stops
    exact absurd stops (by decide)
  have value : beNat bytes = beNat (bytes.dropWhile (· == 0)) := by
    conv_lhs => rw [← zeros_append bytes]
    exact beNat_zeros _ _
  have digits : (encode bytes).all alphabet.contains = true :=
    List.all_eq_true.mpr fun c member =>
      List.contains_iff_mem.mpr (mem_alphabet_of_mem_encode member)
  rw [decode, if_pos digits, ones, number,
    List.length_replicate, value, numberBytes_beNat rest, zeros_append]

/-- **The text determines the byte string.** -/
theorem encode_inj {first second : List UInt8} (same : encode first = encode second) :
    first = second := by
  have decoded := congrArg decode same
  rw [decode_encode, decode_encode] at decoded
  exact Option.some.inj decoded

example : encode [0, 0x39] = ['1', 'z'] := by decide +kernel

end Base58
