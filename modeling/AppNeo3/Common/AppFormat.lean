import AppNeo3.Sdk.Reference

/-!
# Formatting amounts

`formatAmount` writes a number with a decimal point to a character buffer. It
writes no terminator of its own in front of or behind the fraction, so its
result is a string only in a buffer that holds terminators behind what it
writes. In a zeroed buffer with room for the digits, the point, the decimals and
one terminator, the string is the exact decimal text (`formatAmount_text`).
-/

set_option autoImplicit false

namespace AppNeo3

open Memory CText DecimalText

variable {n : Nat}

/-- The branch for a number of at most `decimals` digits. -/
def formatAmountBelowOne (dst : Area Char n) (buffer : List Char) (decimals : Nat)
    (small : strlen buffer ≤ decimals) : Bool × Area Char n :=
  if room : n ≤ 2 + decimals - strlen buffer then (false, dst)
  else
    let zeros := decimals - strlen buffer
    let dst := dst.write 0 ['0', '.'] (by simp only [List.length_cons, List.length_nil]; omega)
    let dst := dst.write 2 (List.replicate zeros '0') (by rw [List.length_replicate]; omega)
    (true, strncpy dst (2 + zeros) (text buffer) (n - (2 + zeros)) (by omega))

/-- The branch for a number of more than `decimals` digits. -/
def formatAmountFromOne (dst : Area Char n) (buffer : List Char) (decimals : Nat) :
    Bool × Area Char n :=
  if room : n ≤ strlen buffer + 1 + decimals then (false, dst)
  else
    let shift := strlen buffer - decimals
    let dst := dst.write 0 (buffer.take shift) (by rw [List.length_take]; omega)
    let dst := dst.write shift ['.'] (by rw [List.length_singleton]; omega)
    if decimals = 0 then
      (true, dst.write (shift + 1) ['0'] (by rw [List.length_singleton]; omega))
    else (true, strncpy dst (shift + 1) (text (buffer.drop shift)) decimals (by omega))

/-- Format a 64-bit unsigned integer as string with decimals. -/
def formatAmount (sdk : Sdk) (dst : Area Char n) (value : UInt64) (decimals : UInt8) :
    Bool × Area Char n :=
  let (formatted, buffer) := sdk.formatU64 (Area.fill 21 nul) value
  if !formatted then (false, dst)
  else if small : strlen buffer.cells ≤ decimals.toNat then
    formatAmountBelowOne dst buffer.cells decimals.toNat small
  else formatAmountFromOne dst buffer.cells decimals.toNat

/-! ## The formatter in memory -/

/-- The loop that writes zeros, one at each turn. -/
def writeZeros : Nat → Nat → List Char → List Char
  | 0, _, memory => memory
  | count + 1, dst, memory => writeZeros count (dst + 1) (overwrite memory dst ['0'])

/-- The branch for a number of at most `decimals` digits, on the `dstLen` characters
at `dst` in a memory. No write is checked against the end of the destination. -/
def formatAmountBelowOneIn (memory : List Char) (dst dstLen : Nat) (buffer : List Char)
    (decimals : Nat) : Bool × List Char :=
  let written := 2 + decimals - strlen buffer
  if dstLen ≤ written then (false, memory)
  else
    let memory := overwrite memory dst ['0']
    let memory := overwrite memory (dst + 1) ['.']
    let memory := writeZeros (decimals - strlen buffer) (dst + 2) memory
    (true, overwrite memory (dst + written) (strncpyData (text buffer) (dstLen - written)))

/-- The branch for a number of more than `decimals` digits, in a memory. -/
def formatAmountFromOneIn (memory : List Char) (dst dstLen : Nat) (buffer : List Char)
    (decimals : Nat) : Bool × List Char :=
  if dstLen ≤ strlen buffer + 1 + decimals then (false, memory)
  else
    let shift := strlen buffer - decimals
    let memory := overwrite memory dst (buffer.take shift)
    let memory := overwrite memory (dst + shift) ['.']
    if decimals = 0 then (true, overwrite memory (dst + shift + 1) ['0'])
    else (true, overwrite memory (dst + shift + 1) (strncpyData (text (buffer.drop shift)) decimals))

/-- The formatter in a memory. -/
def formatAmountIn (sdk : Sdk) (memory : List Char) (dst dstLen : Nat) (value : UInt64)
    (decimals : UInt8) : Bool × List Char :=
  let (formatted, buffer) := sdk.formatU64 (Area.fill 21 nul) value
  if !formatted then (false, memory)
  else if strlen buffer.cells ≤ decimals.toNat then
    formatAmountBelowOneIn memory dst dstLen buffer.cells decimals.toNat
  else formatAmountFromOneIn memory dst dstLen buffer.cells decimals.toNat

/-- What a formatter leaves in its destination, in a memory that is otherwise the
same. -/
def within (front back : List Char) (result : Bool × Area Char n) : Bool × List Char :=
  (result.1, front ++ result.2.cells ++ back)

/-- The zeros are one write. -/
theorem writeZeros_eq : ∀ (count : Nat) {dst : Nat} {memory : List Char}, dst ≤ memory.length →
    writeZeros count dst memory = overwrite memory dst (List.replicate count '0')
  | 0, dst, memory, inside => by
      rw [writeZeros, List.replicate_zero, overwrite, List.append_nil, List.length_nil,
        Nat.add_zero, List.take_append_drop]
  | count + 1, dst, memory, inside => by
      have longer : dst + 1 ≤ (overwrite memory dst ['0']).length := by
        simp only [overwrite, List.length_append, List.length_take, List.length_singleton]
        omega
      have follows : dst + 1 = dst + ['0'].length := rfl
      rw [writeZeros, writeZeros_eq count longer, overwrite_overwrite inside follows]
      rfl

section Within

variable {front back : List Char} {dest : Area Char n} {buffer : List Char} {decimals : Nat}

/-- The first branch writes four times, and together it fills the destination. -/
theorem formatAmountBelowOneIn_eq (small : strlen buffer ≤ decimals) :
    formatAmountBelowOneIn (front ++ dest.cells ++ back) front.length n buffer decimals =
      within front back (formatAmountBelowOne dest buffer decimals small) := by
  have written : 2 + decimals - strlen buffer = 2 + (decimals - strlen buffer) := by omega
  rw [formatAmountBelowOneIn, formatAmountBelowOne]
  by_cases tight : n ≤ 2 + decimals - strlen buffer
  · rw [if_pos tight, dif_pos tight]
    rfl
  have size := dest.size_eq
  have prefixSize : (['0'] ++ ['.'] ++ List.replicate (decimals - strlen buffer) '0').length =
      2 + (decimals - strlen buffer) := by
    simp only [List.length_append, List.length_singleton, List.length_replicate]
  have inside : front.length ≤ (front ++ dest.cells ++ back).length := by
    simp only [List.length_append]
    omega
  have longer : front.length + 2 ≤
      (overwrite (front ++ dest.cells ++ back) front.length (['0'] ++ ['.'])).length := by
    simp only [overwrite, List.length_append, List.length_take, List.length_singleton]
    omega
  have fits : 0 + (['0'] ++ ['.'] ++ List.replicate (decimals - strlen buffer) '0' ++
      strncpyData (text buffer) (n - (2 + (decimals - strlen buffer)))).length ≤
        dest.cells.length := by
    rw [List.length_append, prefixSize, length_strncpyData]
    omega
  have point : front.length + 1 = front.length + ['0'].length := rfl
  have zeros : front.length + 2 = front.length + (['0'] ++ ['.']).length := rfl
  have number : front.length + (2 + (decimals - strlen buffer)) = front.length +
      (['0'] ++ ['.'] ++ List.replicate (decimals - strlen buffer) '0').length := by
    rw [prefixSize]
  have zerosIn : 2 = 0 + ['0', '.'].length := rfl
  have numberIn : 2 + (decimals - strlen buffer) =
      0 + (['0', '.'] ++ List.replicate (decimals - strlen buffer) '0').length :=
    Nat.zero_add _ ▸ prefixSize.symm
  rw [if_neg tight, dif_neg tight, within]
  simp only [strncpy, Area.write_cells, written]
  rw [overwrite_overwrite inside point, writeZeros_eq _ longer, overwrite_overwrite inside zeros,
    overwrite_overwrite inside number, ← Nat.add_zero front.length, overwrite_middle fits,
    overwrite_overwrite (Nat.zero_le _) zerosIn, overwrite_overwrite (Nat.zero_le _) numberIn]
  rfl

/-- The second branch writes three times, each time inside the destination. -/
theorem formatAmountFromOneIn_eq (large : decimals < strlen buffer) :
    formatAmountFromOneIn (front ++ dest.cells ++ back) front.length n buffer decimals =
      within front back (formatAmountFromOne dest buffer decimals) := by
  rw [formatAmountFromOneIn, formatAmountFromOne]
  by_cases tight : n ≤ strlen buffer + 1 + decimals
  · rw [if_pos tight, dif_pos tight]
    rfl
  have size := dest.size_eq
  have front_fits : 0 + (buffer.take (strlen buffer - decimals)).length ≤ dest.cells.length := by
    rw [List.length_take]
    omega
  have shifted := length_overwrite front_fits
  have point_fits : strlen buffer - decimals + ['.'].length ≤
      (overwrite dest.cells 0 (buffer.take (strlen buffer - decimals))).length := by
    rw [shifted, List.length_singleton]
    omega
  have pointed := length_overwrite point_fits
  have started := @overwrite_middle _ front dest.cells back
    (buffer.take (strlen buffer - decimals)) 0 front_fits
  rw [Nat.add_zero] at started
  rw [if_neg tight, dif_neg tight]
  simp only [strncpy]
  by_cases whole : decimals = 0
  · rw [if_pos whole, if_pos whole, within, started, overwrite_middle point_fits, Nat.add_assoc,
      overwrite_middle (by
        rw [pointed, shifted, List.length_singleton]
        omega)]
    rfl
  · rw [if_neg whole, if_neg whole, within, started, overwrite_middle point_fits, Nat.add_assoc,
      overwrite_middle (by
        rw [pointed, shifted, length_strncpyData]
        omega)]
    rfl

end Within

/-- **The formatter writes inside its destination**, and there it writes what
`formatAmount` writes. -/
theorem formatAmountIn_eq (sdk : Sdk) (front back : List Char) (dest : Area Char n)
    (value : UInt64) (decimals : UInt8) :
    formatAmountIn sdk (front ++ dest.cells ++ back) front.length n value decimals =
      within front back (formatAmount sdk dest value decimals) := by
  rw [formatAmountIn, formatAmount]
  cases sdk.formatU64 (Area.fill 21 nul) value with
  | mk formatted buffer =>
      cases formatted with
      | false => rfl
      | true =>
          simp only [Bool.not_true, Bool.false_eq_true, if_false]
          by_cases small : strlen buffer.cells ≤ decimals.toNat
          · rw [if_pos small, dif_pos small, formatAmountBelowOneIn_eq small]
          · rw [if_neg small, dif_neg small,
              formatAmountFromOneIn_eq (Nat.lt_of_not_le small)]

/-! ## The string in a zeroed buffer -/

/-- Every 64-bit number has at most 20 digits. -/
theorem length_digits_toNat (value : UInt64) : (digits value.toNat).length ≤ 20 := by
  have small := value.toNat_lt
  exact (length_digits_le_iff (by decide)).mpr (by omega)

/-- Data at the start of a zeroed buffer is its string, when the data ends with
terminators or leaves room for one. -/
theorem text_overwrite_zeroed {data : List Char} {terminators : Nat} (clean : nul ∉ data)
    (room : data.length < n) :
    text (overwrite (List.replicate n nul) 0 (data ++ List.replicate terminators nul)) = data := by
  have behind : ∃ rest, List.replicate terminators nul ++
      (List.replicate n nul).drop (data ++ List.replicate terminators nul).length =
      nul :: rest := by
    rw [List.drop_replicate, List.replicate_append_replicate, List.length_append,
      List.length_replicate]
    obtain ⟨count, positive⟩ : ∃ count,
        terminators + (n - (data.length + terminators)) = count + 1 :=
      ⟨terminators + (n - (data.length + terminators)) - 1, by omega⟩
    rw [positive]
    exact ⟨_, List.replicate_succ⟩
  obtain ⟨rest, split⟩ := behind
  rw [overwrite_zero, List.append_assoc, split, text_terminated clean]

theorem formatAmountBelowOne_text {buffer : List Char} {value decimals : Nat}
    (shown : text buffer = digits value) (small : strlen buffer ≤ decimals)
    (room : 2 + decimals < n) :
    ∃ area, formatAmountBelowOne (Area.fill n nul) buffer decimals small = (true, area) ∧
      text area.cells = fixedPoint decimals value := by
  have len : strlen buffer = (digits value).length := by rw [strlen, shown]
  have positive := length_digits_pos value
  have below : value < 10 ^ decimals := (length_digits_le_iff (by omega)).mp (by omega)
  have rendered : fixedPoint decimals value =
      ['0', '.'] ++ List.replicate (decimals - strlen buffer) '0' ++ digits value := by
    rw [fixedPoint, Nat.div_eq_of_lt below, if_neg (by omega), padded_of_lt (by omega) below, len]
    rfl
  have whole : (digits value).take (n - (2 + (decimals - strlen buffer))) = digits value :=
    List.take_of_length_le (by omega)
  have second : 2 = 0 + ['0', '.'].length := rfl
  have third : 2 + (decimals - strlen buffer) =
      0 + (['0', '.'] ++ List.replicate (decimals - strlen buffer) '0').length := by
    simp only [List.length_append, List.length_cons, List.length_nil, List.length_replicate]
    omega
  refine ⟨_, by rw [formatAmountBelowOne, dif_neg (by omega)], ?_⟩
  simp only [strncpy, strncpyData, Area.write_cells, Area.fill, shown, whole]
  rw [overwrite_overwrite (Nat.zero_le _) second, overwrite_overwrite (Nat.zero_le _) third,
    ← List.append_assoc, ← rendered]
  refine text_overwrite_zeroed (nul_not_mem_fixedPoint _ _) ?_
  rw [rendered, List.length_append, ← Nat.zero_add (List.length (['0', '.'] ++ _)), ← third]
  omega

theorem formatAmountFromOne_text {buffer : List Char} {value decimals : Nat}
    (shown : text buffer = digits value) (large : decimals < strlen buffer)
    (room : strlen buffer + 1 + max 1 decimals < n) :
    ∃ area, formatAmountFromOne (Area.fill n nul) buffer decimals = (true, area) ∧
      text area.cells = fixedPoint decimals value := by
  have len : strlen buffer = (digits value).length := by rw [strlen, shown]
  have front : buffer.take (strlen buffer - decimals) =
      (digits value).take (strlen buffer - decimals) := by
    rw [take_eq_take_text (by omega), shown]
  have back : text (buffer.drop (strlen buffer - decimals)) =
      (digits value).drop (strlen buffer - decimals) := by
    rw [text_drop (by omega), shown]
  have second : strlen buffer - decimals =
      0 + ((digits value).take (strlen buffer - decimals)).length := by
    rw [List.length_take]
    omega
  have third : strlen buffer - decimals + 1 =
      0 + ((digits value).take (strlen buffer - decimals) ++ ['.']).length := by
    rw [List.length_append, List.length_singleton, ← Nat.add_assoc, ← second]
  rw [formatAmountFromOne, dif_neg (by omega)]
  by_cases whole : decimals = 0
  · subst whole
    have all : (digits value).take (strlen buffer - 0) = digits value :=
      List.take_of_length_le (by omega)
    have rendered : fixedPoint 0 value = digits value ++ ['.'] ++ ['0'] := by
      simp [fixedPoint]
    refine ⟨_, if_pos rfl, ?_⟩
    simp only [Area.write_cells, Area.fill, front]
    rw [overwrite_overwrite (Nat.zero_le _) second, overwrite_overwrite (Nat.zero_le _) third, all,
      ← rendered]
    have fits : (fixedPoint 0 value).length < n := by
      simp only [rendered, List.length_append, List.length_singleton]
      omega
    have shownWhole := @text_overwrite_zeroed n _ 0 (nul_not_mem_fixedPoint 0 value) fits
    rwa [List.replicate_zero, List.append_nil] at shownWhole
  · have positive : 0 < decimals := Nat.pos_of_ne_zero whole
    have least : 10 ^ decimals ≤ value := Nat.le_of_not_lt fun below => by
      have := (length_digits_le_iff positive).mpr below
      omega
    have split := digits_split least
    have fraction := length_padded decimals value
    have size : strlen buffer - decimals = (digits (value / 10 ^ decimals)).length := by
      rw [len, split, List.length_append]
      omega
    have rendered : fixedPoint decimals value =
        (digits value).take (strlen buffer - decimals) ++ ['.'] ++
          (digits value).drop (strlen buffer - decimals) := by
      rw [size, split, List.take_left, List.drop_left, fixedPoint, if_neg whole, List.append_assoc]
      rfl
    have cut : ((digits value).drop (strlen buffer - decimals)).take decimals =
        (digits value).drop (strlen buffer - decimals) :=
      List.take_of_length_le (by rw [List.length_drop]; omega)
    refine ⟨_, if_neg whole, ?_⟩
    simp only [strncpy, strncpyData, Area.write_cells, Area.fill, front, back, cut]
    rw [overwrite_overwrite (Nat.zero_le _) second, overwrite_overwrite (Nat.zero_le _) third,
      ← List.append_assoc, ← rendered]
    refine text_overwrite_zeroed (nul_not_mem_fixedPoint _ _) ?_
    simp only [rendered, List.length_append, List.length_take, List.length_drop,
      List.length_singleton]
    omega

section Formatted

variable (sdk : Sdk) {value : UInt64} {decimals : UInt8}

/-- The digits that the formatter starts from. -/
theorem formatAmount_digits (dest : Area Char n) : ∃ buffer : List Char,
    text buffer = digits value.toNat ∧ strlen buffer = (digits value.toNat).length ∧
      formatAmount sdk dest value decimals =
        if small : strlen buffer ≤ decimals.toNat then
          formatAmountBelowOne dest buffer decimals.toNat small
        else formatAmountFromOne dest buffer decimals.toNat := by
  have short : (digits value.toNat).length < 21 := Nat.lt_succ_of_le (length_digits_toNat value)
  have shown : text (strcpy (Area.fill 21 nul) (digits value.toNat) short).cells =
      digits value.toNat := text_strcpy short (nul_not_mem_digits _)
  refine ⟨_, shown, congrArg List.length shown, ?_⟩
  simp only [formatAmount, sdk.formatU64_eq _ value short, Bool.not_true, Bool.false_eq_true,
    if_false]

/-- **When the formatter reports success**, from the number of digits. -/
theorem formatAmount_succeeds_iff (dest : Area Char n) :
    (formatAmount sdk dest value decimals).1 = true ↔
      if (digits value.toNat).length ≤ decimals.toNat then
        2 + decimals.toNat - (digits value.toNat).length < n
      else (digits value.toNat).length + 1 + decimals.toNat < n := by
  obtain ⟨buffer, _, len, formatted⟩ := @formatAmount_digits _ sdk value decimals dest
  rw [formatted, ← len]
  by_cases small : strlen buffer ≤ decimals.toNat
  · rw [dif_pos small, if_pos small, formatAmountBelowOne]
    by_cases tight : n ≤ 2 + decimals.toNat - strlen buffer
    · rw [dif_pos tight]
      exact ⟨nofun, fun room => absurd tight (Nat.not_le.mpr room)⟩
    · rw [dif_neg tight]
      exact ⟨fun _ => Nat.lt_of_not_le tight, fun _ => rfl⟩
  · rw [dif_neg small, if_neg small, formatAmountFromOne]
    by_cases tight : n ≤ strlen buffer + 1 + decimals.toNat
    · rw [dif_pos tight]
      exact ⟨nofun, fun room => absurd tight (Nat.not_le.mpr room)⟩
    · rw [dif_neg tight]
      refine ⟨fun _ => Nat.lt_of_not_le tight, fun _ => ?_⟩
      dsimp only
      split <;> rfl

/-- Room for the digits, the zeros in front of them, the point, the decimals and a
terminator. -/
def AmountRoom (n count decimals : Nat) : Prop :=
  if count ≤ decimals then 2 + decimals < n else count + 1 + max 1 decimals < n

/-- **In a zeroed buffer with enough room the string is the exact decimal text.** -/
theorem formatAmount_text (room : AmountRoom n (digits value.toNat).length decimals.toNat) :
    ∃ area, formatAmount sdk (Area.fill n nul) value decimals = (true, area) ∧
      text area.cells = fixedPoint decimals.toNat value.toNat := by
  obtain ⟨buffer, shown, len, formatted⟩ :=
    @formatAmount_digits n sdk value decimals (Area.fill n nul)
  rw [AmountRoom, ← len] at room
  rw [formatted]
  by_cases small : strlen buffer ≤ decimals.toNat
  · rw [if_pos small] at room
    rw [dif_pos small]
    exact formatAmountBelowOne_text shown small room
  · rw [if_neg small] at room
    rw [dif_neg small]
    exact formatAmountFromOne_text shown (Nat.lt_of_not_le small) room

end Formatted

/-! ## Success and a complete number -/

/-- The destination holds the complete decimal text, with its terminator inside. -/
def HoldsAmount (dest : List Char) (value decimals : Nat) : Prop :=
  nul ∈ dest ∧ text dest = fixedPoint decimals value

/-- When the formatter reports success on a zeroed destination, the memory around
the destination is as it was and the destination holds the complete number. -/
def FormatsWhole (sdk : Sdk) (n : Nat) (value : UInt64) (decimals : UInt8) : Prop :=
  ∀ front back memory : List Char,
    formatAmountIn sdk (front ++ List.replicate n nul ++ back) front.length n value decimals =
      (true, memory) →
    ∃ dest, dest.length = n ∧ memory = front ++ dest ++ back ∧
      HoldsAmount dest value.toNat decimals.toNat

/-- A destination that the formatter takes although the number and its terminator do
not fit: long enough for the zeros but not for the digits behind them, or one short
of the zero that stands for no decimals. -/
def CutShort (n : Nat) (value : UInt64) (decimals : UInt8) : Prop :=
  let count := (digits value.toNat).length
  (count ≤ decimals.toNat ∧ 2 + decimals.toNat - count < n ∧ n ≤ 2 + decimals.toNat) ∨
    (decimals = 0 ∧ n = count + 2)

theorem length_fixedPoint (decimals value : Nat) :
    (fixedPoint decimals value).length =
      (digits (value / 10 ^ decimals)).length + 1 + max 1 decimals := by
  rw [fixedPoint, List.length_append, List.length_cons]
  split
  · rename_i none
    rw [none]
    rfl
  · rw [length_padded]
    omega

/-- The text of a number of at most `decimals` digits. -/
theorem length_fixedPoint_of_le {decimals value : Nat}
    (small : (digits value).length ≤ decimals) :
    (fixedPoint decimals value).length = 2 + decimals := by
  have positive := length_digits_pos value
  have below : value < 10 ^ decimals := (length_digits_le_iff (by omega)).mp small
  have zero : (digits (value / 10 ^ decimals)).length = 1 := by
    rw [Nat.div_eq_of_lt below]
    rfl
  rw [length_fixedPoint, zero]
  omega

/-- The text of any number, from its digits. -/
theorem length_fixedPoint_le_digits (decimals value : Nat) :
    (fixedPoint decimals value).length ≤ (digits value).length + 1 + max 1 decimals := by
  have positive := length_digits_pos value
  have fewer : (digits (value / 10 ^ decimals)).length ≤ (digits value).length :=
    (length_digits_le_iff positive).mpr
      ((Nat.div_le_self _ _).trans_lt ((length_digits_le_iff positive).mp (Nat.le_refl _)))
  rw [length_fixedPoint]
  omega

/-- With enough room there is room for the text and a terminator. -/
theorem AmountRoom.length_lt {n decimals value : Nat}
    (room : AmountRoom n (digits value).length decimals) :
    (fixedPoint decimals value).length < n := by
  rw [AmountRoom] at room
  split at room
  · rename_i small
    rwa [length_fixedPoint_of_le small]
  · exact (length_fixedPoint_le_digits decimals value).trans_lt room

/-- A complete number is shorter than its destination. -/
theorem HoldsAmount.length_lt {dest : List Char} {value decimals : Nat}
    (holds : HoldsAmount dest value decimals) :
    (fixedPoint decimals value).length < dest.length := by
  obtain ⟨terminated, shown⟩ := holds
  refine Nat.lt_of_not_le fun full => ?_
  have whole : text dest = dest := by
    have split := text_append_rest dest
    have nothing : dest.dropWhile (· != nul) = [] := by
      refine List.eq_nil_of_length_eq_zero ?_
      have sizes := congrArg List.length split
      rw [List.length_append, shown] at sizes
      omega
    rw [nothing, List.append_nil] at split
    exact split
  exact nul_not_mem_text dest (whole.symm ▸ terminated)

/-- A success without a cut leaves room for the text. -/
theorem FormatsWhole.length_lt {sdk : Sdk} {value : UInt64} {decimals : UInt8}
    (whole : FormatsWhole sdk n value decimals)
    (succeeds : (formatAmount sdk (Area.fill n nul) value decimals).1 = true) :
    (fixedPoint decimals.toNat value.toNat).length < n := by
  obtain ⟨dest, size, _, holds⟩ := whole [] [] _
    ((formatAmountIn_eq sdk [] [] (Area.fill n nul) value decimals).trans
      (Prod.ext succeeds rfl))
  exact size ▸ holds.length_lt

/-- **The formatter never reports success for a cut-off number**, except on the
destinations that it takes although the number does not fit. -/
theorem formatsWhole_iff (sdk : Sdk) (n : Nat) (value : UInt64) (decimals : UInt8) :
    FormatsWhole sdk n value decimals ↔ ¬ CutShort n value decimals := by
  have zero : decimals = 0 ↔ decimals.toNat = 0 := UInt8.toNat_inj.symm
  have positive := length_digits_pos value.toNat
  constructor
  · intro whole cut
    have succeeds : (formatAmount sdk (Area.fill n nul) value decimals).1 = true := by
      rw [formatAmount_succeeds_iff]
      rcases cut with ⟨small, room, _⟩ | ⟨none, exact⟩
      · rwa [if_pos small]
      · rw [zero] at none
        rw [if_neg (by omega)]
        omega
    have fits := whole.length_lt succeeds
    rcases cut with ⟨small, _, short⟩ | ⟨none, exact⟩
    · rw [length_fixedPoint_of_le small] at fits
      omega
    · rw [length_fixedPoint, zero.mp none, Nat.pow_zero, Nat.div_one] at fits
      omega
  · intro fits front back memory run
    rw [show List.replicate n nul = (Area.fill n nul).cells from rfl, formatAmountIn_eq,
      within] at run
    obtain ⟨succeeds, rfl⟩ := Prod.mk.inj run
    rw [formatAmount_succeeds_iff] at succeeds
    have room : AmountRoom n (digits value.toNat).length decimals.toNat := by
      rw [AmountRoom]
      simp only [CutShort, not_or, not_and, zero] at fits
      split
      · rename_i small
        rw [if_pos small] at succeeds
        have long := fits.1 small succeeds
        omega
      · rename_i large
        rw [if_neg large] at succeeds
        have other := fits.2
        omega
    obtain ⟨area, formatted, shown⟩ := formatAmount_text sdk room
    have size := area.size_eq
    refine ⟨area.cells, size, by rw [formatted], nul_mem_of_strlen_lt ?_, shown⟩
    rw [strlen, shown, size]
    exact room.length_lt

/-- **Two destinations that are taken although the number does not fit.** 0.12345678
in three characters is cut after its first decimal, and 5.0 has no terminator. -/
theorem formatsWhole_fails :
    (formatAmountIn Sdk.reference (List.replicate 3 nul) 0 3 12345678 8 =
        (true, ['0', '.', '1']) ∧ ¬ FormatsWhole Sdk.reference 3 12345678 8) ∧
    (formatAmountIn Sdk.reference (List.replicate 3 nul) 0 3 5 0 = (true, ['5', '.', '0']) ∧
      ¬ FormatsWhole Sdk.reference 3 5 0) := by
  refine ⟨⟨by decide, fun whole => ?_⟩, by decide, fun whole => ?_⟩
  · exact absurd (whole.length_lt (by decide)) (by decide)
  · exact absurd (whole.length_lt (by decide)) (by decide)

end AppNeo3
