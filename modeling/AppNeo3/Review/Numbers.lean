import AppNeo3.Sdk.Reference
import AppNeo3.Ui.SignTxCommon

/-!
# The network and the height of a review

The number of a network without a name and the height until which a transaction
is valid are printed as signed numbers into 11 characters. So both are shown as
the numbers they are exactly when they are below 2^31 (`numbers_shown_iff`).
From there on they get a minus sign, and one of ten digits loses its last digit,
so that different numbers look alike.
-/

set_option autoImplicit false

namespace AppNeo3

open Memory CText DecimalText CBody

/-! ## Signed text of an unsigned number -/

/-- What `%d` prints of an unsigned number into 11 characters. -/
def numberText (number : UInt32) : List Char := (intText number.toInt32.toInt).take 10

theorem toInt32_of_small {number : UInt32} (small : number.toNat < 2 ^ 31) :
    number.toInt32.toInt = number.toNat := by
  rw [Int32.toInt, UInt32.toBitVec_toInt32, BitVec.toInt_eq_toNat_bmod, UInt32.toNat_toBitVec]
  exact Int.bmod_eq_of_le (by omega) (by omega)

theorem toInt32_of_large {number : UInt32} (large : 2 ^ 31 ≤ number.toNat) :
    number.toInt32.toInt < 0 := by
  have bound := number.toNat_lt
  rw [Int32.toInt, UInt32.toBitVec_toInt32, BitVec.toInt_eq_toNat_bmod, UInt32.toNat_toBitVec,
    Int.bmod_def]
  split <;> omega

theorem numberText_of_small {number : UInt32} (small : number.toNat < 2 ^ 31) :
    numberText number = digits number.toNat := by
  have short : (digits number.toNat).length ≤ 10 :=
    (length_digits_le_iff (by decide)).mpr (small.trans (by decide))
  rw [numberText, toInt32_of_small small, intText, if_neg (Int.not_lt.mpr (Int.natCast_nonneg _)),
    Int.natAbs_natCast, List.take_of_length_le short]

theorem numberText_of_large {number : UInt32} (large : 2 ^ 31 ≤ number.toNat) :
    ∃ rest, numberText number = '-' :: rest := by
  rw [numberText, intText, if_pos (toInt32_of_large large)]
  exact ⟨_, List.take_succ_cons⟩

/-- **The digits of a number are shown exactly when it is below 2^31.** -/
theorem numberText_eq_digits_iff {number : UInt32} :
    numberText number = digits number.toNat ↔ number.toNat < 2 ^ 31 := by
  refine ⟨fun same => Nat.lt_of_not_le fun large => ?_, numberText_of_small⟩
  obtain ⟨rest, minus⟩ := numberText_of_large large
  obtain ⟨first, others, number, digit⟩ := head_digits number.toNat
  rw [minus, number] at same
  rw [← (List.cons.inj same).1] at digit
  exact absurd digit (by decide)

/-- A number is shown like no other one below 2^31. -/
theorem numberText_apart {number other : UInt32} (small : number.toNat < 2 ^ 31)
    (same : numberText other = numberText number) : other = number := by
  by_cases smaller : other.toNat < 2 ^ 31
  · rw [numberText_of_small smaller, numberText_of_small small] at same
    exact UInt32.toNat_inj.mp (digits_inj same)
  · obtain ⟨rest, minus⟩ := numberText_of_large (Nat.le_of_not_lt smaller)
    obtain ⟨first, others, digitsOf, digit⟩ := head_digits number.toNat
    rw [minus, numberText_of_small small, digitsOf] at same
    rw [← (List.cons.inj same).1] at digit
    exact absurd digit (by decide)

/-- A number begins with its sign or a digit. -/
theorem head_numberText (number : UInt32) :
    ∃ first rest, numberText number = first :: rest ∧ (first = '-' ∨ first.isDigit = true) := by
  by_cases small : number.toNat < 2 ^ 31
  · obtain ⟨first, rest, same, digit⟩ := head_digits number.toNat
    exact ⟨first, rest, (numberText_of_small small).trans same, .inr digit⟩
  · obtain ⟨rest, same⟩ := numberText_of_large (Nat.le_of_not_lt small)
    exact ⟨'-', rest, same, .inl rfl⟩

/-- A number is not read as a word that begins with a letter. -/
theorem numberText_ne_cons (number : UInt32) {letter : Char} {word : List Char}
    (other : ¬ (letter = '-' ∨ letter.isDigit = true)) : numberText number ≠ letter :: word := by
  obtain ⟨first, rest, same, kind⟩ := head_numberText number
  intro name
  rw [same] at name
  obtain ⟨rfl, _⟩ := List.cons.inj name
  exact absurd kind other

theorem numberText_ne_mainNet (number : UInt32) : numberText number ≠ "MainNet".toList :=
  numberText_ne_cons number (by decide)

theorem numberText_ne_testNet (number : UInt32) : numberText number ≠ "TestNet".toList :=
  numberText_ne_cons number (by decide)

theorem nul_not_mem_intText (value : Int) : nul ∉ intText value := by
  rw [intText]
  split
  · rw [List.mem_cons, not_or]
    exact ⟨by decide, nul_not_mem_digits _⟩
  · exact nul_not_mem_digits _

/-! ## The two texts -/

/-- The text of a network. -/
def networkText (networkMagic : UInt32) : List Char :=
  if networkMagic = networkMainnet then "MainNet".toList
  else if networkMagic = networkTestnet then "TestNet".toList
  else numberText networkMagic

theorem text_network (sdk : Sdk) (ctx : GlobalCtx) (g : GlobalItemStorage) :
    (reviewTexts sdk ctx g).shown .network = networkText ctx.networkMagic := by
  rw [GlobalItemStorage.shown, networkText]
  show text (ite _ _ _ : Area Char 11).cells = _
  split
  · exact text_strcpy (by decide) (by decide)
  · split
    · exact text_strcpy (by decide) (by decide)
    · exact text_strlcpy_take (by decide) (nul_not_mem_intText _)

theorem text_validUntilBlock (sdk : Sdk) (ctx : GlobalCtx) (g : GlobalItemStorage) :
    (reviewTexts sdk ctx g).shown .validUntilBlock =
      numberText ctx.txInfo.transaction.validUntilBlock :=
  text_strlcpy_take (by decide) (nul_not_mem_intText _)

theorem networkText_eq_mainNet_iff {networkMagic : UInt32} :
    networkText networkMagic = "MainNet".toList ↔ networkMagic = networkMainnet := by
  rw [networkText]
  split
  · rename_i main
    exact iff_of_true rfl main
  · rename_i other
    refine iff_of_false ?_ other
    split
    · decide
    · exact numberText_ne_mainNet _

theorem networkText_eq_testNet_iff {networkMagic : UInt32} :
    networkText networkMagic = "TestNet".toList ↔ networkMagic = networkTestnet := by
  rw [networkText]
  split
  · rename_i main
    rw [main]
    decide
  · split
    · rename_i test
      exact iff_of_true rfl test
    · rename_i other
      exact iff_of_false (numberText_ne_testNet _) other

/-- A network is shown like no other one below 2^31. -/
theorem networkText_apart {networkMagic other : UInt32} (small : networkMagic.toNat < 2 ^ 31)
    (same : networkText other = networkText networkMagic) : other = networkMagic := by
  by_cases main : networkMagic = networkMainnet
  · rw [main] at same ⊢
    exact networkText_eq_mainNet_iff.mp (same.trans (networkText_eq_mainNet_iff.mpr rfl))
  by_cases test : networkMagic = networkTestnet
  · rw [test] at same ⊢
    exact networkText_eq_testNet_iff.mp (same.trans (networkText_eq_testNet_iff.mpr rfl))
  have number : networkText networkMagic = numberText networkMagic := by
    rw [networkText, if_neg main, if_neg test]
  have notMain : other ≠ networkMainnet := fun name =>
    numberText_ne_mainNet _ ((same.trans number).symm.trans (networkText_eq_mainNet_iff.mpr name))
  have notTest : other ≠ networkTestnet := fun name =>
    numberText_ne_testNet _ ((same.trans number).symm.trans (networkText_eq_testNet_iff.mpr name))
  rw [number, networkText, if_neg notMain, if_neg notTest] at same
  exact numberText_apart small same

/-! ## The exact condition -/

/-- The network and the height of a context are shown as the numbers they are,
and like no others. -/
structure NumbersShown (sdk : Sdk) (ctx : GlobalCtx) (g : GlobalItemStorage) : Prop where
  mainNet : g.shown .network = "MainNet".toList ↔ ctx.networkMagic = networkMainnet
  testNet : g.shown .network = "TestNet".toList ↔ ctx.networkMagic = networkTestnet
  network : ctx.networkMagic ≠ networkMainnet → ctx.networkMagic ≠ networkTestnet →
    g.shown .network = digits ctx.networkMagic.toNat
  validUntilBlock : g.shown .validUntilBlock =
    digits ctx.txInfo.transaction.validUntilBlock.toNat
  networkApart : ∀ (other : GlobalCtx) (older g' : GlobalItemStorage),
    startSignTx sdk other older = .next () g' → g'.shown .network = g.shown .network →
      other.networkMagic = ctx.networkMagic
  validUntilBlockApart : ∀ (other : GlobalCtx) (older g' : GlobalItemStorage),
    startSignTx sdk other older = .next () g' →
      g'.shown .validUntilBlock = g.shown .validUntilBlock →
      other.txInfo.transaction.validUntilBlock = ctx.txInfo.transaction.validUntilBlock

/-- **The network and the height are shown as they are exactly when both numbers
are below 2^31.** -/
theorem numbers_shown_iff (sdk : Sdk) (ctx : GlobalCtx) (g : GlobalItemStorage) :
    ∃ g', startSignTx sdk ctx g = .next () g' ∧
      (NumbersShown sdk ctx g' ↔ ctx.networkMagic.toNat < 2 ^ 31 ∧
        ctx.txInfo.transaction.validUntilBlock.toNat < 2 ^ 31) := by
  refine ⟨_, startSignTx_run ctx g, fun shown => ⟨?_, ?_⟩, fun ⟨magic, height⟩ => ?_⟩
  · by_cases main : ctx.networkMagic = networkMainnet
    · rw [main]
      decide
    by_cases test : ctx.networkMagic = networkTestnet
    · rw [test]
      decide
    have number := shown.network main test
    rw [text_network, networkText, if_neg main, if_neg test] at number
    exact numberText_eq_digits_iff.mp number
  · have number := shown.validUntilBlock
    rw [text_validUntilBlock] at number
    exact numberText_eq_digits_iff.mp number
  · refine ⟨?_, ?_, fun main test => ?_, ?_, fun other older g' ran same => ?_,
      fun other older g' ran same => ?_⟩
    · rw [text_network]
      exact networkText_eq_mainNet_iff
    · rw [text_network]
      exact networkText_eq_testNet_iff
    · rw [text_network, networkText, if_neg main, if_neg test]
      exact numberText_eq_digits_iff.mpr magic
    · rw [text_validUntilBlock]
      exact numberText_eq_digits_iff.mpr height
    · rw [startSignTx_run] at ran
      cases ran
      rw [text_network, text_network] at same
      exact networkText_apart magic same
    · rw [startSignTx_run] at ran
      cases ran
      rw [text_validUntilBlock, text_validUntilBlock] at same
      exact numberText_apart height same

/-- A context for a network. -/
def GlobalCtx.ofNetwork (networkMagic : UInt32) : GlobalCtx :=
  { GlobalCtx.zero with networkMagic := networkMagic }

/-- **A network is shown with a number that it does not have**, and two networks
with the same one. -/
theorem numbers_negative :
    (∃ g', startSignTx Sdk.reference (.ofNetwork 4294967295) .zero = .next () g' ∧
      g'.shown .network = "-1".toList ∧
      ¬ NumbersShown Sdk.reference (.ofNetwork 4294967295) g') ∧
    ∃ g₁ g₂, startSignTx Sdk.reference (.ofNetwork 2147483648) .zero = .next () g₁ ∧
      startSignTx Sdk.reference (.ofNetwork 2147483649) .zero = .next () g₂ ∧
      g₁.shown .network = g₂.shown .network := by
  refine ⟨⟨_, startSignTx_run _ _, ?_, fun shown => ?_⟩, _, _, startSignTx_run _ _,
    startSignTx_run _ _, ?_⟩
  · rw [text_network]
    decide
  · have number := shown.network (by decide) (by decide)
    rw [text_network] at number
    exact absurd number (by decide)
  · rw [text_network, text_network]
    decide

end AppNeo3
