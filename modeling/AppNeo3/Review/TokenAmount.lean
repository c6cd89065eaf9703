import AppNeo3.Sdk.Reference
import AppNeo3.Transaction.Recognised
import AppNeo3.Ui.SignTxCommon

/-!
# The token amount of a transfer

A transfer script pushes its amount with one instruction. The recogniser stores
the operand of `PUSHINT8` without its sign, and the review prints the stored
amount as an unsigned number. So the amount shown is the amount pushed exactly
when that is not negative (`tokenAmount_exact_iff`).
-/

set_option autoImplicit false

namespace AppNeo3

open Memory CText DecimalText CBody ByteOrder

/-! ## The stored amount -/

/-- A byte that is widened without its sign is the unsigned byte. -/
theorem toInt_widened (byte : UInt8) :
    byte.toInt8.toUInt8.toUInt64.toInt64.toInt = byte.toNat := by
  have small := byte.toNat_lt
  rw [UInt8.toUInt8_toInt8, Int64.toInt, UInt64.toBitVec_toInt64, BitVec.toInt_eq_toNat_bmod,
    UInt64.toNat_toBitVec, UInt8.toNat_toUInt64]
  exact Int.bmod_eq_of_le (by omega) (by omega)

/-- A signed byte that is not negative is the unsigned byte. -/
theorem toInt_of_nonneg {byte : UInt8} (nonneg : 0 ≤ byte.toInt8.toInt) :
    byte.toInt8.toInt = byte.toNat := by
  have small := byte.toNat_lt
  rw [Int8.toInt, UInt8.toBitVec_toInt8, BitVec.toInt_eq_toNat_bmod, UInt8.toNat_toBitVec,
    Int.bmod_def] at *
  split at nonneg <;> omega

/-- **An amount that is not negative is stored as it is pushed.** -/
theorem AmountImage.stored_of_nonneg {image : AmountImage} (nonneg : 0 ≤ image.pushed) :
    image.stored.toInt = image.pushed := by
  cases image with
  | push value =>
      revert value
      decide
  | pushInt8 operand =>
      rw [AmountImage.stored, toInt_widened]
      rw [AmountImage.pushed, ← toInt_one operand.size_eq] at nonneg ⊢
      exact (toInt_of_nonneg nonneg).symm
  | pushInt16 operand =>
      rw [AmountImage.stored, Int16.toInt_toInt64, toInt_two operand.size_eq]
      rfl
  | pushInt32 operand =>
      rw [AmountImage.stored, Int32.toInt_toInt64, toInt_four operand.size_eq]
      rfl
  | pushInt64 operand => exact toInt_eight operand.size_eq

/-! ## The amount shown -/

/-- The decimals of an asset. -/
def SystemAsset.decimals : SystemAsset → Nat
  | .neo => 0
  | .gas => 8

/-- The name of an asset. -/
def SystemAsset.name : SystemAsset → List Char
  | .neo => "NEO".toList
  | .gas => "GAS".toList

/-- The parsed amount is the amount that a transfer pushes, and the text shown is
the name of its asset and its exact decimal number. -/
structure AmountShown (transfer : TransferImage) (tx : Transaction) (g : GlobalItemStorage) :
    Prop where
  amount : tx.amount.toInt = transfer.amount.pushed
  shown : text g.tokenAmount.cells = transfer.asset.name ++
    ' ' :: signedFixedPoint transfer.asset.decimals transfer.amount.pushed

variable {sdk : Sdk}

/-- The text of the amount of a transfer. -/
theorem text_tokenAmount {tx : Transaction} {ctx : GlobalCtx} {g : GlobalItemStorage}
    {asset : SystemAsset} (holds : ctx.txInfo.transaction = tx)
    (transfer : tx.isSystemAssetTransfer = true) (neo : tx.isNeo = decide (asset = .neo)) :
    text (reviewTexts sdk ctx g).tokenAmount.cells =
      asset.name ++ ' ' :: fixedPoint asset.decimals tx.amount.toUInt64.toNat := by
  subst holds
  have texts : (reviewTexts sdk ctx g).tokenAmount = amountText sdk
      (tokenName ctx.txInfo.transaction.isNeo) ctx.txInfo.transaction.amount.toUInt64
      (if ctx.txInfo.transaction.isNeo then 0 else 8) := if_pos transfer
  rw [texts, neo]
  cases asset with
  | neo => exact text_amountText rfl (by decide) (.inl rfl)
  | gas => exact text_amountText rfl (by decide) (.inr rfl)

/-- An unsigned number is never the rendering of a negative one. -/
theorem fixedPoint_ne_signed {decimals n : Nat} {v : Int} (negative : v < 0) :
    fixedPoint decimals n ≠ signedFixedPoint decimals v := by
  intro same
  have head := head_fixedPoint_ne_minus decimals n
  rw [same, signedFixedPoint, if_pos negative] at head
  exact head rfl

theorem amountShown_iff {b : List UInt8} {tx : Transaction} (parses : Parses sdk b tx)
    (transfer : tx.isSystemAssetTransfer = true) {image : TransferImage}
    (script : tx.scriptBytes b = image.bytes) {ctx : GlobalCtx}
    (holds : ctx.txInfo.transaction = tx) (g : GlobalItemStorage) :
    AmountShown image tx (reviewTexts sdk ctx g) ↔ 0 ≤ image.amount.pushed := by
  obtain ⟨stored, neo, _⟩ := parses.transfer_fields script
  have shown := @text_tokenAmount sdk tx ctx g image.asset holds transfer neo
  constructor
  · rintro ⟨_, exactly⟩
    rw [shown, List.append_cancel_left_eq, List.cons_inj_right] at exactly
    exact Int.not_lt.mp fun negative => fixedPoint_ne_signed negative exactly
  · intro nonneg
    have amount : tx.amount.toInt = image.amount.pushed := by
      rw [stored, AmountImage.stored_of_nonneg nonneg]
    have cast := @toNat_toUInt64_of_nonneg tx.amount (by rw [amount]; exact nonneg)
    have magnitude : tx.amount.toUInt64.toNat = image.amount.pushed.natAbs := by omega
    refine ⟨amount, ?_⟩
    rw [shown, magnitude, signedFixedPoint, if_neg (Int.not_lt.mpr nonneg)]

/-! ## A context with a transaction -/

/-- A context that holds a parsed transaction. -/
def GlobalCtx.ofTransaction (tx : Transaction) : GlobalCtx :=
  { GlobalCtx.zero with txInfo := { TransactionCtx.zero with transaction := tx } }

/-! ## The exact condition -/

/-- **The amount shown is the amount pushed exactly when it is not negative.** -/
theorem tokenAmount_exact_iff (sdk : Sdk) {b : List UInt8} {tx : Transaction}
    (parses : Parses sdk b tx) (transfer : tx.isSystemAssetTransfer = true) :
    (∃ image : TransferImage, tx.scriptBytes b = image.bytes) ∧
    ∀ image : TransferImage, tx.scriptBytes b = image.bytes →
      ∀ ctx : GlobalCtx, ctx.txInfo.transaction = tx → ∀ g, ∃ g',
        startSignTx sdk ctx g = .next () g' ∧
        (AmountShown image tx g' ↔ 0 ≤ image.amount.pushed) := by
  refine ⟨parses.transfer_iff.mp transfer, fun image script ctx holds g => ?_⟩
  exact ⟨_, startSignTx_run ctx g, amountShown_iff parses transfer script holds g⟩

/-- A transfer of five fractions of GAS is shown as it is. -/
theorem tokenAmount_exact_push :
    let tx := (TransferImage.ofAmount (.push 5)).transaction.parsed Sdk.reference
    ∃ g', startSignTx Sdk.reference (.ofTransaction tx) .zero = .next () g' ∧
      AmountShown (.ofAmount (.push 5)) tx g' := by
  have exact_iff := tokenAmount_exact_iff Sdk.reference
    (TransferImage.ofAmount (.push 5)).transaction_parses
    (TransferImage.ofAmount (.push 5)).transaction_flag
  obtain ⟨g', ran, shown⟩ := exact_iff.2 _ (TransferImage.ofAmount (.push 5)).transaction_script
    (.ofTransaction _) rfl .zero
  exact ⟨g', ran, shown.mpr (by decide)⟩

/-- **A negative amount is not shown.** The script pushes -1 with `PUSHINT8`; the
parser stores 255. -/
theorem tokenAmount_pushInt8_negative :
    let image := TransferImage.ofAmount (.pushInt8 ⟨[0xFF], rfl⟩)
    let tx := image.transaction.parsed Sdk.reference
    Parses Sdk.reference image.transaction.bytes tx ∧ tx.isSystemAssetTransfer = true ∧
      tx.scriptBytes image.transaction.bytes = image.bytes ∧ image.amount.pushed = -1 ∧
      tx.amount = 255 ∧
      ∃ g', startSignTx Sdk.reference (.ofTransaction tx) .zero = .next () g' ∧
        text g'.tokenAmount.cells = "GAS 0.00000255".toList ∧ ¬ AmountShown image tx g' := by
  intro image tx
  have parses : Parses Sdk.reference image.transaction.bytes tx := image.transaction_parses
  have transfer : tx.isSystemAssetTransfer = true := image.transaction_flag
  have script : tx.scriptBytes image.transaction.bytes = image.bytes := image.transaction_script
  have pushed : image.amount.pushed = -1 := by decide
  have negative : ¬ 0 ≤ image.amount.pushed := by
    rw [pushed]
    decide
  obtain ⟨stored, neo, _⟩ := parses.transfer_fields script
  have amount : tx.amount = 255 := stored.trans (by decide)
  -- The value of the transaction is not computed: only its fields are used.
  clear_value tx
  refine ⟨parses, transfer, script, pushed, amount, _, startSignTx_run _ _, ?_, fun shown => ?_⟩
  · rw [@text_tokenAmount _ tx (.ofTransaction tx) .zero .gas rfl transfer neo, amount]
    decide +kernel
  · exact negative ((amountShown_iff parses transfer script rfl _).mp shown)

end AppNeo3
