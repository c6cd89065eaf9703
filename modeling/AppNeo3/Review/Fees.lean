import AppNeo3.Review.TokenAmount

/-!
# The fees of a review

Every parse that succeeds, whatever an earlier parse has left, has read two fees
that are not negative, so that their sum stays below 2^64. The review shows both
and the sum with eight decimals, and fails for no transaction
(`fees_shown`).
-/

set_option autoImplicit false

namespace AppNeo3

open Memory CText DecimalText CBody CursorParsing Cursor ByteOrder Stores

variable {sdk : Sdk}

/-! ## The fees of a parsed transaction -/

theorem writesWithin_script (transferFlag : Bool) :
    WritesWithin (fun write => write.target.part ≠ .header) (scriptLayout sdk transferFlag) :=
  (writesWithin_uvarint _).bind fun _ => writesWithin_position.bind fun _ =>
  (writesWithin_write nofun).bind fun _ => (writesWithin_failIf _ _).bind fun _ =>
  (writesWithin_take _ _).bind fun _ => (writesWithin_write nofun).bind fun _ =>
  writesWithin_writeAll fun _ member same => TxPart.noConfusion
    ((part_of_recogniser (scriptWrites_targets member)).symm.trans same)

theorem TxPart.Holds.not_header {part : TxPart} (other : .header ≠ part) (write : TxWrite)
    (holds : part.Holds write) : write.target.part ≠ .header := fun same =>
  other (same.symm.trans holds.part_eq)

/-- Whatever an earlier parse has left, a parse that succeeds assigns the fields
of a header and comes back to none of them. -/
theorem header_of_transaction {left : Leftovers} {b : List UInt8} {writes : List TxWrite}
    {result : Unit × Nat × List UInt8}
    (run : transactionLayout sdk left 0 b = ⟨writes, .ok result⟩) :
    ∃ (image : HeaderImage) (later : List TxWrite), writes = image.writes ++ later ∧
      ∀ write ∈ later, write.target.part ≠ .header := by
  obtain ⟨first, _, pos, rest, later, header, others, rfl⟩ := ok_of_bind run
  obtain ⟨_, rfl, rfl, image, rfl⟩ := sound_header _ _ _ _ _ _ header
  rw [accepts_header image, Reading.mk.injEq] at header
  rw [← header.1]
  refine ⟨image, later, rfl, ?_⟩
  have within := (writesWithin_signers.mono (TxPart.Holds.not_header nofun)).bind fun _ =>
    ((writesWithin_attributes left.slots).mono (TxPart.Holds.not_header nofun)).bind fun _ =>
    @writesWithin_script sdk left.transferFlag
  exact within.of_run others

/-- **The fees that are parsed are not negative.** -/
theorem fees_nonneg {b : List UInt8} {older tx : Transaction} {size size' : Data}
    (parsed : transactionDeserialize sdk (Buffer.ofBytes b) older size =
      some (.parsingOk, tx, size')) :
    0 ≤ tx.systemFee.toInt ∧ 0 ≤ tx.networkFee.toInt := by
  obtain ⟨_, run⟩ := @transactionDeserialize_eq sdk b older size
  rw [run] at parsed
  simp only [Option.some.injEq, Prod.mk.injEq] at parsed
  obtain ⟨ok, rfl, _⟩ := parsed
  obtain ⟨short, writes, pos, layout⟩ := layoutStatus_ok ok
  obtain ⟨image, later, rfl, others⟩ := header_of_transaction layout
  have replayed : txFields.replay older (layoutWrites sdk older.leftovers b) =
      txFields.replay (txFields.replay older image.writes) later := by
    rw [layoutWrites, if_neg (Nat.not_lt.mpr short), layout, txFields.replay_append]
  have untouched : ∀ {field : TxField}, field.part = .header → ∀ write ∈ later,
      txFields.target write ≠ field := fun header write member same =>
    others write member ((congrArg TxField.part same).trans header)
  have system := txFields.read_replay_of_not_mem
    (untouched (rfl : TxField.systemFee.part = .header)) (txFields.replay older image.writes)
  have network := txFields.read_replay_of_not_mem
    (untouched (rfl : TxField.networkFee.part = .header)) (txFields.replay older image.writes)
  rw [replayed]
  have systemValue := TxValue.number.inj system
  have networkValue := TxValue.number.inj network
  have systemFee : (txFields.replay older image.writes).systemFee.toInt =
      leNat image.systemFee.cells :=
    toInt_eight_of_lt image.systemFee.size_eq image.systemFee_ok
  have networkFee : (txFields.replay older image.writes).networkFee.toInt =
      leNat image.networkFee.cells :=
    toInt_eight_of_lt image.networkFee.size_eq image.networkFee_ok
  rw [systemValue, networkValue, systemFee, networkFee]
  exact ⟨Int.natCast_nonneg _, Int.natCast_nonneg _⟩

/-! ## The texts of the fees -/

/-- A fee that is not negative is cast to the number it is. -/
theorem toNat_fee {fee : Int64} (nonneg : 0 ≤ fee.toInt) :
    fee.toUInt64.toNat = fee.toInt.toNat ∧ fee.toInt.toNat < 2 ^ 63 := by
  have upper := fee.toInt_lt
  have cast := toNat_toUInt64_of_nonneg nonneg
  omega

/-- **The sum of two fees does not wrap.** -/
theorem toNat_sum {first second : Int64} (firstNonneg : 0 ≤ first.toInt)
    (secondNonneg : 0 ≤ second.toInt) :
    (first.toUInt64 + second.toUInt64).toNat = first.toInt.toNat + second.toInt.toNat := by
  obtain ⟨firstCast, firstSmall⟩ := toNat_fee firstNonneg
  obtain ⟨secondCast, secondSmall⟩ := toNat_fee secondNonneg
  rw [UInt64.toNat_add, firstCast, secondCast]
  exact Nat.mod_eq_of_lt (by omega)

/-- A buffer shows an amount of GAS, with a terminator behind it. -/
structure ShowsGas (amount : Nat) (buffer : Area Char amountsMaxSize) : Prop where
  shown : text buffer.cells = "GAS ".toList ++ fixedPoint 8 amount
  terminated : nul ∈ buffer.cells

theorem showsGas_amountText (value : UInt64) :
    ShowsGas value.toNat (amountText sdk "GAS".toList value 8) := by
  have shown := @text_amountText sdk "GAS".toList rfl (by decide) value 8 (.inr rfl)
  have short := length_fixedPoint_le value.toNat_lt (.inr rfl : 8 = 0 ∨ 8 = 8)
  refine ⟨shown, nul_mem_of_strlen_lt ?_⟩
  rw [strlen, shown, Area.size_eq, List.length_append, List.length_cons]
  show 3 + ((fixedPoint 8 value.toNat).length + 1) < 30
  omega

/-- The fees of a transaction are shown as they are, with their sum. -/
structure FeesShown (tx : Transaction) (g : GlobalItemStorage) : Prop where
  systemFee : ShowsGas tx.systemFee.toInt.toNat g.systemFee
  networkFee : ShowsGas tx.networkFee.toInt.toNat g.networkFee
  totalFees : ShowsGas (tx.systemFee.toInt.toNat + tx.networkFee.toInt.toNat) g.totalFees

/-- **Fees are displayed exactly, and displaying never fails.** For every
transaction that has been parsed, on whatever an earlier one has left, the texts
of the review are filled, the fees are not negative, and both and their sum are
shown as they are. -/
theorem fees_shown (sdk : Sdk) {b : List UInt8} {older tx : Transaction} {size size' : Data}
    (parsed : transactionDeserialize sdk (Buffer.ofBytes b) older size =
      some (.parsingOk, tx, size')) :
    (0 ≤ tx.systemFee.toInt ∧ 0 ≤ tx.networkFee.toInt) ∧
    ∀ ctx : GlobalCtx, ctx.txInfo.transaction = tx → ∀ g, ∃ g',
      startSignTx sdk ctx g = .next () g' ∧ FeesShown tx g' := by
  have nonneg := fees_nonneg parsed
  refine ⟨nonneg, fun ctx holds g => ⟨_, startSignTx_run ctx g, ?_⟩⟩
  subst holds
  have system := @showsGas_amountText sdk ctx.txInfo.transaction.systemFee.toUInt64
  have network := @showsGas_amountText sdk ctx.txInfo.transaction.networkFee.toUInt64
  have total := @showsGas_amountText sdk (ctx.txInfo.transaction.networkFee.toUInt64 +
    ctx.txInfo.transaction.systemFee.toUInt64)
  rw [(toNat_fee nonneg.1).1] at system
  rw [(toNat_fee nonneg.2).1] at network
  rw [toNat_sum nonneg.2 nonneg.1, Nat.add_comm] at total
  exact ⟨system, network, total⟩

/-- A transfer with fees of 0.00997780 and 0.00123045 GAS. -/
def feesImage : TransactionImage :=
  { (TransferImage.ofAmount (.pushInt8 (Area.fill 1 5))).transaction with
    header := ⟨Area.fill 4 0, ⟨[0x94, 0x39, 0x0F, 0, 0, 0, 0, 0], rfl⟩, by decide,
      ⟨[0xA5, 0xE0, 0x01, 0, 0, 0, 0, 0], rfl⟩, by decide, Area.fill 4 0⟩ }

theorem feesImage_short : feesImage.bytes.length ≤ maxTransactionLen := by
  have same : feesImage.bytes.length =
      (TransferImage.ofAmount (.pushInt8 (Area.fill 1 5))).transaction.bytes.length := by
    simp only [TransactionImage.bytes, List.length_append]
    rfl
  rw [same]
  exact TransactionImage.ofScript_short _ _

/-- Both fees are shown, and their sum. -/
theorem fees_shown_transfer :
    let tx := feesImage.parsed Sdk.reference
    ∃ g', startSignTx Sdk.reference (.ofTransaction tx) .zero = .next () g' ∧
      ShowsGas 997780 g'.systemFee ∧ ShowsGas 123045 g'.networkFee ∧
      ShowsGas 1120825 g'.totalFees := by
  intro tx
  have parses : Parses Sdk.reference feesImage.bytes tx := parses_image _ feesImage_short
  have decoded : feesImage.Decoded tx := decoded_parsed feesImage_short
  clear_value tx
  have systemFee : tx.systemFee.toInt = 997780 :=
    TxValue.number.inj (decoded.fields .systemFee (by decide))
  have networkFee : tx.networkFee.toInt = 123045 :=
    TxValue.number.inj (decoded.fields .networkFee (by decide))
  obtain ⟨size', parsed⟩ := parses.from_any (Area.fill 8 0)
  obtain ⟨g', filled, system, network, total⟩ :=
    (fees_shown Sdk.reference parsed).2 (.ofTransaction tx) rfl .zero
  rw [systemFee] at system total
  rw [networkFee] at network total
  exact ⟨g', filled, system, network, total⟩

end AppNeo3
