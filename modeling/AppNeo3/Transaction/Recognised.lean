import AppNeo3.Transaction.Decoding

/-!
# What a parsed transaction says of its script

When a parse on an all-zero transaction succeeds, the two flags of the
recognisers say which grammar the script is of, and the fields of a recognised
script hold what its image says.
-/

set_option autoImplicit false

namespace AppNeo3

open Memory CursorParsing Cursor ByteOrder Stores

variable {sdk : Sdk}

/-! ## Recognition and the grammars -/

/-- A recogniser that ends at the end of a script has read all of it. -/
theorem flagged_ok {body : ScriptParser Unit} {flag : TxWrite} {pos : Nat} {script : List UInt8}
    (ok : ((body >>= fun _ => atEnd () >>= fun _ => write flag) pos script).outcome.isOk = true) :
    ∃ writes pos', body pos script = ⟨writes, .ok ((), pos', [])⟩ := by
  cases run : body pos script with
  | mk writes outcome =>
      cases outcome with
      | error e =>
          rw [bind_of_error run] at ok
          cases ok
      | ok result =>
          obtain ⟨_, pos', rest⟩ := result
          rw [bind_of_ok run] at ok
          cases rest with
          | nil => exact ⟨writes, pos', rfl⟩
          | cons => cases ok

/-- **The transfer recogniser accepts exactly the transfers.** -/
theorem recognisesTransfer_iff {script : List UInt8} :
    recognisesTransfer sdk script = true ↔ ∃ image : TransferImage, script = image.bytes := by
  constructor
  · intro ok
    obtain ⟨writes, pos', run⟩ := flagged_ok ok
    obtain ⟨phrase, split, _, image, rfl⟩ := sound_transferBody sdk _ _ _ _ _ _ run
    exact ⟨image, split.trans (List.append_nil _)⟩
  · rintro ⟨image, rfl⟩
    have run := accepts_transferBody sdk image 0 []
    rw [List.append_nil] at run
    rw [recognisesTransfer, transferScript, bind_of_ok run]
    rfl

/-- Whether a script is recognised as a vote. -/
def recognisesVote (script : List UInt8) : Bool := (voteScript 0 script).outcome.isOk

/-- **The vote recogniser accepts exactly the votes.** -/
theorem recognisesVote_iff {script : List UInt8} :
    recognisesVote script = true ↔ ∃ image : VoteImage, script = image.bytes := by
  constructor
  · intro ok
    obtain ⟨writes, pos', run⟩ := flagged_ok ok
    obtain ⟨phrase, split, _, image, rfl⟩ := sound_voteBody _ _ _ _ _ _ run
    exact ⟨image, split.trans (List.append_nil _)⟩
  · rintro ⟨image, rfl⟩
    have run := accepts_voteBody image 0 []
    rw [List.append_nil] at run
    rw [recognisesVote, voteScript, bind_of_ok run]
    rfl

theorem isVoteScript_assign (tx : Transaction) (write : TxWrite)
    (keeps : write.target ≠ .isVoteScript) :
    (tx.assign write).isVoteScript = tx.isVoteScript := by
  cases write with
  | isVoteScript value => exact absurd rfl keeps
  | _ => rfl

/-- The vote recogniser sets the flag when it recognises the script, and never
clears it. -/
theorem flag_voteScript (tx : Transaction) (script : List UInt8) :
    (txFields.replay tx (voteScript 0 script).writes).isVoteScript =
      (tx.isVoteScript || recognisesVote script) := by
  have body : (txFields.replay tx (voteBody 0 script).writes).isVoteScript = tx.isVoteScript :=
    txFields.replay_keeps isVoteScript_assign (fun write member =>
      (writesWithin_voteBody 0 script write member).ne (by decide)) tx
  rw [voteScript_writes, txFields.replay_append, recognisesVote]
  cases (voteScript 0 script).outcome.isOk with
  | true => exact (Bool.or_true _).symm
  | false =>
      rw [Bool.or_false]
      exact body

/-- **The transfer flag after both recognisers.** -/
theorem transferFlag_scriptWrites (tx : Transaction) (transferFlag : Bool) (script : List UInt8) :
    (txFields.replay tx (scriptWrites sdk transferFlag script)).isSystemAssetTransfer =
      (tx.isSystemAssetTransfer || recognisesTransfer sdk script) := by
  rw [scriptWrites, txFields.replay_append, ← flag_transferScript]
  refine txFields.replay_keeps flag_assign (fun write member => ?_) _
  split at member
  · cases member
  · exact (writesWithin_voteScript 0 script write member).ne (by decide)

/-- **The vote flag after both recognisers.** -/
theorem voteFlag_scriptWrites (tx : Transaction) (transferFlag : Bool) (script : List UInt8) :
    (txFields.replay tx (scriptWrites sdk transferFlag script)).isVoteScript =
      (tx.isVoteScript ||
        !(transferFlag || recognisesTransfer sdk script) && recognisesVote script) := by
  have first : (txFields.replay tx (transferScript sdk 0 script).writes).isVoteScript =
      tx.isVoteScript :=
    txFields.replay_keeps isVoteScript_assign (fun write member =>
      (writesWithin_transferScript sdk 0 script write member).ne (by decide)) tx
  rw [scriptWrites, txFields.replay_append]
  cases transferFlag || recognisesTransfer sdk script with
  | true =>
      rw [if_pos rfl, txFields.replay_nil, first, Bool.not_true, Bool.false_and, Bool.or_false]
  | false =>
      rw [if_neg Bool.false_ne_true, flag_voteScript, first, Bool.not_false, Bool.true_and]

/-- A transfer and a vote differ in their first two bytes. -/
theorem TransferImage.bytes_ne_vote (transfer : TransferImage) (vote : VoteImage) :
    transfer.bytes ≠ vote.bytes := by
  intro same
  have opcode : ∃ first rest, transfer.amount.bytes = first :: rest ∧ first ≠ 0x0C := by
    cases transfer.amount with
    | push value =>
        refine ⟨_, _, rfl, ?_⟩
        revert value
        decide
    | pushInt8 operand => exact ⟨_, _, rfl, by decide⟩
    | pushInt16 operand => exact ⟨_, _, rfl, by decide⟩
    | pushInt32 operand => exact ⟨_, _, rfl, by decide⟩
    | pushInt64 operand => exact ⟨_, _, rfl, by decide⟩
  obtain ⟨first, rest, amount, other⟩ := opcode
  rw [TransferImage.bytes, VoteImage.bytes, amount] at same
  cases candidate : vote.candidate with
  | retract =>
      rw [candidate] at same
      exact other (List.cons.inj (List.cons.inj same).2).1
  | cast key compressed =>
      rw [candidate] at same
      exact absurd (List.cons.inj same).1 (by decide)

/-- The assignments of a recognised vote, after those of the attempt to recognise
a transfer. -/
theorem scriptWrites_vote (image : VoteImage) :
    scriptWrites sdk false image.bytes = (transferScript sdk 0 image.bytes).writes ++
      (image.candidate.writes ++ [.isVoteScript true]) := by
  have noTransfer : recognisesTransfer sdk image.bytes = false := by
    rw [Bool.eq_false_iff]
    intro transfer
    obtain ⟨transferImage, same⟩ := recognisesTransfer_iff.mp transfer
    exact transferImage.bytes_ne_vote image same.symm
  have run := accepts_voteBody image 0 []
  rw [List.append_nil] at run
  have flag : (voteScript 0 image.bytes).outcome.isOk = true :=
    recognisesVote_iff.mpr ⟨image, rfl⟩
  rw [scriptWrites, noTransfer, if_neg (by decide), voteScript_writes, flag, run]
  rfl

/-- The assignments of a recognised transfer. -/
theorem scriptWrites_transfer (image : TransferImage) :
    scriptWrites sdk false image.bytes =
      image.bodyWrites sdk ++ [.isSystemAssetTransfer true] := by
  have recognised : recognisesTransfer sdk image.bytes = true :=
    recognisesTransfer_iff.mpr ⟨image, rfl⟩
  have run := accepts_transferBody sdk image 0 []
  rw [List.append_nil] at run
  have flag : (transferScript sdk 0 image.bytes).outcome.isOk = true := recognised
  rw [scriptWrites, transferScript_writes, recognised, flag, run]
  exact List.append_nil _

/-! ## Parsed transactions -/

/-- The bytes parse to the transaction on an all-zero transaction. -/
def Parses (sdk : Sdk) (b : List UInt8) (tx : Transaction) : Prop :=
  ∃ size size', transactionDeserialize sdk (Buffer.ofBytes b) Transaction.zero size =
    some (.parsingOk, tx, size')

/-- What was in the union before a parse does not matter. -/
theorem Parses.from_any {b : List UInt8} {tx : Transaction} (parses : Parses sdk b tx)
    (size : Data) : ∃ size', transactionDeserialize sdk (Buffer.ofBytes b) Transaction.zero size =
      some (.parsingOk, tx, size') := by
  obtain ⟨first, first', parsed⟩ := parses
  obtain ⟨_, firstRun⟩ := @transactionDeserialize_eq sdk b Transaction.zero first
  obtain ⟨size', run⟩ := @transactionDeserialize_eq sdk b Transaction.zero size
  rw [firstRun] at parsed
  simp only [Option.some.injEq, Prod.mk.injEq] at parsed
  exact ⟨size', by rw [run, parsed.1, parsed.2.1]⟩

/-- What an image parses to. -/
def TransactionImage.parsed (sdk : Sdk) (image : TransactionImage) : Transaction :=
  txFields.replay Transaction.zero
    (image.fieldWrites ++ scriptWrites sdk false image.script.script)

/-- Every image of allowed length parses. -/
theorem parses_image (sdk : Sdk) {image : TransactionImage}
    (short : image.bytes.length ≤ maxTransactionLen) :
    Parses sdk image.bytes (image.parsed sdk) := by
  have ok : layoutStatus sdk Leftovers.none image.bytes = .parsingOk :=
    (layoutStatus_ok_iff image.bytes).mpr ⟨short, image, rfl⟩
  obtain ⟨size', run⟩ := @transactionDeserialize_eq sdk image.bytes Transaction.zero
    (Area.fill 8 0)
  refine ⟨_, size', run.trans ?_⟩
  rw [TransactionImage.parsed, ← layoutWrites_image short]
  exact congrArg (fun status => some (status, _)) ok

/-- Bytes that parse are those of an image of allowed length. -/
theorem Parses.image_short {b : List UInt8} {tx : Transaction} (parses : Parses sdk b tx) :
    (∃ image : TransactionImage, b = image.bytes) ∧ b.length ≤ maxTransactionLen := by
  obtain ⟨size, size', parsed⟩ := parses
  obtain ⟨_, run⟩ := @transactionDeserialize_eq sdk b Transaction.zero size
  rw [run] at parsed
  simp only [Option.some.injEq, Prod.mk.injEq] at parsed
  exact ((layoutStatus_ok_iff b).mp parsed.1).symm

/-- **What a parse leaves.** The bytes are those of an image, the fields are
decoded, and the fields of the recognisers come from the script. -/
theorem Parses.image {b : List UInt8} {tx : Transaction} (parses : Parses sdk b tx) :
    ∃ image : TransactionImage, b = image.bytes ∧ image.Decoded tx ∧
      tx = txFields.replay (txFields.replay Transaction.zero image.fieldWrites)
        (scriptWrites sdk false image.script.script) := by
  obtain ⟨size, size', parsed⟩ := parses
  obtain ⟨size'', run⟩ := @transactionDeserialize_eq sdk b Transaction.zero size
  rw [run] at parsed
  simp only [Option.some.injEq, Prod.mk.injEq] at parsed
  obtain ⟨ok, rfl, _⟩ := parsed
  obtain ⟨short, image, rfl⟩ := (layoutStatus_ok_iff b).mp ok
  refine ⟨image, rfl, decoded_image image short, ?_⟩
  rw [← txFields.replay_append, ← layoutWrites_image short]
  rfl

/-- The script is where it is, whatever follows the transaction. -/
theorem TransactionImage.Decoded.scriptBytes_append {image : TransactionImage} {tx : Transaction}
    (decoded : image.Decoded tx) (rest : List UInt8) :
    tx.scriptBytes (image.bytes ++ rest) = image.script.script := by
  have pointer : tx.script = some (image.scriptAt + image.script.count.bytes.length) :=
    TxValue.pointer.inj (decoded.fields .script (by decide))
  have size : tx.scriptSize.toNat = image.script.script.length :=
    Int.ofNat.inj (TxValue.number.inj (decoded.fields .scriptSize (by decide)))
  have front : StandsAt (image.bytes ++ rest) 0 image.bytes := ⟨[], rest, rfl, rfl⟩
  have stands := front.trans TransactionImage.standsAt_script
  rw [Nat.zero_add] at stands
  rw [Transaction.scriptBytes, pointer, size]
  exact stands.slice_eq

theorem TransactionImage.Decoded.scriptBytes_eq {image : TransactionImage} {tx : Transaction}
    (decoded : image.Decoded tx) : tx.scriptBytes image.bytes = image.script.script := by
  have whole := decoded.scriptBytes_append []
  rwa [List.append_nil] at whole

/-- The fields of the recognisers before the recognisers run. -/
theorem field_before_recognisers (image : TransactionImage) {field : TxField}
    (recogniser : field ∈ recogniserFields) :
    (txFields.replay Transaction.zero image.fieldWrites).field field =
      Transaction.zero.field field := by
  have untouched : ∀ write ∈ image.fieldWrites, write.target ≠ field := fun write member same =>
    (TransactionImage.fieldWrites_carry member).2.2 (same ▸ recogniser)
  exact txFields.read_replay_of_not_mem untouched _

/-- **The transfer flag says that the script is a transfer.** -/
theorem Parses.transfer_iff {b : List UInt8} {tx : Transaction} (parses : Parses sdk b tx) :
    tx.isSystemAssetTransfer = true ↔ ∃ image : TransferImage, tx.scriptBytes b = image.bytes := by
  obtain ⟨image, rfl, decoded, same⟩ := parses.image
  have before : (txFields.replay Transaction.zero image.fieldWrites).isSystemAssetTransfer =
      false := TxValue.flag.inj
      (@field_before_recognisers image .isSystemAssetTransfer (by decide))
  rw [decoded.scriptBytes_eq, ← recognisesTransfer_iff, same, transferFlag_scriptWrites, before,
    Bool.false_or]

/-- **The vote flag says that the script is a vote.** -/
theorem Parses.vote_iff {b : List UInt8} {tx : Transaction} (parses : Parses sdk b tx) :
    tx.isVoteScript = true ↔ ∃ image : VoteImage, tx.scriptBytes b = image.bytes := by
  obtain ⟨image, rfl, decoded, same⟩ := parses.image
  have before : (txFields.replay Transaction.zero image.fieldWrites).isVoteScript = false :=
    TxValue.flag.inj (@field_before_recognisers image .isVoteScript (by decide))
  rw [decoded.scriptBytes_eq, ← recognisesVote_iff, same, voteFlag_scriptWrites, before,
    Bool.false_or, Bool.false_or, Bool.and_eq_true]
  refine ⟨And.right, fun vote => ⟨?_, vote⟩⟩
  obtain ⟨voteImage, script⟩ := recognisesVote_iff.mp vote
  rw [Bool.not_eq_true', Bool.eq_false_iff]
  intro transfer
  obtain ⟨transferImage, same⟩ := recognisesTransfer_iff.mp transfer
  exact transferImage.bytes_ne_vote voteImage (same.symm.trans script)

/-- A transfer is no vote. -/
theorem Parses.not_vote {b : List UInt8} {tx : Transaction} (parses : Parses sdk b tx)
    (transfer : tx.isSystemAssetTransfer = true) : tx.isVoteScript = false := by
  obtain ⟨transferImage, isTransfer⟩ := parses.transfer_iff.mp transfer
  rw [Bool.eq_false_iff]
  intro vote
  obtain ⟨voteImage, isVote⟩ := parses.vote_iff.mp vote
  exact transferImage.bytes_ne_vote voteImage (isTransfer.symm.trans isVote)

/-- **The fields of a recognised transfer.** -/
theorem Parses.transfer_fields {b : List UInt8} {tx : Transaction} (parses : Parses sdk b tx)
    {transfer : TransferImage} (script : tx.scriptBytes b = transfer.bytes) :
    tx.amount = transfer.amount.stored ∧ tx.isNeo = decide (transfer.asset = .neo) ∧
      tx.dstAddress = addressArea sdk transfer.destination.cells := by
  obtain ⟨image, rfl, decoded, same⟩ := parses.image
  rw [decoded.scriptBytes_eq] at script
  have before : (txFields.replay Transaction.zero image.fieldWrites).isNeo = false :=
    TxValue.flag.inj (@field_before_recognisers image .isNeo (by decide))
  rw [script, scriptWrites_transfer, TransferImage.bodyWrites] at same
  generalize txFields.replay Transaction.zero image.fieldWrites = start at before same
  clear decoded
  cases asset : transfer.asset with
  | neo =>
      rw [asset] at same
      subst same
      exact ⟨rfl, rfl, rfl⟩
  | gas =>
      rw [asset] at same
      subst same
      exact ⟨rfl, before, rfl⟩

/-- A field that the attempt to recognise a transfer does not assign. -/
theorem field_transferScript (tx : Transaction) (script : List UInt8) {field : TxField}
    (other : field ∉ TxField.isSystemAssetTransfer :: transferFields) :
    (txFields.replay tx (transferScript sdk 0 script).writes).field field = tx.field field :=
  txFields.read_replay_of_not_mem (fun write member =>
    (writesWithin_transferScript sdk 0 script write member).ne other) tx

/-- The key that a vote is cast for. -/
def CandidateImage.key : CandidateImage → Area UInt8 ecpointLen
  | .retract => Area.fill _ 0
  | .cast key _ => key

/-- Whether a vote is retracted. -/
def CandidateImage.retracts : CandidateImage → Bool
  | .retract => true
  | .cast _ _ => false

/-- **The fields of a recognised vote.** -/
theorem Parses.vote_fields {b : List UInt8} {tx : Transaction} (parses : Parses sdk b tx)
    {vote : VoteImage} (script : tx.scriptBytes b = vote.bytes) :
    tx.isRemoveVote = vote.candidate.retracts ∧ tx.voteTo = vote.candidate.key := by
  obtain ⟨image, rfl, decoded, same⟩ := parses.image
  rw [decoded.scriptBytes_eq] at script
  have key := TxValue.key.inj ((@field_transferScript sdk _ vote.bytes .voteTo
    (by decide)).trans (@field_before_recognisers image .voteTo (by decide)))
  rw [script, scriptWrites_vote, txFields.replay_append] at same
  generalize txFields.replay (txFields.replay Transaction.zero image.fieldWrites)
    (transferScript sdk 0 vote.bytes).writes = start at key same
  clear decoded
  subst same
  cases vote.candidate with
  | retract => exact ⟨rfl, key⟩
  | cast key compressed => exact ⟨rfl, rfl⟩

/-! ## Transactions around a script -/

theorem length_bytes_single {signer : SignerImage} {script : List UInt8}
    (nonempty : 1 ≤ script.length) (short : script.length < 0xFD) :
    (TransactionImage.single signer script nonempty short).bytes.length =
      28 + signer.bytes.length + script.length := by
  have signers : (TransactionImage.single signer script nonempty short).signers.bytes.length =
      1 + signer.bytes.length := by
    simp [SignersImage.bytes, TransactionImage.single, VarintImage.single]
    omega
  have attributes : (TransactionImage.single signer script nonempty
      short).attributes.bytes.length = 1 := by
    simp [AttributesImage.bytes, TransactionImage.single, VarintImage.single]
  have scripts : (TransactionImage.single signer script nonempty short).script.bytes.length =
      1 + script.length := by
    simp [ScriptImage.bytes, TransactionImage.single, VarintImage.single]
    omega
  have header : (TransactionImage.single signer script nonempty short).header.bytes.length = 25 :=
    rfl
  rw [TransactionImage.bytes, List.length_append, List.length_append, List.length_append, header,
    signers, attributes, scripts]
  omega

theorem decoded_parsed {image : TransactionImage}
    (short : image.bytes.length ≤ maxTransactionLen) : image.Decoded (image.parsed sdk) := by
  have decoded := @decoded_image sdk image short
  rwa [layoutWrites_image short] at decoded

theorem scriptBytes_parsed {image : TransactionImage}
    (short : image.bytes.length ≤ maxTransactionLen) :
    (image.parsed sdk).scriptBytes image.bytes = image.script.script :=
  (decoded_parsed short).scriptBytes_eq

/-- A transaction around a script, signed by the account of zeros. -/
def TransactionImage.ofScript (script : List UInt8) (nonempty : 1 ≤ script.length)
    (short : script.length < 0xFD) : TransactionImage :=
  .single (.plain (Area.fill _ 0)) script nonempty short

variable {script : List UInt8} (nonempty : 1 ≤ script.length) (short : script.length < 0xFD)

theorem TransactionImage.ofScript_short :
    (ofScript script nonempty short).bytes.length ≤ maxTransactionLen := by
  have signer : (SignerImage.plain (Area.fill uint160Len 0)).bytes.length = 21 := rfl
  rw [ofScript, length_bytes_single, signer]
  show _ ≤ 1024
  omega

theorem TransactionImage.ofScript_parses :
    Parses sdk (ofScript script nonempty short).bytes
      ((ofScript script nonempty short).parsed sdk) :=
  parses_image sdk (ofScript_short nonempty short)

theorem TransactionImage.ofScript_script :
    ((ofScript script nonempty short).parsed sdk).scriptBytes
      (ofScript script nonempty short).bytes = script :=
  scriptBytes_parsed (ofScript_short nonempty short)

/-- A transaction of one signer around the script that returns. -/
def SignerImage.transaction (signer : SignerImage) : TransactionImage :=
  .single signer [0x40] (by decide) (by decide)

theorem SignerImage.transaction_short {signer : SignerImage} (few : signer.bytes.length ≤ 512) :
    signer.transaction.bytes.length ≤ maxTransactionLen := by
  rw [SignerImage.transaction, length_bytes_single]
  show _ + 1 ≤ 1024
  omega

theorem SignerImage.transaction_parses {signer : SignerImage} (few : signer.bytes.length ≤ 512) :
    Parses sdk signer.transaction.bytes (signer.transaction.parsed sdk) :=
  parses_image sdk (transaction_short few)

/-! ## The transactions of a transfer and of a vote -/

/-- A transfer of GAS in a transaction of its own. -/
def TransferImage.ofAmount (amount : AmountImage) : TransferImage :=
  ⟨amount, Area.fill _ 0, Area.fill _ 0, .gas⟩

theorem TransferImage.length_bytes (image : TransferImage) :
    1 ≤ image.bytes.length ∧ image.bytes.length < 0xFD := by
  have amount : image.amount.bytes.length ≤ 9 := by
    cases image.amount with
    | push => exact Nat.le_add_left 1 8
    | pushInt8 operand => exact (congrArg (· + 1) operand.size_eq).trans_le (by decide)
    | pushInt16 operand => exact (congrArg (· + 1) operand.size_eq).trans_le (by decide)
    | pushInt32 operand => exact (congrArg (· + 1) operand.size_eq).trans_le (by decide)
    | pushInt64 operand => exact (congrArg (· + 1) operand.size_eq).trans_le (by decide)
  have asset : image.asset.scriptHash.length = 20 := by cases image.asset <;> rfl
  have sequence : transferSequence.length + syscallSequence.length ≤ 30 := by decide
  simp only [TransferImage.bytes, List.length_append,
    image.destination.size_eq, image.source.size_eq, asset, pushData20Bytes, List.length_cons,
    List.length_nil, uint160Len]
  omega

/-- The transaction of a transfer. -/
def TransferImage.transaction (image : TransferImage) : TransactionImage :=
  .ofScript image.bytes image.length_bytes.1 image.length_bytes.2

theorem TransferImage.transaction_parses (image : TransferImage) :
    Parses sdk image.transaction.bytes (image.transaction.parsed sdk) :=
  TransactionImage.ofScript_parses _ _

theorem TransferImage.transaction_script (image : TransferImage) :
    (image.transaction.parsed sdk).scriptBytes image.transaction.bytes = image.bytes :=
  TransactionImage.ofScript_script _ _

theorem TransferImage.transaction_flag (image : TransferImage) :
    (image.transaction.parsed sdk).isSystemAssetTransfer = true :=
  image.transaction_parses.transfer_iff.mpr ⟨image, image.transaction_script⟩

/-- A vote for a candidate. -/
def VoteImage.ofKey (key : Area UInt8 ecpointLen)
    (compressed : key.cells.headD 0 = 0x02 ∨ key.cells.headD 0 = 0x03) : VoteImage :=
  ⟨.cast key compressed, Area.fill _ 0⟩

theorem VoteImage.length_bytes (image : VoteImage) :
    1 ≤ image.bytes.length ∧ image.bytes.length < 0xFD := by
  have candidate : image.candidate.bytes.length ≤ 35 := by
    cases image.candidate with
    | retract => decide
    | cast key compressed =>
        rw [CandidateImage.bytes, List.length_append, key.size_eq]
        decide
  have sequence : voteSequence.length + neoScriptHash.length + syscallSequence.length ≤ 60 := by
    decide
  simp only [VoteImage.bytes, List.length_append, image.source.size_eq, pushData20Bytes,
    List.length_cons, List.length_nil, uint160Len]
  omega

/-- The transaction of a vote. -/
def VoteImage.transaction (image : VoteImage) : TransactionImage :=
  .ofScript image.bytes image.length_bytes.1 image.length_bytes.2

theorem VoteImage.transaction_parses (image : VoteImage) :
    Parses sdk image.transaction.bytes (image.transaction.parsed sdk) :=
  TransactionImage.ofScript_parses _ _

theorem VoteImage.transaction_script (image : VoteImage) :
    (image.transaction.parsed sdk).scriptBytes image.transaction.bytes = image.bytes :=
  TransactionImage.ofScript_script _ _

end AppNeo3
