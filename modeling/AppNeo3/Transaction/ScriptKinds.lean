import AppNeo3.Sdk.Reference
import AppNeo3.Transaction.Recognised

/-!
# Transfers and votes among all scripts

Whatever bytes are parsed on an all-zero transaction, a parse stops before the
script or reads a transaction of the grammar, with the rest of the bytes behind
it (`layoutWrites_cases`). So the flags and the fields of the recognisers say
what the script is, also when the parse fails because bytes follow the script.

The vote recogniser runs on what the attempt to recognise a transfer has left.
It finds there what it would have found without the attempt.
-/

set_option autoImplicit false

namespace AppNeo3

open Memory CursorParsing Cursor CBody Stores

variable {sdk : Sdk}

/-! ## Parses that reach no script -/

/-- A write before the end of a script is known. -/
def TxWrite.BeforeScript (write : TxWrite) : Prop :=
  write.target ≠ .scriptSize ∧ write.target.part ≠ .recognisers

theorem TxPart.Holds.beforeScript {part : TxPart} {write : TxWrite} (holds : part.Holds write)
    (notScript : .script ≠ part) (notRecognisers : .recognisers ≠ part) : write.BeforeScript := by
  refine ⟨holds.ne notScript, fun same => notRecognisers ?_⟩
  exact same.symm.trans holds.part_eq

/-- A parse that ends with an error ends before the script is known. -/
theorem beforeError_transaction (left : Leftovers) :
    WritesBeforeError TxWrite.BeforeScript (transactionLayout sdk left) := by
  have script : WritesBeforeError TxWrite.BeforeScript (scriptLayout sdk left.transferFlag) :=
    .bind (writesWithin_uvarint _) fun _ => .bind writesWithin_position fun _ =>
    .bind (writesWithin_write ⟨nofun, nofun⟩) fun _ => .bind (writesWithin_failIf _ _) fun _ =>
    .bind (writesWithin_take _ _) fun _ =>
    ((failsWithin_write _).bind fun _ => failsWithin_writeAll _).beforeError
  exact .bind (writesWithin_header.mono fun _ holds => holds.beforeScript nofun nofun) fun _ =>
    .bind (writesWithin_signers.mono fun _ holds => holds.beforeScript nofun nofun) fun _ =>
    .bind ((writesWithin_attributes _).mono fun _ holds => holds.beforeScript nofun nofun)
      fun _ => script

/-- **What a parse has assigned.** It stops before the script is known, or the
bytes begin with a transaction of the grammar. -/
theorem layoutWrites_cases (b : List UInt8) :
    (∀ write ∈ layoutWrites sdk Leftovers.none b, write.BeforeScript) ∨
      ∃ (image : TransactionImage) (rest : List UInt8), b = image.bytes ++ rest ∧
        b.length ≤ maxTransactionLen ∧ layoutWrites sdk Leftovers.none b =
          image.fieldWrites ++ scriptWrites sdk false image.script.script := by
  rw [layoutWrites]
  split
  · exact .inl fun _ member => absurd member List.not_mem_nil
  · rename_i short
    cases run : transactionLayout sdk Leftovers.none 0 b with
    | mk writes outcome =>
        cases outcome with
        | error status => exact .inl (beforeError_transaction _ _ _ _ _ run)
        | ok result =>
            obtain ⟨_, pos, rest⟩ := result
            obtain ⟨phrase, split, _, image, rfl⟩ := sound_transaction sdk _ _ _ _ _ _ run
            have read := accepts_transaction sdk image rest
            rw [← split, run, Reading.mk.injEq] at read
            exact .inr ⟨image, rest, split, Nat.le_of_not_lt short, read.1⟩

/-- A field that a parse without a script leaves zero. -/
theorem field_beforeScript {writes : List TxWrite}
    (before : ∀ write ∈ writes, write.BeforeScript) {field : TxField}
    (later : field = .scriptSize ∨ field.part = .recognisers) :
    (txFields.replay Transaction.zero writes).field field = Transaction.zero.field field := by
  refine txFields.read_replay_of_not_mem (fun write member same => ?_) _
  have target : write.target = field := same
  rcases later with size | recogniser
  · exact (before write member).1 (target.trans size)
  · exact (before write member).2 (target ▸ recogniser)

/-- **What any parse leaves of the script**: none and no flag, or what the parse
of a front of the bytes leaves. -/
theorem script_of_parsed {b : List UInt8} {status : ParserStatus} {tx : Transaction}
    {size size' : Data} (parsed : transactionDeserialize sdk (Buffer.ofBytes b) Transaction.zero
      size = some (status, tx, size')) :
    (tx.scriptBytes b = [] ∧ tx.isSystemAssetTransfer = false ∧ tx.isVoteScript = false) ∨
      ∃ front, Parses sdk front tx ∧ tx.scriptBytes front = tx.scriptBytes b := by
  obtain ⟨size'', run⟩ := @transactionDeserialize_eq sdk b Transaction.zero size
  rw [run] at parsed
  simp only [Option.some.injEq, Prod.mk.injEq] at parsed
  obtain ⟨_, rfl, _⟩ := parsed
  rcases @layoutWrites_cases sdk b with before | ⟨image, rest, rfl, short, writes⟩
  · refine .inl ⟨?_, ?_, ?_⟩
    · have none : (txFields.replay Transaction.zero (layoutWrites sdk Transaction.zero.leftovers
          b)).scriptSize.toNat = 0 :=
        Int.ofNat.inj (TxValue.number.inj (field_beforeScript before (.inl rfl)))
      rw [Transaction.scriptBytes, none]
      exact List.take_zero
    · exact TxValue.flag.inj (@field_beforeScript _ before .isSystemAssetTransfer (.inr rfl))
    · exact TxValue.flag.inj (@field_beforeScript _ before .isVoteScript (.inr rfl))
  · have whole : image.bytes.length ≤ maxTransactionLen := by
      rw [List.length_append] at short
      omega
    have same : txFields.replay Transaction.zero
        (layoutWrites sdk Transaction.zero.leftovers (image.bytes ++ rest)) =
          image.parsed sdk := congrArg (txFields.replay Transaction.zero) writes
    rw [same]
    have decoded := @decoded_parsed sdk _ whole
    exact .inr ⟨image.bytes, parses_image sdk whole,
      decoded.scriptBytes_eq.trans (decoded.scriptBytes_append rest).symm⟩

/-! ## Transfers -/

theorem TransferImage.bytes_ne_nil (image : TransferImage) : image.bytes ≠ [] := by
  intro empty
  rw [TransferImage.bytes] at empty
  cases empty

theorem VoteImage.bytes_ne_nil (image : VoteImage) : image.bytes ≠ [] := by
  intro empty
  rw [VoteImage.bytes] at empty
  cases candidate : image.candidate with
  | retract =>
      rw [candidate] at empty
      cases empty
  | cast key compressed =>
      rw [candidate] at empty
      cases empty

/-- **The transfer recogniser accepts exactly the system transfers.** On an
all-zero transaction, whatever the status of the parse, the flag says that the
script is a transfer; then the asset and the address of the destination are
those of the transfer, and the script is no vote. -/
theorem transfer_recognised (sdk : Sdk) {b : List UInt8} {status : ParserStatus}
    {tx : Transaction} {size size' : Data} (parsed : transactionDeserialize sdk
      (Buffer.ofBytes b) Transaction.zero size = some (status, tx, size')) :
    (tx.isSystemAssetTransfer = true ↔
        ∃ transfer : TransferImage, tx.scriptBytes b = transfer.bytes) ∧
      ∀ transfer : TransferImage, tx.scriptBytes b = transfer.bytes →
        (tx.isNeo = true ↔ transfer.asset = .neo) ∧
        (∀ stored : Area Char addressLen,
          tx.dstAddress = scriptHashToAddress sdk stored transfer.destination.cells) ∧
        tx.isVoteScript = false := by
  rcases script_of_parsed parsed with ⟨empty, noTransfer, _⟩ | ⟨front, parses, same⟩
  · rw [empty, noTransfer]
    refine ⟨iff_of_false Bool.false_ne_true ?_, fun transfer nil => ?_⟩
    · rintro ⟨transfer, nil⟩
      exact transfer.bytes_ne_nil nil.symm
    · exact absurd nil.symm transfer.bytes_ne_nil
  · rw [← same]
    refine ⟨parses.transfer_iff, fun transfer script => ?_⟩
    obtain ⟨_, isNeo, address⟩ := parses.transfer_fields script
    refine ⟨by rw [isNeo, decide_eq_true_iff], fun stored => ?_, ?_⟩
    · rw [address, scriptHashToAddress_eq_addressArea transfer.destination.size_eq]
    · exact parses.not_vote (parses.transfer_iff.mpr ⟨transfer, script⟩)

/-- A transfer of five fractions of GAS. -/
theorem transfer_recognised_gas :
    let transfer := TransferImage.ofAmount (.push 5)
    ∃ tx size', transactionDeserialize Sdk.reference (Buffer.ofBytes transfer.transaction.bytes)
        Transaction.zero (Area.fill 8 0) = some (.parsingOk, tx, size') ∧
      tx.isSystemAssetTransfer = true ∧ tx.isNeo ≠ true ∧ tx.isVoteScript = false := by
  intro transfer
  obtain ⟨size', parsed⟩ := (@TransferImage.transaction_parses Sdk.reference transfer).from_any
    (Area.fill 8 0)
  have script := @TransferImage.transaction_script Sdk.reference transfer
  have recognised := transfer_recognised Sdk.reference parsed
  obtain ⟨neo, _, noVote⟩ := recognised.2 transfer script
  exact ⟨_, size', parsed, recognised.1.mpr ⟨transfer, script⟩, neo.not.mpr nofun, noVote⟩

/-! ## Votes -/

/-- What a transaction holds of a vote. -/
def Transaction.vote (tx : Transaction) : Bool × Bool × Area UInt8 ecpointLen :=
  (tx.isVoteScript, tx.isRemoveVote, tx.voteTo)

theorem vote_eq_of_fields {first second : Transaction}
    (same : ∀ field ∈ TxField.isVoteScript :: voteFields, first.field field = second.field field) :
    first.vote = second.vote := by
  have script := TxValue.flag.inj (same .isVoteScript (.head _))
  have remove := TxValue.flag.inj (same .isRemoveVote (.tail _ (.head _)))
  have key := TxValue.key.inj (same .voteTo (.tail _ (.tail _ (.head _))))
  rw [Transaction.vote, Transaction.vote, script, remove, key]

/-- **The vote recogniser finds what it would have found without the attempt to
recognise a transfer**, whatever that attempt has assigned before it gave up. -/
theorem vote_afterTransfer (sdk : Sdk) (tx : Transaction) (script : List UInt8) :
    (txFields.replay (txFields.replay tx (transferScript sdk 0 script).writes)
      (voteScript 0 script).writes).vote =
        (txFields.replay tx (voteScript 0 script).writes).vote := by
  refine vote_eq_of_fields fun field vote => ?_
  have other : field ∉ TxField.isSystemAssetTransfer :: transferFields := by
    simp only [voteFields, List.mem_cons, List.not_mem_nil, or_false] at vote
    rcases vote with rfl | rfl | rfl <;> decide
  exact txFields.read_replay_congr (fun write member =>
    inBounds_of_recogniser (voteScript_targets member)) _ _
    (.inl (field_transferScript tx script other))

/-- Both recognisers on a script, and the vote recogniser alone. -/
theorem vote_alone (sdk : Sdk) {s : ParserState} {script : List UInt8}
    (whole : s.tx.scriptSize.toNat = script.length) (unset : s.tx.isSystemAssetTransfer = false) :
    ∃ both alone, recogniseScript sdk script s = .next () both ∧
      callRecogniser (tryParseVoteScript sdk) script s = .next () alone ∧
      (both.tx.isSystemAssetTransfer = false → both.tx.vote = alone.tx.vote) := by
  obtain ⟨_, together⟩ := @recogniseScript_run sdk s script whole
  obtain ⟨_, called⟩ := callRecogniser_run (@follows_vote sdk _
    (show (ScriptState.mk (Buffer.ofBytes script) s.tx s.size).Whole from whole))
  refine ⟨_, _, together, called, fun noTransfer => ?_⟩
  have kept := @transferFlag_scriptWrites sdk s.tx s.tx.isSystemAssetTransfer script
  have missed : recognisesTransfer sdk script = false := by
    rw [unset] at kept noTransfer
    exact kept.symm.trans noTransfer
  simp only [unset, scriptWrites, missed, Bool.or_false, Bool.false_eq_true, if_false,
    txFields.replay_append]
  exact vote_afterTransfer sdk s.tx script

/-- **The vote recogniser accepts exactly the votes for NEO.** On an all-zero
transaction, whatever the status of the parse, the flag says that the script is
a vote; then the script is no transfer, and the candidate is the one of the
vote. What the attempt to recognise a transfer has done does not matter. -/
theorem vote_recognised (sdk : Sdk) {b : List UInt8} {status : ParserStatus}
    {tx : Transaction} {size size' : Data} (parsed : transactionDeserialize sdk
      (Buffer.ofBytes b) Transaction.zero size = some (status, tx, size')) :
    (tx.isVoteScript = true ↔ ∃ vote : VoteImage, tx.scriptBytes b = vote.bytes) ∧
      (∀ vote : VoteImage, tx.scriptBytes b = vote.bytes →
        (tx.isRemoveVote = true ↔ vote.candidate = .retract) ∧
        (∀ key compressed, vote.candidate = .cast key compressed → tx.voteTo = key) ∧
        tx.isSystemAssetTransfer = false) ∧
      ∀ (s : ParserState) (script : List UInt8), s.tx.scriptSize.toNat = script.length →
        s.tx.isSystemAssetTransfer = false →
        ∃ both alone, recogniseScript sdk script s = .next () both ∧
          callRecogniser (tryParseVoteScript sdk) script s = .next () alone ∧
          (both.tx.isSystemAssetTransfer = false → both.tx.vote = alone.tx.vote) := by
  refine ⟨?_, ?_, fun s script => vote_alone sdk⟩
  · rcases script_of_parsed parsed with ⟨empty, _, noVote⟩ | ⟨front, parses, same⟩
    · rw [empty, noVote]
      refine iff_of_false Bool.false_ne_true ?_
      rintro ⟨vote, nil⟩
      exact vote.bytes_ne_nil nil.symm
    · rw [← same]
      exact parses.vote_iff
  · intro vote script
    rcases script_of_parsed parsed with ⟨empty, _, _⟩ | ⟨front, parses, same⟩
    · exact absurd (script.symm.trans empty) vote.bytes_ne_nil
    · rw [← same] at script
      obtain ⟨removes, key⟩ := parses.vote_fields script
      refine ⟨?_, ?_, ?_⟩
      · rw [removes]
        cases vote.candidate with
        | retract => exact iff_of_true rfl rfl
        | cast key compressed => exact iff_of_false Bool.false_ne_true nofun
      · intro candidate compressed cast
        rw [key, cast]
        rfl
      · rw [Bool.eq_false_iff]
        intro transfer
        exact Bool.false_ne_true ((parses.not_vote transfer).symm.trans
          (parses.vote_iff.mpr ⟨vote, script⟩))

/-- A vote for a candidate. -/
theorem vote_recognised_cast :
    let vote := VoteImage.ofKey ⟨0x02 :: List.replicate 32 0, rfl⟩ (.inl rfl)
    ∃ tx size', transactionDeserialize Sdk.reference (Buffer.ofBytes vote.transaction.bytes)
        Transaction.zero (Area.fill 8 0) = some (.parsingOk, tx, size') ∧
      tx.isVoteScript = true ∧ tx.isRemoveVote ≠ true ∧
      tx.voteTo.cells = 0x02 :: List.replicate 32 0 := by
  intro vote
  obtain ⟨size', parsed⟩ := (@VoteImage.transaction_parses Sdk.reference vote).from_any
    (Area.fill 8 0)
  have script := @VoteImage.transaction_script Sdk.reference vote
  obtain ⟨isVote, fields, _⟩ := vote_recognised Sdk.reference parsed
  obtain ⟨removes, key, _⟩ := fields vote script
  exact ⟨_, size', parsed, isVote.mpr ⟨vote, script⟩, removes.not.mpr nofun,
    congrArg Area.cells (key _ _ rfl)⟩

end AppNeo3
