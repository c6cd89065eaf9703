import AppNeo3.Transaction.Leftovers
import AppNeo3.Transaction.RawRefinement

/-!
# The pointers of a parsed transaction

A transaction that has been parsed records the positions of its accounts, of the
entries of their lists and of its script (`Transaction.Records`). The parser records
a position before it knows that the bytes are there. After a parse that succeeds all
of them are, whatever earlier parses have left: what is recorded is assigned again,
and what is assigned is a pointer of the image that the bytes are.
-/

set_option autoImplicit false

namespace AppNeo3

open Memory Stores

/-! ## Spans -/

/-- How many bytes a pointer of a signer is for. -/
def SignerField.spanSize : SignerField → Nat
  | .account | .allowedContract _ => uint160Len
  | .allowedGroup _ => ecpointLen
  | _ => 0

namespace Transaction

variable (tx : Transaction)

/-- How many bytes a pointer is for. -/
def spanSize : TxField → Nat
  | .signer _ field => field.spanSize
  | .script => tx.scriptSize.toNat
  | _ => 0

/-- The pointers that the transaction records: those of its signers, of the lists that
the scopes have a bit for, and of its script. -/
inductive Records : TxField → Prop
  | account {index : Nat} (inside : index < tx.signersSize.toNat) : Records (.signer index .account)
  | contract {index k : Nat} {signer : Signer} (inside : index < tx.signersSize.toNat)
      (found : tx.signers[index]? = some signer)
      (flag : signer.scope &&& customContracts = customContracts)
      (entry : k < signer.allowedContractsSize.toNat) :
      Records (.signer index (.allowedContract k))
  | group {index k : Nat} {signer : Signer} (inside : index < tx.signersSize.toNat)
      (found : tx.signers[index]? = some signer)
      (flag : signer.scope &&& customGroups = customGroups)
      (entry : k < signer.allowedGroupsSize.toNat) :
      Records (.signer index (.allowedGroup k))
  | script : Records .script

/-- The field points to its bytes, and they are among the first `count` bytes. -/
def SpanInside (field : TxField) (count : Nat) : Prop :=
  ∃ position, tx.field field = .pointer (some position) ∧ position + tx.spanSize field ≤ count

end Transaction

/-! ## The pointers of an image -/

theorem SignerImage.length_pointed {image : SignerImage} {pos position : Nat} {field : SignerField}
    (points : image.value pos field = .pointer (some position)) :
    (image.pointed field).length = field.spanSize := by
  cases field with
  | account => exact image.account.size_eq
  | allowedContract k =>
      obtain ⟨list, present, inside, _⟩ := entryAt_eq_some (TxValue.pointer.inj points)
      rw [pointed, present, optionalEntries, List.getElem?_eq_getElem inside]
      exact list.entries[k].size_eq
  | allowedGroup k =>
      obtain ⟨list, present, inside, _⟩ := entryAt_eq_some (TxValue.pointer.inj points)
      rw [pointed, present, optionalEntries, List.getElem?_eq_getElem inside]
      exact list.entries[k].size_eq
  | _ => cases points

namespace TransactionImage

variable {image : TransactionImage} {field : TxField} {position : Nat}

/-- A pointer of the image has its bytes in the bytes of the image. -/
theorem span_inside {tx : Transaction} (size : tx.scriptSize.toNat = image.script.script.length)
    (points : image.value field = .pointer (some position)) :
    position + tx.spanSize field ≤ image.bytes.length := by
  have length : (image.pointed field).length = tx.spanSize field := by
    cases field with
    | signer index field =>
        obtain ⟨signer, found, points⟩ := signer_of_pointer points
        rw [pointed, found]
        exact SignerImage.length_pointed points
    | script => exact size.symm
    | _ => cases points
  rw [← length]
  exact (standsAt_pointed points).end_le

/-- A pointer of the image is assigned. -/
theorem assigns_of_points (points : image.value field = .pointer (some position)) :
    ∃ write ∈ image.fieldWrites, write.target = field := by
  have other : field ∉ recogniserFields := fun recogniser => by
    have zero : image.value field = Transaction.zero.field field := by
      cases field with
      | isSystemAssetTransfer | isNeo | amount | dstAddress | isVoteScript | isRemoveVote |
        voteTo => rfl
      | _ => cases part_of_recogniser recogniser
    exact field_ne_pointer_of_recogniser recogniser _ position (zero.symm.trans points)
  refine (image.fieldWrites_cover other).resolve_left fun zero => ?_
  rw [points] at zero
  cases field with
  | signer index field =>
      exact Signer.field_zero_ne_pointer field position ((field_zero_signer index field).symm.trans
        zero)
  | script => cases zero
  | _ => cases points

end TransactionImage

/-! ## Parses that succeed -/

/-- The transaction holds what the image assigns. -/
def TransactionImage.AssignedIn (image : TransactionImage) (tx : Transaction) : Prop :=
  ∀ field, (∃ write ∈ image.fieldWrites, write.target = field) → tx.field field = image.value field

namespace TransactionImage.AssignedIn

variable {image : TransactionImage} {tx : Transaction}

/-- Assignments to a field of a signer. -/
theorem signer (assigned : image.AssignedIn tx) {index : Nat} {signer : Signer}
    {signerImage : SignerImage} (found : tx.signers[index]? = some signer)
    (imaged : image.signers.signers[index]? = some signerImage) {write : TxWrite}
    {field : SignerField} (member : write ∈ signerImage.writes index (image.signerAt index))
    (target : write.target = .signer index field) :
    signer.field field = signerImage.value (image.signerAt index) field := by
  have holds := assigned (.signer index field) ⟨write, TransactionImage.mem_fieldWrites_iff.mpr
    (.inr (.inl (.inr ⟨index, signerImage, imaged, member⟩))), target⟩
  rwa [Transaction.field, found, Option.getD_some, TransactionImage.value_signer imaged] at holds

theorem signersSize (assigned : image.AssignedIn tx) :
    tx.signersSize.toNat = image.signers.signers.length :=
  Int.ofNat.inj (TxValue.number.inj (assigned .signersSize
    ⟨_, TransactionImage.mem_fieldWrites_iff.mpr (.inr (.inl (.inl rfl))), rfl⟩))

theorem scriptSize (assigned : image.AssignedIn tx) :
    tx.scriptSize.toNat = image.script.script.length :=
  Int.ofNat.inj (TxValue.number.inj (assigned .scriptSize
    ⟨_, TransactionImage.mem_fieldWrites_iff.mpr (.inr (.inr (.inr (.inr rfl)))), rfl⟩))

theorem scope (assigned : image.AssignedIn tx) {index : Nat} {signer : Signer}
    {signerImage : SignerImage} (found : tx.signers[index]? = some signer)
    (imaged : image.signers.signers[index]? = some signerImage) :
    signer.scope = signerImage.scope :=
  TxValue.toNat_inj (assigned.signer found imaged
    (SignerImage.mem_writes_iff.mpr (.inr (.inl rfl))) rfl)

theorem contractsSize (assigned : image.AssignedIn tx) {index : Nat} {signer : Signer}
    {signerImage : SignerImage} (found : tx.signers[index]? = some signer)
    (imaged : image.signers.signers[index]? = some signerImage)
    {list : EntriesImage maxSignerAllowedContracts uint160Len}
    (present : signerImage.contracts = some list) :
    signer.allowedContractsSize.toNat = list.entries.length := by
  have member := (@mem_optionalWrites_iff allowedContracts index _
    (SignerImage.contractsAt (image.signerAt index)) _).mpr ⟨list, present, .inl rfl⟩
  have size := assigned.signer found imaged
    (SignerImage.mem_writes_iff.mpr (.inr (.inr (.inl member)))) rfl
  exact Int.ofNat.inj (TxValue.number.inj
    (size.trans (SignerImage.value_contractsSize present)))

theorem groupsSize (assigned : image.AssignedIn tx) {index : Nat} {signer : Signer}
    {signerImage : SignerImage} (found : tx.signers[index]? = some signer)
    (imaged : image.signers.signers[index]? = some signerImage)
    {list : EntriesImage maxSignerAllowedGroups ecpointLen}
    (present : signerImage.groups = some list) :
    signer.allowedGroupsSize.toNat = list.entries.length := by
  have member := (@mem_optionalWrites_iff allowedGroups index _
    (signerImage.groupsAt (image.signerAt index)) _).mpr ⟨list, present, .inl rfl⟩
  have size := assigned.signer found imaged
    (SignerImage.mem_writes_iff.mpr (.inr (.inr (.inr member)))) rfl
  exact Int.ofNat.inj (TxValue.number.inj (size.trans (SignerImage.value_groupsSize present)))

/-- **What the transaction records is a pointer of the image.** -/
theorem points (assigned : image.AssignedIn tx) {field : TxField} (records : tx.Records field) :
    ∃ position, image.value field = .pointer (some position) := by
  cases records with
  | account inside =>
      rw [assigned.signersSize] at inside
      exact ⟨_, TransactionImage.value_signer (List.getElem?_eq_getElem inside) .account⟩
  | @contract index k signer inside found flag entry =>
      rw [assigned.signersSize] at inside
      have imaged := List.getElem?_eq_getElem inside
      rw [assigned.scope found imaged] at flag
      obtain ⟨list, present⟩ := Option.isSome_iff_exists.mp
        ((image.signers.signers[index]).contracts_iff.mpr flag)
      rw [assigned.contractsSize found imaged present] at entry
      exact ⟨_, (TransactionImage.value_signer imaged _).trans
        (SignerImage.value_contract present entry)⟩
  | @group index k signer inside found flag entry =>
      rw [assigned.signersSize] at inside
      have imaged := List.getElem?_eq_getElem inside
      rw [assigned.scope found imaged] at flag
      obtain ⟨list, present⟩ := Option.isSome_iff_exists.mp
        ((image.signers.signers[index]).groups_iff.mpr flag)
      rw [assigned.groupsSize found imaged present] at entry
      exact ⟨_, (TransactionImage.value_signer imaged _).trans
        (SignerImage.value_group present entry)⟩
  | script => exact ⟨_, rfl⟩

/-- What the transaction records points to bytes of the image. -/
theorem spanInside (assigned : image.AssignedIn tx) {field : TxField}
    (records : tx.Records field) : tx.SpanInside field image.bytes.length := by
  obtain ⟨position, points⟩ := assigned.points records
  exact ⟨position, (assigned field (TransactionImage.assigns_of_points points)).trans points,
    TransactionImage.span_inside assigned.scriptSize points⟩

end TransactionImage.AssignedIn

/-- A parse that succeeds leaves the pointers of an image, and all others as they were. -/
theorem assignedIn_of_ok {sdk : Sdk} {tx : Transaction} {b : List UInt8}
    (ok : layoutStatus sdk tx.leftovers b = .parsingOk) :
    ∃ image : TransactionImage, b = image.bytes ∧ image.AssignedIn (tx.parse sdk b) ∧
      ∀ field position, (tx.parse sdk b).field field = .pointer (some position) →
        (∃ write ∈ image.fieldWrites, write.target = field) ∨
          tx.field field = .pointer (some position) := by
  obtain ⟨image, same, _, writes⟩ := layoutWrites_of_ok ok
  refine ⟨image, same, fun field touched => ?_, fun field position points => ?_⟩
  · obtain ⟨write, member, target⟩ := touched
    have other := (TransactionImage.fieldWrites_carry member).2.2
    rw [target] at other
    rw [Transaction.parse, writes]
    exact field_replay_image other (.inr ⟨write, member, target⟩)
  · by_cases touched : ∃ write ∈ image.fieldWrites, write.target = field
    · exact .inl touched
    · have untouched : ∀ write ∈ layoutWrites sdk tx.leftovers b, write.target ≠ field := by
        intro write member target
        rw [writes] at member
        rcases List.mem_append.mp member with early | late
        · exact touched ⟨write, early, target⟩
        · exact field_ne_pointer_of_recogniser (target ▸ scriptWrites_targets late) _ position points
      exact .inr ((txFields.read_replay_of_not_mem untouched tx).symm.trans points)

/-- **Parsing never leaves its input.** Whatever the bytes and the transaction left by earlier
parses, the parser on the memory of its input returns, so that it has done nothing it must not,
and with the results of the parser on the input. On success every pointer that the transaction
records is to bytes of the input, and so is every other pointer, unless it was there before. -/
theorem Raw.transactionDeserialize_inside (sdk : Sdk) (memory : List UInt8) (tx : Transaction)
    (size : Data) : ∃ status parsed size',
      Raw.transactionDeserialize memory sdk tx size = some (status, parsed, size') ∧
      AppNeo3.transactionDeserialize sdk (Buffer.ofBytes memory) tx size =
        some (status, parsed, size') ∧
      (status = .parsingOk →
        (∀ field, parsed.Records field → parsed.SpanInside field memory.length) ∧
        ∀ field position, parsed.field field = .pointer (some position) →
          parsed.SpanInside field memory.length ∨ tx.field field = .pointer (some position)) := by
  obtain ⟨size', run⟩ := @transactionDeserialize_eq sdk memory tx size
  refine ⟨_, _, size', (raw_transactionDeserialize memory sdk tx size).trans run, run, fun ok => ?_⟩
  obtain ⟨image, rfl, assigned, kept⟩ := assignedIn_of_ok ok
  refine ⟨fun field records => assigned.spanInside records, fun field position points => ?_⟩
  refine (kept field position points).imp_left fun touched => ?_
  have imaged := (assigned field touched).symm.trans points
  exact ⟨position, points, TransactionImage.span_inside assigned.scriptSize imaged⟩

end AppNeo3
