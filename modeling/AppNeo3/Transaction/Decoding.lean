import AppNeo3.Transaction.DeserializeRefinement
import AppNeo3.Transaction.Grammar

/-!
# What a transaction decodes to

An image says what every field holds after its bytes have been parsed: numbers
are the numbers the bytes stand for, and pointers the positions of their bytes.
The fields of the recognisers are left aside; they depend on the script.
-/

set_option autoImplicit false

namespace AppNeo3

open Memory CursorParsing Cursor ByteOrder Stores

/-! ## The decoded values -/

/-- The entries of a list that may be absent. -/
def optionalEntries {limit width : Nat} : Option (EntriesImage limit width) →
    List (Area UInt8 width)
  | none => []
  | some image => image.entries

/-- The position of an entry in a list that begins at `pos`. -/
def entryAt {limit width : Nat} : Option (EntriesImage limit width) → Nat → Nat → Option Nat
  | none, _, _ => none
  | some image, pos, index =>
      if index < image.entries.length then some (pos + image.count.bytes.length + index * width)
      else none

namespace SignerImage

variable (image : SignerImage) (pos : Nat)

/-- Where the contracts of a signer begin. -/
def contractsAt : Nat := pos + uint160Len + 1

/-- Where the groups of a signer begin. -/
def groupsAt : Nat := pos + uint160Len + 1 + (optionalBytes image.contracts).length

/-- The fields of a signer whose bytes begin at `pos`. -/
def value : SignerField → TxValue
  | .account => .pointer (some pos)
  | .scope => .number image.scope.toNat
  | .allowedContract index => .pointer (entryAt image.contracts (contractsAt pos) index)
  | .allowedContractsSize => .number (optionalEntries image.contracts).length
  | .allowedGroup index => .pointer (entryAt image.groups (image.groupsAt pos) index)
  | .allowedGroupsSize => .number (optionalEntries image.groups).length

/-- The bytes that a pointer of a signer points to. -/
def pointed : SignerField → List UInt8
  | .account => image.account.cells
  | .allowedContract index => ((optionalEntries image.contracts)[index]?.map Area.cells).getD []
  | .allowedGroup index => ((optionalEntries image.groups)[index]?.map Area.cells).getD []
  | _ => []

end SignerImage

namespace TransactionImage

variable (image : TransactionImage)

/-- Where a signer begins. -/
def signerAt (index : Nat) : Nat :=
  image.signersAt + image.signers.count.bytes.length +
    ((image.signers.signers.take index).flatMap SignerImage.bytes).length

/-- The fields of a transaction; the fields of the recognisers are not decoded. -/
def value : TxField → TxValue
  | .version => .number 0
  | .nonce => .number (leNat image.header.nonce.cells)
  | .systemFee => .number (leNat image.header.systemFee.cells)
  | .networkFee => .number (leNat image.header.networkFee.cells)
  | .validUntilBlock => .number (leNat image.header.validUntilBlock.cells)
  | .signer index field =>
      match image.signers.signers[index]? with
      | some signer => signer.value (image.signerAt index) field
      | none => Signer.zero.field field
  | .signersSize => .number image.signers.signers.length
  | .attributeType index =>
      .number (if index < image.attributes.count.value.toNat then highPriority.toNat else 0)
  | .attributesSize => .number image.attributes.count.value.toNat
  | .script => .pointer (some (image.scriptAt + image.script.count.bytes.length))
  | .scriptSize => .number image.script.script.length
  | field => Transaction.zero.field field

/-- The bytes that a pointer points to. -/
def pointed : TxField → List UInt8
  | .signer index field => (image.signers.signers[index]?.map (·.pointed field)).getD []
  | .script => image.script.script
  | _ => []

end TransactionImage

/-- The fields that the recognisers assign. -/
def recogniserFields : List TxField :=
  transferFields ++ voteFields ++ [.isSystemAssetTransfer, .isVoteScript]

/-- The transaction holds what the image decodes to, and its pointers point to
the bytes of the image. -/
structure TransactionImage.Decoded (image : TransactionImage) (tx : Transaction) : Prop where
  fields : ∀ field, field ∉ recogniserFields → tx.field field = image.value field
  pointers : ∀ field position, tx.field field = .pointer (some position) →
    slice image.bytes position (image.pointed field).length = image.pointed field

/-! ## The assignments carry the decoded values -/

theorem length_flatMap_cells {width : Nat} (entries : List (Area UInt8 width)) :
    (entries.flatMap Area.cells).length = entries.length * width := by
  induction entries with
  | nil => exact (Nat.zero_mul width).symm
  | cons entry entries ih =>
      rw [List.flatMap_cons, List.length_append, ih, entry.size_eq, List.length_cons]
      ring

/-- The assignments of a list: its size and its entries. -/
theorem mem_optionalWrites_iff {list : EntryList} {signer : Nat} {image : Option list.Image}
    {pos : Nat} {write : TxWrite} :
    write ∈ list.optionalWrites signer image pos ↔ ∃ present, image = some present ∧
      (write = .signer signer (list.sizeWrite present.count.value.toUInt8) ∨
        ∃ index < present.entries.length, write = .signer signer
          (list.entryWrite index (pos + present.count.bytes.length + index * list.width))) := by
  cases image with
  | none => exact iff_of_false List.not_mem_nil nofun
  | some present =>
      rw [EntryList.optionalWrites, EntryList.writes, List.mem_cons, mem_repeatLog_iff]
      constructor
      · rintro (rfl | ⟨index, entry, found, member⟩)
        · exact ⟨present, rfl, .inl rfl⟩
        · have inside : index < present.entries.length := (List.getElem?_eq_some_iff.mp found).1
          rw [Nat.zero_add, length_flatMap_cells, List.length_take,
            Nat.min_eq_left (Nat.le_of_lt inside)] at member
          exact ⟨present, rfl, .inr ⟨index, inside, List.mem_singleton.mp member⟩⟩
      · rintro ⟨_, same, rfl | ⟨index, inside, rfl⟩⟩
        · cases same
          exact .inl rfl
        · cases same
          refine .inr ⟨index, _, List.getElem?_eq_getElem inside, ?_⟩
          rw [Nat.zero_add, length_flatMap_cells, List.length_take,
            Nat.min_eq_left (Nat.le_of_lt inside)]
          exact List.mem_singleton_self _

theorem toNat_count {limit width : Nat} (image : EntriesImage limit width) (small : limit < 256) :
    image.count.value.toUInt8.toNat = image.entries.length := by
  have bound := image.length_le
  rw [UInt64.toNat_toUInt8_of_lt (by rw [← image.length_eq]; omega), image.length_eq]

/-- A position in a list is that of an entry. -/
theorem entryAt_eq_some {limit width : Nat} {image : Option (EntriesImage limit width)}
    {pos index position : Nat} (points : entryAt image pos index = some position) :
    ∃ list, image = some list ∧ index < list.entries.length ∧
      position = pos + list.count.bytes.length + index * width := by
  cases image with
  | none => cases points
  | some list =>
      rw [entryAt] at points
      split at points
      · rename_i inside
        cases points
        exact ⟨list, rfl, inside, rfl⟩
      · cases points

theorem entryAt_of_lt {limit width : Nat} {image : EntriesImage limit width} {pos index : Nat}
    (inside : index < image.entries.length) :
    entryAt (some image) pos index = some (pos + image.count.bytes.length + index * width) :=
  if_pos inside

namespace SignerImage

variable {image : SignerImage} {pos k : Nat}

theorem value_contractsSize {list : EntriesImage maxSignerAllowedContracts uint160Len}
    (present : image.contracts = some list) :
    image.value pos .allowedContractsSize = .number list.entries.length :=
  congrArg (fun image => TxValue.number (optionalEntries image).length) present

theorem value_contract {list : EntriesImage maxSignerAllowedContracts uint160Len}
    (present : image.contracts = some list) (inside : k < list.entries.length) :
    image.value pos (.allowedContract k) =
      .pointer (some (contractsAt pos + list.count.bytes.length + k * uint160Len)) := by
  rw [value, present, entryAt_of_lt inside]

theorem value_groupsSize {list : EntriesImage maxSignerAllowedGroups ecpointLen}
    (present : image.groups = some list) :
    image.value pos .allowedGroupsSize = .number list.entries.length :=
  congrArg (fun image => TxValue.number (optionalEntries image).length) present

theorem value_group {list : EntriesImage maxSignerAllowedGroups ecpointLen}
    (present : image.groups = some list) (inside : k < list.entries.length) :
    image.value pos (.allowedGroup k) =
      .pointer (some (image.groupsAt pos + list.count.bytes.length + k * ecpointLen)) := by
  rw [value, present, entryAt_of_lt inside]

end SignerImage

theorem SignerImage.mem_writes_iff {image : SignerImage} {index pos : Nat} {write : TxWrite} :
    write ∈ image.writes index pos ↔ write = .signer index (.account pos) ∨
      write = .signer index (.scope image.scope) ∨
      write ∈ allowedContracts.optionalWrites index image.contracts (contractsAt pos) ∨
      write ∈ allowedGroups.optionalWrites index image.groups (image.groupsAt pos) := by
  rw [SignerImage.writes, List.mem_append, List.mem_append, List.mem_cons, List.mem_singleton,
    or_assoc, or_assoc]
  rfl

theorem SignerImage.writes_carry {image : SignerImage} {index pos : Nat} {write : TxWrite}
    (member : write ∈ image.writes index pos) :
    ∃ signerWrite : SignerWrite, write = .signer index signerWrite ∧
      signerWrite.value = image.value pos signerWrite.target ∧
      signerWrite.target.inBounds = true := by
  rcases SignerImage.mem_writes_iff.mp member with rfl | rfl | contracts | groups
  · exact ⟨_, rfl, rfl, rfl⟩
  · exact ⟨_, rfl, rfl, rfl⟩
  · obtain ⟨list, present, rfl | ⟨k, inside, rfl⟩⟩ :=
      (@mem_optionalWrites_iff allowedContracts _ _ _ _).mp contracts
    · refine ⟨_, rfl, ?_, rfl⟩
      exact (congrArg (fun n : Nat => TxValue.number n) (toNat_count list (by decide))).trans
        (SignerImage.value_contractsSize present).symm
    · exact ⟨_, rfl, (SignerImage.value_contract present inside).symm,
        allowedContracts.entry_inBounds _ _ (inside.trans_le list.length_le)⟩
  · obtain ⟨list, present, rfl | ⟨k, inside, rfl⟩⟩ :=
      (@mem_optionalWrites_iff allowedGroups _ _ _ _).mp groups
    · refine ⟨_, rfl, ?_, rfl⟩
      exact (congrArg (fun n : Nat => TxValue.number n) (toNat_count list (by decide))).trans
        (SignerImage.value_groupsSize present).symm
    · exact ⟨_, rfl, (SignerImage.value_group present inside).symm,
        allowedGroups.entry_inBounds _ _ (inside.trans_le list.length_le)⟩

theorem getElem?_replicate_none (n k : Nat) :
    ((Vector.replicate n (none : Option Nat))[k]?).getD none = none := by
  by_cases inside : k < n
  · rw [Vector.getElem?_eq_getElem inside, Vector.getElem_replicate]
    rfl
  · rw [Vector.getElem?_eq_none (Nat.le_of_not_lt inside)]
    rfl

/-- The pointers of the all-zero signer are null. -/
theorem Signer.field_zero_ne_pointer (field : SignerField) (position : Nat) :
    Signer.zero.field field ≠ .pointer (some position) := by
  intro points
  cases field with
  | allowedContract index | allowedGroup index =>
      have null := (TxValue.pointer.inj points).symm.trans (getElem?_replicate_none _ index)
      cases null
  | _ => cases points

/-- A field of a signer is assigned, or keeps a zero that it is decoded to. -/
theorem SignerImage.writes_cover (image : SignerImage) (index pos : Nat) (field : SignerField) :
    Signer.zero.field field = image.value pos field ∨
      ∃ write ∈ image.writes index pos, write.target = .signer index field := by
  cases field with
  | account => exact .inr ⟨_, SignerImage.mem_writes_iff.mpr (.inl rfl), rfl⟩
  | scope => exact .inr ⟨_, SignerImage.mem_writes_iff.mpr (.inr (.inl rfl)), rfl⟩
  | allowedContractsSize =>
      cases present : image.contracts with
      | none => exact .inl (by rw [SignerImage.value, present]; rfl)
      | some list =>
          have member := (@mem_optionalWrites_iff allowedContracts index _ (contractsAt pos) _).mpr
            ⟨list, present, .inl rfl⟩
          exact .inr ⟨_, SignerImage.mem_writes_iff.mpr (.inr (.inr (.inl member))), rfl⟩
  | allowedContract k =>
      have zero : Signer.zero.field (.allowedContract k) = .pointer none :=
        congrArg TxValue.pointer (getElem?_replicate_none _ k)
      rw [zero, SignerImage.value]
      cases present : image.contracts with
      | none => exact .inl rfl
      | some list =>
          by_cases inside : k < list.entries.length
          · have member := (@mem_optionalWrites_iff allowedContracts index _ (contractsAt pos) _).mpr
              ⟨list, present, .inr ⟨k, inside, rfl⟩⟩
            exact .inr ⟨_, SignerImage.mem_writes_iff.mpr (.inr (.inr (.inl member))), rfl⟩
          · exact .inl (congrArg TxValue.pointer (if_neg inside).symm)
  | allowedGroupsSize =>
      cases present : image.groups with
      | none => exact .inl (by rw [SignerImage.value, present]; rfl)
      | some list =>
          have member := (@mem_optionalWrites_iff allowedGroups index _ (image.groupsAt pos) _).mpr
            ⟨list, present, .inl rfl⟩
          exact .inr ⟨_, SignerImage.mem_writes_iff.mpr (.inr (.inr (.inr member))), rfl⟩
  | allowedGroup k =>
      have zero : Signer.zero.field (.allowedGroup k) = .pointer none :=
        congrArg TxValue.pointer (getElem?_replicate_none _ k)
      rw [zero, SignerImage.value]
      cases present : image.groups with
      | none => exact .inl rfl
      | some list =>
          by_cases inside : k < list.entries.length
          · have member := (@mem_optionalWrites_iff allowedGroups index _ (image.groupsAt pos) _).mpr
              ⟨list, present, .inr ⟨k, inside, rfl⟩⟩
            exact .inr ⟨_, SignerImage.mem_writes_iff.mpr (.inr (.inr (.inr member))), rfl⟩
          · exact .inl (congrArg TxValue.pointer (if_neg inside).symm)

namespace TransactionImage

variable {image : TransactionImage}

theorem mem_fieldWrites_iff {write : TxWrite} :
    write ∈ image.fieldWrites ↔ write ∈ image.header.writes ∨
      (write = .signersSize image.signers.count.value.toUInt8 ∨
        ∃ (index : Nat) (signer : SignerImage), image.signers.signers[index]? = some signer ∧
          write ∈ signer.writes index (image.signerAt index)) ∨
      (write = .attributesSize image.attributes.count.value.toUInt8 ∨
        image.attributes.count.value.toNat = 1 ∧ write = .attributeType 0 highPriority) ∨
      write = .script (image.scriptAt + image.script.count.bytes.length) ∨
      write = .scriptSize image.script.count.value.toUInt16 := by
  have attributes : write ∈ ((if image.attributes.count.value.toNat = 0 then []
      else [.attributeType 0 highPriority] : List TxWrite)) ↔
      image.attributes.count.value.toNat = 1 ∧ write = .attributeType 0 highPriority := by
    have small := image.attributes.le_one
    split
    · rename_i zero
      rw [zero]
      exact iff_of_false List.not_mem_nil fun one => nomatch one.1
    · rename_i nonzero
      rw [List.mem_singleton]
      exact (and_iff_right (by omega)).symm
  rw [fieldWrites, List.mem_append, List.mem_append, List.mem_append, SignersImage.writes,
    List.mem_cons, mem_repeatLog_iff, AttributesImage.writes, List.mem_cons, attributes,
    ScriptImage.writes, List.mem_cons, List.mem_singleton]
  simp only [Nat.zero_add, or_assoc]
  rfl

theorem value_signer {index : Nat} {signer : SignerImage}
    (found : image.signers.signers[index]? = some signer) (field : SignerField) :
    image.value (.signer index field) = signer.value (image.signerAt index) field := by
  rw [value, found]

/-- A pointer of a signer is one of a signer that is there. -/
theorem signer_of_pointer {index position : Nat} {field : SignerField}
    (points : image.value (.signer index field) = .pointer (some position)) :
    ∃ signer : SignerImage, image.signers.signers[index]? = some signer ∧
      signer.value (image.signerAt index) field = .pointer (some position) := by
  cases found : image.signers.signers[index]? with
  | none =>
      rw [value, found] at points
      exact absurd points (Signer.field_zero_ne_pointer field position)
  | some signer =>
      rw [value_signer found] at points
      exact ⟨signer, rfl, points⟩

theorem value_attributeType {index : Nat} (inside : index < image.attributes.count.value.toNat) :
    image.value (.attributeType index) = .number highPriority.toNat := by
  rw [value, if_pos inside]

theorem header_carries {write : TxWrite} (member : write ∈ image.header.writes) :
    write.value = image.value write.target ∧ write.target.inBounds = true ∧
      write.target ∉ recogniserFields := by
  rw [HeaderImage.writes] at member
  simp only [List.mem_cons, List.not_mem_nil, or_false] at member
  rcases member with rfl | rfl | rfl | rfl | rfl
  · exact ⟨rfl, rfl, by decide⟩
  · exact ⟨congrArg (fun n : Nat => TxValue.number n) (toNat_four image.header.nonce.size_eq), rfl,
      (by decide : TxField.nonce ∉ recogniserFields)⟩
  · exact ⟨congrArg TxValue.number
      (toInt_eight_of_lt image.header.systemFee.size_eq image.header.systemFee_ok), rfl,
      (by decide : TxField.systemFee ∉ recogniserFields)⟩
  · exact ⟨congrArg TxValue.number
      (toInt_eight_of_lt image.header.networkFee.size_eq image.header.networkFee_ok), rfl,
      (by decide : TxField.networkFee ∉ recogniserFields)⟩
  · exact ⟨congrArg (fun n : Nat => TxValue.number n)
      (toNat_four image.header.validUntilBlock.size_eq), rfl,
      (by decide : TxField.validUntilBlock ∉ recogniserFields)⟩

theorem toNat_scriptCount (image : ScriptImage) :
    image.count.value.toUInt16.toNat = image.script.length := by
  have bound := image.length_le
  have small : image.count.value.toNat < 2 ^ 16 := by
    rw [← image.length_eq]
    omega
  rw [image.length_eq]
  exact (UInt64.toNat_toUInt16 _).trans (Nat.mod_eq_of_lt small)

/-- The assignments carry the decoded values, stay inside the arrays, and leave
the fields of the recognisers alone. -/
theorem fieldWrites_carry {write : TxWrite} (member : write ∈ image.fieldWrites) :
    write.value = image.value write.target ∧ write.target.inBounds = true ∧
      write.target ∉ recogniserFields := by
  rcases mem_fieldWrites_iff.mp member with header | (rfl | ⟨index, signer, found, signerMember⟩) |
    (rfl | ⟨one, rfl⟩) | rfl | rfl
  · exact header_carries header
  · exact ⟨congrArg (fun n : Nat => TxValue.number n) image.signers.turns, rfl,
      (by decide : TxField.signersSize ∉ recogniserFields)⟩
  · obtain ⟨signerWrite, rfl, carries, inside⟩ := SignerImage.writes_carry signerMember
    have below : index < maxTxSigners :=
      (List.getElem?_eq_some_iff.mp found).1.trans_le image.signers.le_max
    refine ⟨carries.trans (value_signer found _).symm, ?_, ?_⟩
    · rw [TxWrite.target, TxField.inBounds, decide_eq_true below, inside]
      rfl
    · simp [TxWrite.target, recogniserFields, transferFields, voteFields]
  · have small : image.attributes.count.value.toNat < 256 :=
      image.attributes.le_one.trans_lt (by decide)
    exact ⟨congrArg (fun n : Nat => TxValue.number n) (UInt64.toNat_toUInt8_of_lt small), rfl,
      (by decide : TxField.attributesSize ∉ recogniserFields)⟩
  · exact ⟨(value_attributeType (one ▸ Nat.one_pos)).symm, rfl, by decide⟩
  · exact ⟨rfl, rfl, (by decide : TxField.script ∉ recogniserFields)⟩
  · exact ⟨congrArg (fun n : Nat => TxValue.number n) (toNat_scriptCount image.script), rfl,
      (by decide : TxField.scriptSize ∉ recogniserFields)⟩

/-- The fields of the zeroed arrays. -/
theorem field_zero_signer (index : Nat) (field : SignerField) :
    Transaction.zero.field (.signer index field) = Signer.zero.field field := by
  have same : ((Vector.replicate maxTxSigners Signer.zero)[index]?).getD Signer.zero =
      Signer.zero := by
    by_cases inside : index < maxTxSigners
    · rw [Vector.getElem?_eq_getElem inside, Vector.getElem_replicate]
      rfl
    · rw [Vector.getElem?_eq_none (Nat.le_of_not_lt inside)]
      rfl
  exact congrArg (Signer.field · field) same

theorem field_zero_attributeType (index : Nat) :
    Transaction.zero.field (.attributeType index) = .number 0 := by
  have same : ((Vector.replicate maxAttributes (Attribute.mk 0))[index]?).getD ⟨0⟩ = ⟨0⟩ := by
    by_cases inside : index < maxAttributes
    · rw [Vector.getElem?_eq_getElem inside, Vector.getElem_replicate]
      rfl
    · rw [Vector.getElem?_eq_none (Nat.le_of_not_lt inside)]
      rfl
  exact congrArg (fun slot : Attribute => TxValue.number slot.type.toNat) same

/-- A field is assigned, or keeps a zero that it is decoded to. -/
theorem fieldWrites_cover (image : TransactionImage) {field : TxField}
    (other : field ∉ recogniserFields) :
    Transaction.zero.field field = image.value field ∨
      ∃ write ∈ image.fieldWrites, write.target = field := by
  cases field with
  | version => exact .inr ⟨_, mem_fieldWrites_iff.mpr (.inl (.head _)), rfl⟩
  | nonce => exact .inr ⟨_, mem_fieldWrites_iff.mpr (.inl (.tail _ (.head _))), rfl⟩
  | systemFee => exact .inr ⟨_, mem_fieldWrites_iff.mpr (.inl (.tail _ (.tail _ (.head _)))), rfl⟩
  | networkFee =>
      exact .inr ⟨_, mem_fieldWrites_iff.mpr (.inl (.tail _ (.tail _ (.tail _ (.head _))))), rfl⟩
  | validUntilBlock =>
      exact .inr ⟨_, mem_fieldWrites_iff.mpr
        (.inl (.tail _ (.tail _ (.tail _ (.tail _ (.head _)))))), rfl⟩
  | signersSize => exact .inr ⟨_, mem_fieldWrites_iff.mpr (.inr (.inl (.inl rfl))), rfl⟩
  | signer index field =>
      cases found : image.signers.signers[index]? with
      | none =>
          have absent : image.value (.signer index field) = Signer.zero.field field := by
            rw [value, found]
          exact .inl ((field_zero_signer index field).trans absent.symm)
      | some signer =>
          rw [field_zero_signer, value_signer found]
          refine (signer.writes_cover index (image.signerAt index) field).imp_right ?_
          rintro ⟨write, member, target⟩
          exact ⟨write, mem_fieldWrites_iff.mpr
            (.inr (.inl (.inr ⟨index, signer, found, member⟩))), target⟩
  | attributesSize => exact .inr ⟨_, mem_fieldWrites_iff.mpr (.inr (.inr (.inl (.inl rfl)))), rfl⟩
  | attributeType index =>
      have small := image.attributes.le_one
      by_cases inside : index < image.attributes.count.value.toNat
      · have first : index = 0 := by omega
        have one : image.attributes.count.value.toNat = 1 := by omega
        exact .inr ⟨_, mem_fieldWrites_iff.mpr (.inr (.inr (.inl (.inr ⟨one, rfl⟩)))),
          congrArg TxField.attributeType first.symm⟩
      · have absent : image.value (.attributeType index) = .number 0 := by
          rw [value, if_neg inside]
        exact .inl ((field_zero_attributeType index).trans absent.symm)
  | script =>
      exact .inr ⟨_, mem_fieldWrites_iff.mpr (.inr (.inr (.inr (.inl rfl)))), rfl⟩
  | scriptSize =>
      exact .inr ⟨_, mem_fieldWrites_iff.mpr (.inr (.inr (.inr (.inr rfl)))), rfl⟩
  | _ => exact absurd (by decide) other

/-! ## The pointers -/

theorem standsAt_signer {index : Nat} {signer : SignerImage}
    (found : image.signers.signers[index]? = some signer) :
    StandsAt image.bytes (image.signerAt index) signer.bytes := by
  have signers : StandsAt image.bytes image.signersAt image.signers.bytes :=
    ⟨image.header.bytes, image.attributes.bytes ++ image.script.bytes, by
      rw [TransactionImage.bytes, List.append_assoc], rfl⟩
  have list : StandsAt image.signers.bytes image.signers.count.bytes.length
      (image.signers.signers.flatMap SignerImage.bytes) :=
    ⟨image.signers.count.bytes, [], (List.append_nil _).symm, rfl⟩
  exact (signers.trans list).trans (standsAt_flatMap _ found)

theorem standsAt_script : StandsAt image.bytes
    (image.scriptAt + image.script.count.bytes.length) image.script.script := by
  have script : StandsAt image.bytes image.scriptAt image.script.bytes :=
    ⟨image.header.bytes ++ image.signers.bytes ++ image.attributes.bytes, [], by
      rw [TransactionImage.bytes, List.append_nil], by
      simp only [List.length_append, scriptAt, signersAt]⟩
  exact script.trans ⟨image.script.count.bytes, [], (List.append_nil _).symm, rfl⟩

end TransactionImage

/-- The entries of a list stand where the list says. -/
theorem standsAt_entry {limit width : Nat} {image : Option (EntriesImage limit width)}
    {whole : List UInt8} {pos index position : Nat}
    (stands : StandsAt whole pos (optionalBytes image))
    (points : entryAt image pos index = some position) :
    ∃ entry, (optionalEntries image)[index]? = some entry ∧ StandsAt whole position entry.cells := by
  obtain ⟨list, rfl, inside, rfl⟩ := entryAt_eq_some points
  refine ⟨_, List.getElem?_eq_getElem inside, ?_⟩
  have entries : StandsAt list.bytes list.count.bytes.length
      (list.entries.flatMap Area.cells) :=
    ⟨list.count.bytes, [], (List.append_nil _).symm, rfl⟩
  have entry := standsAt_flatMap Area.cells (List.getElem?_eq_getElem inside)
  rw [length_flatMap_cells, List.length_take, Nat.min_eq_left (Nat.le_of_lt inside)] at entry
  exact (stands.trans entries).trans entry

/-- The lists of a signer stand behind its account and its scope. -/
theorem SignerImage.standsAt_lists {image : SignerImage} {b : List UInt8} {pos : Nat}
    (stands : StandsAt b pos image.bytes) :
    StandsAt b (contractsAt pos) (optionalBytes image.contracts) ∧
      StandsAt b (image.groupsAt pos) (optionalBytes image.groups) := by
  have inner : StandsAt image.bytes (uint160Len + 1 + (optionalBytes image.contracts).length)
      (optionalBytes image.groups) :=
    ⟨image.account.cells ++ [image.scope] ++ optionalBytes image.contracts, [],
      (List.append_nil _).symm, by
      rw [List.length_append, List.length_append, image.account.size_eq, List.length_singleton]⟩
  have outer := stands.trans inner
  rw [← Nat.add_assoc, ← Nat.add_assoc] at outer
  exact ⟨stands.trans ⟨image.account.cells ++ [image.scope], optionalBytes image.groups, rfl, by
    rw [List.length_append, image.account.size_eq, List.length_singleton]⟩, outer⟩

theorem SignerImage.standsAt_pointed {image : SignerImage} {whole : List UInt8}
    {pos position : Nat} (stands : StandsAt whole pos image.bytes) {field : SignerField}
    (points : image.value pos field = .pointer (some position)) :
    StandsAt whole position (image.pointed field) := by
  cases field with
  | account =>
      cases points
      exact stands.trans ⟨[], [image.scope] ++ optionalBytes image.contracts ++
        optionalBytes image.groups, by simp only [SignerImage.bytes, pointed, List.append_assoc,
          List.nil_append], rfl⟩
  | allowedContract index =>
      obtain ⟨entry, found, entryStands⟩ :=
        standsAt_entry (standsAt_lists stands).1 (TxValue.pointer.inj points)
      rw [pointed, found]
      exact entryStands
  | allowedGroup index =>
      obtain ⟨entry, found, entryStands⟩ :=
        standsAt_entry (standsAt_lists stands).2 (TxValue.pointer.inj points)
      rw [pointed, found]
      exact entryStands
  | _ => cases points

/-- A pointer of the decoded transaction points to the bytes it is for. -/
theorem TransactionImage.standsAt_pointed {image : TransactionImage} {position : Nat}
    {field : TxField} (points : image.value field = .pointer (some position)) :
    StandsAt image.bytes position (image.pointed field) := by
  cases field with
  | signer index field =>
      obtain ⟨signer, found, points⟩ := signer_of_pointer points
      rw [pointed, found]
      exact SignerImage.standsAt_pointed (standsAt_signer found) points
  | script =>
      cases points
      exact standsAt_script
  | _ => cases points

/-! ## Parsing -/

theorem voteScript_targets {script : List UInt8} {write : TxWrite}
    (member : write ∈ (voteScript 0 script).writes) : write.target ∈ recogniserFields := by
  have targets := writesWithin_voteScript 0 script write member
  rcases List.mem_cons.mp targets with flag | field
  · rw [flag]
    decide
  · exact List.mem_append_left _ (List.mem_append_right _ field)

/-- The recognisers assign to their own fields only. -/
theorem scriptWrites_targets {sdk : Sdk} {transferFlag : Bool} {script : List UInt8}
    {write : TxWrite} (member : write ∈ scriptWrites sdk transferFlag script) :
    write.target ∈ recogniserFields := by
  rw [scriptWrites] at member
  rcases List.mem_append.mp member with transfer | vote
  · have targets := writesWithin_transferScript sdk 0 script write transfer
    rcases List.mem_cons.mp targets with flag | field
    · rw [flag]
      decide
    · exact List.mem_append_left _ (List.mem_append_left _ field)
  · split at vote
    · cases vote
    · exact voteScript_targets vote

theorem part_of_recogniser {field : TxField} (recogniser : field ∈ recogniserFields) :
    field.part = .recognisers := by
  cases field with
  | isSystemAssetTransfer | isNeo | amount | dstAddress | isVoteScript | isRemoveVote | voteTo =>
      rfl
  | _ => simp [recogniserFields, transferFields, voteFields] at recogniser

/-- The recognisers assign to no array element that may be outside. -/
theorem inBounds_of_recogniser {field : TxField} (recogniser : field ∈ recogniserFields) :
    field.inBounds = true := by
  have part := part_of_recogniser recogniser
  cases field with
  | signer index field | attributeType index => cases part
  | _ => rfl

variable {sdk : Sdk}

theorem layoutWrites_image {image : TransactionImage}
    (short : image.bytes.length ≤ maxTransactionLen) :
    layoutWrites sdk Leftovers.none image.bytes =
      image.fieldWrites ++ scriptWrites sdk false image.script.script := by
  have read := accepts_transaction sdk image []
  rw [List.append_nil] at read
  rw [layoutWrites, if_neg (Nat.not_lt.mpr short), read]

/-- The assignments of an image, with those of the recognisers, leave in its fields what they
are decoded to, when they assign them or the fields held it before. -/
theorem field_replay_image {image : TransactionImage} {transferFlag : Bool} {tx : Transaction}
    {field : TxField} (other : field ∉ recogniserFields)
    (settled : tx.field field = image.value field ∨
      ∃ write ∈ image.fieldWrites, write.target = field) :
    (txFields.replay tx (image.fieldWrites ++
      scriptWrites sdk transferFlag image.script.script)).field field = image.value field := by
  have untouched : ∀ write ∈ scriptWrites sdk transferFlag image.script.script,
      write.target ≠ field := fun write member same => other (same ▸ scriptWrites_targets member)
  rw [txFields.replay_append]
  refine (txFields.read_replay_of_not_mem untouched _).trans ?_
  exact txFields.read_replay_of_expected
    (fun write member => (TransactionImage.fieldWrites_carry member).2.1)
    (fun write member => (TransactionImage.fieldWrites_carry member).1) tx settled

/-- No pointer is among the fields of the recognisers. -/
theorem field_ne_pointer_of_recogniser {field : TxField} (recogniser : field ∈ recogniserFields)
    (tx : Transaction) (position : Nat) : tx.field field ≠ .pointer (some position) := by
  intro points
  simp only [recogniserFields, transferFields, voteFields, List.cons_append, List.nil_append,
    List.mem_cons, List.not_mem_nil, or_false] at recogniser
  rcases recogniser with rfl | rfl | rfl | rfl | rfl | rfl | rfl <;> cases points

/-- **Parsing the bytes of an image decodes it.** -/
theorem decoded_image (image : TransactionImage)
    (short : image.bytes.length ≤ maxTransactionLen) :
    image.Decoded (txFields.replay Transaction.zero
      (layoutWrites sdk Leftovers.none image.bytes)) := by
  have fields : ∀ field, field ∉ recogniserFields →
      (txFields.replay Transaction.zero
        (layoutWrites sdk Leftovers.none image.bytes)).field field = image.value field := by
    intro field other
    rw [layoutWrites_image short]
    exact field_replay_image other (image.fieldWrites_cover other)
  refine ⟨fields, fun field position points => ?_⟩
  by_cases recogniser : field ∈ recogniserFields
  · exact absurd points (field_ne_pointer_of_recogniser recogniser _ position)
  · rw [fields field recogniser] at points
    exact (TransactionImage.standsAt_pointed points).slice_eq

/-- A status other than that of success. -/
def ParserStatus.Failure (status : ParserStatus) : Prop := status ≠ .parsingOk

theorem failsWithin_uvarint {holds : ParserStatus → Prop} {e : ParserStatus} (valid : holds e) :
    FailsWithin holds (uvarint e) := by
  intro pos input writes e' run
  rw [uvarint] at run
  split at run
  · cases run
  · cases run
    exact valid

theorem failsWithin_optionalEntries (list : EntryList) (signer : Nat) (scope : UInt8)
    (lengthParsing : list.lengthParsingError.Failure) (lengthValue : list.lengthValueError.Failure)
    (entryParsing : list.entryParsingError.Failure) :
    FailsWithin ParserStatus.Failure (optionalEntriesLayout list signer scope) := by
  rw [optionalEntriesLayout]
  split
  · exact (failsWithin_uvarint lengthParsing).bind fun _ =>
      (failsWithin_failIf _ lengthValue).bind fun _ => (failsWithin_write _).bind fun _ =>
      failsWithin_repeatFrom (fun _ _ => failsWithin_position.bind fun _ =>
        (failsWithin_write _).bind fun _ => (failsWithin_take _ entryParsing).bind fun _ =>
        failsWithin_pure _) _ _ _
  · exact failsWithin_pure _

/-- No error of the layout is the status of success. -/
theorem failsWithin_transaction (left : Leftovers) :
    FailsWithin ParserStatus.Failure (transactionLayout sdk left) := by
  have header : FailsWithin ParserStatus.Failure headerLayout :=
    (failsWithin_takeInto 1 _ _ _ nofun).bind fun _ => (failsWithin_failIf _ nofun).bind fun _ =>
    (failsWithin_takeInto 4 _ _ _ nofun).bind fun _ =>
    (failsWithin_takeInto 8 _ _ _ nofun).bind fun _ => (failsWithin_failIf _ nofun).bind fun _ =>
    (failsWithin_takeInto 8 _ _ _ nofun).bind fun _ => (failsWithin_failIf _ nofun).bind fun _ =>
    (failsWithin_takeInto 4 _ _ _ nofun).bind fun _ => failsWithin_pure _
  have account : ∀ signer accounts,
      FailsWithin ParserStatus.Failure (accountLayout signer accounts) := fun _ _ =>
    failsWithin_position.bind fun _ => (failsWithin_write _).bind fun _ =>
    (failsWithin_take _ nofun).bind fun _ => (failsWithin_failIf _ nofun).bind fun _ =>
    failsWithin_pure _
  have authorisation : ∀ signer,
      FailsWithin ParserStatus.Failure (authorisationLayout signer) := fun _ =>
    ((failsWithin_takeAs 1 _ nofun).bind fun _ => (failsWithin_write _).bind fun _ =>
      (failsWithin_failIf _ nofun).bind fun _ => failsWithin_pure _).bind fun _ =>
    (failsWithin_optionalEntries allowedContracts _ _ nofun nofun nofun).bind fun _ =>
    failsWithin_optionalEntries allowedGroups _ _ nofun nofun nofun
  have signers : FailsWithin ParserStatus.Failure signersLayout :=
    (failsWithin_uvarint nofun).bind fun _ => (failsWithin_failIf _ nofun).bind fun _ =>
    (failsWithin_write _).bind fun _ => failsWithin_repeatFrom (fun _ _ =>
      (account _ _).bind fun _ => (authorisation _).bind fun _ => failsWithin_pure _) _ _ _
  have attributes : FailsWithin ParserStatus.Failure (attributesLayout left.slots) :=
    (failsWithin_uvarint nofun).bind fun _ => (failsWithin_failIf _ nofun).bind fun _ =>
    (failsWithin_write _).bind fun _ => failsWithin_repeatFrom (fun _ _ =>
      (failsWithin_takeAs 1 _ nofun).bind fun _ => (failsWithin_failIf _ nofun).bind fun _ =>
      (failsWithin_failIf _ nofun).bind fun _ => (failsWithin_write _).bind fun _ =>
      failsWithin_pure _) _ _ _
  have script : FailsWithin ParserStatus.Failure (scriptLayout sdk left.transferFlag) :=
    (failsWithin_uvarint nofun).bind fun _ => failsWithin_position.bind fun _ =>
    (failsWithin_write _).bind fun _ => (failsWithin_failIf _ nofun).bind fun _ =>
    (failsWithin_take _ nofun).bind fun _ => (failsWithin_write _).bind fun _ =>
    failsWithin_writeAll _
  exact header.bind fun _ => signers.bind fun _ => attributes.bind fun _ => script

/-- A status of success comes from a reading to the end of bytes of allowed length. -/
theorem layoutStatus_ok {left : Leftovers} {bytes : List UInt8}
    (ok : layoutStatus sdk left bytes = .parsingOk) :
    bytes.length ≤ maxTransactionLen ∧ ∃ writes pos,
      transactionLayout sdk left 0 bytes = ⟨writes, .ok ((), pos, [])⟩ := by
  rw [layoutStatus] at ok
  split at ok
  · cases ok
  · rename_i short
    refine ⟨Nat.le_of_not_lt short, ?_⟩
    cases run : transactionLayout sdk left 0 bytes with
    | mk writes outcome =>
        rw [run] at ok
        cases outcome with
        | error status => exact absurd ok (failsWithin_transaction left _ _ _ _ run)
        | ok result =>
            obtain ⟨_, pos, rest⟩ := result
            cases rest with
            | nil => exact ⟨writes, pos, rfl⟩
            | cons => cases ok

/-- **The layout accepts exactly the grammar.** -/
theorem layoutStatus_ok_iff (bytes : List UInt8) :
    layoutStatus sdk Leftovers.none bytes = .parsingOk ↔
      bytes.length ≤ maxTransactionLen ∧ ∃ image : TransactionImage, bytes = image.bytes := by
  constructor
  · intro ok
    obtain ⟨short, writes, pos, run⟩ := layoutStatus_ok ok
    obtain ⟨phrase, split, _, image, rfl⟩ := sound_transaction sdk _ _ _ _ _ _ run
    exact ⟨short, image, split.trans (List.append_nil _)⟩
  · rintro ⟨short, image, rfl⟩
    have read := accepts_transaction sdk image []
    rw [List.append_nil] at read
    rw [layoutStatus, if_neg (Nat.not_lt.mpr short), read]
    rfl

/-- **The parser accepts exactly its grammar and decodes it exactly.** On an
all-zero transaction the parser always returns; it returns success on the byte
strings of the grammar and on no others, and then the fields are decoded. -/
theorem transactionDeserialize_grammar (sdk : Sdk) (b : List UInt8) (size : Data) :
    ∃ status tx size',
      transactionDeserialize sdk (Buffer.ofBytes b) Transaction.zero size =
        some (status, tx, size') ∧
      (status = .parsingOk ↔
        b.length ≤ maxTransactionLen ∧ ∃ image : TransactionImage, b = image.bytes) ∧
      ∀ image : TransactionImage, b = image.bytes → status = .parsingOk → image.Decoded tx := by
  obtain ⟨size', run⟩ := @transactionDeserialize_eq sdk b Transaction.zero size
  refine ⟨_, _, size', run, layoutStatus_ok_iff b, ?_⟩
  rintro image rfl ok
  exact decoded_image image ((layoutStatus_ok_iff image.bytes).mp ok).1

end AppNeo3
