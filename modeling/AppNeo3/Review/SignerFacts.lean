import AppNeo3.Transaction.Recognised
import AppNeo3.Ui.SignTxNbgl

/-!
# What the signers of a transaction authorise, and the items that show it

`SignerFacts` are the bytes that a signer of a parsed transaction stands for.
Every item of a review is formatted from them (`map_formatTagValue`), and
`SlotText` says what an item leaves readable in its slot: a whole text, the start
of one, or nothing but what the slot held before.
-/

set_option autoImplicit false

namespace AppNeo3

open Memory CText DecimalText

/-! ## The facts -/

/-- What a signer authorises. Bytes that a pointer does not lead to are `none`. -/
structure SignerFacts where
  account : Option (List UInt8)
  scope : UInt8
  contracts : List (Option (List UInt8))
  groups : List (Option (List UInt8))

def Signer.facts (b : List UInt8) (s : Signer) : SignerFacts where
  account := bytesAt b s.account uint160Len
  scope := s.scope
  contracts := (List.range s.allowedContractsSize.toNat).map fun j =>
    bytesAt b (s.allowedContracts[j]?.getD none) uint160Len
  groups := (List.range s.allowedGroupsSize.toNat).map fun j =>
    bytesAt b (s.allowedGroups[j]?.getD none) ecpointLen

/-- The facts of all signers of a transaction parsed from `b`. -/
def Transaction.signerFacts (tx : Transaction) (b : List UInt8) : List SignerFacts :=
  (List.range tx.signersSize.toNat).map fun i => (tx.signers[i]?.getD .zero).facts b

def SignerImage.facts (image : SignerImage) : SignerFacts where
  account := some image.account.cells
  scope := image.scope
  contracts := (optionalEntries image.contracts).map fun entry => some entry.cells
  groups := (optionalEntries image.groups).map fun entry => some entry.cells

/-! ## The facts of a parsed transaction -/

theorem bytesAt_of_standsAt {b part : List UInt8} {position : Nat}
    (stands : StandsAt b position part) : bytesAt b (some position) part.length = some part := by
  have slice := stands.slice_eq
  obtain ⟨front, back, rfl, rfl⟩ := stands
  have fits : front.length + part.length ≤ (front ++ part ++ back).length := by
    rw [List.length_append, List.length_append]
    omega
  rw [bytesAt, if_pos fits, slice]

/-- The entries of a list are read where the decoded pointers say. -/
theorem bytesAt_entries {limit width : Nat} {image : Option (EntriesImage limit width)}
    {b : List UInt8} {pos : Nat} {pointers : Nat → Option Nat}
    (decoded : ∀ index, pointers index = entryAt image pos index)
    (stands : StandsAt b pos (optionalBytes image)) :
    (List.range (optionalEntries image).length).map (fun j => bytesAt b (pointers j) width) =
      (optionalEntries image).map fun entry => some entry.cells := by
  refine List.ext_getElem (by rw [List.length_map, List.length_map, List.length_range]) ?_
  intro index inside inside'
  rw [List.length_map] at inside'
  rw [List.getElem_map, List.getElem_range, List.getElem_map, decoded]
  cases image with
  | none => exact absurd inside' (Nat.not_lt_zero _)
  | some list =>
      have points := @entryAt_of_lt _ _ list pos _ inside'
      obtain ⟨entry, found, entryStands⟩ := standsAt_entry stands points
      have here : (optionalEntries (some list))[index] = entry :=
        Option.some.inj ((List.getElem?_eq_getElem inside').symm.trans found)
      have read := bytesAt_of_standsAt entryStands
      rw [entry.size_eq] at read
      rw [points, here, read]

/-- **The facts of a signer are those of its image.** -/
theorem facts_of_fields {image : SignerImage} {b : List UInt8} {pos : Nat} {s : Signer}
    (fields : ∀ field, s.field field = image.value pos field)
    (stands : StandsAt b pos image.bytes) : s.facts b = image.facts := by
  have account : s.account = some pos := TxValue.pointer.inj (fields .account)
  have scope : s.scope = image.scope :=
    UInt8.toNat.inj (Int.ofNat.inj (TxValue.number.inj (fields .scope)))
  have contractsSize : s.allowedContractsSize.toNat = (optionalEntries image.contracts).length :=
    Int.ofNat.inj (TxValue.number.inj (fields .allowedContractsSize))
  have groupsSize : s.allowedGroupsSize.toNat = (optionalEntries image.groups).length :=
    Int.ofNat.inj (TxValue.number.inj (fields .allowedGroupsSize))
  have contractPointers : ∀ index, s.allowedContracts[index]?.getD none =
      entryAt image.contracts (SignerImage.contractsAt pos) index := fun index =>
    TxValue.pointer.inj (fields (.allowedContract index))
  have groupPointers : ∀ index, s.allowedGroups[index]?.getD none =
      entryAt image.groups (image.groupsAt pos) index := fun index =>
    TxValue.pointer.inj (fields (.allowedGroup index))
  have accountStands : StandsAt b pos image.account.cells := stands.trans
    ⟨[], [image.scope] ++ optionalBytes image.contracts ++ optionalBytes image.groups, by
      simp only [SignerImage.bytes, List.append_assoc, List.nil_append], rfl⟩
  have read := bytesAt_of_standsAt accountStands
  rw [image.account.size_eq] at read
  rw [Signer.facts, SignerImage.facts, account, scope, contractsSize, groupsSize, read,
    bytesAt_entries contractPointers (SignerImage.standsAt_lists stands).1,
    bytesAt_entries groupPointers (SignerImage.standsAt_lists stands).2]

/-- **The facts of a decoded transaction are those of the image.** -/
theorem TransactionImage.Decoded.signerFacts {image : TransactionImage} {tx : Transaction}
    (decoded : image.Decoded tx) :
    tx.signerFacts image.bytes = image.signers.signers.map SignerImage.facts := by
  have size : tx.signersSize.toNat = image.signers.signers.length :=
    Int.ofNat.inj (TxValue.number.inj (decoded.fields .signersSize (by decide)))
  rw [Transaction.signerFacts, size]
  refine List.ext_getElem (by rw [List.length_map, List.length_map, List.length_range]) ?_
  intro index inside inside'
  rw [List.length_map] at inside'
  rw [List.getElem_map, List.getElem_range, List.getElem_map]
  have found := List.getElem?_eq_getElem inside'
  have fields : ∀ field, (tx.signers[index]?.getD .zero).field field =
      (image.signers.signers[index]).value (image.signerAt index) field := fun field =>
    (decoded.fields (.signer index field) (by
      simp [recogniserFields, transferFields, voteFields])).trans
      (TransactionImage.value_signer found field)
  exact facts_of_fields fields (TransactionImage.standsAt_signer found)

/-- **The facts of a parsed transaction are those of the bytes.** -/
theorem Parses.signerFacts {sdk : Sdk} {b : List UInt8} {tx : Transaction}
    (parses : Parses sdk b tx) :
    ∃ images : List SignerImage, images.length ≤ maxTxSigners ∧
      tx.signerFacts b = images.map SignerImage.facts := by
  obtain ⟨image, rfl, decoded, _⟩ := parses.image
  exact ⟨image.signers.signers, image.signers.le_max, decoded.signerFacts⟩

end AppNeo3
