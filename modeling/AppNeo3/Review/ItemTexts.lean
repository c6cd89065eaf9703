import AppNeo3.Review.SignerCursor

/-!
# What the items of a review show

Whatever a slot held, an item that is formatted into it leaves its title. Of the text
it determines the whole, the start or nothing (`itemTexts`): an address is written
without terminator, and the key of a group is not written, so that the older text is
read on (`fills_itemTexts`).
-/

set_option autoImplicit false

namespace AppNeo3

open CText DecimalText

/-- The title of an item and what it determines of the text, from the bytes of the
transaction. -/
def itemTexts (sdk : Sdk) (storage : InternalStorage) (b : List UInt8) (tx : Transaction)
    (item : DynamicItem) : Option (List Char × SlotText) :=
  let s := tx.signers[item.signerIndex]?.getD .zero
  match item.kind with
  | .signer => some ("Signer".toList,
      .whole (digits (item.signerIndex + 1) ++ " of ".toList ++ digits tx.signersSize.toNat))
  | .account => (bytesAt b s.account uint160Len).map fun account =>
      ("Account".toList, accountText sdk storage account)
  | .scope => some ("Scope".toList, .whole (scopeText s.scope))
  | .contract index =>
      (bytesAt b (s.allowedContracts[index]?.getD none) uint160Len).map fun contract =>
        (entryTitle "Contract".toList s.allowedContractsSize.toNat index, .whole (hexText contract))
  | .group index => some (entryTitle "Group".toList s.allowedGroupsSize.toNat index, .kept)

/-- What a slot holds after an item has been formatted into it: the title and the text
that the item determines, with the rest of some older text where it determines less. -/
structure HoldsItem (sdk : Sdk) (storage : InternalStorage) (b : List UInt8) (tx : Transaction)
    (item : DynamicItem) (slot : DynamicSlot) : Prop where
  formatted : ∃ older, Nbgl.formatTagValue sdk storage b tx item older = some slot
  shows : ∃ expected, itemTexts sdk storage b tx item = some expected ∧ Shows expected slot.shown

variable {sdk : Sdk} {storage : InternalStorage} {b : List UInt8} {tx : Transaction}
  {item : DynamicItem}

/-- **An item of a parsed transaction leaves what it determines**, over any slot. -/
theorem fills_itemTexts (parses : Parses sdk b tx) (inside : Bagl.Inside tx item) :
    ∃ expected, itemTexts sdk storage b tx item = some expected ∧
      Fills expected (Nbgl.formatTagValue sdk storage b tx item) := by
  have few : tx.signersSize.toNat < 1000 :=
    Nat.lt_of_le_of_lt (Bagl.signersSize_bounds parses).2 (by decide)
  have short : ∀ size : UInt8, size.toNat < 1000 := fun size =>
    Nat.lt_trans size.toNat_lt (by decide)
  have read := fun detail : SignerDetail =>
    @Parses.detail_read sdk b tx parses item.signerIndex inside.signer detail
  obtain ⟨kind, i⟩ := item
  cases kind with
  | signer => exact ⟨_, rfl, fills_signer inside.signer few⟩
  | account =>
      obtain ⟨account, there⟩ := read .account trivial
      refine ⟨_, congrArg (Option.map _) there, fun slot => ?_⟩
      obtain ⟨_, formatted, shown⟩ := fills_account (length_of_bytesAt there) slot
      exact ⟨_, (congrArg (Option.map _) there).trans formatted, shown⟩
  | scope => exact ⟨_, rfl, fills_scope _⟩
  | contract j =>
      have present := inside.contract j rfl
      obtain ⟨contract, there⟩ := read (.contract j) present
      refine ⟨_, congrArg (Option.map _) there, fun slot => ?_⟩
      obtain ⟨_, formatted, shown⟩ := fills_contract present (short _) (length_of_bytesAt there) slot
      exact ⟨_, (congrArg (Option.map _) there).trans formatted, shown⟩
  | group j =>
      have present := inside.group j rfl
      obtain ⟨group, there⟩ := read (.group j) present
      refine ⟨_, rfl, fun slot => ?_⟩
      obtain ⟨_, formatted, shown⟩ := fills_group present (short _) group slot
      exact ⟨_, (congrArg (Option.map _) there).trans formatted, shown⟩

theorem holdsItem_of_formatted (parses : Parses sdk b tx) (inside : Bagl.Inside tx item)
    {older slot : DynamicSlot}
    (formatted : Nbgl.formatTagValue sdk storage b tx item older = some slot) :
    HoldsItem sdk storage b tx item slot := by
  obtain ⟨expected, texts, fills⟩ := @fills_itemTexts sdk storage b tx item parses inside
  obtain ⟨filled, formatted', shows⟩ := fills older
  cases formatted.symm.trans formatted'
  exact ⟨⟨older, formatted⟩, expected, texts, shows⟩

end AppNeo3
