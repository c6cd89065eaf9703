import AppNeo3.Foundation.Walks
import AppNeo3.Review.SignerDetails
import AppNeo3.Ui.SignTxBagl
import Mathlib.Data.List.Range

/-!
# The cursor of the signers walks a list

The devices with buttons keep four indices instead of a list of items. The places
that the indices go through are one before the first item, one for each item, and
one behind the last (`cursorPath`). The two moves lead from each place to its
neighbours (`isChain_cursorPath`), so that after any moves the cursor stands at the
item that the count of the moves says, and its screen is the one of that item on
the devices with touch screens (`signerCursor_walks`).
-/

set_option autoImplicit false

namespace AppNeo3

open Memory Walks

namespace Bagl

variable (tx : Transaction)

/-! ## The places of the cursor -/

/-- The entry of a signer. -/
def signerOf (i : Nat) : Signer := tx.signers[i]?.getD .zero

/-- The number of contracts of a signer. -/
def contractsOf (i : Nat) : Nat := (signerOf tx i).allowedContractsSize.toNat

/-- The number of groups of a signer. -/
def groupsOf (i : Nat) : Nat := (signerOf tx i).allowedGroupsSize.toNat

/-- The place of an item. -/
def cursorOf (item : DynamicItem) : SignerCursor :=
  match item.kind with
  | .signer => ⟨item.signerIndex, .index, -1, -1⟩
  | .account => ⟨item.signerIndex, .account, -1, -1⟩
  | .scope => ⟨item.signerIndex, .scope, -1, -1⟩
  | .contract j => ⟨item.signerIndex, .contracts, j, -1⟩
  | .group j => ⟨item.signerIndex, .groups, contractsOf tx item.signerIndex, j⟩

/-- The place before the first item. -/
def firstCursor : SignerCursor := ⟨0, .start, -1, -1⟩

/-- The place behind the items of a signer. -/
def behind (i : Nat) : SignerCursor := ⟨i, .end, contractsOf tx i, groupsOf tx i⟩

/-- All places, in order. -/
def cursorPath : List SignerCursor :=
  firstCursor :: ((Nbgl.dynItems tx).map (cursorOf tx) ++ [behind tx (tx.signersSize.toNat - 1)])

/-- The last place before the groups of a signer. -/
def beforeGroups (i : Nat) : SignerCursor :=
  if contractsOf tx i = 0 then cursorOf tx ⟨.scope, i⟩
  else cursorOf tx ⟨.contract (contractsOf tx i - 1), i⟩

/-- The last item of a signer. -/
def lastOf (i : Nat) : SignerCursor :=
  if groupsOf tx i = 0 then beforeGroups tx i
  else cursorOf tx ⟨.group (groupsOf tx i - 1), i⟩

/-- Two places with moves between them. -/
abbrev Adjacent : SignerCursor → SignerCursor → Prop := Linked (nextProp tx 2) (prevProp tx 2)

/-! ## Moves between neighbours -/

section Moves

variable {tx} {i : Nat}

theorem getElem_signers (present : i < maxTxSigners) : tx.signers[i]? = some (signerOf tx i) := by
  rw [signerOf, Vector.getElem?_eq_getElem present]
  rfl

/-- The rest of a move forward behind the contracts. -/
theorem next_beforeGroups (present : i < maxTxSigners) :
    nextProp tx 2 (beforeGroups tx i) =
      nextGroup tx (signerOf tx i) (nextProp tx 1) ⟨i, .groups, contractsOf tx i, -1⟩ := by
  rw [beforeGroups]
  by_cases none : contractsOf tx i = 0
  · rw [if_pos none, cursorOf, nextProp, getElem_signers present]
    show nextContract tx (signerOf tx i) _ ⟨i, .contracts, -1, -1⟩ = _
    rw [nextContract, if_pos rfl, if_neg (by show ¬ (-1 + 1 : Int) < contractsOf tx i; omega), none]
    rfl
  · rw [if_neg none, cursorOf, nextProp, getElem_signers present]
    show nextContract tx (signerOf tx i) _ ⟨i, .contracts, (contractsOf tx i - 1 : Nat), -1⟩ = _
    have last : ((contractsOf tx i - 1 : Nat) : Int) + 1 = contractsOf tx i := by omega
    rw [nextContract, if_pos rfl, last,
      if_neg (by show ¬ (contractsOf tx i : Int) < contractsOf tx i; omega)]

/-- The rest of a move forward behind the groups. -/
theorem next_lastOf (present : i < maxTxSigners) :
    nextProp tx 2 (lastOf tx i) = nextSigner tx (nextProp tx 1) (behind tx i) := by
  rw [lastOf]
  by_cases none : groupsOf tx i = 0
  · rw [if_pos none, next_beforeGroups present, nextGroup, if_pos rfl,
      if_neg (by show ¬ (-1 + 1 : Int) < groupsOf tx i; omega), behind, none]
    rfl
  · rw [if_neg none, cursorOf, nextProp, getElem_signers present]
    show nextContract tx (signerOf tx i) _
      ⟨i, .groups, contractsOf tx i, (groupsOf tx i - 1 : Nat)⟩ = _
    have last : ((groupsOf tx i - 1 : Nat) : Int) + 1 = groupsOf tx i := by omega
    rw [nextContract, if_neg (by simp), nextGroup, if_pos rfl, last,
      if_neg (by show ¬ (groupsOf tx i : Int) < groupsOf tx i; omega), behind]

/-- A move backward from behind the contracts. -/
theorem prevContract_behind (again : SignerCursor → Option SignerCursor) :
    prevContract tx again ⟨i, .contracts, contractsOf tx i, -1⟩ = some (beforeGroups tx i) := by
  rw [prevContract, if_pos rfl, beforeGroups]
  by_cases none : contractsOf tx i = 0
  · rw [if_pos none, none]
    rfl
  · have last : (contractsOf tx i : Int) - 1 = (contractsOf tx i - 1 : Nat) := by omega
    rw [if_neg none, last, if_pos (by show (contractsOf tx i : Int) > 0; omega)]
    rfl

/-- A move backward from behind the groups. -/
theorem prevGroup_behind (again : SignerCursor → Option SignerCursor) :
    prevGroup tx again ⟨i, .groups, contractsOf tx i, groupsOf tx i⟩ = some (lastOf tx i) := by
  rw [prevGroup, if_pos rfl, lastOf]
  by_cases none : groupsOf tx i = 0
  · rw [if_pos none, none]
    exact prevContract_behind again
  · have last : (groupsOf tx i : Int) - 1 = (groupsOf tx i - 1 : Nat) := by omega
    rw [if_neg none, last, if_pos (by show (groupsOf tx i : Int) > 0; omega)]
    rfl

theorem prevProp_behind (depth : Nat) : prevProp tx (depth + 1) (behind tx i) =
    some (lastOf tx i) := by
  rw [prevProp, behind, if_neg (fun both => SignerState.noConfusion both.2), if_pos rfl]
  exact prevGroup_behind _

/-- A move backward from the first item of a signer goes behind the signer before. -/
theorem prevSigner_index (present : i < maxTxSigners)
    (again : SignerCursor → Option SignerCursor) :
    prevSigner tx again ⟨i + 1, .index, -1, -1⟩ = again (behind tx i) := by
  have found := @getElem_signers tx i present
  simp [prevSigner, SignerState.pred, found, behind, contractsOf, groupsOf]

theorem adjacent_first : Adjacent tx firstCursor (cursorOf tx ⟨.signer, 0⟩) where
  next := by
    rw [firstCursor, nextProp, getElem_signers (by decide)]
    rfl
  prev := rfl

theorem adjacent_account (present : i < maxTxSigners) :
    Adjacent tx (cursorOf tx ⟨.signer, i⟩) (cursorOf tx ⟨.account, i⟩) where
  next := by
    rw [cursorOf, nextProp, getElem_signers present]
    rfl
  prev := by
    rw [cursorOf, prevProp, if_neg (fun both => SignerState.noConfusion both.2)]
    rfl

theorem adjacent_scope (present : i < maxTxSigners) :
    Adjacent tx (cursorOf tx ⟨.account, i⟩) (cursorOf tx ⟨.scope, i⟩) where
  next := by
    rw [cursorOf, nextProp, getElem_signers present]
    rfl
  prev := by
    rw [cursorOf, prevProp, if_neg (fun both => SignerState.noConfusion both.2)]
    rfl

theorem adjacent_firstContract (present : i < maxTxSigners) (positive : 0 < contractsOf tx i) :
    Adjacent tx (cursorOf tx ⟨.scope, i⟩) (cursorOf tx ⟨.contract 0, i⟩) where
  next := by
    rw [cursorOf, nextProp, getElem_signers present]
    show nextContract tx (signerOf tx i) _ ⟨i, .contracts, -1, -1⟩ = _
    rw [nextContract, if_pos rfl, if_pos (by show (-1 + 1 : Int) < contractsOf tx i; omega)]
    rfl
  prev := by
    rw [cursorOf, prevProp, if_neg (fun both => SignerState.noConfusion both.2)]
    rfl

theorem adjacent_contract (present : i < maxTxSigners) {j : Nat}
    (more : j + 1 < contractsOf tx i) :
    Adjacent tx (cursorOf tx ⟨.contract j, i⟩) (cursorOf tx ⟨.contract (j + 1), i⟩) where
  next := by
    rw [cursorOf, nextProp, getElem_signers present]
    show nextContract tx (signerOf tx i) _ ⟨i, .contracts, j, -1⟩ = _
    rw [nextContract, if_pos rfl, if_pos (by show (j + 1 : Int) < contractsOf tx i; omega)]
    rfl
  prev := by
    rw [cursorOf, prevProp, if_neg (fun both => SignerState.noConfusion both.2)]
    show prevContract tx _ ⟨i, .contracts, (j + 1 : Nat), -1⟩ = _
    have back : ((j + 1 : Nat) : Int) - 1 = j := by omega
    rw [prevContract, if_pos rfl, back, if_pos (by show ((j + 1 : Nat) : Int) > 0; omega)]
    rfl

theorem adjacent_firstGroup (present : i < maxTxSigners) (positive : 0 < groupsOf tx i) :
    Adjacent tx (beforeGroups tx i) (cursorOf tx ⟨.group 0, i⟩) where
  next := by
    rw [next_beforeGroups present, nextGroup, if_pos rfl,
      if_pos (by show (-1 + 1 : Int) < groupsOf tx i; omega)]
    rfl
  prev := by
    rw [cursorOf, prevProp, if_neg (fun both => SignerState.noConfusion both.2)]
    exact prevContract_behind _

theorem adjacent_group (present : i < maxTxSigners) {j : Nat} (more : j + 1 < groupsOf tx i) :
    Adjacent tx (cursorOf tx ⟨.group j, i⟩) (cursorOf tx ⟨.group (j + 1), i⟩) where
  next := by
    rw [cursorOf, nextProp, getElem_signers present]
    show nextContract tx (signerOf tx i) _ ⟨i, .groups, contractsOf tx i, j⟩ = _
    rw [nextContract, if_neg (by simp), nextGroup, if_pos rfl,
      if_pos (by show (j + 1 : Int) < groupsOf tx i; omega)]
    rfl
  prev := by
    rw [cursorOf, prevProp, if_neg (fun both => SignerState.noConfusion both.2)]
    show prevGroup tx _ ⟨i, .groups, contractsOf tx i, (j + 1 : Nat)⟩ = _
    have back : ((j + 1 : Nat) : Int) - 1 = j := by omega
    rw [prevGroup, if_pos rfl, back, if_pos (by show ((j + 1 : Nat) : Int) > 0; omega)]
    rfl

theorem adjacent_behind (present : i < maxTxSigners) (last : i + 1 = tx.signersSize.toNat) :
    Adjacent tx (lastOf tx i) (behind tx i) where
  next := by
    rw [next_lastOf present, behind, nextSigner, if_pos rfl, if_pos last]
  prev := prevProp_behind _

theorem adjacent_signer (present : i + 1 < maxTxSigners) (more : i + 1 ≠ tx.signersSize.toNat) :
    Adjacent tx (lastOf tx i) (cursorOf tx ⟨.signer, i + 1⟩) where
  next := by
    rw [next_lastOf (Nat.lt_of_succ_lt present), behind, nextSigner, if_pos rfl, if_neg more,
      nextProp, getElem_signers present]
    rfl
  prev := by
    rw [cursorOf, prevProp, if_neg (fun both => Nat.succ_ne_zero _ both.1)]
    exact (prevSigner_index (Nat.lt_of_succ_lt present) _).trans (prevProp_behind 0)

end Moves

/-! ## The path -/

section Path

variable {tx} {i : Nat}

/-- The places of the items of a signer. -/
def placesOf (tx : Transaction) (i : Nat) : List SignerCursor :=
  (Nbgl.signerItems tx i).map (cursorOf tx)

theorem placesOf_eq (tx : Transaction) (i : Nat) :
    placesOf tx i =
      [cursorOf tx ⟨.signer, i⟩, cursorOf tx ⟨.account, i⟩, cursorOf tx ⟨.scope, i⟩] ++
        (List.range (contractsOf tx i)).map (fun j => cursorOf tx ⟨.contract j, i⟩) ++
        (List.range (groupsOf tx i)).map fun j => cursorOf tx ⟨.group j, i⟩ := by
  rw [placesOf, Nbgl.signerItems, List.map_append, List.map_append, List.map_map, List.map_map]
  rfl

theorem getLast?_map_range {α : Type} (f : Nat → α) (n : Nat) :
    ((List.range n).map f).getLast? = if n = 0 then none else some (f (n - 1)) := by
  cases n with
  | zero => rfl
  | succ n => simp [List.range_succ]

theorem head?_map_range {α : Type} (f : Nat → α) (n : Nat) :
    ((List.range n).map f).head? = if n = 0 then none else some (f 0) := by
  cases n with
  | zero => rfl
  | succ n => simp [List.range_succ_eq_map]

theorem isChain_map_range {α : Type} {related : α → α → Prop} {f : Nat → α} {n : Nat}
    (linked : ∀ j, j + 1 < n → related (f j) (f (j + 1))) :
    ((List.range n).map f).IsChain related := by
  rw [List.isChain_map, List.isChain_range]
  intro j inside
  exact linked j (by omega)

/-- The last place before the groups. -/
theorem getLast?_beforeGroups (first second third : SignerCursor)
    (scope : third = cursorOf tx ⟨.scope, i⟩) :
    ([first, second, third] ++
      (List.range (contractsOf tx i)).map fun j => cursorOf tx ⟨.contract j, i⟩).getLast? =
      some (beforeGroups tx i) := by
  rw [List.getLast?_append, getLast?_map_range, beforeGroups]
  split
  · exact congrArg some scope
  · rfl

theorem getLast?_placesOf : (placesOf tx i).getLast? = some (lastOf tx i) := by
  rw [placesOf_eq, List.getLast?_append, getLast?_map_range, getLast?_beforeGroups _ _ _ rfl, lastOf]
  split <;> rfl

theorem head?_placesOf : (placesOf tx i).head? = some (cursorOf tx ⟨.signer, i⟩) := rfl

/-- The items of a signer follow one another. -/
theorem isChain_placesOf (present : i < maxTxSigners) :
    (placesOf tx i).IsChain (Adjacent tx) := by
  have front : [cursorOf tx ⟨.signer, i⟩, cursorOf tx ⟨.account, i⟩,
      cursorOf tx ⟨.scope, i⟩].IsChain (Adjacent tx) :=
    (List.IsChain.singleton _).cons_cons (adjacent_scope present) |>.cons_cons
      (adjacent_account present)
  have contracts := isChain_map_range (f := fun j => cursorOf tx ⟨.contract j, i⟩)
    fun _ more => adjacent_contract present more
  have groups := isChain_map_range (f := fun j => cursorOf tx ⟨.group j, i⟩)
    fun _ more => adjacent_group present more
  rw [placesOf_eq]
  refine (front.append contracts ?_).append groups ?_
  · intro place last place' head
    rw [head?_map_range] at head
    split at head
    · cases head
    · rename_i nonempty
      cases last
      cases head
      exact adjacent_firstContract present (Nat.pos_of_ne_zero nonempty)
  · intro place last place' head
    rw [getLast?_beforeGroups _ _ _ rfl] at last
    rw [head?_map_range] at head
    split at head
    · cases head
    · rename_i nonempty
      cases last
      cases head
      exact adjacent_firstGroup present (Nat.pos_of_ne_zero nonempty)

theorem map_dynItems (tx : Transaction) :
    (Nbgl.dynItems tx).map (cursorOf tx) =
      ((List.range tx.signersSize.toNat).map (placesOf tx)).flatten := by
  rw [Nbgl.dynItems, List.flatMap_def, List.map_flatten, List.map_map]
  rfl

/-- **The moves of the cursor lead along the path and back.** -/
theorem isChain_cursorPath (positive : 0 < tx.signersSize.toNat)
    (few : tx.signersSize.toNat ≤ maxTxSigners) : (cursorPath tx).IsChain (Adjacent tx) := by
  have inner : ((List.range tx.signersSize.toNat).map (placesOf tx)).flatten.IsChain
      (Adjacent tx) := by
    refine (List.isChain_flatten ?_).mpr ⟨?_, ?_⟩
    · intro member
      obtain ⟨i, _, empty⟩ := List.mem_map.mp member
      cases (congrArg List.head? empty).symm.trans head?_placesOf
    · intro places member
      obtain ⟨i, inside, rfl⟩ := List.mem_map.mp member
      exact isChain_placesOf (Nat.lt_of_lt_of_le (List.mem_range.mp inside) few)
    · refine isChain_map_range ?_
      intro i inside place last place' head
      rw [getLast?_placesOf] at last
      cases last
      cases head
      exact adjacent_signer (Nat.lt_of_lt_of_le inside few) (Nat.ne_of_lt inside)
  obtain ⟨n, size⟩ := Nat.exists_eq_add_of_lt positive
  rw [Nat.zero_add] at size
  rw [cursorPath, map_dynItems]
  refine (inner.append (List.IsChain.singleton _) ?_).cons ?_
  · intro place last place' head
    rw [size, List.range_succ, List.map_append, List.flatten_append, List.getLast?_append] at last
    have here : ((List.map (placesOf tx) [n]).flatten).getLast? = some (lastOf tx n) := by
      rw [List.map_singleton, List.flatten_singleton, getLast?_placesOf]
    rw [here] at last
    cases last
    cases head
    rw [size]
    exact adjacent_behind (by omega) size.symm
  · intro place head
    rw [size, List.range_succ_eq_map, List.map_cons, List.flatten_cons, List.append_assoc,
      List.head?_append_of_ne_nil _ (by
        intro empty
        cases (congrArg List.head? empty).symm.trans head?_placesOf)] at head
    cases head
    exact adjacent_first

end Path

/-! ## The screens of the items -/

/-- The item is one of the signers of a transaction. -/
structure Inside (item : DynamicItem) : Prop where
  signer : item.signerIndex < tx.signersSize.toNat
  contract : ∀ j, item.kind = .contract j → j < contractsOf tx item.signerIndex
  group : ∀ j, item.kind = .group j → j < groupsOf tx item.signerIndex

section Screens

variable {sdk : Sdk} {storage : InternalStorage} {b : List UInt8} {tx : Transaction}

theorem inside_of_mem {item : DynamicItem} (member : item ∈ Nbgl.dynItems tx) :
    Inside tx item := by
  rw [Nbgl.dynItems, List.mem_flatMap] at member
  obtain ⟨i, inside, member⟩ := member
  rw [List.mem_range] at inside
  rw [Nbgl.signerItems, List.mem_append, List.mem_append] at member
  rcases member with (front | contract) | group
  · simp only [List.mem_cons, List.not_mem_nil, or_false] at front
    rcases front with rfl | rfl | rfl
    · exact ⟨inside, fun _ => ItemKind.noConfusion, fun _ => ItemKind.noConfusion⟩
    · exact ⟨inside, fun _ => ItemKind.noConfusion, fun _ => ItemKind.noConfusion⟩
    · exact ⟨inside, fun _ => ItemKind.noConfusion, fun _ => ItemKind.noConfusion⟩
  · obtain ⟨j, present, rfl⟩ := List.mem_map.mp contract
    refine ⟨inside, fun j' same => ?_, fun _ => ItemKind.noConfusion⟩
    cases same
    exact List.mem_range.mp present
  · obtain ⟨j, present, rfl⟩ := List.mem_map.mp group
    refine ⟨inside, fun _ => ItemKind.noConfusion, fun j' same => ?_⟩
    cases same
    exact List.mem_range.mp present

/-- An index of a list is passed unchanged. -/
theorem unsigned_cast {j : Nat} (small : j < 256) : unsigned j = j := by
  rw [unsigned]
  omega

/-- A parsed transaction has between one and four signers. -/
theorem signersSize_bounds (parses : Parses sdk b tx) :
    0 < tx.signersSize.toNat ∧ tx.signersSize.toNat ≤ maxTxSigners := by
  obtain ⟨image, _, decoded, _⟩ := parses.image
  have size : tx.signersSize.toNat = image.signers.signers.length :=
    Int.ofNat.inj (TxValue.number.inj (decoded.fields .signersSize (by decide)))
  rw [size]
  exact ⟨image.signers.min_le, image.signers.le_max⟩

theorem ne_of_inside {item : DynamicItem} (inside : Inside tx item) (state : SignerState) :
    ¬ (item.signerIndex = tx.signersSize.toNat ∧ state = .end) := fun both =>
  Nat.ne_of_lt inside.signer both.1

theorem length_optionalEntries_le {limit width : Nat} (image : Option (EntriesImage limit width)) :
    (optionalEntries image).length ≤ limit := by
  cases image with
  | none => exact Nat.zero_le _
  | some list => exact list.length_le

/-- The lists of a signer of a parsed transaction are short. -/
theorem counts_le (parses : Parses sdk b tx) {i : Nat} (inside : i < tx.signersSize.toNat) :
    contractsOf tx i ≤ maxSignerAllowedContracts ∧ groupsOf tx i ≤ maxSignerAllowedGroups := by
  obtain ⟨image, facts⟩ := parses.facts_image inside
  have contracts := congrArg (·.contracts.length) facts
  have groups := congrArg (·.groups.length) facts
  simp only [Signer.facts, SignerImage.facts, List.length_map, List.length_range] at contracts groups
  constructor
  · exact (Nat.le_of_eq contracts).trans (length_optionalEntries_le _)
  · exact (Nat.le_of_eq groups).trans (length_optionalEntries_le _)

/-- The indices of every place fit in 8 bits. -/
theorem cursorPath_small (parses : Parses sdk b tx) {c : SignerCursor}
    (member : c ∈ cursorPath tx) :
    c.sIndex < maxTxSigners ∧ (-1 ≤ c.cIndex ∧ c.cIndex ≤ maxSignerAllowedContracts) ∧
      -1 ≤ c.gIndex ∧ c.gIndex ≤ maxSignerAllowedGroups := by
  obtain ⟨positive, few⟩ := signersSize_bounds parses
  rw [cursorPath, List.mem_cons, List.mem_append, List.mem_map, List.mem_singleton] at member
  rcases member with rfl | ⟨item, member, rfl⟩ | rfl
  · decide
  · have inside := inside_of_mem member
    have small := counts_le parses inside.signer
    obtain ⟨kind, i⟩ := item
    have present : i < maxTxSigners := Nat.lt_of_lt_of_le inside.signer few
    cases kind with
    | signer | account | scope => exact ⟨present, by simp [cursorOf]⟩
    | contract j =>
        have lower : j < contractsOf tx i := inside.contract j rfl
        simp only [cursorOf] at small ⊢
        omega
    | group j =>
        have lower : j < groupsOf tx i := inside.group j rfl
        simp only [cursorOf] at small ⊢
        omega
  · have small := counts_le parses (Nat.sub_lt positive Nat.one_pos)
    simp only [behind]
    omega

/-- **The screen of an item is formatted as on the devices with touch screens.** -/
theorem getNextData_item (few : tx.signersSize.toNat ≤ maxTxSigners) {direction : Direction}
    {view : SignerView} {item : DynamicItem} (inside : Inside tx item)
    (moved : direction.move tx view.cursor = some (cursorOf tx item)) :
    getNextData sdk storage b tx direction view =
      (Nbgl.formatTagValue sdk storage b tx item view.slot).map fun slot =>
        (true, ⟨cursorOf tx item, slot⟩) := by
  have found := @getElem_signers tx _ (Nat.lt_of_lt_of_le inside.signer few)
  obtain ⟨kind, i⟩ := item
  have outside := ne_of_inside inside
  rw [getNextData, moved]
  cases kind with
  | signer =>
      show (tx.signers[i]?).bind _ = _
      rw [found]
      exact if_neg (outside .index)
  | account =>
      show (tx.signers[i]?).bind _ = _
      rw [found]
      exact if_neg (outside .account)
  | scope =>
      show (tx.signers[i]?).bind _ = _
      rw [found]
      exact if_neg (outside .scope)
  | contract j =>
      have small := Nat.lt_trans (inside.contract j rfl) (UInt8.toNat_lt _)
      show (tx.signers[i]?).bind _ = _
      rw [found]
      refine (if_neg (outside .contracts)).trans ?_
      show (formatContract sdk b (signerOf tx i) (unsigned j) view.slot).map _ = _
      rw [unsigned_cast small]
      rfl
  | group j =>
      have small := Nat.lt_trans (inside.group j rfl) (UInt8.toNat_lt _)
      show (tx.signers[i]?).bind _ = _
      rw [found]
      refine (if_neg (outside .groups)).trans ?_
      show (formatGroup sdk b (signerOf tx i) (unsigned j) view.slot).map _ = _
      rw [unsigned_cast small]
      rfl

/-- Every item of a parsed transaction can be formatted. -/
theorem formatTagValue_parses (parses : Parses sdk b tx) {item : DynamicItem}
    (inside : Inside tx item) (slot : DynamicSlot) :
    ∃ slot', Nbgl.formatTagValue sdk storage b tx item slot = some slot' := by
  have read := fun detail : SignerDetail =>
    @Parses.detail_read sdk b tx parses item.signerIndex inside.signer detail
  obtain ⟨kind, i⟩ := item
  cases kind with
  | signer => exact ⟨_, rfl⟩
  | account =>
      obtain ⟨bytes, account⟩ := read .account trivial
      exact ⟨_, congrArg (Option.map _) account⟩
  | scope => exact ⟨_, rfl⟩
  | contract j =>
      obtain ⟨bytes, contract⟩ := read (.contract j) (inside.contract j rfl)
      exact ⟨_, congrArg (Option.map _) contract⟩
  | group j =>
      obtain ⟨bytes, group⟩ := read (.group j) (inside.group j rfl)
      exact ⟨_, congrArg (Option.map _) group⟩

/-- There is no screen before the first item and behind the last one. -/
theorem getNextData_end {direction : Direction} {view : SignerView} {c : SignerCursor}
    (present : c.sIndex < maxTxSigners) (outside : c.pIndex = .start ∨ c.pIndex = .end)
    (moved : direction.move tx view.cursor = some c) :
    getNextData sdk storage b tx direction view = some (false, ⟨c, view.slot⟩) := by
  rw [getNextData, moved]
  show (tx.signers[c.sIndex]?).bind _ = _
  rw [getElem_signers present]
  obtain ⟨i, state, _, _⟩ := c
  rcases outside with rfl | rfl
  · exact ite_self _
  · exact ite_self _

end Screens

/-! ## Walks -/

section Walks

variable (sdk : Sdk) (storage : InternalStorage) (b : List UInt8) (tx : Transaction)

/-- The views after calls of `get_next_data` from the reset display, each with the
position it is at: forward calls from before the first item to the last one, backward
calls from the first item to behind the last one. -/
def SignerWalk : Nat → SignerView → Prop :=
  Walk (fun view => ∃ slot, view = (resetSignerDisplayState slot).view)
    (fun view view' => ∃ dynamicData,
      getNextData sdk storage b tx .forward view = some (dynamicData, view'))
    (fun view view' => ∃ dynamicData,
      getNextData sdk storage b tx .backward view = some (dynamicData, view'))
    ((Nbgl.dynItems tx).length + 1)

/-- The direction in which a delimiter fetches. -/
def fetchDirection (isUpperDelimiter : Bool) : ScreenState → Direction
  | .staticScreen => if isUpperDelimiter then .forward else .backward
  | .dynamicScreen => if isUpperDelimiter then .backward else .forward

/-- The displays after calls of `display_next_state` from the reset one that fetch
between the same positions. -/
def DisplayWalk : Nat → SignerDisplay → Prop :=
  Walk (fun display => ∃ slot, display = resetSignerDisplayState slot)
    (fun display display' => ∃ isUpper move,
      fetchDirection isUpper display.currentState = .forward ∧
        displayNextState sdk storage b tx isUpper display = some (move, display'))
    (fun display display' => ∃ isUpper move,
      fetchDirection isUpper display.currentState = .backward ∧
        displayNextState sdk storage b tx isUpper display = some (move, display'))
    ((Nbgl.dynItems tx).length + 1)

/-- A call moves to a position. It has data when there is an item at the position,
and then the slot is filled with it; otherwise the slot is left as it was. -/
def Fetches (direction : Direction) (target : Nat) (view : SignerView) : Prop :=
  ∃ dynamicData view', getNextData sdk storage b tx direction view = some (dynamicData, view') ∧
    (cursorPath tx)[target]? = some view'.cursor ∧
    (dynamicData = true ↔ 1 ≤ target ∧ target ≤ (Nbgl.dynItems tx).length) ∧
    (∀ place item, target = place + 1 → (Nbgl.dynItems tx)[place]? = some item →
      Inside tx item ∧ view'.cursor = cursorOf tx item ∧
        Nbgl.formatTagValue sdk storage b tx item view.slot = some view'.slot) ∧
    (dynamicData = false → view'.slot = view.slot)

variable {sdk storage b tx}

theorem length_cursorPath : (cursorPath tx).length = (Nbgl.dynItems tx).length + 1 + 1 := by
  rw [cursorPath, List.length_cons, List.length_append, List.length_map, List.length_singleton]

/-- A position is before the first item, at an item or behind the last one. -/
theorem cursorPath_cases {target : Nat} {c : SignerCursor}
    (there : (cursorPath tx)[target]? = some c) :
    (target = 0 ∧ c = firstCursor) ∨
      (∃ place item, target = place + 1 ∧ (Nbgl.dynItems tx)[place]? = some item ∧
        c = cursorOf tx item) ∨
      (target = (Nbgl.dynItems tx).length + 1 ∧ c = behind tx (tx.signersSize.toNat - 1)) := by
  cases target with
  | zero => exact .inl ⟨rfl, (Option.some.inj there).symm⟩
  | succ place =>
      rw [cursorPath, List.getElem?_cons_succ] at there
      by_cases item : place < (Nbgl.dynItems tx).length
      · rw [List.getElem?_append_left (by rw [List.length_map]; exact item), List.getElem?_map,
          List.getElem?_eq_getElem item] at there
        exact .inr (.inl ⟨place, _, rfl, List.getElem?_eq_getElem item,
          (Option.some.inj there).symm⟩)
      · rw [List.getElem?_append_right (by rw [List.length_map]; omega), List.length_map] at there
        obtain ⟨last, same⟩ := List.getElem?_eq_some_iff.mp there
        rw [List.length_singleton] at last
        refine .inr (.inr ⟨by omega, ?_⟩)
        rw [List.getElem_singleton] at same
        exact same.symm

/-- **A move to a position fetches what is there.** -/
theorem fetches_of_move (parses : Parses sdk b tx) {direction : Direction} {target : Nat}
    {view : SignerView} {c : SignerCursor} (there : (cursorPath tx)[target]? = some c)
    (moved : direction.move tx view.cursor = some c) :
    Fetches sdk storage b tx direction target view := by
  obtain ⟨positive, few⟩ := signersSize_bounds parses
  rcases cursorPath_cases there with ⟨rfl, rfl⟩ | ⟨place, item, rfl, found, rfl⟩ | ⟨rfl, rfl⟩
  · refine ⟨false, _, getNextData_end (by decide) (.inl rfl) moved, there, ?_, nofun, fun _ => rfl⟩
    exact iff_of_false Bool.false_ne_true (by omega)
  · have inside := inside_of_mem (List.mem_of_getElem? found)
    obtain ⟨slot, formatted⟩ := @formatTagValue_parses sdk storage b tx parses item inside view.slot
    have fetched := @getNextData_item sdk storage b tx few direction view item inside moved
    rw [formatted] at fetched
    obtain ⟨bound, _⟩ := List.getElem?_eq_some_iff.mp found
    refine ⟨true, _, fetched, there, iff_of_true rfl (by omega), ?_, nofun⟩
    rintro place' item' same found'
    cases Nat.succ.inj same
    cases found.symm.trans found'
    exact ⟨inside, rfl, formatted⟩
  · have bound : tx.signersSize.toNat - 1 < maxTxSigners := by omega
    refine ⟨false, _, getNextData_end bound (.inr rfl) moved, there, ?_, ?_, fun _ => rfl⟩
    · exact iff_of_false Bool.false_ne_true (by omega)
    · intro place item same found
      obtain ⟨bound, _⟩ := List.getElem?_eq_some_iff.mp found
      omega

/-- A call of `get_next_data` leaves the cursor where the move leads. -/
theorem move_of_getNextData {direction : Direction} {view view' : SignerView} {data : Bool}
    (fetched : getNextData sdk storage b tx direction view = some (data, view')) :
    direction.move tx view.cursor = some view'.cursor := by
  rw [getNextData, Option.bind_eq_bind, Option.bind_eq_some_iff] at fetched
  obtain ⟨c, moved, fetched⟩ := fetched
  rw [Option.bind_eq_bind, Option.bind_eq_some_iff] at fetched
  obtain ⟨s, _, fetched⟩ := fetched
  rw [moved]
  split at fetched
  · cases fetched
    rfl
  · cases state : c.pIndex with
    | start | index | scope | «end» =>
        rw [state] at fetched
        cases fetched
        rfl
    | account | contracts | groups =>
        rw [state] at fetched
        obtain ⟨slot, _, same⟩ := Option.map_eq_some_iff.mp fetched
        cases same
        rfl

/-- **The cursor stands where the count of the calls says.** -/
theorem SignerWalk.stands (parses : Parses sdk b tx) {k : Nat} {view : SignerView}
    (walk : SignerWalk sdk storage b tx k view) : (cursorPath tx)[k]? = some view.cursor := by
  obtain ⟨positive, few⟩ := signersSize_bounds parses
  refine Walk.follows (isChain_cursorPath positive few) length_cursorPath ?_ ?_ ?_ walk
  · rintro _ ⟨slot, rfl⟩
    rfl
  · rintro view view' ⟨data, fetched⟩
    exact move_of_getNextData fetched
  · rintro view view' ⟨data, fetched⟩
    exact move_of_getNextData fetched

theorem SignerWalk.forward (parses : Parses sdk b tx) {k : Nat} {view : SignerView}
    (walk : SignerWalk sdk storage b tx k view) (inside : k ≤ (Nbgl.dynItems tx).length) :
    Fetches sdk storage b tx .forward (k + 1) view := by
  obtain ⟨positive, few⟩ := signersSize_bounds parses
  obtain ⟨c, there, moved⟩ := next_of_chain (isChain_cursorPath positive few)
    (walk.stands parses) (by rw [length_cursorPath]; omega)
  exact fetches_of_move parses there moved

theorem SignerWalk.backward (parses : Parses sdk b tx) {k : Nat} {view : SignerView}
    (walk : SignerWalk sdk storage b tx (k + 1) view) :
    Fetches sdk storage b tx .backward k view := by
  obtain ⟨positive, few⟩ := signersSize_bounds parses
  obtain ⟨c, there, moved⟩ := prev_of_chain (isChain_cursorPath positive few)
    (walk.stands parses)
  exact fetches_of_move parses there moved

/-- What a delimiter tells the flow. -/
def uxMove (isUpperDelimiter : Bool) (state : ScreenState) (dynamicData : Bool) : UxMove :=
  match isUpperDelimiter, state, dynamicData with
  | true, .staticScreen, _ => .next
  | true, .dynamicScreen, true => .next
  | true, .dynamicScreen, false => .prev
  | false, .staticScreen, _ => .prev
  | false, .dynamicScreen, true => .pagingEdgecase
  | false, .dynamicScreen, false => .next

/-- A delimiter fetches, and the display is dynamic when there was data. -/
theorem displayNextState_eq (isUpper : Bool) (display : SignerDisplay) :
    displayNextState sdk storage b tx isUpper display =
      (getNextData sdk storage b tx (fetchDirection isUpper display.currentState)
        display.view).map fun found => (uxMove isUpper display.currentState found.1,
          ⟨if found.1 then .dynamicScreen else .staticScreen, found.2⟩) := by
  obtain ⟨state, view⟩ := display
  rw [displayNextState]
  cases isUpper with
  | true =>
      cases state with
      | staticScreen =>
          rcases found : getNextData sdk storage b tx .forward view with _ | ⟨data, view'⟩
          · simp [fetchDirection, found]
          · cases data <;> simp [fetchDirection, found, uxMove]
      | dynamicScreen =>
          rcases found : getNextData sdk storage b tx .backward view with _ | ⟨data, view'⟩
          · simp [fetchDirection, found]
          · cases data <;> simp [fetchDirection, found, uxMove]
  | false =>
      cases state with
      | staticScreen =>
          rcases found : getNextData sdk storage b tx .backward view with _ | ⟨data, view'⟩
          · simp [fetchDirection, found]
          · cases data <;> simp [fetchDirection, found, uxMove]
      | dynamicScreen =>
          rcases found : getNextData sdk storage b tx .forward view with _ | ⟨data, view'⟩
          · simp [fetchDirection, found]
          · cases data <;> simp [fetchDirection, found, uxMove]

/-- A delimiter that fetches in a direction. -/
theorem fetched_of_displayNextState {isUpper : Bool} {display display' : SignerDisplay}
    {move : UxMove} {direction : Direction}
    (asks : fetchDirection isUpper display.currentState = direction)
    (shown : displayNextState sdk storage b tx isUpper display = some (move, display')) :
    ∃ data, getNextData sdk storage b tx direction display.view = some (data, display'.view) ∧
      display'.currentState = if data then .dynamicScreen else .staticScreen := by
  rw [displayNextState_eq, asks, Option.map_eq_some_iff] at shown
  obtain ⟨⟨data, view'⟩, fetched, same⟩ := shown
  cases same
  exact ⟨data, fetched, rfl⟩

theorem DisplayWalk.view {k : Nat} {display : SignerDisplay}
    (walk : DisplayWalk sdk storage b tx k display) :
    SignerWalk sdk storage b tx k display.view := by
  refine Walk.map ?_ ?_ ?_ walk
  · rintro _ ⟨slot, rfl⟩
    exact ⟨slot, rfl⟩
  · rintro display display' ⟨isUpper, move, asks, shown⟩
    obtain ⟨data, fetched, _⟩ := fetched_of_displayNextState asks shown
    exact ⟨data, fetched⟩
  · rintro display display' ⟨isUpper, move, asks, shown⟩
    obtain ⟨data, fetched, _⟩ := fetched_of_displayNextState asks shown
    exact ⟨data, fetched⟩

/-- A call that has fetched makes the display dynamic when there is an item. -/
theorem Fetches.dynamic_iff {direction : Direction} {target : Nat} {view view' : SignerView}
    {data : Bool} {state : ScreenState}
    (fetches : Fetches sdk storage b tx direction target view)
    (fetched : getNextData sdk storage b tx direction view = some (data, view'))
    (state_eq : state = if data then .dynamicScreen else .staticScreen) :
    state = .dynamicScreen ↔ 1 ≤ target ∧ target ≤ (Nbgl.dynItems tx).length := by
  obtain ⟨data', view'', fetched', _, range, _⟩ := fetches
  cases fetched.symm.trans fetched'
  rw [← range, state_eq]
  cases data with
  | true => exact iff_of_true rfl rfl
  | false => exact iff_of_false nofun Bool.false_ne_true

/-- The display is dynamic exactly at the items. -/
theorem DisplayWalk.dynamic_iff (parses : Parses sdk b tx) {k : Nat} {display : SignerDisplay}
    (walk : DisplayWalk sdk storage b tx k display) :
    display.currentState = .dynamicScreen ↔ 1 ≤ k ∧ k ≤ (Nbgl.dynItems tx).length := by
  cases walk with
  | start begins =>
      obtain ⟨slot, rfl⟩ := begins
      exact iff_of_false nofun (by omega)
  | forward walk inside moved =>
      obtain ⟨isUpper, move, asks, shown⟩ := moved
      obtain ⟨data, fetched, state⟩ := fetched_of_displayNextState asks shown
      have before := DisplayWalk.view walk
      exact (before.forward parses (Nat.le_of_lt_succ inside)).dynamic_iff fetched state
  | backward walk moved =>
      obtain ⟨isUpper, move, asks, shown⟩ := moved
      obtain ⟨data, fetched, state⟩ := fetched_of_displayNextState asks shown
      have before := DisplayWalk.view walk
      exact (before.backward parses).dynamic_iff fetched state

/-- A delimiter that fetches between the ends moves. -/
theorem Fetches.displayNextState {isUpper : Bool} {target : Nat} {display : SignerDisplay}
    (fetches : Fetches sdk storage b tx (fetchDirection isUpper display.currentState) target
      display.view) :
    ∃ move display', displayNextState sdk storage b tx isUpper display =
      some (move, display') := by
  obtain ⟨data, view', fetched, _⟩ := fetches
  exact ⟨_, _, (displayNextState_eq isUpper display).trans (congrArg (Option.map _) fetched)⟩

/-- **The cursor of the signers simulates the list of the items.** -/
theorem signerCursor_walks (sdk : Sdk) (storage : InternalStorage) {b : List UInt8}
    {tx : Transaction} (parses : Parses sdk b tx) :
    (∀ k view, SignerWalk sdk storage b tx k view →
      (cursorPath tx)[k]? = some view.cursor ∧
      (k ≤ (Nbgl.dynItems tx).length → Fetches sdk storage b tx .forward (k + 1) view) ∧
      ∀ before, k = before + 1 → Fetches sdk storage b tx .backward before view) ∧
    ∀ k display, DisplayWalk sdk storage b tx k display →
      SignerWalk sdk storage b tx k display.view ∧
      (display.currentState = .dynamicScreen ↔ 1 ≤ k ∧ k ≤ (Nbgl.dynItems tx).length) ∧
      ∀ isUpper,
        (match fetchDirection isUpper display.currentState with
          | .forward => k ≤ (Nbgl.dynItems tx).length
          | .backward => 1 ≤ k) →
        ∃ move display', displayNextState sdk storage b tx isUpper display =
          some (move, display') := by
  constructor
  · intro k view walk
    refine ⟨walk.stands parses, walk.forward parses, ?_⟩
    rintro before rfl
    exact walk.backward parses
  · intro k display walk
    refine ⟨walk.view, walk.dynamic_iff parses, ?_⟩
    intro isUpper permitted
    cases asks : fetchDirection isUpper display.currentState with
    | forward =>
        rw [asks] at permitted
        have fetches := walk.view.forward parses permitted
        rw [← asks] at fetches
        exact fetches.displayNextState
    | backward =>
        rw [asks] at permitted
        obtain ⟨before, rfl⟩ := Nat.exists_eq_add_of_le' permitted
        have fetches := walk.view.backward parses
        rw [← asks] at fetches
        exact fetches.displayNextState

/-- A transaction of a signer that is bound to a group, and of one without lists. -/
def bordersImage : TransactionImage :=
  { (SignerImage.plain (Area.fill _ 0)).transaction with
    signers := ⟨.single 2 (by decide), [.ofGroup (Area.fill _ 2), .plain (Area.fill _ 1)], rfl,
      by decide, by decide, by decide⟩ }

theorem bordersImage_short : bordersImage.bytes.length ≤ maxTransactionLen := by decide

/-- The number of entries that the facts of a signer list. -/
theorem length_entries {i : Nat} {facts : SignerFacts} (same : (signerOf tx i).facts b = facts) :
    contractsOf tx i = facts.contracts.length ∧ groupsOf tx i = facts.groups.length := by
  subst same
  simp [Signer.facts, contractsOf, groupsOf]

theorem dynItems_bordersImage (decoded : bordersImage.Decoded tx) :
    Nbgl.dynItems tx = [⟨.signer, 0⟩, ⟨.account, 0⟩, ⟨.scope, 0⟩, ⟨.group 0, 0⟩, ⟨.signer, 1⟩,
      ⟨.account, 1⟩, ⟨.scope, 1⟩] := by
  have facts := decoded.signerFacts
  have two : tx.signersSize.toNat = 2 := by
    rw [← length_signerFacts tx bordersImage.bytes, facts]
    rfl
  rw [Transaction.signerFacts, two] at facts
  obtain ⟨first, rest⟩ := List.cons.inj facts
  obtain ⟨contracts, groups⟩ := length_entries first
  obtain ⟨contracts', groups'⟩ := length_entries (List.cons.inj rest).1
  have listed : ∀ i, Nbgl.signerItems tx i = [⟨.signer, i⟩, ⟨.account, i⟩, ⟨.scope, i⟩] ++
      (List.range (contractsOf tx i)).map (fun j => ⟨.contract j, i⟩) ++
      (List.range (groupsOf tx i)).map fun j => ⟨.group j, i⟩ := fun _ => rfl
  rw [Nbgl.dynItems, two]
  show Nbgl.signerItems tx 0 ++ (Nbgl.signerItems tx 1 ++ []) = _
  rw [listed, listed, contracts, groups, contracts', groups']
  rfl

/-- Over all items to the second signer, and back to the group of the first one. -/
theorem signerCursor_walks_border :
    let tx := bordersImage.parsed Sdk.reference
    ∃ view view', SignerWalk Sdk.reference .zero bordersImage.bytes tx 5 view ∧
      view.cursor = cursorOf tx ⟨.signer, 1⟩ ∧
      getNextData Sdk.reference .zero bordersImage.bytes tx .backward view = some (true, view') ∧
      view'.cursor = cursorOf tx ⟨.group 0, 0⟩ ∧
      Nbgl.formatTagValue Sdk.reference .zero bordersImage.bytes tx ⟨.group 0, 0⟩ view.slot =
        some view'.slot := by
  intro tx
  have parses : Parses Sdk.reference bordersImage.bytes tx := parses_image _ bordersImage_short
  have decoded : bordersImage.Decoded tx := decoded_parsed bordersImage_short
  clear_value tx
  have items := dynItems_bordersImage decoded
  obtain ⟨walks, _⟩ := signerCursor_walks Sdk.reference .zero parses
  have reach : ∀ k ≤ 5, ∃ view, SignerWalk Sdk.reference .zero bordersImage.bytes tx k view := by
    intro k inside
    induction k with
    | zero => exact ⟨_, .start ⟨.full, rfl⟩⟩
    | succ k ih =>
        obtain ⟨view, walk⟩ := ih (Nat.le_of_succ_le inside)
        have within : k ≤ (Nbgl.dynItems tx).length := by
          rw [items]
          exact (Nat.le_of_succ_le inside).trans (by decide)
        obtain ⟨data, view', fetched, _⟩ := (walks k view walk).2.1 within
        exact ⟨view', Walk.forward walk (Nat.lt_succ_of_le within) ⟨data, fetched⟩⟩
  obtain ⟨view, walk⟩ := reach 5 (Nat.le_refl 5)
  obtain ⟨stands, _, backward⟩ := walks 5 view walk
  obtain ⟨data, view', fetched, there, range, formatted, _⟩ := backward 4 rfl
  have group : (Nbgl.dynItems tx)[3]? = some ⟨.group 0, 0⟩ := by rw [items]; rfl
  obtain ⟨_, cursor, slot⟩ := formatted 3 _ rfl group
  rw [range.mpr ⟨by decide, by rw [items]; decide⟩] at fetched
  refine ⟨view, view', walk, ?_, fetched, cursor, slot⟩
  rw [cursorPath, items] at stands
  exact (Option.some.inj stands).symm

end Walks

end Bagl

end AppNeo3
