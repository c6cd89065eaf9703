import AppNeo3.Foundation.SlotCache
import AppNeo3.Review.SignerCursor
import AppNeo3.Ui.TransactionFlow
import Mathlib.Algebra.Order.BigOperators.Group.List

/-!
# The pair list of a review

For a parsed transaction the items of all signers fit in the array that stores
them, and `PairList` says what the arrays then hold. The screen fetches pairs by
index and keeps a window of them, each dynamic one in the slot of its index. What
a fetch writes there stays until the same index is fetched again, as long as the
window is not wider than the number of slots (`pairList_kept`).
-/

set_option autoImplicit false

namespace AppNeo3

namespace Nbgl

open CBody SlotCache
open Bagl (Inside contractsOf groupsOf)

variable {sdk : Sdk} {storage : InternalStorage} {b : List UInt8} {tx : Transaction}

/-! ## The items of all signers -/

theorem length_signerItems (tx : Transaction) (i : Nat) :
    (signerItems tx i).length = 3 + contractsOf tx i + groupsOf tx i := by
  rw [signerItems, List.length_append, List.length_append, List.length_map, List.length_map,
    List.length_range, List.length_range]
  rfl

/-- **The items of a parsed transaction fit in their array.** -/
theorem length_dynItems_le (parses : Parses sdk b tx) : (dynItems tx).length ≤ maxDynItems := by
  have few := (Bagl.signersSize_bounds parses).2
  have each : ∀ i ∈ List.range tx.signersSize.toNat, (signerItems tx i).length ≤ 21 := by
    intro i member
    obtain ⟨contracts, groups⟩ := Bagl.counts_le parses (List.mem_range.mp member)
    rw [length_signerItems]
    exact Nat.add_le_add (Nat.add_le_add_left contracts 3) groups
  have total := List.sum_le_card_nsmul
    ((List.range tx.signersSize.toNat).map fun i => (signerItems tx i).length) 21 (by
      intro size member
      obtain ⟨i, inside, rfl⟩ := List.mem_map.mp member
      exact each i inside)
  rw [List.length_map, List.length_range] at total
  rw [dynItems, List.length_flatMap]
  exact total.trans (Nat.mul_le_mul_right 21 few)

/-- An item of a signer has its index. -/
theorem signerIndex_of_mem {i : Nat} {item : DynamicItem} (member : item ∈ signerItems tx i) :
    item.signerIndex = i := by
  rw [signerItems, List.mem_append, List.mem_append] at member
  rcases member with (front | contract) | group
  · simp only [List.mem_cons, List.not_mem_nil, or_false] at front
    rcases front with rfl | rfl | rfl <;> rfl
  · obtain ⟨_, _, rfl⟩ := List.mem_map.mp contract
    rfl
  · obtain ⟨_, _, rfl⟩ := List.mem_map.mp group
    rfl

/-- **The items are those of the signers**, none missing. -/
theorem mem_dynItems_iff {item : DynamicItem} : item ∈ dynItems tx ↔ Inside tx item := by
  refine ⟨Bagl.inside_of_mem, fun inside => ?_⟩
  obtain ⟨kind, i⟩ := item
  rw [dynItems, List.mem_flatMap]
  refine ⟨i, List.mem_range.mpr inside.signer, ?_⟩
  rw [signerItems, List.mem_append, List.mem_append]
  cases kind with
  | signer | account | scope => exact .inl (.inl (by simp))
  | contract j =>
      exact .inl (.inr (List.mem_map.mpr ⟨j, List.mem_range.mpr (inside.contract j rfl), rfl⟩))
  | group j => exact .inr (List.mem_map.mpr ⟨j, List.mem_range.mpr (inside.group j rfl), rfl⟩)

theorem nodup_signerItems (tx : Transaction) (i : Nat) : (signerItems tx i).Nodup := by
  have contracts : ((List.range (contractsOf tx i)).map fun j =>
      DynamicItem.mk (.contract j) i).Nodup :=
    List.nodup_range.map fun j j' same => ItemKind.contract.inj (DynamicItem.mk.inj same).1
  have groups : ((List.range (groupsOf tx i)).map fun j => DynamicItem.mk (.group j) i).Nodup :=
    List.nodup_range.map fun j j' same => ItemKind.group.inj (DynamicItem.mk.inj same).1
  rw [signerItems, List.nodup_append, List.nodup_append]
  refine ⟨⟨by simp, contracts, ?_⟩, groups, ?_⟩
  · simp
  · simp

/-- **No item is there twice.** -/
theorem nodup_dynItems (tx : Transaction) : (dynItems tx).Nodup := by
  rw [dynItems, List.nodup_flatMap]
  refine ⟨fun i _ => nodup_signerItems tx i, List.nodup_range.imp fun other => ?_⟩
  intro item first second
  exact other ((signerIndex_of_mem first).symm.trans (signerIndex_of_mem second))

/-! ## Fetching a pair -/

/-- A stored item is formatted as the item that it stands for. -/
theorem formatTagValue_stored {stored : StoredItem} (slot : DynamicSlot)
    (present : stored.signerIndex.toNat < maxTxSigners) :
    TransactionFlow.formatTagValue sdk storage b tx stored slot =
      formatTagValue sdk storage b tx stored.item slot := by
  have found : tx.signers[stored.signerIndex.toNat]? = some _ := Vector.getElem?_eq_getElem present
  obtain ⟨kind, signerIndex, entryIndex⟩ := stored
  cases kind <;>
    simp only [TransactionFlow.formatTagValue, formatTagValue, StoredItem.item,
      StoredKind.itemKind, found, Option.bind_eq_bind, Option.bind_some, Option.getD_some]

section Fetch

variable {g : GlobalItemStorage} {flow : TransactionFlow} {statics : List StaticItem}
  {dyns : List DynamicItem} {index : UInt8} {slots : List DynamicSlot}

/-- A fixed pair shows its fact, and no slot is written. -/
theorem getSingleActionReviewPair_static (holds : flow.Holds statics dyns) {item : StaticItem}
    (found : statics[index.toNat]? = some item) :
    flow.getSingleActionReviewPair sdk storage b tx g index slots =
      some ((item.item.toList, g.shown item.fact), slots) := by
  have before : index < flow.staticItems.count := by
    rw [UInt8.lt_iff_toNat_lt, holds.statics.count, List.length_map]
    exact (List.getElem?_eq_some_iff.mp found).1
  have mapped : (statics.map some)[index.toNat]? = some (some item) := by
    rw [List.getElem?_map, found]
    rfl
  obtain ⟨cell, here, stored⟩ := holds.statics.getElem? mapped
  cases stored
  rw [TransactionFlow.getSingleActionReviewPair, if_pos before, here]
  rfl

/-- Behind the fixed pairs the slot of the index is filled with the item. -/
theorem getSingleActionReviewPair_dynamic (holds : flow.Holds statics dyns) {item : DynamicItem}
    (behind : statics.length ≤ index.toNat)
    (found : dyns[index.toNat - statics.length]? = some item)
    (present : item.signerIndex < maxTxSigners) {older filled : DynamicSlot}
    (slot : slots[index.toNat % slots.length]? = some older)
    (formatted : formatTagValue sdk storage b tx item older = some filled) :
    flow.getSingleActionReviewPair sdk storage b tx g index slots =
      some (filled.shown, slots.set (index.toNat % slots.length) filled) := by
  have count : flow.staticItems.count.toNat = statics.length := by
    rw [holds.statics.count, List.length_map]
  have other : ¬ index < flow.staticItems.count := by
    rw [UInt8.lt_iff_toNat_lt, count]
    exact Nat.not_lt.mpr behind
  obtain ⟨stored, here, rfl⟩ := holds.dyns.getElem? found
  rw [← formatTagValue_stored older present] at formatted
  rw [TransactionFlow.getSingleActionReviewPair, if_neg other, count, here, slot]
  show (TransactionFlow.formatTagValue sdk storage b tx stored older).bind _ = _
  rw [formatted]
  rfl

end Fetch

/-! ## What the screen gets -/

/-- The stored pairs of a review: all of them in order, each once, inside the
arrays, with counters that count them. -/
structure PairList (tx : Transaction) (flow : TransactionFlow) : Prop where
  staticPairs : flow.staticItems.used = (staticItems tx).map some
  items : flow.dynItems.used.map StoredItem.item = dynItems tx
  complete : ∀ item, item ∈ dynItems tx ↔ Inside tx item
  nodup : (dynItems tx).Nodup
  inside : (dynItems tx).length ≤ maxDynItems
  staticCount : flow.staticItems.count.toNat = (staticItems tx).length
  dynCount : flow.dynItems.count.toNat = (dynItems tx).length
  nbPairs : flow.nbPairs.toNat = (staticItems tx).length + (dynItems tx).length

theorem pairList_of_holds {flow : TransactionFlow}
    (holds : flow.Holds (staticItems tx) (dynItems tx))
    (inside : (dynItems tx).length ≤ maxDynItems) : PairList tx flow where
  staticPairs := (List.map_id _).symm.trans holds.statics.used
  items := holds.dyns.used
  complete _ := mem_dynItems_iff
  nodup := nodup_dynItems tx
  inside := inside
  staticCount := by rw [holds.statics.count, List.length_map]
  dynCount := holds.dyns.count
  nbPairs := by
    have short := length_staticItems_le tx
    have few : (dynItems tx).length ≤ 42 := inside
    rw [TransactionFlow.nbPairs, UInt8.toNat_add, holds.statics.count, holds.dyns.count,
      List.length_map]
    omega

variable (sdk storage b tx)

/-- What a fetch returns, and what stands in the slots at the end of the fetches:
a fixed pair shows its fact; a dynamic one shows what its own item left in the slot
that the index was given, and this is still there. -/
def PairKept (g : GlobalItemStorage) (index : UInt8) (before : List DynamicSlot)
    (pair : List Char × List Char) (last : List DynamicSlot) : Prop :=
  if index.toNat < (staticItems tx).length then
    ∃ item, (staticItems tx)[index.toNat]? = some item ∧
      pair = (item.item.toList, g.shown item.fact)
  else
    ∃ item older filled, (dynItems tx)[index.toNat - (staticItems tx).length]? = some item ∧
      before[index.toNat % before.length]? = some older ∧
      formatTagValue sdk storage b tx item older = some filled ∧ pair = filled.shown ∧
      last[index.toNat % last.length]? = some filled

variable {sdk storage b tx}

/-- **A pair of the list can be fetched**, and the slot of its index is written. -/
theorem getSingleActionReviewPair_fetches (parses : Parses sdk b tx) (g : GlobalItemStorage)
    {flow : TransactionFlow} (holds : flow.Holds (staticItems tx) (dynItems tx)) {index : UInt8}
    (listed : index.toNat < (staticItems tx).length + (dynItems tx).length)
    {slots : List DynamicSlot} (some_slot : 0 < slots.length) :
    ∃ pair slots', flow.getSingleActionReviewPair sdk storage b tx g index slots =
        some (pair, slots') ∧ OwnSlot index.toNat slots slots' ∧
      PairKept sdk storage b tx g index slots pair slots' := by
  by_cases fixed : index.toNat < (staticItems tx).length
  · have found := List.getElem?_eq_getElem fixed
    exact ⟨_, slots, getSingleActionReviewPair_static holds found, .refl _ _,
      (if_pos fixed).mpr ⟨_, found, rfl⟩⟩
  · have behind : (staticItems tx).length ≤ index.toNat := Nat.le_of_not_lt fixed
    have present : index.toNat - (staticItems tx).length < (dynItems tx).length := by omega
    have found := List.getElem?_eq_getElem present
    have inside := Bagl.inside_of_mem (List.mem_of_getElem? found)
    have signer := Nat.lt_of_lt_of_le inside.signer (Bagl.signersSize_bounds parses).2
    have own := Nat.mod_lt index.toNat some_slot
    have slot := List.getElem?_eq_getElem own
    obtain ⟨filled, formatted⟩ := @Bagl.formatTagValue_parses sdk storage b tx parses _ inside
      slots[index.toNat % slots.length]
    refine ⟨_, _, getSingleActionReviewPair_dynamic holds behind found signer slot formatted,
      .set _ _ _, (if_neg fixed).mpr ⟨_, _, filled, found, slot, formatted, rfl, ?_⟩⟩
    rw [List.length_set, List.getElem?_set_self own]

/-- What a fetch has left in its slot is still there when the slot is. -/
theorem PairKept.later {g : GlobalItemStorage} {index : UInt8} {before after last : List DynamicSlot}
    {pair : List Char × List Char} (kept : PairKept sdk storage b tx g index before pair after)
    (size : last.length = after.length)
    (same : last[index.toNat % after.length]? = after[index.toNat % after.length]?) :
    PairKept sdk storage b tx g index before pair last := by
  rw [PairKept] at kept ⊢
  rwa [size, same]

/-- **The pair list is complete, bounded and not clobbered.** The pairs of a parsed
transaction are stored inside their arrays, and in a window of at most as many pairs
as there are slots no two share a slot, so that after any fetches from the window the
last pair of every index is still in its slot. -/
theorem pairList_kept (sdk : Sdk) (storage : InternalStorage) {b : List UInt8} {tx : Transaction}
    (parses : Parses sdk b tx) (g : GlobalItemStorage) (flow : TransactionFlow) :
    ∃ filled, createTransactionFlow tx flow = .next () filled ∧ PairList tx filled ∧
      ∀ (slots : List DynamicSlot) (first width : Nat), width ≤ slots.length →
        first + width ≤ filled.nbPairs.toNat →
        (∀ i j : UInt8, Window first width i.toNat → Window first width j.toNat →
          i.toNat % slots.length = j.toNat % slots.length → i = j) ∧
        ∀ earlier index later,
          (∀ i ∈ earlier ++ index :: later, Window first width (UInt8.toNat i)) →
          index ∉ later → ∃ pairs before pair pairs' last,
            fetchAll (filled.getSingleActionReviewPair sdk storage b tx g) earlier slots =
              some (pairs, before) ∧
            fetchAll (filled.getSingleActionReviewPair sdk storage b tx g)
              (earlier ++ index :: later) slots = some (pairs ++ pair :: pairs', last) ∧
            PairKept sdk storage b tx g index before pair last := by
  have room := length_dynItems_le parses
  obtain ⟨filled, run, holds, _⟩ :=
    createTransactionFlow_fills (Bagl.signersSize_bounds parses).2 room flow
  have list := pairList_of_holds holds room
  refine ⟨filled, run, list, fun slots first width narrow listed => ⟨fun i j left right same =>
    UInt8.toNat_inj.mp (eq_of_mod_eq narrow left right same), ?_⟩⟩
  intro earlier index later window last
  rw [list.nbPairs] at listed
  have fetches : ∀ (i : UInt8) (held : List DynamicSlot), Window first width i.toNat →
      held.length = slots.length → ∃ pair held',
        filled.getSingleActionReviewPair sdk storage b tx g i held = some (pair, held') ∧
        OwnSlot i.toNat held held' ∧ PairKept sdk storage b tx g i held pair held' := by
    intro i held inside size
    obtain ⟨lower, upper⟩ := inside
    exact getSingleActionReviewPair_fetches parses g holds (by omega) (by omega)
  have succeeds : ∀ (i : UInt8) (held : List DynamicSlot), Window first width i.toNat →
      held.length = slots.length → ∃ pair held',
        filled.getSingleActionReviewPair sdk storage b tx g i held = some (pair, held') ∧
        OwnSlot i.toNat held held' := by
    intro i held inside size
    obtain ⟨pair, held', fetched, own, _⟩ := fetches i held inside size
    exact ⟨pair, held', fetched, own⟩
  obtain ⟨pairs, before, pair, after, pairs', slots', ran, size, fetched, size', all, size'',
    same⟩ := fetchAll_keeps narrow succeeds (fun _ _ => UInt8.toNat_inj.mp) window last rfl
  refine ⟨pairs, before, pair, pairs', slots', ran, all, ?_⟩
  obtain ⟨_, _, fetched', _, kept⟩ := fetches index before
    (window index (List.mem_append_right _ List.mem_cons_self)) size
  cases fetched.symm.trans fetched'
  exact kept.later (size''.trans size'.symm) (by rw [size', same])

/-- Six fetches in a window of four pairs: the pair of the third one is kept. -/
theorem pairList_kept_window :
    let b := Bagl.bordersImage.bytes
    let tx := Bagl.bordersImage.parsed Sdk.reference
    ∃ filled, createTransactionFlow tx .zero = .next () filled ∧ PairList tx filled ∧
      ∃ pairs before pair pairs' last,
        fetchAll (filled.getSingleActionReviewPair Sdk.reference .zero b tx .zero)
          [11, 8] (List.replicate 4 .full) = some (pairs, before) ∧
        fetchAll (filled.getSingleActionReviewPair Sdk.reference .zero b tx .zero)
          [11, 8, 9, 10, 8, 11] (List.replicate 4 .full) = some (pairs ++ pair :: pairs', last) ∧
        PairKept Sdk.reference .zero b tx .zero 9 before pair last := by
  intro b tx
  have parses : Parses Sdk.reference b tx := parses_image _ Bagl.bordersImage_short
  have decoded : Bagl.bordersImage.Decoded tx := decoded_parsed Bagl.bordersImage_short
  clear_value tx
  obtain ⟨filled, run, list, keeps⟩ := pairList_kept Sdk.reference .zero parses .zero .zero
  have listed : 8 + 4 ≤ filled.nbPairs.toNat := by
    rw [list.nbPairs, Bagl.dynItems_bordersImage decoded, staticItems, List.length_append]
    show 12 ≤ (scriptReview tx).items.length + 6 + 7
    omega
  have window : ∀ i ∈ ([11, 8] ++ 9 :: [10, 8, 11] : List UInt8), Window 8 4 i.toNat := by
    intro i member
    simp only [List.cons_append, List.nil_append, List.mem_cons, List.not_mem_nil,
      or_false] at member
    rcases member with rfl | rfl | rfl | rfl | rfl | rfl <;> exact ⟨by decide, by decide⟩
  obtain ⟨_, kept⟩ := keeps (List.replicate 4 .full) 8 4 (Nat.le_refl 4) listed
  exact ⟨filled, run, list, kept [11, 8] 9 [10, 8, 11] window (by decide)⟩

end Nbgl

end AppNeo3
