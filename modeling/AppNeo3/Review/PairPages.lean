import AppNeo3.Review.ItemTexts
import AppNeo3.Review.PairList
import AppNeo3.Ui.PairReview

/-!
# What a pair review shows

The pages of a review are those of its pairs, in order, and every page shows its own
pairs, however often the slots have been written before (`drawPairs_shows`): facts whole,
and items with their titles and what they determine of the text. The button can only be
held behind the last page, so whoever approves has been shown every pair
(`pairReview_reads`).
-/

set_option autoImplicit false

namespace AppNeo3

namespace Nbgl

open Pages Runs SlotCache

/-- What the pair of an index is to show: a fact, or what an item of a signer determines. -/
inductive PairShows (sdk : Sdk) (storage : InternalStorage) (b : List UInt8) (tx : Transaction)
    (g : GlobalItemStorage) : Nat → Pair → Prop
  | static {index : Nat} {item : StaticItem} (listed : (staticItems tx)[index]? = some item) :
      PairShows sdk storage b tx g index (item.item.toList, g.shown item.fact)
  | dynamic {index : Nat} {item : DynamicItem} {slot : DynamicSlot}
      (behind : (staticItems tx).length ≤ index)
      (listed : (dynItems tx)[index - (staticItems tx).length]? = some item)
      (holds : HoldsItem sdk storage b tx item slot) :
      PairShows sdk storage b tx g index slot.shown

/-- The number of pairs of a review. -/
def pairCount (tx : Transaction) : Nat := (staticItems tx).length + (dynItems tx).length

variable {sdk : Sdk} {engine : PageEngine} {storage : InternalStorage} {b : List UInt8}
  {tx : Transaction} {g : GlobalItemStorage} {flow : TransactionFlow}

/-! ## Drawing a page -/

/-- What a fetch has left is what is read for the screen. -/
theorem PairKept.shows (parses : Parses sdk b tx)
    (holds : flow.Holds (staticItems tx) (dynItems tx)) {index : UInt8}
    {before last : List DynamicSlot} {pair : Pair}
    (kept : PairKept sdk storage b tx g index before pair last) :
    flow.pairAt g last index = some pair ∧ PairShows sdk storage b tx g index.toNat pair := by
  have count : flow.staticItems.count.toNat = (staticItems tx).length := by
    rw [holds.statics.count, List.length_map]
  have first : index < flow.staticItems.count ↔ index.toNat < (staticItems tx).length := by
    rw [UInt8.lt_iff_toNat_lt, count]
  rw [PairKept] at kept
  by_cases fixed : index.toNat < (staticItems tx).length
  · rw [if_pos fixed] at kept
    obtain ⟨item, listed, rfl⟩ := kept
    have mapped : ((staticItems tx).map some)[index.toNat]? = some (some item) := by
      rw [List.getElem?_map, listed]
      rfl
    obtain ⟨cell, here, stored⟩ := holds.statics.getElem? mapped
    cases stored
    rw [TransactionFlow.pairAt, if_pos (first.mpr fixed), here]
    exact ⟨rfl, .static listed⟩
  · rw [if_neg fixed] at kept
    obtain ⟨item, older, filled, listed, _, formatted, rfl, there⟩ := kept
    rw [TransactionFlow.pairAt, if_neg fun other => fixed (first.mp other), there]
    have inside := Bagl.inside_of_mem (List.mem_of_getElem? listed)
    exact ⟨rfl, .dynamic (Nat.le_of_not_lt fixed) listed
      (holdsItem_of_formatted parses inside formatted)⟩

/-- Reading all of a list, when each can be read. -/
theorem exists_mapM {α β : Type} {read : α → Option β} {holds : α → β → Prop} :
    ∀ {list : List α}, (∀ a ∈ list, ∃ item, read a = some item ∧ holds a item) →
      ∃ items, list.mapM read = some items ∧ List.Forall₂ holds list items
  | [], _ => ⟨[], rfl, .nil⟩
  | a :: list, each => by
      obtain ⟨item, first, held⟩ := each a List.mem_cons_self
      obtain ⟨items, others, all⟩ := exists_mapM fun other member =>
        each other (List.mem_cons_of_mem _ member)
      refine ⟨item :: items, ?_, .cons held all⟩
      rw [List.mapM_cons, first, others]
      rfl

/-- The indices of a page are those of its window, each once. -/
theorem toNat_pageIndices {window : Nat × Nat} (small : window.1 + window.2 ≤ UInt8.size) :
    (pageIndices window).map UInt8.toNat = List.range' window.1 window.2 := by
  rw [pageIndices, List.map_map]
  conv_rhs => rw [← List.map_id (List.range' window.1 window.2)]
  refine List.map_congr_left fun index member => ?_
  rw [List.mem_range'_1] at member
  exact UInt8.toNat_ofNat_of_lt' (Nat.lt_of_lt_of_le member.2 small)

/-- The pairs of a parsed transaction can be counted in a byte. -/
theorem pairCount_lt (parses : Parses sdk b tx) : pairCount tx < UInt8.size := by
  have short := length_staticItems_le tx
  have few : (dynItems tx).length ≤ 42 := length_dynItems_le parses
  have wide : UInt8.size = 256 := rfl
  rw [pairCount]
  omega

theorem nbPairs_of_holds (parses : Parses sdk b tx)
    (holds : flow.Holds (staticItems tx) (dynItems tx)) : flow.nbPairs.toNat = pairCount tx :=
  (pairList_of_holds holds (length_dynItems_le parses)).nbPairs

section Window

variable {window : Nat × Nat} {slots : List DynamicSlot}

/-- The pairs of a window can be fetched. -/
theorem fetches_window (parses : Parses sdk b tx) (g : GlobalItemStorage)
    (holds : flow.Holds (staticItems tx) (dynItems tx))
    (inside : window.1 + window.2 ≤ pairCount tx) (some_slot : 0 < slots.length) {index : UInt8}
    (here : Window window.1 window.2 index.toNat) {held : List DynamicSlot}
    (size : held.length = slots.length) : ∃ pair held',
      flow.getSingleActionReviewPair sdk storage b tx g index held = some (pair, held') ∧
        OwnSlot index.toNat held held' ∧ PairKept sdk storage b tx g index held pair held' := by
  rw [pairCount] at inside
  obtain ⟨lower, upper⟩ := here
  exact getSingleActionReviewPair_fetches parses g holds (by omega) (by omega)

theorem window_of_mem (parses : Parses sdk b tx) (inside : window.1 + window.2 ≤ pairCount tx)
    {index : UInt8} (member : index ∈ pageIndices window) :
    Window window.1 window.2 index.toNat := by
  have listed := List.mem_map_of_mem (f := UInt8.toNat) member
  rw [toNat_pageIndices (Nat.le_of_lt (Nat.lt_of_le_of_lt inside (pairCount_lt parses))),
    List.mem_range'_1] at listed
  exact listed

/-- All pairs of a window can be fetched. -/
theorem fetchAll_window (parses : Parses sdk b tx) (g : GlobalItemStorage)
    (holds : flow.Holds (staticItems tx) (dynItems tx))
    (inside : window.1 + window.2 ≤ pairCount tx) (some_slot : 0 < slots.length) :
    ∃ pairs slots', fetchAll (flow.getSingleActionReviewPair sdk storage b tx g)
        (pageIndices window) slots = some (pairs, slots') ∧ slots'.length = slots.length := by
  obtain ⟨pairs, slots', fetched, size, _⟩ := fetchAll_succeeds
    (fun (index : UInt8) held (here : Window window.1 window.2 index.toNat) size => by
      obtain ⟨pair, held', fetched, own, _⟩ :=
        @fetches_window sdk storage b tx flow window slots parses g holds inside some_slot index here
          held size
      exact ⟨pair, held', fetched, own⟩)
    (pageIndices window) slots (fun index => window_of_mem parses inside) rfl
  exact ⟨pairs, slots', fetched, size⟩

/-- What is left when all pairs of a window have been fetched. -/
theorem pairAt_window (parses : Parses sdk b tx)
    (holds : flow.Holds (staticItems tx) (dynItems tx))
    (inside : window.1 + window.2 ≤ pairCount tx) (narrow : window.2 ≤ slots.length)
    (some_slot : 0 < slots.length) {pairs : List Pair} {slots' : List DynamicSlot}
    (fetched : fetchAll (flow.getSingleActionReviewPair sdk storage b tx g)
      (pageIndices window) slots = some (pairs, slots')) {index : UInt8}
    (member : index ∈ pageIndices window) : ∃ pair,
      flow.pairAt g slots' index = some pair ∧ PairShows sdk storage b tx g index.toNat pair := by
  have once : (pageIndices window).Nodup := by
    refine List.Nodup.of_map UInt8.toNat ?_
    rw [toNat_pageIndices (Nat.le_of_lt (Nat.lt_of_le_of_lt inside (pairCount_lt parses)))]
    exact List.nodup_range'
  have here := window_of_mem parses inside member
  obtain ⟨earlier, later, split⟩ := List.append_of_mem member
  rw [split] at once fetched
  have last : index ∉ later := (List.nodup_cons.mp (List.nodup_append.mp once).2.1).1
  obtain ⟨_, before, pair, after, _, slots'', _, size, single, size', all, size'', same⟩ :=
    fetchAll_keeps narrow
      (fun (other : UInt8) held (listed : Window window.1 window.2 other.toNat) size => by
        obtain ⟨pair, held', fetched, own, _⟩ := @fetches_window sdk storage b tx flow window slots
          parses g holds inside some_slot other listed held size
        exact ⟨pair, held', fetched, own⟩)
      (fun _ _ => UInt8.toNat_inj.mp)
      (fun other listed => window_of_mem parses inside (split ▸ listed)) last rfl
  cases all.symm.trans fetched
  obtain ⟨_, _, single', _, kept⟩ := @fetches_window sdk storage b tx flow window slots parses g
    holds inside some_slot index here before size
  cases single.symm.trans single'
  exact ⟨pair, (kept.later (size''.trans size'.symm) (by rw [size', same])).shows parses holds⟩

/-- **A page shows its own pairs**, when it has no more than there are slots. -/
theorem drawPairs_shows (parses : Parses sdk b tx) (g : GlobalItemStorage)
    (holds : flow.Holds (staticItems tx) (dynItems tx))
    (inside : window.1 + window.2 ≤ pairCount tx) (narrow : window.2 ≤ slots.length)
    (some_slot : 0 < slots.length) : ∃ pairs slots',
      drawPairs sdk storage b tx g flow window slots = some (pairs, slots') ∧
        slots'.length = slots.length ∧
        List.Forall₂ (PairShows sdk storage b tx g) (List.range' window.1 window.2) pairs := by
  obtain ⟨_, slots', fetched, size⟩ :=
    @fetchAll_window sdk storage b tx flow window slots parses g holds inside some_slot
  obtain ⟨pairs, read, shown⟩ := exists_mapM fun index (member : index ∈ pageIndices window) =>
    pairAt_window parses holds inside narrow some_slot fetched member
  refine ⟨pairs, slots', ?_, size, ?_⟩
  · exact Option.bind_eq_some_iff.mpr
      ⟨_, fetched, Option.bind_eq_some_iff.mpr ⟨pairs, read, rfl⟩⟩
  · rw [← toNat_pageIndices (Nat.le_of_lt (Nat.lt_of_le_of_lt inside (pairCount_lt parses)))]
    exact List.forall₂_map_left_iff.mpr shown

end Window

/-! ## Turning pages -/

/-- A state of a review: its windows are those of all pairs, no wider than the slots, and
the page on the screen shows the pairs of its window. -/
structure Shown (sdk : Sdk) (engine : PageEngine) (storage : InternalStorage) (b : List UInt8)
    (tx : Transaction) (g : GlobalItemStorage) (s : PairState) : Prop where
  slots : s.slots.length = engine.maxDisplayedPairs
  windows : ∃ sizes, s.windows = pageWindows 0 sizes ∧ sizes.sum = pairCount tx ∧
    ∀ size ∈ sizes, size ≤ engine.maxDisplayedPairs
  page : s.page ≤ s.lastPage
  pairs : ∀ k window, s.page = k + 1 → s.windows[k]? = some window →
    List.Forall₂ (PairShows sdk storage b tx g) (List.range' window.1 window.2) s.pairs

/-- A page as a view of its pairs. -/
def PairState.view (s : PairState) : View (List Pair) := ⟨s.page, s.pairs, 0⟩

/-- A turn between the pages, each of which is seen whole. -/
abbrev PageTurn (last : Nat) : Way → View (List Pair) → View (List Pair) → Prop :=
  Turn (fun _ => 1) last fun _ _ => 0

section Turning

variable {s : PairState}

/-- **A page can be shown**, and shows its pairs. -/
theorem Shown.showPage (parses : Parses sdk b tx) (holds : flow.Holds (staticItems tx) (dynItems tx))
    (shown : Shown sdk engine storage b tx g s) {page : Nat} (inside : page ≤ s.lastPage) :
    ∃ s', showPage sdk storage b tx g flow s page = some s' ∧
      Shown sdk engine storage b tx g s' ∧ s'.windows = s.windows ∧ s'.page = page := by
  obtain ⟨size, ⟨sizes, windows, sum, narrow⟩, _, _⟩ := shown
  cases page with
  | zero => exact ⟨_, rfl, ⟨size, ⟨sizes, windows, sum, narrow⟩, inside, nofun⟩, rfl, rfl⟩
  | succ k =>
      rw [Nbgl.showPage]
      cases there : s.windows[k]? with
      | none =>
          refine ⟨_, rfl, ⟨size, ⟨sizes, windows, sum, narrow⟩, inside, ?_⟩, rfl, rfl⟩
          intro k' window same there'
          cases same
          cases there.symm.trans there'
      | some window =>
          have member := List.mem_of_getElem? there
          rw [windows] at member
          obtain ⟨listed, sized⟩ := pageWindows_inside member
          rw [Nat.zero_add, sum] at listed
          have fits : window.2 ≤ s.slots.length := size ▸ narrow _ sized
          have some_slot : 0 < s.slots.length := size ▸ engine.maxDisplayedPairs_pos
          obtain ⟨pairs, slots', drawn, size', shows⟩ :=
            @drawPairs_shows sdk storage b tx flow window s.slots parses g holds listed fits some_slot
          dsimp only
          rw [drawn]
          refine ⟨_, rfl, ⟨size'.trans size, ⟨sizes, windows, sum, narrow⟩, inside, ?_⟩, rfl, rfl⟩
          intro k' window' same there'
          cases same
          cases there.symm.trans there'
          exact shows

/-- **A turn leads to the page beside**, or nowhere at an end. -/
theorem Shown.turn (parses : Parses sdk b tx) (holds : flow.Holds (staticItems tx) (dynItems tx))
    (shown : Shown sdk engine storage b tx g s) (way : Way) :
    ∃ s', turn sdk storage b tx g flow way s = some s' ∧ Shown sdk engine storage b tx g s' ∧
      s'.windows = s.windows ∧ PageTurn s.lastPage way s.view s'.view := by
  have stay : s.turned way = none → PageTurn s.lastPage way s.view s.view →
      ∃ s', Nbgl.turn sdk storage b tx g flow way s = some s' ∧
        Shown sdk engine storage b tx g s' ∧ s'.windows = s.windows ∧
        PageTurn s.lastPage way s.view s'.view := by
    intro stuck turned
    refine ⟨s, ?_, shown, rfl, turned⟩
    rw [Nbgl.turn, stuck]
    rfl
  have move : ∀ page ≤ s.lastPage, s.turned way = some page →
      (∀ pairs, PageTurn s.lastPage way s.view ⟨page, pairs, 0⟩) →
      ∃ s', Nbgl.turn sdk storage b tx g flow way s = some s' ∧
        Shown sdk engine storage b tx g s' ∧ s'.windows = s.windows ∧
        PageTurn s.lastPage way s.view s'.view := by
    intro page inside target turned
    obtain ⟨s', went, shown', windows, there⟩ := shown.showPage parses holds inside
    refine ⟨s', ?_, shown', windows, ?_⟩
    · rw [Nbgl.turn, target]
      exact went
    · have view : s'.view = ⟨page, s'.pairs, 0⟩ := by rw [PairState.view, there]
      rw [view]
      exact turned _
  cases way with
  | ahead =>
      by_cases inside : s.page < s.lastPage
      · exact move (s.page + 1) inside (if_pos inside) fun pairs => .onward (Nat.le_refl 1) inside
      · have last : s.page = s.lastPage := Nat.le_antisymm shown.page (Nat.le_of_not_lt inside)
        refine stay (if_neg inside) ?_
        rw [PairState.view, last]
        exact .stop (Nat.le_refl 1)
  | back =>
      by_cases later : 0 < s.page
      · refine move (s.page - 1) ((Nat.sub_le _ _).trans shown.page) (if_pos later) fun pairs => ?_
        rw [PairState.view, ← Nat.succ_pred_eq_of_pos later]
        exact .backward
      · refine stay (if_neg later) ?_
        rw [PairState.view, Nat.eq_zero_of_not_pos later]
        exact .halt

end Turning

/-! ## Reading a review -/

/-- **A review starts at its title.** -/
theorem startReview_shown (parses : Parses sdk b tx) (storage : InternalStorage)
    (engine : PageEngine) (g : GlobalItemStorage)
    (holds : flow.Holds (staticItems tx) (dynItems tx)) {slots : List DynamicSlot}
    (size : slots.length = engine.maxDisplayedPairs) :
    ∃ s, startReview sdk engine storage b tx g flow slots = some s ∧
      Shown sdk engine storage b tx g s ∧ s.page = 0 := by
  have count := nbPairs_of_holds parses holds
  have some_slot : 0 < slots.length := size ▸ engine.maxDisplayedPairs_pos
  obtain ⟨pairs, slots', fetched, size'⟩ := @fetchAll_window sdk storage b tx flow
    (0, flow.nbPairs.toNat) slots parses g holds (by rw [Nat.zero_add, count]) some_slot
  have length : pairs.length = pairCount tx := by
    have all := length_of_fetchAll fetched
    rw [pageIndices, List.length_map, List.length_range'] at all
    exact all.trans count
  refine ⟨_, Option.bind_eq_some_iff.mpr ⟨_, fetched, rfl⟩, ⟨size'.trans size, ?_, ?_, nofun⟩, rfl⟩
  · exact ⟨_, rfl, (engine.pageSizes_sum pairs).trans length, engine.pageSizes_le pairs⟩
  · exact Nat.zero_le _

variable {trace : List (Entry PairState Way Unit)} {s : PairState}

/-- The stored pairs are those of the transaction. -/
theorem created_holds (parses : Parses sdk b tx) {older : TransactionFlow}
    (created : createTransactionFlow tx older = .next () flow) :
    flow.Holds (staticItems tx) (dynItems tx) := by
  obtain ⟨filled, created', holds, _⟩ := createTransactionFlow_fills
    (Bagl.signersSize_bounds parses).2 (length_dynItems_le parses) older
  cases created.symm.trans created'
  exact holds

theorem holds_of_run (parses : Parses sdk b tx)
    (run : Run (pairReview sdk engine storage b tx g flow) trace s) :
    flow.Holds (staticItems tx) (dynItems tx) := by
  induction run with
  | start starts =>
      obtain ⟨_, _, created, _⟩ := starts
      exact created_holds parses created
  | step _ _ ih => exact ih

/-- **What has been on the screen is what the pages are to show**, turned one by one. -/
theorem run_pages (parses : Parses sdk b tx)
    (run : Run (pairReview sdk engine storage b tx g flow) trace s) :
    Seen (fun _ => 1) s.lastPage (fun _ _ => 0) (trace.map Entry.event)
        ((visited trace s).map PairState.view) ∧
      ∀ s' ∈ visited trace s, Shown sdk engine storage b tx g s' ∧ s'.windows = s.windows := by
  have holds := holds_of_run parses run
  induction run with
  | @start s starts =>
      obtain ⟨_, slots, _, size, started⟩ := starts
      obtain ⟨_, started', shown, first⟩ := startReview_shown parses storage engine g holds size
      cases started.symm.trans started'
      refine ⟨?_, fun s' member => ?_⟩
      · have view : s.view = ⟨0, s.pairs, 0⟩ := by rw [PairState.view, first]
        rw [visited, List.map_cons, view]
        exact .start _
      · cases List.mem_singleton.mp member
        exact ⟨shown, rfl⟩
  | @step trace s s' way output run moved ih =>
      obtain ⟨seen, all⟩ := ih
      have shown := (all s (.head _)).1
      obtain ⟨_, turned, shown', windows, turns⟩ := shown.turn parses holds way
      obtain ⟨_, turned', same⟩ := Option.map_eq_some_iff.mp moved
      cases turned.symm.trans turned'
      cases same
      have last : s'.lastPage = s.lastPage := by rw [PairState.lastPage, windows]; rfl
      refine ⟨?_, fun other member => ?_⟩
      · rw [last]
        exact .turn seen turns
      · rcases List.mem_cons.mp member with rfl | earlier
        · exact ⟨shown', rfl⟩
        · obtain ⟨shows, same⟩ := all other earlier
          exact ⟨shows, same.trans windows.symm⟩

/-- Whoever stands at the last page has been shown every pair. -/
theorem pair_shown (parses : Parses sdk b tx)
    (run : Run (pairReview sdk engine storage b tx g flow) trace s) (approve : s.approvable = true)
    {index : Nat} (listed : index < pairCount tx) :
    ∃ s' ∈ visited trace s, ∃ pair ∈ s'.pairs, PairShows sdk storage b tx g index pair := by
  obtain ⟨seen, all⟩ := run_pages parses run
  obtain ⟨_, ⟨sizes, windows, sum, _⟩, _, _⟩ := (all s (.head _)).1
  have here : Window 0 sizes.sum index := ⟨Nat.zero_le _, by rw [Nat.zero_add, sum]; exact listed⟩
  obtain ⟨k, window, there, lower, upper⟩ := exists_pageWindow here
  rw [← windows] at there
  have before : k + 1 < s.page := by
    rw [eq_of_beq approve, PairState.lastPage]
    exact Nat.succ_lt_succ (List.getElem?_eq_some_iff.mp there).1
  obtain ⟨text, read⟩ := seen.read_below (k + 1) before
  have viewed : ⟨k + 1, text, 0⟩ ∈ (visited trace s).map PairState.view := read 0 Nat.one_pos
  obtain ⟨s', member, same⟩ := List.mem_map.mp viewed
  obtain ⟨shown, windows'⟩ := all s' member
  have page : s'.page = k + 1 := congrArg View.place same
  have shows := shown.pairs k window page (windows'.symm ▸ there)
  obtain ⟨pair, drawn, right⟩ := mem_left_of_forall₂ (List.Forall₂.flip shows)
    (List.mem_range'_1.mpr ⟨lower, upper⟩)
  exact ⟨s', member, pair, drawn, right⟩

/-- A turn to some side. -/
def Turned (sdk : Sdk) (storage : InternalStorage) (b : List UInt8) (tx : Transaction)
    (g : GlobalItemStorage) (flow : TransactionFlow) (s s' : PairState) : Prop :=
  ∃ way, turn sdk storage b tx g flow way s = some s'

/-- A turned page is a step of the review. -/
theorem exists_step_of_turned (s s' : PairState)
    (turned : Turned sdk storage b tx g flow s s') : ∃ way output,
      (pairReview sdk engine storage b tx g flow).step s way = some (s', output) := by
  obtain ⟨way, turned⟩ := turned
  exact ⟨way, (), congrArg (Option.map fun s => (s, ())) turned⟩

/-- Turning ahead reaches the button. -/
theorem reaches_approvable (parses : Parses sdk b tx)
    (holds : flow.Holds (staticItems tx) (dynItems tx)) (shown : Shown sdk engine storage b tx g s) :
    ∃ s', Relation.ReflTransGen (Turned sdk storage b tx g flow) s s' ∧ s'.approvable = true := by
  have ahead : ∀ (s' : PairState) (view : View (List Pair)),
      (Shown sdk engine storage b tx g s' ∧ s'.windows = s.windows ∧ s'.view = view) →
      ∃ s'' view', Turned sdk storage b tx g flow s' s'' ∧
        (Shown sdk engine storage b tx g s'' ∧ s''.windows = s.windows ∧ s''.view = view') ∧
        PageTurn s.lastPage .ahead view view' := by
    rintro s' _ ⟨shown', windows, rfl⟩
    obtain ⟨s'', turned, shown'', same, turns⟩ := shown'.turn parses holds .ahead
    have last : s'.lastPage = s.lastPage := by rw [PairState.lastPage, windows]; rfl
    exact ⟨s'', _, ⟨.ahead, turned⟩, ⟨shown'', same.trans windows, rfl⟩, last ▸ turns⟩
  have distance : s.view.place + (s.lastPage - s.page) = s.lastPage :=
    Nat.add_sub_of_le shown.page
  obtain ⟨s', _, moves, ⟨_, windows, rfl⟩, there⟩ :=
    reaches_later ahead (s.lastPage - s.page) ⟨shown, rfl, rfl⟩ (Nat.le_of_eq distance)
  refine ⟨s', moves, beq_iff_eq.mpr ?_⟩
  rw [distance] at there
  refine there.trans ?_
  rw [PairState.lastPage, PairState.lastPage, windows]

/-- **A pair review is read page by page.** Every page shows the pairs of its window, no
turn fails, whoever can hold the button has been shown every pair, and the button can
always be reached. -/
theorem pairReview_reads (parses : Parses sdk b tx)
    (run : Run (pairReview sdk engine storage b tx g flow) trace s) :
    (∀ s' ∈ visited trace s, ∀ k window, s'.page = k + 1 → s'.windows[k]? = some window →
      List.Forall₂ (PairShows sdk storage b tx g) (List.range' window.1 window.2) s'.pairs) ∧
    (∀ way, ∃ s', turn sdk storage b tx g flow way s = some s') ∧
    (s.approvable = true → ∀ index < pairCount tx, ∃ s' ∈ visited trace s, ∃ pair ∈ s'.pairs,
      PairShows sdk storage b tx g index pair) ∧
    ∃ s', Relation.ReflTransGen (Turned sdk storage b tx g flow) s s' ∧ s'.approvable = true := by
  have holds := holds_of_run parses run
  obtain ⟨_, all⟩ := run_pages parses run
  have shown := (all s (.head _)).1
  refine ⟨fun s' member => (all s' member).1.pairs, fun way => ?_,
    fun approve _ listed => pair_shown parses run approve listed,
    reaches_approvable parses holds shown⟩
  obtain ⟨s', turned, _⟩ := shown.turn parses holds way
  exact ⟨s', turned⟩

/-- The review of a transaction with one signer, read up to its button. -/
theorem pairReview_reads_first :
    let tx := (SignerImage.plain (Memory.Area.fill _ 0)).transaction.parsed Sdk.reference
    let b := (SignerImage.plain (Memory.Area.fill _ 0)).transaction.bytes
    ∃ filled trace s, createTransactionFlow tx .zero = .next () filled ∧
      Run (pairReview .reference .reference .zero b tx .zero filled) trace s ∧
      s.approvable = true ∧ ∀ index < pairCount tx, ∃ s' ∈ visited trace s, ∃ pair ∈ s'.pairs,
        PairShows Sdk.reference .zero b tx .zero index pair := by
  intro tx b
  have parses : Parses Sdk.reference b tx := SignerImage.transaction_parses (by decide)
  clear_value tx b
  obtain ⟨filled, created, holds, _⟩ := createTransactionFlow_fills
    (Bagl.signersSize_bounds parses).2 (length_dynItems_le parses) .zero
  obtain ⟨s, started, _⟩ := @startReview_shown .reference b tx filled parses .zero .reference
    .zero holds (List.replicate 4 .full) rfl
  have first : Run (pairReview .reference .reference .zero b tx .zero filled) [] s :=
    .start ⟨.zero, _, created, rfl, started⟩
  obtain ⟨_, _, _, s', moves, approve⟩ := pairReview_reads parses first
  obtain ⟨trace, run⟩ := exists_run_of_steps exists_step_of_turned first moves
  exact ⟨filled, trace, s', created, run, approve, (pairReview_reads parses run).2.2.1 approve⟩

end Nbgl

end AppNeo3
