import AppNeo3.Foundation.SlotCache
import Mathlib.Algebra.GroupWithZero.Nat

/-!
# The review use case of the SDK

The devices with touch screens show a list of pairs page by page. How many pairs stand
on a page is decided by the SDK, from the texts, before the first page is drawn.
`PageEngine` has what the SDK decides as fields, and the fields ending in `_sum`, `_le`
and `_pos` are what the application relies on.
-/

set_option autoImplicit false

namespace AppNeo3

structure PageEngine where
  /-- `FIRST_USER_TOKEN`. -/
  firstUserToken : Nat
  /-- `NB_MAX_DISPLAYED_PAIRS_IN_REVIEW`. -/
  maxDisplayedPairs : Nat
  /-- The numbers of pairs on the pages. -/
  pageSizes : List (List Char × List Char) → List Nat
  maxDisplayedPairs_pos : 0 < maxDisplayedPairs
  pageSizes_sum : ∀ pairs, (pageSizes pairs).sum = pairs.length
  pageSizes_le : ∀ pairs, ∀ size ∈ pageSizes pairs, size ≤ maxDisplayedPairs

/-- An engine that fills its pages with four pairs each. -/
def PageEngine.reference : PageEngine where
  firstUserToken := 10
  maxDisplayedPairs := 4
  pageSizes pairs :=
    List.replicate (pairs.length / 4) 4 ++
      if pairs.length % 4 = 0 then [] else [pairs.length % 4]
  maxDisplayedPairs_pos := Nat.succ_pos 3
  pageSizes_sum pairs := by
    have parts := Nat.div_add_mod pairs.length 4
    rw [List.sum_append_nat, List.sum_replicate_nat]
    split
    · rw [List.sum_nil]
      omega
    · rw [List.sum_singleton]
      omega
  pageSizes_le pairs size member := by
    rcases List.mem_append.mp member with full | rest
    · exact Nat.le_of_eq (List.eq_of_mem_replicate full)
    · split at rest
      · cases rest
      · rw [List.mem_singleton.mp rest]
        exact Nat.le_of_lt (Nat.mod_lt _ (Nat.succ_pos 3))

/-! ## The windows of the pages -/

open SlotCache

/-- The first index and the number of pairs of each page. -/
def pageWindows : Nat → List Nat → List (Nat × Nat)
  | _, [] => []
  | first, size :: sizes => (first, size) :: pageWindows (first + size) sizes

/-- A page lies in the list, and is as large as one of the pages. -/
theorem pageWindows_inside : ∀ {sizes : List Nat} {first : Nat} {window : Nat × Nat},
    window ∈ pageWindows first sizes →
      window.1 + window.2 ≤ first + sizes.sum ∧ window.2 ∈ sizes
  | size :: sizes, first, window, member => by
      rw [List.sum_cons]
      rcases List.mem_cons.mp member with rfl | later
      · exact ⟨by simp only; omega, .head _⟩
      · obtain ⟨inside, listed⟩ := pageWindows_inside later
        exact ⟨by omega, .tail _ listed⟩

/-- **Every pair is on a page.** -/
theorem exists_pageWindow : ∀ {sizes : List Nat} {first index : Nat},
    Window first sizes.sum index →
      ∃ (k : Nat) (window : Nat × Nat), (pageWindows first sizes)[k]? = some window ∧
        Window window.1 window.2 index
  | [], first, index, ⟨lower, upper⟩ => absurd upper (Nat.not_lt.mpr lower)
  | size :: sizes, first, index, ⟨lower, upper⟩ => by
      rw [List.sum_cons] at upper
      by_cases here : index < first + size
      · exact ⟨0, _, rfl, lower, here⟩
      · have behind : Window (first + size) sizes.sum index := ⟨Nat.le_of_not_lt here, by omega⟩
        obtain ⟨k, window, there, inside⟩ := exists_pageWindow behind
        exact ⟨k + 1, window, there, inside⟩

end AppNeo3
