import AppNeo3.Foundation.Pages
import AppNeo3.Foundation.Runs
import AppNeo3.Sdk.PageEngine
import AppNeo3.Ui.TransactionFlow

/-!
# A pair review on the screen

What `nbgl_useCaseReview` does with the pairs of a transaction. All pairs are fetched
once, for the SDK to share them out among the pages. Then the review starts at a page
with its title; behind the pages of pairs there is one with a button to be held. To
draw a page of pairs these are fetched in order, and their texts are read when all have
been fetched, from the slots that they were written to.
-/

set_option autoImplicit false

namespace AppNeo3

namespace Nbgl

open Pages Runs SlotCache

/-- A title and a text. -/
abbrev Pair : Type := List Char × List Char

/-- The slots, the windows of the pages, the page on the screen and the pairs that have
been drawn on it. -/
structure PairState where
  slots : List DynamicSlot
  windows : List (Nat × Nat)
  page : Nat
  pairs : List Pair
deriving DecidableEq

namespace PairState

/-- The page with the button to be held. -/
def lastPage (s : PairState) : Nat := s.windows.length + 1

/-- Only that page lets the user approve. -/
def approvable (s : PairState) : Bool := s.page == s.lastPage

/-- The page that a turn leads to, if there is one. -/
def turned (s : PairState) : Way → Option Nat
  | .ahead => if s.page < s.lastPage then some (s.page + 1) else none
  | .back => if 0 < s.page then some (s.page - 1) else none

end PairState

/-- The indices of a page. -/
def pageIndices (window : Nat × Nat) : List UInt8 :=
  (List.range' window.1 window.2).map UInt8.ofNat

/-- A pair that has been fetched, as its texts are read for the screen. -/
def TransactionFlow.pairAt (g : GlobalItemStorage) (flow : TransactionFlow)
    (slots : List DynamicSlot) (index : UInt8) : Option Pair :=
  if index < flow.staticItems.count then do
    let pair ← flow.staticItems.cells[index.toNat]?
    pair.map fun item => (item.item.toList, g.shown item.fact)
  else slots[index.toNat % slots.length]?.map DynamicSlot.shown

section Review

variable (sdk : Sdk) (engine : PageEngine) (storage : InternalStorage) (rawTx : List UInt8)
  (tx : Transaction) (g : GlobalItemStorage) (flow : TransactionFlow)

/-- Fetch the pairs of a page and draw them. -/
def drawPairs (window : Nat × Nat) (slots : List DynamicSlot) :
    Option (List Pair × List DynamicSlot) := do
  let (_, slots') ← fetchAll (flow.getSingleActionReviewPair sdk storage rawTx tx g)
    (pageIndices window) slots
  let pairs ← (pageIndices window).mapM (flow.pairAt g slots')
  some (pairs, slots')

/-- Show a page. -/
def showPage (s : PairState) (page : Nat) : Option PairState :=
  match page with
  | 0 => some { s with page := 0, pairs := [] }
  | k + 1 =>
      match s.windows[k]? with
      | none => some { s with page := k + 1, pairs := [] }
      | some window =>
          (drawPairs sdk storage rawTx tx g flow window s.slots).map fun drawn =>
            { s with slots := drawn.2, page := k + 1, pairs := drawn.1 }

/-- Turn a page, if there is one. -/
def turn (way : Way) (s : PairState) : Option PairState :=
  ((s.turned way).map (showPage sdk storage rawTx tx g flow s)).getD (some s)

/-- The title of a review, once its pairs have been shared out. -/
def startReview (slots : List DynamicSlot) : Option PairState := do
  let (pairs, slots') ← fetchAll (flow.getSingleActionReviewPair sdk storage rawTx tx g)
    (pageIndices (0, flow.nbPairs.toNat)) slots
  some ⟨slots', pageWindows 0 (engine.pageSizes pairs), 0, []⟩

/-- A review on the screen as a machine, once its pairs have been stored. -/
def pairReview : Machine PairState Way Unit where
  starts s := ∃ (older : TransactionFlow) (slots : List DynamicSlot),
    createTransactionFlow tx older = .next () flow ∧ slots.length = engine.maxDisplayedPairs ∧
    startReview sdk engine storage rawTx tx g flow slots = some s
  step s way := (turn sdk storage rawTx tx g flow way s).map fun s' => (s', ())

end Review

end Nbgl

end AppNeo3
