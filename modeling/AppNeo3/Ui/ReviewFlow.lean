import AppNeo3.Foundation.Runs
import AppNeo3.Sdk.FlowEngine
import AppNeo3.Ui.SignTxBagl

/-!
# Walking through a review

`sign_tx_bagl.c` with the flow engine: the user walks through the steps of a flow
with two buttons. A delimiter is never shown. When it is entered it moves the cursor
of the signers and sends the flow on: to the shared step, back to it, or past it.
`bnnn_paging_edgecase` goes back to the shared step as if it had been entered from
the front.
-/

set_option autoImplicit false

namespace AppNeo3

open Runs

/-- What a step puts on the screen. -/
inductive Layout where
  /-- A title over a text that is split into pages. -/
  | paging (title text : List Char)
  | lines (texts : List (List Char))
  /-- A step with a callback. -/
  | button (text : List Char)
deriving DecidableEq

/-- The number of pages of a layout. -/
def Layout.pages (engine : FlowEngine) : Layout → Nat
  | .paging _ text => engine.pages text
  | .lines _ => 1
  | .button _ => 1

theorem Layout.pages_pos (engine : FlowEngine) (layout : Layout) : 0 < layout.pages engine := by
  cases layout with
  | paging _ text => exact engine.pages_pos text
  | lines _ => exact Nat.one_pos
  | button _ => exact Nat.one_pos

/-- What a slot puts on the screen. -/
def DynamicSlot.layout (slot : DynamicSlot) : Layout := .paging slot.shown.1 slot.shown.2

/-- The layouts of the steps that do not show the slot. -/
def FlowStep.fixedLayout (g : GlobalItemStorage) : FlowStep → Option Layout
  | .review => some (.lines ["Review".toList, "Transaction".toList])
  | .voteRetract => some (.lines ["Retracting vote".toList, []])
  | .noArbitraryScript =>
      some (.paging "Error".toList
        ("Arbitrary contract scripts are not allowed. Go to Settings to enable " ++
          "signing of such transactions").toList)
  | .abort => some (.button "Understood, abort..".toList)
  | .approve => some (.button "Approve".toList)
  | .reject => some (.button "Reject".toList)
  | step => step.fact.map fun shown => .paging shown.1.toList (g.shown shown.2)

/-- The layout of a step; the delimiters have none. -/
def FlowStep.layout (g : GlobalItemStorage) (slot : DynamicSlot) : FlowStep → Option Layout
  | .generic => some slot.layout
  | step => step.fixedLayout g

/-- Whether a step is a delimiter, and which. -/
def FlowStep.isUpperDelimiter : FlowStep → Option Bool
  | .upperDelimiter => some true
  | .lowerDelimiter => some false
  | _ => none

namespace Bagl

/-- What is on the screen: a step of a flow, the page of its text, and the display of
the signers. -/
structure FlowState where
  flow : List FlowStep
  position : FlowPosition
  page : Nat
  display : SignerDisplay
deriving DecidableEq

namespace FlowState

variable (s : FlowState)

/-- The step on the screen. -/
def step : Option FlowStep := s.flow[s.position.index]?

/-- What the screen shows. -/
def layout (g : GlobalItemStorage) : Option Layout :=
  s.step.bind (FlowStep.layout g s.display.view.slot)

/-- The decision that both buttons report. -/
def decision : Option Bool := s.step.bind FlowStep.decision

/-- Enter the step at another position, if there is one. -/
def goTo (enter : FlowPosition → SignerDisplay → Option FlowState) :
    Option FlowPosition → Option FlowState
  | some position => enter position s.display
  | none => some s

end FlowState

section Flow

variable (sdk : Sdk) (engine : FlowEngine) (storage : InternalStorage) (rawTx : List UInt8)
  (tx : Transaction) (g : GlobalItemStorage)

/-- Send the flow on from a delimiter. -/
def follow (enter : FlowPosition → SignerDisplay → Option FlowState) (s : FlowState) :
    UxMove → Option FlowState
  | .next => s.goTo enter (engine.next s.flow.length s.position)
  | .prev => s.goTo enter (engine.prev s.position)
  | .pagingEdgecase => enter ⟨s.position.index - 1, s.position.index - 2⟩ s.display

/-- Enter the step at a position of a flow, with delimiters nested up to a depth. -/
def showStep (flow : List FlowStep) : Nat → FlowPosition → SignerDisplay → Option FlowState
  | 0, _, _ => none
  | depth + 1, position, display => do
      let step ← flow[position.index]?
      match step.isUpperDelimiter with
      | some isUpper =>
          let (move, display') ← displayNextState sdk storage rawTx tx isUpper display
          follow engine (showStep flow depth) ⟨flow, position, 0, display'⟩ move
      | none =>
          let layout ← step.layout g display.view.slot
          some ⟨flow, position, engine.openingPage position (layout.pages engine), display⟩

/-- The first screen of a review; the slot is not cleared. -/
def startFlow (slot : DynamicSlot) : Option FlowState :=
  showStep sdk engine storage rawTx tx g (createTransactionFlow tx storage) 2 engine.start
    (resetSignerDisplayState slot)

/-- Press a button: turn a page, or move to another step if there is one. -/
def press (button : Button) (s : FlowState) : Option FlowState := do
  let layout ← s.layout g
  match engine.turnPage (layout.pages engine) s.page button with
  | some page => some { s with page := page }
  | none =>
      s.goTo (showStep sdk engine storage rawTx tx g s.flow 2)
        (engine.move s.flow.length s.position button)

/-- A review on the screen as a machine. -/
def reviewFlow : Machine FlowState Button Unit where
  starts s := ∃ slot, startFlow sdk engine storage rawTx tx g slot = some s
  step s button := (press sdk engine storage rawTx tx g button s).map fun s' => (s', ())

end Flow

end Bagl

end AppNeo3
