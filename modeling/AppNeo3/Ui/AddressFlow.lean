import Mathlib.Logic.Relation
import AppNeo3.App
import AppNeo3.Ui.ReviewFlow

/-!
# Flows without delimiters

A flow whose steps are all shown: the two buttons turn the pages of a step and lead to
the steps beside it, so that every step can be reached (`PlainFlow.reaches_step`). The
review of an address on the devices with buttons (`ui_get_public_key.c`) is one, and so
are the menus.
-/

set_option autoImplicit false

namespace AppNeo3

open Memory

namespace Bagl

/-- What the steps of a flow show, and whether its ends are joined. -/
structure PlainFlow where
  layouts : List Layout
  loops : Bool

/-- The step on the screen and the page of its text. -/
structure PlainState where
  position : FlowPosition
  page : Nat
deriving DecidableEq

namespace PlainFlow

variable (engine : FlowEngine) (flow : PlainFlow)

/-- Enter the step at a position. -/
def enter (position : FlowPosition) : Option PlainState := do
  let layout ← flow.layouts[position.index]?
  some ⟨position, engine.openingPage position (layout.pages engine)⟩

/-- The position that a button leads to, if there is one. -/
def move (button : Button) (position : FlowPosition) : Option FlowPosition :=
  if flow.loops then some (engine.moveLoop flow.layouts.length position button)
  else engine.move flow.layouts.length position button

/-- Press a button. -/
def press (button : Button) (s : PlainState) : Option PlainState := do
  let layout ← flow.layouts[s.position.index]?
  match engine.turnPage (layout.pages engine) s.page button with
  | some page => some { s with page := page }
  | none => ((flow.move engine button s.position).map (flow.enter engine)).getD (some s)

/-- The step on the screen is one of the flow. -/
def Inside (s : PlainState) : Prop := s.position.index < flow.layouts.length

variable {engine flow}

theorem inside_of_enter {position : FlowPosition} {s : PlainState}
    (entered : flow.enter engine position = some s) : flow.Inside s := by
  obtain ⟨layout, there, same⟩ := Option.bind_eq_some_iff.mp entered
  cases same
  exact (List.getElem?_eq_some_iff.mp there).1

theorem enter_of_inside {position : FlowPosition} (inside : position.index < flow.layouts.length) :
    ∃ s, flow.enter engine position = some s ∧ s.position = position := by
  have there := List.getElem?_eq_getElem inside
  exact ⟨_, Option.bind_eq_some_iff.mpr ⟨_, there, rfl⟩, rfl⟩

/-- A button leads to a step of the flow. -/
theorem inside_of_move {button : Button} {position position' : FlowPosition}
    (inside : position.index < flow.layouts.length)
    (moved : flow.move engine button position = some position') :
    position'.index < flow.layouts.length := by
  rw [move] at moved
  cases joined : flow.loops with
  | true =>
      rw [joined, if_pos rfl, Option.some.injEq] at moved
      subst moved
      cases button with
      | left =>
          show (engine.prevLoop _ _).index < _
          rw [engine.prevLoop_eq]
          split <;> omega
      | right =>
          show (engine.nextLoop _ _).index < _
          rw [engine.nextLoop_eq]
          split <;> omega
  | false =>
      rw [joined, if_neg Bool.false_ne_true] at moved
      cases button with
      | left =>
          have prev : engine.prev position = some position' := moved
          rw [engine.prev_eq] at prev
          split at prev
          · cases prev
            show position.index - 1 < _
            omega
          · cases prev
      | right =>
          have next : engine.next flow.layouts.length position = some position' := moved
          rw [engine.next_eq] at next
          split at next
          · cases next
            assumption
          · cases next

/-- **No press fails**, and each shows a step of the flow. -/
theorem press_of_inside (button : Button) {s : PlainState} (inside : flow.Inside s) :
    ∃ s', flow.press engine button s = some s' ∧ flow.Inside s' := by
  obtain ⟨layout, there⟩ : ∃ layout, flow.layouts[s.position.index]? = some layout :=
    ⟨_, List.getElem?_eq_getElem inside⟩
  rw [press, there, Option.bind_eq_bind, Option.bind_some]
  cases engine.turnPage _ s.page button with
  | some page => exact ⟨{ s with page := page }, rfl, inside⟩
  | none =>
      cases moved : flow.move engine button s.position with
      | none => exact ⟨s, rfl, inside⟩
      | some position =>
          obtain ⟨s', entered, _⟩ := @enter_of_inside engine _ _ (inside_of_move inside moved)
          exact ⟨s', entered, inside_of_enter entered⟩

/-! ## Reaching a step -/

/-- A press of some button. -/
def Pressed (engine : FlowEngine) (flow : PlainFlow) (s s' : PlainState) : Prop :=
  ∃ button, flow.press engine button s = some s'

/-- There is a step behind every step but the last. -/
theorem exists_move_right {position : FlowPosition}
    (further : position.index + 1 < flow.layouts.length) : ∃ position',
      flow.move engine .right position = some position' ∧ position'.index = position.index + 1 := by
  rw [move]
  cases flow.loops with
  | true => exact ⟨_, rfl, (engine.nextLoop_eq _ _).trans (if_pos further)⟩
  | false => exact ⟨_, (engine.next_eq _ _).trans (if_pos further), rfl⟩

/-- There is a step before every step but the first. -/
theorem exists_move_left {position : FlowPosition} (later : 0 < position.index) : ∃ position',
    flow.move engine .left position = some position' ∧ position'.index = position.index - 1 := by
  rw [move]
  cases flow.loops with
  | true => exact ⟨_, rfl, (engine.prevLoop_eq _ _).trans (if_pos later)⟩
  | false => exact ⟨_, (engine.prev_eq _).trans (if_pos later), rfl⟩

variable {s : PlainState} {layout : Layout}

/-- A press that leaves the step for another one. -/
theorem pressed_of_move (there : flow.layouts[s.position.index]? = some layout) {button : Button}
    (leaves : engine.turnPage (layout.pages engine) s.page button = none)
    {position : FlowPosition} (moved : flow.move engine button s.position = some position) :
    ∃ s', flow.Pressed engine s s' ∧ s'.position = position := by
  have inside := (List.getElem?_eq_some_iff.mp there).1
  obtain ⟨s', entered, here⟩ := @enter_of_inside engine flow _ (inside_of_move inside moved)
  refine ⟨s', ⟨button, Option.bind_eq_some_iff.mpr ⟨layout, there, ?_⟩⟩, here⟩
  rw [leaves, moved]
  exact entered

/-- A press that turns a page. -/
theorem pressed_of_page (there : flow.layouts[s.position.index]? = some layout) {button : Button}
    {page : Nat} (turned : engine.turnPage (layout.pages engine) s.page button = some page) :
    flow.Pressed engine s { s with page := page } := by
  refine ⟨button, Option.bind_eq_some_iff.mpr ⟨layout, there, ?_⟩⟩
  rw [turned]

/-- The right button reads the pages that are left and leads to the next step. -/
theorem reaches_right : ∀ (left : Nat) {s : PlainState},
    flow.layouts[s.position.index]? = some layout → layout.pages engine ≤ s.page + 1 + left →
    s.position.index + 1 < flow.layouts.length →
    ∃ s', Relation.ReflTransGen (flow.Pressed engine) s s' ∧
      s'.position.index = s.position.index + 1
  | left, s, there, read, further => by
      by_cases more : s.page + 1 < layout.pages engine
      · have ahead : engine.turnPage (layout.pages engine) s.page .right = some (s.page + 1) :=
          (engine.pageAhead_eq _ _).trans (if_pos more)
        cases left with
        | zero => exact absurd more (Nat.not_lt.mpr read)
        | succ left =>
            obtain ⟨s', moves, reached⟩ := @reaches_right left { s with page := s.page + 1 } there
              (by simp only; omega) further
            exact ⟨s', .head (pressed_of_page there ahead) moves, reached⟩
      · have leaves : engine.turnPage (layout.pages engine) s.page .right = none :=
          (engine.pageAhead_eq _ _).trans (if_neg more)
        obtain ⟨position, moved, next⟩ := @exists_move_right engine _ _ further
        obtain ⟨s', pressed, rfl⟩ := pressed_of_move there leaves moved
        exact ⟨s', .single pressed, next⟩

/-- The left button reads the pages before and leads to the step before. -/
theorem reaches_left : ∀ (page : Nat) {s : PlainState},
    flow.layouts[s.position.index]? = some layout → s.page = page → 0 < s.position.index →
    ∃ s', Relation.ReflTransGen (flow.Pressed engine) s s' ∧
      s'.position.index = s.position.index - 1
  | 0, s, there, first, later => by
      have leaves : engine.turnPage (layout.pages engine) s.page .left = none := by
        rw [first]
        exact (engine.pageBefore_eq _).trans (if_neg (Nat.lt_irrefl 0))
      obtain ⟨position, moved, before⟩ := @exists_move_left engine flow _ later
      obtain ⟨s', pressed, rfl⟩ := pressed_of_move there leaves moved
      exact ⟨s', .single pressed, before⟩
  | page + 1, s, there, here, later => by
      have before : engine.turnPage (layout.pages engine) s.page .left = some page := by
        rw [here]
        exact (engine.pageBefore_eq _).trans (if_pos (Nat.succ_pos page))
      obtain ⟨s', moves, reached⟩ := @reaches_left page { s with page := page } there rfl later
      exact ⟨s', .head (pressed_of_page there before) moves, reached⟩

/-- **Every step can be reached** from every screen. -/
theorem reaches_step (inside : flow.Inside s) {k : Nat} (listed : k < flow.layouts.length) :
    ∃ s', Relation.ReflTransGen (flow.Pressed engine) s s' ∧ s'.position.index = k := by
  -- by the number of steps in between
  generalize apart : (k - s.position.index) + (s.position.index - k) = distance
  induction distance generalizing s with
  | zero => exact ⟨s, .refl, by omega⟩
  | succ distance ih =>
      have there := List.getElem?_eq_getElem inside
      rcases Nat.lt_or_ge s.position.index k with before | behind
      · obtain ⟨s', moves, next⟩ := @reaches_right engine _ _ _ s there (Nat.le_add_left _ _)
          (Nat.lt_of_le_of_lt before listed)
        have inside' : flow.Inside s' := next.trans_lt (Nat.lt_of_le_of_lt before listed)
        obtain ⟨s'', moves', reached⟩ := ih inside' (by omega)
        exact ⟨s'', moves.trans moves', reached⟩
      · obtain ⟨s', moves, earlier⟩ := @reaches_left engine _ _ _ s there rfl (by omega)
        have inside' : flow.Inside s' :=
          earlier.trans_lt (Nat.lt_of_le_of_lt (Nat.sub_le _ _) inside)
        obtain ⟨s'', moves', reached⟩ := ih inside' (by omega)
        exact ⟨s'', moves.trans moves', reached⟩

end PlainFlow

/-! ## The review of an address -/

/-- The steps of `ux_get_pub_key_pubkey_flow`. -/
inductive AddressStep where
  | confirmAddr
  | address
  | approve
  | reject
deriving DecidableEq

def pubkeyFlowSteps : List AddressStep := [.confirmAddr, .address, .approve, .reject]

/-- What a step shows; the address is read when the step is drawn. -/
def AddressStep.layout (gAddress : Area Char (addressLen + 1)) : AddressStep → Layout
  | .confirmAddr => .lines ["Confirm Address".toList]
  | .address => .paging "Address".toList (CText.text gAddress.cells)
  | .approve => .button "Approve".toList
  | .reject => .button "Reject".toList

/-- The decision that a step reports. -/
def AddressStep.decision : AddressStep → Option Bool
  | .approve => some true
  | .reject => some false
  | _ => none

/-- `ux_get_pub_key_pubkey_flow`. -/
def pubkeyFlow (gAddress : Area Char (addressLen + 1)) : PlainFlow :=
  ⟨pubkeyFlowSteps.map (AddressStep.layout gAddress), false⟩

end Bagl

end AppNeo3
