/-!
# The flow engine of the SDK

The devices with buttons show an array of steps, a flow. The SDK keeps the index of
the step that is shown and of the one before, and moves along the array; a text that
is too long for the screen is split into pages. `FlowEngine` has these functions as
fields, and the fields ending in `_eq` are what the application relies on.
-/

set_option autoImplicit false

namespace AppNeo3

/-- `index` and `prev_index` of the flow on top of the stack. -/
structure FlowPosition where
  index : Nat
  prevIndex : Nat
deriving DecidableEq

/-- The functions of the flow engine. A move that the flow has no step for does
nothing. -/
structure FlowEngine where
  /-- The position after `ux_flow_init` without a start step. -/
  start : FlowPosition
  /-- `ux_flow_next` in a flow of a number of steps. -/
  next : Nat → FlowPosition → Option FlowPosition
  /-- `ux_flow_prev`. -/
  prev : FlowPosition → Option FlowPosition
  /-- `ux_flow_next` in a flow that ends with `FLOW_LOOP`. -/
  nextLoop : Nat → FlowPosition → FlowPosition
  /-- `ux_flow_prev` in a flow that ends with `FLOW_LOOP`. -/
  prevLoop : Nat → FlowPosition → FlowPosition
  /-- The position after `ux_flow_init` with a start step. -/
  startAt : Nat → FlowPosition
  /-- The number of pages of a text. -/
  pages : List Char → Nat
  /-- The page of a text that is shown first at a position. -/
  openingPage : FlowPosition → Nat → Nat
  /-- The page that the right button shows, if it does not leave the step. -/
  pageAhead : Nat → Nat → Option Nat
  /-- The page that the left button shows, if it does not leave the step. -/
  pageBefore : Nat → Option Nat
  start_eq : start = ⟨0, 0⟩
  next_eq : ∀ length position, next length position =
    if position.index + 1 < length then some ⟨position.index + 1, position.index⟩ else none
  prev_eq : ∀ position, prev position =
    if 0 < position.index then some ⟨position.index - 1, position.index⟩ else none
  nextLoop_eq : ∀ length position, (nextLoop length position).index =
    if position.index + 1 < length then position.index + 1 else 0
  prevLoop_eq : ∀ length position, (prevLoop length position).index =
    if 0 < position.index then position.index - 1 else length - 1
  startAt_eq : ∀ index, (startAt index).index = index
  pages_pos : ∀ text, 0 < pages text
  openingPage_eq : ∀ position pages, openingPage position pages =
    if position.index < position.prevIndex then pages - 1 else 0
  pageAhead_eq : ∀ pages page, pageAhead pages page =
    if page + 1 < pages then some (page + 1) else none
  pageBefore_eq : ∀ page, pageBefore page = if 0 < page then some (page - 1) else none

/-- An engine that shows 17 characters on a page. -/
def FlowEngine.reference : FlowEngine where
  start := ⟨0, 0⟩
  next length position :=
    if position.index + 1 < length then some ⟨position.index + 1, position.index⟩ else none
  prev position :=
    if 0 < position.index then some ⟨position.index - 1, position.index⟩ else none
  nextLoop length position :=
    ⟨if position.index + 1 < length then position.index + 1 else 0, position.index⟩
  prevLoop length position :=
    ⟨if 0 < position.index then position.index - 1 else length - 1, position.index⟩
  startAt index := ⟨index, index - 1⟩
  pages text := text.length / 17 + 1
  openingPage position pages := if position.index < position.prevIndex then pages - 1 else 0
  pageAhead pages page := if page + 1 < pages then some (page + 1) else none
  pageBefore page := if 0 < page then some (page - 1) else none
  start_eq := rfl
  next_eq _ _ := rfl
  prev_eq _ := rfl
  nextLoop_eq _ _ := rfl
  prevLoop_eq _ _ := rfl
  startAt_eq _ := rfl
  pages_pos _ := Nat.succ_pos _
  openingPage_eq _ _ := rfl
  pageAhead_eq _ _ := rfl
  pageBefore_eq _ := rfl

inductive Button where
  | left
  | right
deriving DecidableEq

namespace FlowEngine

/-- The page that a button shows, if it does not leave the step. -/
def turnPage (engine : FlowEngine) (pages page : Nat) : Button → Option Nat
  | .left => engine.pageBefore page
  | .right => engine.pageAhead pages page

/-- The position that a button leads to, if there is one. -/
def move (engine : FlowEngine) (length : Nat) (position : FlowPosition) :
    Button → Option FlowPosition
  | .left => engine.prev position
  | .right => engine.next length position

/-- The position that a button leads to in a flow whose ends are joined. -/
def moveLoop (engine : FlowEngine) (length : Nat) (position : FlowPosition) :
    Button → FlowPosition
  | .left => engine.prevLoop length position
  | .right => engine.nextLoop length position

variable {engine : FlowEngine} {index prevIndex : Nat}

theorem next_inside {length : Nat} (inside : index + 1 < length) :
    engine.next length ⟨index, prevIndex⟩ = some ⟨index + 1, index⟩ := by
  rw [engine.next_eq, if_pos inside]

theorem prev_succ : engine.prev ⟨index + 1, prevIndex⟩ = some ⟨index, index + 1⟩ := by
  rw [engine.prev_eq, if_pos (Nat.succ_pos _)]
  rfl

/-- A step that is entered from one before it starts with the first page. -/
theorem openingPage_ahead (came : prevIndex ≤ index) (pages : Nat) :
    engine.openingPage ⟨index, prevIndex⟩ pages = 0 := by
  rw [engine.openingPage_eq, if_neg (Nat.not_lt.mpr came)]

/-- A step that is entered from one behind it starts with the last page. -/
theorem openingPage_back (came : index < prevIndex) (pages : Nat) :
    engine.openingPage ⟨index, prevIndex⟩ pages = pages - 1 := by
  rw [engine.openingPage_eq, if_pos came]

end FlowEngine

end AppNeo3
