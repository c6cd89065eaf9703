import AppNeo3.Foundation.Pages
import AppNeo3.Review.ItemTexts
import AppNeo3.Ui.ReviewFlow

/-!
# A review is a line of screens

The flow of a review has one step for all items of the signers, between two
delimiters that are never shown. To the user it is a line of places, one for every
fixed step and one for every item (`places`), that is read page by page: each button
turns a page of that line (`press_turns`).
-/

set_option autoImplicit false

namespace AppNeo3

open Pages Runs Walks

/-- The way that a button leads. -/
def Button.way : Button → Way
  | .left => .back
  | .right => .ahead

namespace Bagl

/-- A place of a review: a step with a text of its own, or an item of the signers. -/
inductive Place where
  | fixed (step : FlowStep)
  | item (item : DynamicItem)
deriving DecidableEq

/-- The steps before the upper delimiter, or all steps when there is none. -/
def frontSteps (tx : Transaction) (storage : InternalStorage) : List FlowStep :=
  if scriptRefused tx storage then [.noArbitraryScript, .abort]
  else
    .review :: scriptSteps tx ++ [.network, .systemfee, .networkfee, .totalFee, .validuntilblock] ++
      stepsWhen (storage.showScriptHash != 0) [.script]

/-- The places of a review, in order. -/
def places (tx : Transaction) (storage : InternalStorage) : List Place :=
  (frontSteps tx storage).map .fixed ++
    if scriptRefused tx storage then []
    else (Nbgl.dynItems tx).map .item ++ [.fixed .approve, .fixed .reject]

section Line

variable (sdk : Sdk) (engine : FlowEngine) (storage : InternalStorage) (b : List UInt8)
  (tx : Transaction) (g : GlobalItemStorage)

/-- The number of the steps before the upper delimiter. -/
def frontCount : Nat := (frontSteps tx storage).length

/-- The number of the items. -/
def itemCount : Nat := (Nbgl.dynItems tx).length

/-- The index of the step that shows a place. -/
def stepOf (place : Nat) : Nat :=
  if place < frontCount storage tx then place
  else if place < frontCount storage tx + itemCount tx then frontCount storage tx + 1
  else place - itemCount tx + 3

/-- The position of the cursor of the signers at a place. -/
def cursorAt (place : Nat) : Nat :=
  if place < frontCount storage tx then 0
  else if place < frontCount storage tx + itemCount tx then place - frontCount storage tx + 1
  else itemCount tx + 1

/-- The screen shows a page of a place. -/
structure Sees (s : FlowState) (view : View Layout) : Prop where
  inside : view.place < (places tx storage).length
  flow : s.flow = createTransactionFlow tx storage
  index : s.position.index = stepOf storage tx view.place
  walk : DisplayWalk sdk storage b tx (cursorAt storage tx view.place) s.display
  item : ∀ item, (places tx storage)[view.place]? = some (.item item) →
    HoldsItem sdk storage b tx item s.display.view.slot
  text : s.layout g = some view.text
  page : s.page = view.page

/-- The page that is shown when the user turns back to a place: the last one, except
from an item to the one before. -/
def reopened (place : Nat) (text : Layout) : Nat :=
  if frontCount storage tx ≤ place ∧ place + 1 < frontCount storage tx + itemCount tx then 0
  else text.pages engine - 1

end Line

/-! ## The steps of the flow -/

section Steps

variable {storage : InternalStorage} {tx : Transaction} {g : GlobalItemStorage}

theorem createTransactionFlow_refused (refused : scriptRefused tx storage = true) :
    createTransactionFlow tx storage = frontSteps tx storage := by
  rw [createTransactionFlow, frontSteps, if_pos refused, if_pos refused]

theorem createTransactionFlow_accepted (accepted : scriptRefused tx storage = false) :
    createTransactionFlow tx storage =
      frontSteps tx storage ++ [.upperDelimiter, .generic, .lowerDelimiter, .approve, .reject] := by
  rw [createTransactionFlow, frontSteps, accepted]
  rfl

/-- A step of its own: it has a layout, and is neither shared nor a delimiter. -/
structure FlowStep.Own (g : GlobalItemStorage) (step : FlowStep) : Prop where
  shown : step.isUpperDelimiter = none
  layout : ∃ text, step.fixedLayout g = some text

theorem layout_of_fixed {step : FlowStep} {text : Layout} (fixed : step.fixedLayout g = some text)
    (slot : DynamicSlot) : step.layout g slot = some text := by
  cases step with
  | generic => cases fixed
  | _ => exact fixed

theorem own_frontSteps (g : GlobalItemStorage) {step : FlowStep}
    (member : step ∈ frontSteps tx storage) : FlowStep.Own g step := by
  rw [frontSteps, scriptSteps, stepsWhen, stepsWhen] at member
  have known : step ≠ .upperDelimiter ∧ step ≠ .generic ∧ step ≠ .lowerDelimiter := by
    refine ⟨?_, ?_, ?_⟩
    all_goals
      rintro rfl
      revert member
      split_ifs <;> simp
  cases step with
  | upperDelimiter => exact absurd rfl known.1
  | generic => exact absurd rfl known.2.1
  | lowerDelimiter => exact absurd rfl known.2.2
  | _ => exact ⟨rfl, _, rfl⟩

theorem own_approve : FlowStep.Own g .approve := ⟨rfl, _, rfl⟩

theorem own_reject : FlowStep.Own g .reject := ⟨rfl, _, rfl⟩

theorem flow_front {k : Nat} (front : k < frontCount storage tx) :
    (createTransactionFlow tx storage)[k]? = (frontSteps tx storage)[k]? := by
  cases refused : scriptRefused tx storage with
  | true => rw [createTransactionFlow_refused refused]
  | false => rw [createTransactionFlow_accepted refused, List.getElem?_append_left front]

theorem flow_back (accepted : scriptRefused tx storage = false) (offset : Nat) :
    (createTransactionFlow tx storage)[frontCount storage tx + offset]? =
      [FlowStep.upperDelimiter, .generic, .lowerDelimiter, .approve, .reject][offset]? := by
  rw [createTransactionFlow_accepted accepted, frontCount,
    List.getElem?_append_right (Nat.le_add_right _ _), Nat.add_sub_cancel_left]

theorem length_flow (accepted : scriptRefused tx storage = false) :
    (createTransactionFlow tx storage).length = frontCount storage tx + 5 := by
  rw [createTransactionFlow_accepted accepted, List.length_append]
  rfl

theorem length_places (accepted : scriptRefused tx storage = false) :
    (places tx storage).length = frontCount storage tx + itemCount tx + 2 := by
  rw [places, accepted, if_neg Bool.false_ne_true, List.length_append, List.length_append,
    List.length_map, List.length_map]
  rfl

theorem length_places_refused (refused : scriptRefused tx storage = true) :
    (places tx storage).length = frontCount storage tx := by
  rw [places, refused, if_pos rfl, List.append_nil, List.length_map]
  rfl

theorem places_front {k : Nat} (front : k < frontCount storage tx) :
    (places tx storage)[k]? = ((frontSteps tx storage)[k]?).map .fixed := by
  rw [places, List.getElem?_append_left (by rwa [List.length_map]), List.getElem?_map]

theorem places_item (accepted : scriptRefused tx storage = false) {offset : Nat}
    (inside : offset < itemCount tx) :
    (places tx storage)[frontCount storage tx + offset]? =
      ((Nbgl.dynItems tx)[offset]?).map .item := by
  rw [places, accepted, if_neg Bool.false_ne_true, List.getElem?_append_right (by
    rw [List.length_map]; exact Nat.le_add_right _ _), List.length_map, frontCount,
    Nat.add_sub_cancel_left, List.getElem?_append_left (by rwa [List.length_map]),
    List.getElem?_map]

theorem places_back (accepted : scriptRefused tx storage = false) (offset : Nat) :
    (places tx storage)[frontCount storage tx + itemCount tx + offset]? =
      [Place.fixed .approve, .fixed .reject][offset]? := by
  rw [places, accepted, if_neg Bool.false_ne_true, List.getElem?_append_right (by
    rw [List.length_map, frontCount]; omega), List.length_map,
    show frontCount storage tx + itemCount tx + offset - (frontSteps tx storage).length =
      itemCount tx + offset by rw [frontCount]; omega,
    List.getElem?_append_right (by rw [List.length_map, itemCount]; omega), List.length_map,
    itemCount, Nat.add_sub_cancel_left]

end Steps

/-! ## Entering a step -/

section Entering

variable {sdk : Sdk} {engine : FlowEngine} {storage : InternalStorage} {b : List UInt8}
  {tx : Transaction} {g : GlobalItemStorage} {depth : Nat} {position : FlowPosition}
  {display display' : SignerDisplay}

/-- Enter a step of the flow of a review. -/
abbrev enterReview (sdk : Sdk) (engine : FlowEngine) (storage : InternalStorage) (b : List UInt8)
    (tx : Transaction) (g : GlobalItemStorage) :
    Nat → FlowPosition → SignerDisplay → Option FlowState :=
  showStep sdk engine storage b tx g (createTransactionFlow tx storage)

theorem showStep_of_layout {flow : List FlowStep} {step : FlowStep} {text : Layout}
    (here : flow[position.index]? = some step) (shown : step.isUpperDelimiter = none)
    (layout : step.layout g display.view.slot = some text) :
    showStep sdk engine storage b tx g flow (depth + 1) position display =
      some ⟨flow, position, engine.openingPage position (text.pages engine), display⟩ := by
  simp only [showStep, here, Option.bind_eq_bind, Option.bind_some, shown, layout]

theorem showStep_delimiter {flow : List FlowStep} {step : FlowStep} {isUpper : Bool} {move : UxMove}
    (here : flow[position.index]? = some step) (delimits : step.isUpperDelimiter = some isUpper)
    (sent : displayNextState sdk storage b tx isUpper display = some (move, display')) :
    showStep sdk engine storage b tx g flow (depth + 1) position display =
      follow engine (showStep sdk engine storage b tx g flow depth)
        ⟨flow, position, 0, display'⟩ move := by
  simp only [showStep, here, Option.bind_eq_bind, Option.bind_some, delimits, sent]

/-- **A delimiter that fetches forward** moves the cursor to the next item or behind the
last one. -/
theorem delimiter_forward (parses : Parses sdk b tx) {k : Nat}
    (walk : DisplayWalk sdk storage b tx k display) (isUpper : Bool)
    (asks : fetchDirection isUpper display.currentState = .forward) (inside : k ≤ itemCount tx) :
    ∃ display', displayNextState sdk storage b tx isUpper display =
        some (uxMove isUpper display.currentState (decide (k < itemCount tx)), display') ∧
      DisplayWalk sdk storage b tx (k + 1) display' ∧
      ∀ item, (Nbgl.dynItems tx)[k]? = some item →
        HoldsItem sdk storage b tx item display'.view.slot := by
  obtain ⟨data, view', fetched, _, range, items, _⟩ := walk.view.forward parses inside
  have found : data = decide (k < itemCount tx) := by
    rw [Bool.eq_iff_iff, range, decide_eq_true_iff, itemCount]
    omega
  have sent := @displayNextState_eq sdk storage b tx isUpper display
  rw [asks, fetched, found, Option.map_some] at sent
  refine ⟨_, sent, ?_, ?_⟩
  · exact .forward walk (Nat.lt_succ_of_le inside) ⟨isUpper, _, asks, sent⟩
  · intro item there
    obtain ⟨inside, _, formatted⟩ := items k item rfl there
    exact holdsItem_of_formatted parses inside formatted

/-- **A delimiter that fetches backward** moves the cursor to the item before or in front
of the first one. -/
theorem delimiter_backward (parses : Parses sdk b tx) {k : Nat}
    (walk : DisplayWalk sdk storage b tx (k + 1) display) (isUpper : Bool)
    (asks : fetchDirection isUpper display.currentState = .backward) (inside : k ≤ itemCount tx) :
    ∃ display', displayNextState sdk storage b tx isUpper display =
        some (uxMove isUpper display.currentState (decide (0 < k)), display') ∧
      DisplayWalk sdk storage b tx k display' ∧
      ∀ offset item, k = offset + 1 → (Nbgl.dynItems tx)[offset]? = some item →
        HoldsItem sdk storage b tx item display'.view.slot := by
  obtain ⟨data, view', fetched, _, range, items, _⟩ := walk.view.backward parses
  have found : data = decide (0 < k) := by
    rw [Bool.eq_iff_iff, range, decide_eq_true_iff]
    rw [itemCount] at inside
    omega
  have sent := @displayNextState_eq sdk storage b tx isUpper display
  rw [asks, fetched, found, Option.map_some] at sent
  refine ⟨_, sent, ?_, ?_⟩
  · exact .backward walk ⟨isUpper, _, asks, sent⟩
  · intro offset item same there
    obtain ⟨inside, _, formatted⟩ := items offset item same there
    exact holdsItem_of_formatted parses inside formatted

/-- A parsed transaction has an item. -/
theorem itemCount_pos (parses : Parses sdk b tx) : 0 < itemCount tx := by
  obtain ⟨positive, _⟩ := signersSize_bounds parses
  have first : (⟨.signer, 0⟩ : DynamicItem) ∈ Nbgl.signerItems tx 0 := .head _
  exact List.length_pos_of_mem (List.mem_flatMap.mpr ⟨0, List.mem_range.mpr positive, first⟩)

end Entering

/-! ## What is seen at a place -/

section Places

variable {sdk : Sdk} {engine : FlowEngine} {storage : InternalStorage} {b : List UInt8}
  {tx : Transaction} {g : GlobalItemStorage} {s : FlowState} {k offset : Nat}

theorem stepOf_front (front : k < frontCount storage tx) : stepOf storage tx k = k := if_pos front

theorem stepOf_item (inside : offset < itemCount tx) :
    stepOf storage tx (frontCount storage tx + offset) = frontCount storage tx + 1 := by
  rw [stepOf, if_neg (by omega), if_pos (by omega)]

theorem stepOf_back :
    stepOf storage tx (frontCount storage tx + itemCount tx + offset) =
      frontCount storage tx + (3 + offset) := by
  rw [stepOf, if_neg (by omega), if_neg (by omega)]
  omega

theorem cursorAt_front (front : k < frontCount storage tx) : cursorAt storage tx k = 0 :=
  if_pos front

theorem cursorAt_item (inside : offset < itemCount tx) :
    cursorAt storage tx (frontCount storage tx + offset) = offset + 1 := by
  rw [cursorAt, if_neg (by omega), if_pos (by omega)]
  omega

theorem cursorAt_back :
    cursorAt storage tx (frontCount storage tx + itemCount tx + offset) = itemCount tx + 1 := by
  rw [cursorAt, if_neg (by omega), if_neg (by omega)]

/-- A fixed step in front of the signers is on the screen. -/
theorem sees_front (front : k < frontCount storage tx)
    (flow : s.flow = createTransactionFlow tx storage) (index : s.position.index = k)
    (walk : DisplayWalk sdk storage b tx 0 s.display) {text : Layout}
    (shown : s.layout g = some text) :
    Sees sdk storage b tx g s ⟨k, text, s.page⟩ := by
  refine ⟨?_, flow, ?_, ?_, ?_, shown, rfl⟩
  · rw [places, List.length_append, List.length_map]
    exact Nat.lt_add_right _ front
  · rw [index, stepOf_front front]
  · rwa [cursorAt_front front]
  · intro item there
    rw [places_front front, List.getElem?_eq_getElem front] at there
    cases there

/-- An item is on the screen. -/
theorem sees_item (accepted : scriptRefused tx storage = false) (inside : offset < itemCount tx)
    (flow : s.flow = createTransactionFlow tx storage)
    (index : s.position.index = frontCount storage tx + 1)
    (walk : DisplayWalk sdk storage b tx (offset + 1) s.display)
    (holds : ∀ item, (Nbgl.dynItems tx)[offset]? = some item →
      HoldsItem sdk storage b tx item s.display.view.slot) :
    Sees sdk storage b tx g s
      ⟨frontCount storage tx + offset, s.display.view.slot.layout, s.page⟩ := by
  refine ⟨?_, flow, ?_, ?_, ?_, ?_, rfl⟩
  · rw [length_places accepted]
    show _ + offset < _
    omega
  · rw [index, stepOf_item inside]
  · rwa [cursorAt_item inside]
  · intro item there
    rw [places_item accepted inside] at there
    obtain ⟨_, found, same⟩ := Option.map_eq_some_iff.mp there
    cases same
    exact holds _ found
  · rw [FlowState.layout, FlowState.step, flow, index, flow_back accepted]
    rfl

/-- One of the last two steps is on the screen. -/
theorem sees_back (accepted : scriptRefused tx storage = false) (last : offset < 2)
    (flow : s.flow = createTransactionFlow tx storage)
    (index : s.position.index = frontCount storage tx + (3 + offset))
    (walk : DisplayWalk sdk storage b tx (itemCount tx + 1) s.display) {text : Layout}
    (shown : s.layout g = some text) :
    Sees sdk storage b tx g s
      ⟨frontCount storage tx + itemCount tx + offset, text, s.page⟩ := by
  refine ⟨?_, flow, ?_, ?_, ?_, shown, rfl⟩
  · rw [length_places accepted]
    show _ + offset < _
    omega
  · rw [index, stepOf_back]
  · rwa [cursorAt_back]
  · intro item there
    rw [places_back accepted] at there
    rcases (by omega : offset = 0 ∨ offset = 1) with rfl | rfl <;> cases there

/-- The parts of the line. -/
theorem place_cases (inside : k < (places tx storage).length) :
    k < frontCount storage tx ∨
      scriptRefused tx storage = false ∧
        ((∃ offset < itemCount tx, k = frontCount storage tx + offset) ∨
          ∃ offset < 2, k = frontCount storage tx + itemCount tx + offset) := by
  cases refused : scriptRefused tx storage with
  | true =>
      rw [length_places_refused refused] at inside
      exact .inl inside
  | false =>
      rw [length_places refused] at inside
      by_cases front : k < frontCount storage tx
      · exact .inl front
      · right
        refine ⟨rfl, ?_⟩
        by_cases item : k < frontCount storage tx + itemCount tx
        · exact .inl ⟨k - frontCount storage tx, by omega, by omega⟩
        · exact .inr ⟨k - (frontCount storage tx + itemCount tx), by omega, by omega⟩

end Places

/-! ## Entering a place -/

section EnteringPlaces

variable {sdk : Sdk} {engine : FlowEngine} {storage : InternalStorage} {b : List UInt8}
  {tx : Transaction} {g : GlobalItemStorage} (depth : Nat) {k offset : Nat}
  {display : SignerDisplay}

/-- Entering a step of its own shows its layout. -/
theorem enter_own (sdk : Sdk) (engine : FlowEngine) (b : List UInt8) (depth : Nat)
    (display : SignerDisplay) {step : FlowStep} {index : Nat} (prevIndex : Nat)
    (here : (createTransactionFlow tx storage)[index]? = some step) (own : FlowStep.Own g step) :
    ∃ s text, enterReview sdk engine storage b tx g (depth + 1) ⟨index, prevIndex⟩ display = some s ∧
      s.flow = createTransactionFlow tx storage ∧ s.position.index = index ∧
      s.page = engine.openingPage ⟨index, prevIndex⟩ (text.pages engine) ∧
      s.display = display ∧ s.layout g = some text := by
  obtain ⟨shown, text, fixed⟩ := own
  have layout := layout_of_fixed fixed display.view.slot
  refine ⟨_, text, showStep_of_layout here shown layout, rfl, rfl, rfl, rfl, ?_⟩
  exact (congrArg (Option.bind · _) here).trans layout

theorem enter_front (front : k < frontCount storage tx) (prevIndex : Nat)
    (walk : DisplayWalk sdk storage b tx 0 display) :
    ∃ s text, enterReview sdk engine storage b tx g (depth + 1) ⟨k, prevIndex⟩ display = some s ∧
      Sees sdk storage b tx g s
        ⟨k, text, engine.openingPage ⟨k, prevIndex⟩ (text.pages engine)⟩ := by
  have here : (createTransactionFlow tx storage)[k]? = some (frontSteps tx storage)[k] :=
    (flow_front front).trans (List.getElem?_eq_getElem front)
  obtain ⟨s, text, entered, flow, position, page, rfl, shown⟩ :=
    enter_own sdk engine b depth display prevIndex here
      (own_frontSteps g (List.getElem_mem front))
  have sees := sees_front front flow position walk shown
  rw [page] at sees
  exact ⟨s, text, entered, sees⟩

theorem enter_item (accepted : scriptRefused tx storage = false) (inside : offset < itemCount tx)
    (prevIndex : Nat) (walk : DisplayWalk sdk storage b tx (offset + 1) display)
    (holds : ∀ item, (Nbgl.dynItems tx)[offset]? = some item →
      HoldsItem sdk storage b tx item display.view.slot) :
    ∃ s text, enterReview sdk engine storage b tx g (depth + 1)
        ⟨frontCount storage tx + 1, prevIndex⟩ display = some s ∧
      Sees sdk storage b tx g s ⟨frontCount storage tx + offset, text,
        engine.openingPage ⟨frontCount storage tx + 1, prevIndex⟩ (text.pages engine)⟩ :=
  ⟨_, _, showStep_of_layout (flow_back accepted 1) rfl rfl,
    sees_item accepted inside rfl rfl walk holds⟩

theorem enter_back (accepted : scriptRefused tx storage = false) (last : offset < 2)
    (prevIndex : Nat) (walk : DisplayWalk sdk storage b tx (itemCount tx + 1) display) :
    ∃ s text, enterReview sdk engine storage b tx g (depth + 1)
        ⟨frontCount storage tx + (3 + offset), prevIndex⟩ display = some s ∧
      Sees sdk storage b tx g s ⟨frontCount storage tx + itemCount tx + offset, text,
        engine.openingPage ⟨frontCount storage tx + (3 + offset), prevIndex⟩
          (text.pages engine)⟩ := by
  have here := flow_back accepted (3 + offset)
  have own : ∃ step, (createTransactionFlow tx storage)[frontCount storage tx + (3 + offset)]? =
      some step ∧ FlowStep.Own g step := by
    rcases (by omega : offset = 0 ∨ offset = 1) with rfl | rfl
    · exact ⟨_, here, own_approve⟩
    · exact ⟨_, here, own_reject⟩
  obtain ⟨step, here, own⟩ := own
  obtain ⟨s, text, entered, flow, position, page, rfl, shown⟩ :=
    enter_own sdk engine b depth display prevIndex here own
  have sees := sees_back accepted last flow position walk shown
  rw [page] at sees
  exact ⟨s, text, entered, sees⟩

end EnteringPlaces

/-! ## Crossing a delimiter -/

section Crossing

variable {sdk : Sdk} {engine : FlowEngine} {storage : InternalStorage} {b : List UInt8}
  {tx : Transaction} {g : GlobalItemStorage} {k offset : Nat} {display : SignerDisplay}

/-- The display is static in front of the items and behind them. -/
theorem static_of_walk (parses : Parses sdk b tx)
    (walk : DisplayWalk sdk storage b tx k display) (outside : k = 0 ∨ k = itemCount tx + 1) :
    display.currentState = .staticScreen := by
  have dynamic := walk.dynamic_iff parses
  rw [itemCount] at outside
  cases state : display.currentState with
  | staticScreen => rfl
  | dynamicScreen =>
      have range := dynamic.mp state
      omega

/-- The display is dynamic at the items. -/
theorem dynamic_of_walk (parses : Parses sdk b tx)
    (walk : DisplayWalk sdk storage b tx (k + 1) display) (inside : k < itemCount tx) :
    display.currentState = .dynamicScreen :=
  (walk.dynamic_iff parses).mpr ⟨Nat.succ_pos k, inside⟩

variable (engine g) (parses : Parses sdk b tx) (accepted : scriptRefused tx storage = false)
  (prevIndex : Nat)
include parses accepted

/-- From the fixed steps to the first item. -/
theorem upper_enters (walk : DisplayWalk sdk storage b tx 0 display) :
    ∃ s text, enterReview sdk engine storage b tx g 2 ⟨frontCount storage tx, prevIndex⟩ display =
        some s ∧
      Sees sdk storage b tx g s ⟨frontCount storage tx + 0, text,
        engine.openingPage ⟨frontCount storage tx + 1, frontCount storage tx⟩
          (text.pages engine)⟩ := by
  have static := static_of_walk parses walk (.inl rfl)
  obtain ⟨display', sent, walk', holds⟩ := delimiter_forward parses walk true
    (by rw [static]; rfl) (Nat.zero_le _)
  have follows : frontCount storage tx + 1 < (createTransactionFlow tx storage).length := by
    rw [length_flow accepted]
    omega
  rw [static] at sent
  rw [enterReview, showStep_delimiter (flow_back accepted 0) rfl sent, uxMove, follow,
    engine.next_inside follows]
  exact enter_item 0 accepted (itemCount_pos parses) _ walk' holds

/-- From an item back to the one before. -/
theorem upper_returns (walk : DisplayWalk sdk storage b tx (offset + 1 + 1) display)
    (inside : offset + 1 < itemCount tx) :
    ∃ s text, enterReview sdk engine storage b tx g 2 ⟨frontCount storage tx, prevIndex⟩ display =
        some s ∧
      Sees sdk storage b tx g s ⟨frontCount storage tx + offset, text,
        engine.openingPage ⟨frontCount storage tx + 1, frontCount storage tx⟩
          (text.pages engine)⟩ := by
  have dynamic := dynamic_of_walk parses walk inside
  obtain ⟨display', sent, walk', holds⟩ := delimiter_backward parses walk true
    (by rw [dynamic]; rfl) (Nat.le_of_lt inside)
  have follows : frontCount storage tx + 1 < (createTransactionFlow tx storage).length := by
    rw [length_flow accepted]
    omega
  rw [dynamic, decide_eq_true (Nat.succ_pos offset)] at sent
  rw [enterReview, showStep_delimiter (flow_back accepted 0) rfl sent, uxMove, follow,
    engine.next_inside follows]
  exact enter_item 0 accepted (Nat.lt_of_succ_lt inside) _ walk' fun item => holds offset item rfl

/-- From the first item back to the fixed steps. -/
theorem upper_leaves (walk : DisplayWalk sdk storage b tx 1 display)
    (edge : frontCount storage tx = k + 1) :
    ∃ s text, enterReview sdk engine storage b tx g 2 ⟨k + 1, prevIndex⟩ display = some s ∧
      Sees sdk storage b tx g s
        ⟨k, text, engine.openingPage ⟨k, k + 1⟩ (text.pages engine)⟩ := by
  have dynamic := dynamic_of_walk parses walk (itemCount_pos parses)
  obtain ⟨display', sent, walk', _⟩ := delimiter_backward parses walk true
    (by rw [dynamic]; rfl) (Nat.zero_le _)
  have upper := @flow_back storage tx accepted 0
  rw [edge] at upper
  rw [dynamic, decide_eq_false (Nat.lt_irrefl 0)] at sent
  rw [enterReview, showStep_delimiter upper rfl sent, uxMove, follow, engine.prev_succ]
  exact enter_front 0 (by omega) _ walk'

/-- From an item to the next one, as if the shared step were entered from the front. -/
theorem lower_advances (walk : DisplayWalk sdk storage b tx (offset + 1) display)
    (more : offset + 1 < itemCount tx) :
    ∃ s text, enterReview sdk engine storage b tx g 2 ⟨frontCount storage tx + 2, prevIndex⟩ display =
        some s ∧
      Sees sdk storage b tx g s ⟨frontCount storage tx + (offset + 1), text,
        engine.openingPage ⟨frontCount storage tx + 1, frontCount storage tx⟩
          (text.pages engine)⟩ := by
  have dynamic := dynamic_of_walk parses walk (Nat.lt_of_succ_lt more)
  obtain ⟨display', sent, walk', holds⟩ := delimiter_forward parses walk false
    (by rw [dynamic]; rfl) (Nat.le_of_lt more)
  rw [dynamic, decide_eq_true more] at sent
  rw [enterReview, showStep_delimiter (flow_back accepted 2) rfl sent, uxMove, follow]
  exact enter_item 0 accepted more _ walk' holds

/-- From the last item to the steps behind. -/
theorem lower_leaves (walk : DisplayWalk sdk storage b tx (itemCount tx) display) :
    ∃ s text, enterReview sdk engine storage b tx g 2 ⟨frontCount storage tx + 2, prevIndex⟩ display =
        some s ∧
      Sees sdk storage b tx g s ⟨frontCount storage tx + itemCount tx + 0, text,
        engine.openingPage ⟨frontCount storage tx + (3 + 0), frontCount storage tx + 2⟩
          (text.pages engine)⟩ := by
  obtain ⟨before, last⟩ := Nat.exists_eq_succ_of_ne_zero (itemCount_pos parses).ne'
  have dynamic : display.currentState = .dynamicScreen := by
    rw [last] at walk
    exact dynamic_of_walk parses walk (by omega)
  obtain ⟨display', sent, walk', _⟩ := delimiter_forward parses walk false
    (by rw [dynamic]; rfl) (Nat.le_refl _)
  have follows : frontCount storage tx + 2 + 1 < (createTransactionFlow tx storage).length := by
    rw [length_flow accepted]
    omega
  rw [dynamic, decide_eq_false (Nat.lt_irrefl _)] at sent
  rw [enterReview, showStep_delimiter (flow_back accepted 2) rfl sent, uxMove, follow,
    engine.next_inside follows]
  exact enter_back 0 accepted Nat.zero_lt_two _ walk'

/-- From the steps behind back to the last item. -/
theorem lower_returns (walk : DisplayWalk sdk storage b tx (itemCount tx + 1) display)
    (last : itemCount tx = offset + 1) :
    ∃ s text, enterReview sdk engine storage b tx g 2 ⟨frontCount storage tx + 2, prevIndex⟩ display =
        some s ∧
      Sees sdk storage b tx g s ⟨frontCount storage tx + offset, text,
        engine.openingPage ⟨frontCount storage tx + 1, frontCount storage tx + 2⟩
          (text.pages engine)⟩ := by
  have static := static_of_walk parses walk (.inr rfl)
  obtain ⟨display', sent, walk', holds⟩ := delimiter_backward parses walk false
    (by rw [static]; rfl) (Nat.le_refl _)
  rw [last] at walk'
  rw [static] at sent
  rw [enterReview, showStep_delimiter (flow_back accepted 2) rfl sent, uxMove, follow,
    engine.prev_succ]
  exact enter_item 0 accepted (by omega) _ walk' fun item => holds offset item last

end Crossing

/-! ## The buttons -/

section Turns

variable {sdk : Sdk} {engine : FlowEngine} {storage : InternalStorage} {b : List UInt8}
  {tx : Transaction} {g : GlobalItemStorage} {s : FlowState} {place page : Nat} {text : Layout}

/-- The last place of a review. -/
def lastPlace (storage : InternalStorage) (tx : Transaction) : Nat :=
  (places tx storage).length - 1

/-- The turns of a review. -/
abbrev Turned (engine : FlowEngine) (storage : InternalStorage) (tx : Transaction) :
    Way → View Layout → View Layout → Prop :=
  Turn (Layout.pages engine) (lastPlace storage tx) (reopened engine storage tx)

/-- Enter another step, if there is one. -/
abbrev goneTo (sdk : Sdk) (engine : FlowEngine) (storage : InternalStorage) (b : List UInt8)
    (tx : Transaction) (g : GlobalItemStorage) (s : FlowState) :
    Option FlowPosition → Option FlowState :=
  s.goTo (enterReview sdk engine storage b tx g 2)

theorem press_page {button : Button} (shown : s.layout g = some text)
    (turned : engine.turnPage (text.pages engine) s.page button = some page) :
    press sdk engine storage b tx g button s = some { s with page := page } := by
  simp only [press, shown, Option.bind_eq_bind, Option.bind_some, turned]

theorem press_leave {button : Button} (shown : s.layout g = some text)
    (flow : s.flow = createTransactionFlow tx storage)
    (left : engine.turnPage (text.pages engine) s.page button = none) :
    press sdk engine storage b tx g button s = goneTo sdk engine storage b tx g s
      (engine.move (createTransactionFlow tx storage).length s.position button) := by
  simp only [press, shown, Option.bind_eq_bind, Option.bind_some, left, flow]

/-- A turn onto the first page of the next place. -/
theorem onward_of_sees {s' : FlowState} {text' : Layout} {index prevIndex : Nat}
    (read : text.pages engine ≤ page + 1) (came : prevIndex ≤ index)
    (sees : Sees sdk storage b tx g s'
      ⟨place + 1, text', engine.openingPage ⟨index, prevIndex⟩ (text'.pages engine)⟩) :
    ∃ view', Sees sdk storage b tx g s' view' ∧
      Turned engine storage tx .ahead ⟨place, text, page⟩ view' := by
  have inside := sees.inside
  rw [FlowEngine.openingPage_ahead came] at sees
  exact ⟨_, sees, .onward read (Nat.lt_sub_of_add_lt inside)⟩

/-- At the last place the flow has no next step. -/
theorem stop_of_sees (sees : Sees sdk storage b tx g s ⟨place, text, page⟩)
    (read : text.pages engine ≤ page + 1) (last : place + 1 = (places tx storage).length)
    (end' : (createTransactionFlow tx storage).length ≤ s.position.index + 1) :
    ∃ s' view', goneTo sdk engine storage b tx g s
        (engine.next (createTransactionFlow tx storage).length s.position) = some s' ∧
      Sees sdk storage b tx g s' view' ∧
      Turned engine storage tx .ahead ⟨place, text, page⟩ view' := by
  refine ⟨s, ⟨place, text, page⟩, ?_, sees, ?_⟩
  · rw [engine.next_eq, if_neg (Nat.not_lt.mpr end')]
    rfl
  · have here : place = lastPlace storage tx := by
      rw [lastPlace]
      omega
    subst here
    exact .stop read

/-- Ahead from a fixed step. -/
theorem front_ahead (parses : Parses sdk b tx)
    (sees : Sees sdk storage b tx g s ⟨place, text, page⟩)
    (front : place < frontCount storage tx) (read : text.pages engine ≤ page + 1) :
    ∃ s' view', goneTo sdk engine storage b tx g s
        (engine.next (createTransactionFlow tx storage).length s.position) = some s' ∧
      Sees sdk storage b tx g s' view' ∧
      Turned engine storage tx .ahead ⟨place, text, page⟩ view' := by
  have index := sees.index
  have walk := sees.walk
  rw [stepOf_front front] at index
  rw [cursorAt_front front] at walk
  by_cases more : place + 1 < frontCount storage tx
  · -- the next fixed step
    have follows : place + 1 < (createTransactionFlow tx storage).length :=
      (List.getElem?_eq_some_iff.mp ((flow_front more).trans (List.getElem?_eq_getElem more))).1
    obtain ⟨s', text', entered, seen⟩ := enter_front 1 more place walk
    obtain ⟨view', seen, turned⟩ := onward_of_sees read (Nat.le_succ place) seen
    refine ⟨s', view', ?_, seen, turned⟩
    rw [engine.next_eq, index, if_pos follows]
    exact entered
  have edge : frontCount storage tx = place + 1 := by omega
  cases refused : scriptRefused tx storage with
  | true =>
      refine stop_of_sees sees read (edge.symm.trans (length_places_refused refused).symm) ?_
      rw [createTransactionFlow_refused refused, index]
      exact Nat.le_of_eq edge
  | false =>
      -- the upper delimiter, which fetches the first item
      have follows : place + 1 < (createTransactionFlow tx storage).length := by
        rw [length_flow refused]
        omega
      obtain ⟨s', text', entered, seen⟩ := upper_enters engine g parses refused place walk
      rw [edge] at entered seen
      obtain ⟨view', seen, turned⟩ := onward_of_sees read (Nat.le_succ _) seen
      refine ⟨s', view', ?_, seen, turned⟩
      rw [engine.next_eq, index, if_pos follows]
      exact entered

/-- Ahead from an item. -/
theorem item_ahead (parses : Parses sdk b tx) (accepted : scriptRefused tx storage = false)
    {offset : Nat} (inside : offset < itemCount tx)
    (sees : Sees sdk storage b tx g s ⟨frontCount storage tx + offset, text, page⟩)
    (read : text.pages engine ≤ page + 1) :
    ∃ s' view', goneTo sdk engine storage b tx g s
        (engine.next (createTransactionFlow tx storage).length s.position) = some s' ∧
      Sees sdk storage b tx g s' view' ∧
      Turned engine storage tx .ahead ⟨frontCount storage tx + offset, text, page⟩ view' := by
  have index := sees.index
  have walk := sees.walk
  rw [stepOf_item inside] at index
  rw [cursorAt_item inside] at walk
  have follows : frontCount storage tx + 1 + 1 < (createTransactionFlow tx storage).length := by
    rw [length_flow accepted]
    omega
  by_cases more : offset + 1 < itemCount tx
  · obtain ⟨s', text', entered, seen⟩ :=
      lower_advances engine g parses accepted (frontCount storage tx + 1) walk more
    obtain ⟨view', seen, turned⟩ := onward_of_sees read (Nat.le_succ _) seen
    refine ⟨s', view', ?_, seen, turned⟩
    rw [engine.next_eq, index, if_pos follows]
    exact entered
  · have last : offset + 1 = itemCount tx := by omega
    rw [last] at walk
    obtain ⟨s', text', entered, seen⟩ :=
      lower_leaves engine g parses accepted (frontCount storage tx + 1) walk
    rw [← last] at seen
    obtain ⟨view', seen, turned⟩ := onward_of_sees read (Nat.le_succ _) seen
    refine ⟨s', view', ?_, seen, turned⟩
    rw [engine.next_eq, index, if_pos follows]
    exact entered

/-- Ahead from the steps behind the items. -/
theorem back_ahead (accepted : scriptRefused tx storage = false) {offset : Nat} (inside : offset < 2)
    (sees : Sees sdk storage b tx g s
      ⟨frontCount storage tx + itemCount tx + offset, text, page⟩)
    (read : text.pages engine ≤ page + 1) :
    ∃ s' view', goneTo sdk engine storage b tx g s
        (engine.next (createTransactionFlow tx storage).length s.position) = some s' ∧
      Sees sdk storage b tx g s' view' ∧
      Turned engine storage tx .ahead
        ⟨frontCount storage tx + itemCount tx + offset, text, page⟩ view' := by
  have index := sees.index
  have walk := sees.walk
  rw [stepOf_back] at index
  rw [cursorAt_back] at walk
  rcases (by omega : offset = 0 ∨ offset = 1) with rfl | rfl
  · have follows : frontCount storage tx + (3 + 0) + 1 <
        (createTransactionFlow tx storage).length := by
      rw [length_flow accepted]
      omega
    obtain ⟨s', text', entered, seen⟩ :=
      enter_back 1 accepted (by decide : 1 < 2) (frontCount storage tx + 3) walk
    obtain ⟨view', seen, turned⟩ := onward_of_sees read (Nat.le_succ _) seen
    refine ⟨s', view', ?_, seen, turned⟩
    rw [engine.next_eq, index, if_pos follows]
    exact entered
  · refine stop_of_sees sees read ?_ ?_
    · rw [length_places accepted]
    · rw [length_flow accepted, index]

/-- **The right button at the end of a text.** -/
theorem turns_ahead (parses : Parses sdk b tx)
    (sees : Sees sdk storage b tx g s ⟨place, text, page⟩)
    (read : text.pages engine ≤ page + 1) :
    ∃ s' view', goneTo sdk engine storage b tx g s
        (engine.next (createTransactionFlow tx storage).length s.position) = some s' ∧
      Sees sdk storage b tx g s' view' ∧
      Turned engine storage tx .ahead ⟨place, text, page⟩ view' := by
  rcases place_cases sees.inside with front | ⟨accepted, ⟨offset, item, rfl⟩ | ⟨offset, back, rfl⟩⟩
  · exact front_ahead parses sees front read
  · exact item_ahead parses accepted item sees read
  · exact back_ahead accepted back sees read

theorem frontCount_pos : 0 < frontCount storage tx := by
  rw [frontCount, frontSteps]
  split
  · exact Nat.succ_pos _
  · exact Nat.succ_pos _

/-- A turn back onto the page that is shown when the user turns back. -/
theorem backward_of_sees {s' : FlowState} {text' : Layout} {position : FlowPosition}
    (opens : engine.openingPage position (text'.pages engine) =
      reopened engine storage tx place text')
    (sees : Sees sdk storage b tx g s'
      ⟨place, text', engine.openingPage position (text'.pages engine)⟩) :
    ∃ view', Sees sdk storage b tx g s' view' ∧
      Turned engine storage tx .back ⟨place + 1, text, 0⟩ view' := by
  rw [opens] at sees
  exact ⟨_, sees, .backward⟩

/-- A place that is entered from behind shows its last page. -/
theorem reopened_last {index : Nat} (alone : place < frontCount storage tx ∨
      frontCount storage tx + itemCount tx ≤ place + 1) (text : Layout) :
    engine.openingPage ⟨index, index + 1⟩ (text.pages engine) =
      reopened engine storage tx place text := by
  rw [FlowEngine.openingPage_back (Nat.lt_succ_self index), reopened, if_neg (by omega)]

/-- Back from a fixed step. -/
theorem front_back (sees : Sees sdk storage b tx g s ⟨place, text, 0⟩)
    (front : place < frontCount storage tx) :
    ∃ s' view', goneTo sdk engine storage b tx g s (engine.prev s.position) = some s' ∧
      Sees sdk storage b tx g s' view' ∧
      Turned engine storage tx .back ⟨place, text, 0⟩ view' := by
  have index := sees.index
  have walk := sees.walk
  rw [stepOf_front front] at index
  rw [cursorAt_front front] at walk
  cases place with
  | zero =>
      refine ⟨s, ⟨0, text, 0⟩, ?_, sees, .halt⟩
      rw [engine.prev_eq, index, if_neg (Nat.lt_irrefl 0)]
      rfl
  | succ k =>
      have before : k < frontCount storage tx := Nat.lt_of_succ_lt front
      obtain ⟨s', text', entered, seen⟩ := enter_front 1 before (k + 1) walk
      obtain ⟨view', seen, turned⟩ := backward_of_sees (reopened_last (.inl before) text') seen
      refine ⟨s', view', ?_, seen, turned⟩
      rw [engine.prev_eq, index, if_pos (Nat.succ_pos k)]
      exact entered

/-- Back from an item. -/
theorem item_back (parses : Parses sdk b tx) (accepted : scriptRefused tx storage = false)
    {offset : Nat} (inside : offset < itemCount tx)
    (sees : Sees sdk storage b tx g s ⟨frontCount storage tx + offset, text, 0⟩) :
    ∃ s' view', goneTo sdk engine storage b tx g s (engine.prev s.position) = some s' ∧
      Sees sdk storage b tx g s' view' ∧
      Turned engine storage tx .back ⟨frontCount storage tx + offset, text, 0⟩ view' := by
  have index := sees.index
  have walk := sees.walk
  rw [stepOf_item inside] at index
  rw [cursorAt_item inside] at walk
  cases offset with
  | zero =>
      obtain ⟨k, edge⟩ := Nat.exists_eq_succ_of_ne_zero (@frontCount_pos storage tx).ne'
      obtain ⟨s', text', entered, seen⟩ :=
        upper_leaves engine g parses accepted (k + 1 + 1) walk edge
      obtain ⟨view', seen, turned⟩ :=
        backward_of_sees (reopened_last (.inl (by omega)) text') seen
      refine ⟨s', view', ?_, seen, ?_⟩
      · rw [engine.prev_eq, index, if_pos (Nat.succ_pos _), edge]
        exact entered
      · rw [edge]
        exact turned
  | succ offset =>
      obtain ⟨s', text', entered, seen⟩ :=
        upper_returns engine g parses accepted (frontCount storage tx + 1) walk inside
      have opens : engine.openingPage ⟨frontCount storage tx + 1, frontCount storage tx⟩
          (text'.pages engine) =
          reopened engine storage tx (frontCount storage tx + offset) text' := by
        rw [FlowEngine.openingPage_ahead (Nat.le_succ _), reopened, if_pos (by omega)]
      obtain ⟨view', seen, turned⟩ := backward_of_sees opens seen
      refine ⟨s', view', ?_, seen, turned⟩
      rw [engine.prev_eq, index, if_pos (Nat.succ_pos _)]
      exact entered

/-- Back from the steps behind the items. -/
theorem back_back (parses : Parses sdk b tx) (accepted : scriptRefused tx storage = false)
    {offset : Nat} (inside : offset < 2)
    (sees : Sees sdk storage b tx g s ⟨frontCount storage tx + itemCount tx + offset, text, 0⟩) :
    ∃ s' view', goneTo sdk engine storage b tx g s (engine.prev s.position) = some s' ∧
      Sees sdk storage b tx g s' view' ∧
      Turned engine storage tx .back
        ⟨frontCount storage tx + itemCount tx + offset, text, 0⟩ view' := by
  have index := sees.index
  have walk := sees.walk
  rw [stepOf_back] at index
  rw [cursorAt_back] at walk
  rcases (by omega : offset = 0 ∨ offset = 1) with rfl | rfl
  · obtain ⟨before, last⟩ := Nat.exists_eq_succ_of_ne_zero (itemCount_pos parses).ne'
    obtain ⟨s', text', entered, seen⟩ :=
      lower_returns engine g parses accepted (frontCount storage tx + 3) walk last
    obtain ⟨view', seen, turned⟩ :=
      backward_of_sees (reopened_last (.inr (by omega)) text') seen
    refine ⟨s', view', ?_, seen, ?_⟩
    · rw [engine.prev_eq, index, if_pos (Nat.succ_pos _)]
      exact entered
    · rw [last]
      exact turned
  · obtain ⟨s', text', entered, seen⟩ :=
      enter_back 1 accepted Nat.zero_lt_two (frontCount storage tx + 4) walk
    obtain ⟨view', seen, turned⟩ :=
      backward_of_sees (reopened_last (.inr (by omega)) text') seen
    refine ⟨s', view', ?_, seen, turned⟩
    rw [engine.prev_eq, index, if_pos (Nat.succ_pos _)]
    exact entered

/-- **The left button at the start of a text.** -/
theorem turns_back (parses : Parses sdk b tx)
    (sees : Sees sdk storage b tx g s ⟨place, text, 0⟩) :
    ∃ s' view', goneTo sdk engine storage b tx g s (engine.prev s.position) = some s' ∧
      Sees sdk storage b tx g s' view' ∧
      Turned engine storage tx .back ⟨place, text, 0⟩ view' := by
  rcases place_cases sees.inside with front | ⟨accepted, ⟨offset, item, rfl⟩ | ⟨offset, back, rfl⟩⟩
  · exact front_back sees front
  · exact item_back parses accepted item sees
  · exact back_back parses accepted back sees

/-- Another page of the same text. -/
theorem Sees.turnPage {view : View Layout} (sees : Sees sdk storage b tx g s view) (page : Nat) :
    Sees sdk storage b tx g { s with page := page } ⟨view.place, view.text, page⟩ :=
  ⟨sees.inside, sees.flow, sees.index, sees.walk, sees.item, sees.text, rfl⟩

/-- **Each button turns a page of the line.** -/
theorem press_turns (parses : Parses sdk b tx) {view : View Layout}
    (sees : Sees sdk storage b tx g s view) (button : Button) :
    ∃ s' view', press sdk engine storage b tx g button s = some s' ∧
      Sees sdk storage b tx g s' view' ∧ Turned engine storage tx button.way view view' := by
  obtain ⟨place, text, page⟩ := view
  have here : s.page = page := sees.page
  cases button with
  | right =>
      have ahead : engine.turnPage (text.pages engine) s.page .right =
          if page + 1 < text.pages engine then some (page + 1) else none := by
        rw [here]
        exact engine.pageAhead_eq _ _
      by_cases more : page + 1 < text.pages engine
      · rw [if_pos more] at ahead
        exact ⟨_, _, press_page sees.text ahead, sees.turnPage _, .nextPage more⟩
      · rw [if_neg more] at ahead
        rw [press_leave sees.text sees.flow ahead]
        exact turns_ahead parses sees (Nat.not_lt.mp more)
  | left =>
      have before : engine.turnPage (text.pages engine) s.page .left =
          if 0 < page then some (page - 1) else none := by
        rw [here]
        exact engine.pageBefore_eq _
      cases page with
      | zero =>
          rw [press_leave sees.text sees.flow before]
          exact turns_back parses sees
      | succ page =>
          exact ⟨_, _, press_page sees.text before, sees.turnPage _, .pageBefore⟩

end Turns

end Bagl

end AppNeo3
