import AppNeo3.Review.FlowPlaces
import AppNeo3.Ui.AddressFlow

/-!
# What a user has seen who confirms an address

A flow whose ends are not joined is a line of its steps, and the two buttons turn its
pages (`PlainFlow.press_turns`). So whoever stands at Approve in the review of an address
has had every page of the address on the screen (`address_shown`), and Approve and Reject
can be reached from every screen (`address_decided`).
-/

set_option autoImplicit false

namespace AppNeo3

open Memory Pages Runs

namespace Bagl

namespace PlainFlow

variable (engine : FlowEngine) (flow : PlainFlow)

/-- A flow on the screen as a machine. -/
def walk : Machine PlainState Button Unit where
  starts s := flow.enter engine engine.start = some s
  step s button := (flow.press engine button s).map fun s' => (s', ())

/-- The screen shows a page of the step at a place. -/
structure Sees (s : PlainState) (view : View Layout) : Prop where
  text : flow.layouts[view.place]? = some view.text
  index : s.position.index = view.place
  page : s.page = view.page

/-- All pages of a text have been on the screen. -/
def ShownWhole (states : List PlainState) (text : Layout) : Prop :=
  ∀ page < text.pages engine, ∃ s ∈ states,
    flow.layouts[s.position.index]? = some text ∧ s.page = page

/-- The line of a flow; a step that is entered from behind starts with its last page. -/
def Turned : Way → View Layout → View Layout → Prop :=
  Turn (Layout.pages engine) (flow.layouts.length - 1) fun _ text => text.pages engine - 1

variable {engine flow} {s : PlainState}

theorem Sees.inside {view : View Layout} (sees : flow.Sees s view) :
    view.place < flow.layouts.length :=
  (List.getElem?_eq_some_iff.mp sees.text).1

/-- Entering a step. -/
theorem enter_sees {position : FlowPosition} {text : Layout}
    (there : flow.layouts[position.index]? = some text) :
    ∃ s, flow.enter engine position = some s ∧
      flow.Sees s ⟨position.index, text, engine.openingPage position (text.pages engine)⟩ :=
  ⟨_, Option.bind_eq_some_iff.mpr ⟨text, there, rfl⟩, there, rfl, rfl⟩

/-- A press that turns a page. -/
theorem press_page {view : View Layout} (sees : flow.Sees s view) {button : Button} {page : Nat}
    (turned : engine.turnPage (view.text.pages engine) view.page button = some page) :
    flow.press engine button s = some { s with page := page } := by
  refine Option.bind_eq_some_iff.mpr ⟨view.text, ?_, ?_⟩
  · rw [sees.index]
    exact sees.text
  · rw [sees.page, turned]

/-- A press that leaves the step. -/
theorem press_leave (apart : flow.loops = false) {view : View Layout} (sees : flow.Sees s view)
    {button : Button}
    (leaves : engine.turnPage (view.text.pages engine) view.page button = none) :
    flow.press engine button s =
      ((engine.move flow.layouts.length s.position button).map
        (flow.enter engine)).getD (some s) := by
  have there : flow.layouts[s.position.index]? = some view.text := by
    rw [sees.index]
    exact sees.text
  rw [press, there, Option.bind_eq_bind, Option.bind_some, sees.page, leaves, move, apart]
  rfl

/-- Ahead of the last page. -/
theorem turns_ahead (apart : flow.loops = false) {view : View Layout} (sees : flow.Sees s view)
    (read : view.text.pages engine ≤ view.page + 1) :
    ∃ s' view', flow.press engine .right s = some s' ∧ flow.Sees s' view' ∧
      flow.Turned engine .ahead view view' := by
  have stays : engine.turnPage (view.text.pages engine) view.page .right = none :=
    (engine.pageAhead_eq _ _).trans (if_neg (Nat.not_lt.mpr read))
  rw [press_leave apart sees stays]
  have inside := sees.inside
  have moved : engine.move flow.layouts.length s.position .right =
      if s.position.index + 1 < flow.layouts.length then
        some ⟨s.position.index + 1, s.position.index⟩ else none := engine.next_eq _ _
  rw [moved, sees.index]
  obtain ⟨place, text, page⟩ := view
  by_cases further : place + 1 < flow.layouts.length
  · obtain ⟨s', entered, sees'⟩ := @enter_sees engine flow ⟨place + 1, place⟩ _
      (List.getElem?_eq_getElem further)
    rw [FlowEngine.openingPage_ahead (Nat.le_succ place)] at sees'
    rw [if_pos further]
    exact ⟨s', _, entered, sees', .onward read (by omega)⟩
  · rw [if_neg further]
    have last : place = flow.layouts.length - 1 := by
      simp only at inside
      omega
    refine ⟨s, _, rfl, sees, ?_⟩
    rw [Turned, ← last]
    exact .stop read

/-- Back from the first page. -/
theorem turns_back (apart : flow.loops = false) {place : Nat} {text : Layout}
    (sees : flow.Sees s ⟨place, text, 0⟩) :
    ∃ s' view', flow.press engine .left s = some s' ∧ flow.Sees s' view' ∧
      flow.Turned engine .back ⟨place, text, 0⟩ view' := by
  have leaves : engine.turnPage (text.pages engine) 0 .left = none :=
    (engine.pageBefore_eq _).trans (if_neg (Nat.lt_irrefl 0))
  rw [press_leave apart sees leaves]
  have moved : engine.move flow.layouts.length s.position .left =
      if 0 < s.position.index then some ⟨s.position.index - 1, s.position.index⟩ else none :=
    engine.prev_eq _
  rw [moved, sees.index]
  cases place with
  | zero => exact ⟨s, _, rfl, sees, .halt⟩
  | succ place =>
      have before : place < flow.layouts.length := Nat.lt_of_succ_lt sees.inside
      obtain ⟨s', entered, sees'⟩ := @enter_sees engine flow ⟨place, place + 1⟩ _
        (List.getElem?_eq_getElem before)
      rw [FlowEngine.openingPage_back (Nat.lt_succ_self place)] at sees'
      rw [if_pos (Nat.succ_pos place)]
      exact ⟨s', _, entered, sees', .backward⟩

/-- **Each button turns a page of the line.** -/
theorem press_turns (apart : flow.loops = false) {view : View Layout} (sees : flow.Sees s view)
    (button : Button) : ∃ s' view', flow.press engine button s = some s' ∧ flow.Sees s' view' ∧
      flow.Turned engine button.way view view' := by
  obtain ⟨place, text, page⟩ := view
  cases button with
  | right =>
      by_cases more : page + 1 < text.pages engine
      · have ahead : engine.turnPage (text.pages engine) page .right = some (page + 1) :=
          (engine.pageAhead_eq _ _).trans (if_pos more)
        exact ⟨_, ⟨place, text, page + 1⟩, press_page sees ahead, ⟨sees.text, sees.index, rfl⟩,
          .nextPage more⟩
      · exact turns_ahead apart sees (Nat.not_lt.mp more)
  | left =>
      cases page with
      | zero => exact turns_back apart sees
      | succ page =>
          have before : engine.turnPage (text.pages engine) (page + 1) .left = some page :=
            (engine.pageBefore_eq _).trans (if_pos (Nat.succ_pos page))
          exact ⟨_, ⟨place, text, page⟩, press_page sees before, ⟨sees.text, sees.index, rfl⟩,
            .pageBefore⟩

/-- **A flow whose ends are not joined is a reader of its steps.** -/
theorem walk_reader (apart : flow.loops = false) (some' : 0 < flow.layouts.length) :
    Reader (flow.walk engine) (Layout.pages engine) (flow.layouts.length - 1)
      (fun _ text => text.pages engine - 1) flow.Sees Button.way where
  starts s starts := by
    obtain ⟨s', entered, sees⟩ := @enter_sees engine flow ⟨0, 0⟩ _ (List.getElem?_eq_getElem some')
    have entered' : flow.enter engine engine.start = some s' := by rw [engine.start_eq, entered]
    rw [FlowEngine.openingPage_ahead (Nat.le_refl 0)] at sees
    cases entered'.symm.trans starts
    exact ⟨_, sees⟩
  turns s view button s' output sees moved := by
    obtain ⟨s'', view', pressed, sees', turned⟩ := @press_turns engine _ _ apart _ sees button
    obtain ⟨_, pressed', same⟩ := Option.map_eq_some_iff.mp moved
    cases pressed.symm.trans pressed'
    cases same
    exact ⟨view', sees', turned⟩

variable {trace : List (Entry PlainState Button Unit)}

/-- **Every step before the one on the screen has been shown whole.** -/
theorem shown_before (apart : flow.loops = false) (run : Run (flow.walk engine) trace s) {k : Nat}
    (before : k < s.position.index) {text : Layout} (there : flow.layouts[k]? = some text) :
    flow.ShownWhole engine (visited trace s) text := by
  have some' : 0 < flow.layouts.length :=
    Nat.lt_of_le_of_lt (Nat.zero_le k) (List.getElem?_eq_some_iff.mp there).1
  obtain ⟨view, older, seen, views⟩ := (walk_reader apart some').seen run
  have here : view.place = s.position.index := by
    cases views with
    | cons sees _ => exact sees.index.symm
  obtain ⟨text', pages⟩ := Pages.shown_before seen views (here ▸ before)
  obtain ⟨_, _, first⟩ := pages 0 (text'.pages_pos engine)
  cases there.symm.trans first.text
  intro page inside
  obtain ⟨s', member, sees⟩ := pages page inside
  exact ⟨s', member, (congrArg _ sees.index).trans sees.text, sees.page⟩

end PlainFlow

/-! ## The review of an address -/

variable {engine : FlowEngine} {gAddress : Area Char (addressLen + 1)} {s : PlainState}
  {trace : List (Entry PlainState Button Unit)}

/-- The decision that the step on the screen reports. -/
def PlainState.addressDecision (s : PlainState) : Option Bool :=
  pubkeyFlowSteps[s.position.index]?.bind AddressStep.decision

/-- **Whoever can confirm an address has been shown the whole address.** -/
theorem address_shown (run : Run ((pubkeyFlow gAddress).walk engine) trace s)
    (approve : s.addressDecision = some true) :
    (pubkeyFlow gAddress).ShownWhole engine (visited trace s)
      (.paging "Address".toList (CText.text gAddress.cells)) := by
  have behind : 1 < s.position.index := by
    rw [PlainState.addressDecision] at approve
    generalize s.position.index = index at approve
    match index with
    | 0 | 1 => cases approve
    | index + 2 => exact Nat.lt_add_left index (Nat.lt_succ_self 1)
  exact PlainFlow.shown_before rfl run behind rfl

/-- Approve and Reject are within reach of every screen. -/
theorem address_decided (inside : (pubkeyFlow gAddress).Inside s) (approved : Bool) :
    ∃ s', Relation.ReflTransGen ((pubkeyFlow gAddress).Pressed engine) s s' ∧
      s'.addressDecision = some approved := by
  have step : ∃ k < (pubkeyFlow gAddress).layouts.length,
      pubkeyFlowSteps[k]?.bind AddressStep.decision = some approved := by
    cases approved with
    | true => exact ⟨2, Nat.lt_succ_of_lt (Nat.lt_succ_self 2), rfl⟩
    | false => exact ⟨3, Nat.lt_succ_self 3, rfl⟩
  obtain ⟨k, listed, decides⟩ := step
  obtain ⟨s', moves, there⟩ := @PlainFlow.reaches_step engine _ _ inside _ listed
  refine ⟨s', moves, ?_⟩
  rw [PlainState.addressDecision, there]
  exact decides

end Bagl

end AppNeo3
