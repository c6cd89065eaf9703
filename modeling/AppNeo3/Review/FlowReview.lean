import AppNeo3.Review.FlowPlaces
import AppNeo3.Ui.SignTxUi

/-!
# What a user has seen who approves

The runs of a review on the screen: from its first screen, any presses of the two
buttons. No press fails, every run reads the line of the places page by page
(`reviewFlow_reads`), and Approve is on the screen only when all pages of every text
have been, and of every item those of a slot with its title and what it determines of
the text (`approve_read`). The decisions that a user can reach are those that the screen
is said to allow (`decision_reachable_iff`).
-/

set_option autoImplicit false

namespace AppNeo3

open Memory Pages Runs Walks

namespace Bagl

/-- A text is what a place shows: the text of its step, or a slot with its item. -/
def Place.Shows (sdk : Sdk) (storage : InternalStorage) (b : List UInt8) (tx : Transaction)
    (g : GlobalItemStorage) : Place → Layout → Prop
  | .fixed step, text => step.fixedLayout g = some text
  | .item listed, text => ∃ slot, HoldsItem sdk storage b tx listed slot ∧ text = slot.layout

variable {sdk : Sdk} {engine : FlowEngine} {storage : InternalStorage} {b : List UInt8}
  {tx : Transaction} {g : GlobalItemStorage}

/-- The first screen. -/
theorem startFlow_sees (slot : DynamicSlot) :
    ∃ s text, startFlow sdk engine storage b tx g slot = some s ∧
      Sees sdk storage b tx g s ⟨0, text, 0⟩ := by
  have walk : DisplayWalk sdk storage b tx 0 (resetSignerDisplayState slot) := .start ⟨slot, rfl⟩
  obtain ⟨s, text, entered, sees⟩ := enter_front 1 frontCount_pos 0 walk
  rw [FlowEngine.openingPage_ahead (Nat.le_refl 0)] at sees
  refine ⟨s, text, ?_, sees⟩
  rw [startFlow, engine.start_eq]
  exact entered

/-- **The review is a reader of its places.** -/
theorem reviewFlow_reader (parses : Parses sdk b tx) :
    Reader (reviewFlow sdk engine storage b tx g) (Layout.pages engine) (lastPlace storage tx)
      (reopened engine storage tx) (Sees sdk storage b tx g) Button.way where
  starts s starts := by
    obtain ⟨slot, starts⟩ := starts
    obtain ⟨s', text, started, sees⟩ := @startFlow_sees sdk engine storage b tx g slot
    cases started.symm.trans starts
    exact ⟨text, sees⟩
  turns s view button s' output sees moved := by
    obtain ⟨s'', view', pressed, sees', turned⟩ := press_turns parses sees button
    obtain ⟨_, pressed', same⟩ := Option.map_eq_some_iff.mp moved
    cases pressed.symm.trans pressed'
    cases same
    exact ⟨view', sees', turned⟩

/-- The ways that the buttons of a run lead, the newest first. -/
def ways (trace : List (Entry FlowState Button Unit)) : List Way :=
  trace.map fun entry => entry.event.way

/-- **Every run reads the line**, the way of its buttons. -/
theorem run_seen (parses : Parses sdk b tx) {trace : List (Entry FlowState Button Unit)}
    {s : FlowState} (run : Run (reviewFlow sdk engine storage b tx g) trace s) :
    ∃ view older, Seen (Layout.pages engine) (lastPlace storage tx) (reopened engine storage tx)
        (ways trace) (view :: older) ∧
      Sees sdk storage b tx g s view ∧
      List.Forall₂ (Sees sdk storage b tx g) (trace.map Entry.before) older := by
  obtain ⟨view, older, seen, views⟩ := (reviewFlow_reader parses).seen run
  cases views with
  | cons sees others => exact ⟨view, older, seen, sees, others⟩

/-! ## What the places show -/

/-- The places with their numbers. -/
inductive Placed (storage : InternalStorage) (tx : Transaction) : Nat → Place → Prop
  | front {k : Nat} {step : FlowStep} (front : k < frontCount storage tx)
      (there : (frontSteps tx storage)[k]? = some step) : Placed storage tx k (.fixed step)
  | item {offset : Nat} {listed : DynamicItem} (accepted : scriptRefused tx storage = false)
      (inside : offset < itemCount tx) (there : (Nbgl.dynItems tx)[offset]? = some listed) :
      Placed storage tx (frontCount storage tx + offset) (.item listed)
  | approve (accepted : scriptRefused tx storage = false) :
      Placed storage tx (frontCount storage tx + itemCount tx + 0) (.fixed .approve)
  | reject (accepted : scriptRefused tx storage = false) :
      Placed storage tx (frontCount storage tx + itemCount tx + 1) (.fixed .reject)

theorem placed_of_getElem? {k : Nat} {place : Place} (there : (places tx storage)[k]? = some place) :
    Placed storage tx k place := by
  obtain ⟨inside, _⟩ := List.getElem?_eq_some_iff.mp there
  rcases place_cases inside with front | ⟨accepted, ⟨offset, item, rfl⟩ | ⟨offset, back, rfl⟩⟩
  · rw [places_front front] at there
    obtain ⟨_, found, rfl⟩ := Option.map_eq_some_iff.mp there
    exact .front front found
  · rw [places_item accepted item] at there
    obtain ⟨_, found, rfl⟩ := Option.map_eq_some_iff.mp there
    exact .item accepted item found
  · rw [places_back accepted] at there
    rcases (by omega : offset = 0 ∨ offset = 1) with rfl | rfl
    · cases there
      exact .approve accepted
    · cases there
      exact .reject accepted

/-- The step that shows a place. -/
def Place.step : Place → FlowStep
  | .fixed step => step
  | .item _ => .generic

theorem Placed.step {k : Nat} {place : Place} (placed : Placed storage tx k place) :
    (createTransactionFlow tx storage)[stepOf storage tx k]? = some place.step := by
  cases placed with
  | front front there => rw [stepOf_front front, flow_front front, there]; rfl
  | item accepted inside there => rw [stepOf_item inside, flow_back accepted 1]; rfl
  | approve accepted => rw [stepOf_back, flow_back accepted (3 + 0)]; rfl
  | reject accepted => rw [stepOf_back, flow_back accepted (3 + 1)]; rfl

theorem Placed.own {k : Nat} {step : FlowStep} (placed : Placed storage tx k (.fixed step)) :
    FlowStep.Own g step := by
  cases placed with
  | front front there => exact own_frontSteps g (List.mem_of_getElem? there)
  | approve accepted => exact own_approve
  | reject accepted => exact own_reject

theorem Sees.layout {s : FlowState} {view : View Layout} (sees : Sees sdk storage b tx g s view)
    {step : FlowStep}
    (here : (createTransactionFlow tx storage)[stepOf storage tx view.place]? = some step) :
    step.layout g s.display.view.slot = some view.text := by
  rw [← sees.text, FlowState.layout, FlowState.step, sees.flow, sees.index, here]
  rfl

/-- **The screen shows what its place is to show.** -/
theorem Sees.shows {s : FlowState} {view : View Layout} (sees : Sees sdk storage b tx g s view)
    {place : Place} (here : (places tx storage)[view.place]? = some place) :
    place.Shows sdk storage b tx g view.text := by
  have placed := placed_of_getElem? here
  have layout := sees.layout placed.step
  cases place with
  | fixed step =>
      obtain ⟨text, fixed⟩ := (placed.own (g := g)).layout
      exact fixed.trans ((layout_of_fixed fixed _).symm.trans layout)
  | item listed => exact ⟨_, sees.item listed here, (Option.some.inj layout).symm⟩

/-- The decision that a place reports. -/
theorem Sees.decision {s : FlowState} {view : View Layout} (sees : Sees sdk storage b tx g s view)
    {step : FlowStep} (here : (places tx storage)[view.place]? = some (.fixed step))
    {approved : Bool} (decides : step.decision = some approved) :
    s.decision = some approved := by
  rw [FlowState.decision, FlowState.step, sees.flow, sees.index, (placed_of_getElem? here).step]
  exact decides

/-! ## The line that is read -/

/-- **A review is read as a line of texts, page by page.** The screen starts at the
first place, every press turns a page the way of its button, no press fails, and every
view is one of a text that its place shows. -/
theorem reviewFlow_reads (parses : Parses sdk b tx) {trace : List (Entry FlowState Button Unit)}
    {s : FlowState} (run : Run (reviewFlow sdk engine storage b tx g) trace s) :
    (∃ views, Seen (Layout.pages engine) (lastPlace storage tx) (reopened engine storage tx)
        (ways trace) views ∧
      List.Forall₂ (fun s view => ∃ place, (places tx storage)[view.place]? = some place ∧
          place.Shows sdk storage b tx g view.text ∧ s.layout g = some view.text ∧
          s.page = view.page) (visited trace s) views) ∧
      ∀ button, ∃ s', press sdk engine storage b tx g button s = some s' := by
  obtain ⟨view, older, seen, sees, others⟩ := run_seen parses run
  constructor
  · refine ⟨_, seen, List.Forall₂.imp ?_ (.cons sees others)⟩
    intro s view sees
    have here := List.getElem?_eq_getElem sees.inside
    exact ⟨_, here, sees.shows here, sees.text, sees.page⟩
  · intro button
    obtain ⟨s', view', pressed, _⟩ := press_turns parses sees button
    exact ⟨s', pressed⟩

/-- The first screen of a transaction with one signer, and the right button. -/
theorem reviewFlow_reads_first :
    let image := (SignerImage.plain (Area.fill _ 0)).transaction
    let tx := image.parsed Sdk.reference
    ∃ s s', startFlow Sdk.reference .reference .zero image.bytes tx .zero .full = some s ∧
      press Sdk.reference .reference .zero image.bytes tx .zero .right s = some s' ∧
      (∃ views, Seen (Layout.pages .reference) (lastPlace .zero tx) (reopened .reference .zero tx)
          [.ahead] views ∧
        List.Forall₂ (fun s view => ∃ place, (places tx .zero)[view.place]? = some place ∧
            place.Shows Sdk.reference .zero image.bytes tx .zero view.text ∧
            s.layout .zero = some view.text ∧ s.page = view.page) [s', s] views) ∧
      ∀ button, ∃ s'', press Sdk.reference .reference .zero image.bytes tx .zero button s' =
        some s'' := by
  intro image tx
  have parses : Parses Sdk.reference image.bytes tx :=
    SignerImage.transaction_parses (by decide)
  obtain ⟨s, _, started, sees⟩ :=
    @startFlow_sees Sdk.reference .reference .zero image.bytes tx .zero .full
  obtain ⟨s', _, pressed, _⟩ := @press_turns _ .reference _ _ _ _ _ parses _ sees .right
  have moved : (reviewFlow Sdk.reference .reference .zero image.bytes tx .zero).step s .right =
      some (s', ()) := congrArg (Option.map fun s => (s, ())) pressed
  exact ⟨s, s', started, pressed, reviewFlow_reads parses (.step (.start ⟨_, started⟩) moved)⟩

/-! ## Reaching a place -/

/-- A press of some button. -/
def Pressed (sdk : Sdk) (engine : FlowEngine) (storage : InternalStorage) (b : List UInt8)
    (tx : Transaction) (g : GlobalItemStorage) (s s' : FlowState) : Prop :=
  ∃ button, press sdk engine storage b tx g button s = some s'

/-- Every place can be reached from every other one. -/
theorem reaches_place (parses : Parses sdk b tx) {s : FlowState} {view : View Layout}
    (sees : Sees sdk storage b tx g s view) {k : Nat} (inside : k < (places tx storage).length) :
    ∃ s' view', Relation.ReflTransGen (Pressed sdk engine storage b tx g) s s' ∧
      Sees sdk storage b tx g s' view' ∧ view'.place = k := by
  have turn : ∀ (button : Button) s view, Sees sdk storage b tx g s view →
      ∃ s' view', Pressed sdk engine storage b tx g s s' ∧ Sees sdk storage b tx g s' view' ∧
        Turned engine storage tx button.way view view' := by
    intro button s view sees
    obtain ⟨s', view', pressed, sees', turned⟩ := press_turns parses sees button
    exact ⟨s', view', ⟨button, pressed⟩, sees', turned⟩
  rcases Nat.le_total view.place k with before | behind
  · obtain ⟨distance, rfl⟩ := Nat.exists_eq_add_of_le before
    exact reaches_later (turn .right) distance sees (Nat.le_sub_one_of_lt inside)
  · obtain ⟨distance, same⟩ := Nat.exists_eq_add_of_le behind
    obtain ⟨place, text, page⟩ := view
    cases same
    exact reaches_earlier (turn .left) distance page sees

/-- A press is a step of the review. -/
theorem exists_step_of_pressed (s s' : FlowState) (pressed : Pressed sdk engine storage b tx g s s') :
    ∃ button output, (reviewFlow sdk engine storage b tx g).step s button = some (s', output) := by
  obtain ⟨button, pressed⟩ := pressed
  exact ⟨button, (), congrArg (Option.map fun s => (s, ())) pressed⟩

/-- The place of a step that reports a decision. -/
theorem exists_place (storage : InternalStorage) (tx : Transaction) (approved : Bool)
    (allowed : approved = true → scriptRefused tx storage = false) :
    ∃ (k : Nat) (step : FlowStep), (places tx storage)[k]? = some (.fixed step) ∧
      step.decision = some approved := by
  cases refused : scriptRefused tx storage with
  | true =>
      cases approved with
      | true => cases (allowed rfl).symm.trans refused
      | false =>
          refine ⟨1, .abort, ?_, rfl⟩
          rw [places, frontSteps, refused]
          rfl
  | false =>
      cases approved with
      | true => exact ⟨_, .approve, places_back refused 0, rfl⟩
      | false => exact ⟨_, .reject, places_back refused 1, rfl⟩

/-! ## What has been read before Approve -/

/-- All pages of a text have been on the screen. -/
def ShownWhole (engine : FlowEngine) (g : GlobalItemStorage) (states : List FlowState)
    (text : Layout) : Prop :=
  ∀ page < text.pages engine, ∃ s ∈ states, s.layout g = some text ∧ s.page = page

/-- Every place before the one on the screen has been shown whole. -/
theorem shown_before {trace : List (Entry FlowState Button Unit)}
    {s : FlowState} {view : View Layout} {older : List (View Layout)} {turned : List Way}
    (seen : Seen (Layout.pages engine) (lastPlace storage tx) (reopened engine storage tx) turned
      (view :: older)) (sees : List.Forall₂ (Sees sdk storage b tx g) (visited trace s)
      (view :: older)) {k : Nat} (before : k < view.place) {place : Place}
    (there : (places tx storage)[k]? = some place) :
    ∃ text, place.Shows sdk storage b tx g text ∧
      ShownWhole engine g (visited trace s) text := by
  obtain ⟨text, pages⟩ := Pages.shown_before seen sees before
  obtain ⟨_, _, first⟩ := pages 0 (text.pages_pos engine)
  refine ⟨text, first.shows there, ?_⟩
  intro page inside
  obtain ⟨s', member, at'⟩ := pages page inside
  exact ⟨s', member, at'.text, at'.page⟩

theorem eq_approve {step : FlowStep} (decides : step.decision = some true) :
    step = .approve := by
  cases step with
  | approve => rfl
  | _ => cases decides

/-- Approve is at one place only. -/
theorem Placed.approve_of_decision {k : Nat} {place : Place} (placed : Placed storage tx k place)
    {step : FlowStep} (here : (createTransactionFlow tx storage)[stepOf storage tx k]? = some step)
    (decides : step.decision = some true) :
    scriptRefused tx storage = false ∧ k = frontCount storage tx + itemCount tx := by
  have shown := placed.step
  rw [here] at shown
  cases placed with
  | @front _ step front there =>
      cases shown
      have member := List.mem_of_getElem? there
      have decides : step.decision = some true := decides
      rw [eq_approve decides, frontSteps, scriptSteps, stepsWhen, stepsWhen] at member
      revert member
      split_ifs <;> simp
  | item accepted inside there =>
      cases shown
      cases decides
  | approve accepted => exact ⟨accepted, rfl⟩
  | reject accepted =>
      cases shown
      cases decides

/-- A step with a text and no decision is one of those in front. -/
theorem mem_frontSteps {step : FlowStep} (member : step ∈ createTransactionFlow tx storage)
    {text : Layout} (fixed : step.fixedLayout g = some text) (passive : step.decision = none)
    (accepted : scriptRefused tx storage = false) : step ∈ frontSteps tx storage := by
  rw [createTransactionFlow_accepted accepted, List.mem_append] at member
  rcases member with front | back
  · exact front
  · simp only [List.mem_cons, List.not_mem_nil, or_false] at back
    rcases back with rfl | rfl | rfl | rfl | rfl
    · cases fixed
    · cases fixed
    · cases fixed
    · cases passive
    · cases passive

/-- At Approve, every place before it has been on the screen. -/
theorem seen_of_approve (parses : Parses sdk b tx) {trace : List (Entry FlowState Button Unit)}
    {s : FlowState} (run : Run (reviewFlow sdk engine storage b tx g) trace s)
    (approve : s.decision = some true) :
    scriptRefused tx storage = false ∧ ∀ k < frontCount storage tx + itemCount tx,
      ∀ place, (places tx storage)[k]? = some place →
        ∃ text, place.Shows sdk storage b tx g text ∧
          ShownWhole engine g (visited trace s) text := by
  obtain ⟨view, older, seen, sees, others⟩ := run_seen parses run
  have placed := placed_of_getElem? (List.getElem?_eq_getElem sees.inside)
  obtain ⟨step, here, decides⟩ := Option.bind_eq_some_iff.mp approve
  rw [FlowState.step, sees.flow, sees.index] at here
  obtain ⟨accepted, last⟩ := placed.approve_of_decision here decides
  refine ⟨accepted, fun k before place there => ?_⟩
  rw [← last] at before
  exact shown_before seen (.cons sees others) before there

/-- At Approve, every step with a text has been shown whole. -/
theorem step_shown (parses : Parses sdk b tx) {trace : List (Entry FlowState Button Unit)}
    {s : FlowState} (run : Run (reviewFlow sdk engine storage b tx g) trace s)
    (approve : s.decision = some true) {step : FlowStep}
    (member : step ∈ createTransactionFlow tx storage) {text : Layout}
    (fixed : step.fixedLayout g = some text) (passive : step.decision = none) :
    ShownWhole engine g (visited trace s) text := by
  obtain ⟨accepted, shown⟩ := seen_of_approve parses run approve
  obtain ⟨k, there⟩ := List.mem_iff_getElem?.mp (mem_frontSteps member fixed passive accepted)
  have front : k < frontCount storage tx := (List.getElem?_eq_some_iff.mp there).1
  have place : (places tx storage)[k]? = some (.fixed step) := by
    rw [places_front front, there]
    rfl
  obtain ⟨text', shows, whole⟩ := shown k (Nat.lt_add_right _ front) _ place
  cases fixed.symm.trans shows
  exact whole

/-- At Approve, every item of the signers has been shown whole. -/
theorem item_shown (parses : Parses sdk b tx) {trace : List (Entry FlowState Button Unit)}
    {s : FlowState} (run : Run (reviewFlow sdk engine storage b tx g) trace s)
    (approve : s.decision = some true) {item : DynamicItem} (member : item ∈ Nbgl.dynItems tx) :
    ∃ slot, HoldsItem sdk storage b tx item slot ∧
      ShownWhole engine g (visited trace s) slot.layout := by
  obtain ⟨accepted, shown⟩ := seen_of_approve parses run approve
  obtain ⟨offset, there⟩ := List.mem_iff_getElem?.mp member
  have inside : offset < itemCount tx := (List.getElem?_eq_some_iff.mp there).1
  have place : (places tx storage)[frontCount storage tx + offset]? = some (.item item) := by
    rw [places_item accepted inside, there]
    rfl
  obtain ⟨text, ⟨slot, holds, rfl⟩, whole⟩ := shown _ (Nat.add_lt_add_left inside _) _ place
  exact ⟨slot, holds, whole⟩

/-- **Whoever can approve has been shown the whole review**: every page of every step
with a text, and for every item of every signer every page of a slot that holds it. -/
theorem approve_read (parses : Parses sdk b tx) {trace : List (Entry FlowState Button Unit)}
    {s : FlowState} (run : Run (reviewFlow sdk engine storage b tx g) trace s)
    (approve : s.decision = some true) :
    (∀ step ∈ createTransactionFlow tx storage, ∀ text, step.fixedLayout g = some text →
      step.decision = none → ShownWhole engine g (visited trace s) text) ∧
    ∀ item ∈ Nbgl.dynItems tx, ∃ slot, HoldsItem sdk storage b tx item slot ∧
      ShownWhole engine g (visited trace s) slot.layout :=
  ⟨fun _ member _ fixed passive => step_shown parses run approve member fixed passive,
    fun _ member => item_shown parses run approve member⟩

/-- A transaction that can be approved. -/
theorem approve_read_first :
    let image := (SignerImage.plain (Area.fill _ 0)).transaction
    let tx := image.parsed Sdk.reference
    ∃ trace s, Run (reviewFlow Sdk.reference .reference ⟨1, 0, 0⟩ image.bytes tx .zero) trace s ∧
      s.decision = some true ∧
      (∀ step ∈ createTransactionFlow tx ⟨1, 0, 0⟩, ∀ text, step.fixedLayout .zero = some text →
        step.decision = none → ShownWhole .reference .zero (visited trace s) text) ∧
      ∀ item ∈ Nbgl.dynItems tx, ∃ slot,
        HoldsItem Sdk.reference ⟨1, 0, 0⟩ image.bytes tx item slot ∧
        ShownWhole .reference .zero (visited trace s) slot.layout := by
  intro image tx
  have parses : Parses Sdk.reference image.bytes tx :=
    SignerImage.transaction_parses (by decide)
  obtain ⟨s, _, started, sees⟩ :=
    @startFlow_sees Sdk.reference .reference ⟨1, 0, 0⟩ image.bytes tx .zero .full
  have accepted : scriptRefused tx ⟨1, 0, 0⟩ = false := by simp [scriptRefused]
  obtain ⟨k, step, there, decides⟩ := exists_place ⟨1, 0, 0⟩ tx true fun _ => accepted
  obtain ⟨s', view', moves, sees', rfl⟩ :=
    reaches_place parses sees (List.getElem?_eq_some_iff.mp there).1
  obtain ⟨trace, run⟩ := exists_run_of_steps exists_step_of_pressed (.start ⟨_, started⟩) moves
  have approve : s'.decision = some true := sees'.decision there decides
  exact ⟨trace, s', run, approve, approve_read parses run approve⟩

/-! ## The decisions that can be reached -/

/-- A decision that the screen allows can be reached. -/
theorem reaches_decision (parses : Parses sdk b tx)
    {trace : List (Entry FlowState Button Unit)} {s : FlowState}
    (run : Run (reviewFlow sdk engine storage b tx g) trace s) {approved : Bool}
    (allowed : approved = true → (startSignTxUi .bagl tx storage).approvable = true) :
    ∃ s', Relation.ReflTransGen (Pressed sdk engine storage b tx g) s s' ∧
      s'.decision = some approved := by
  rw [approvable_startSignTxUi, Bool.not_eq_true'] at allowed
  obtain ⟨view, _, _, sees, _⟩ := run_seen parses run
  obtain ⟨k, step, there, decides⟩ := exists_place storage tx approved allowed
  obtain ⟨s', view', moves, sees', rfl⟩ :=
    reaches_place parses sees (List.getElem?_eq_some_iff.mp there).1
  exact ⟨s', moves, sees'.decision there decides⟩

/-- **The decisions that a user can reach are those that the screen allows.** -/
theorem decision_reachable_iff (parses : Parses sdk b tx)
    {trace : List (Entry FlowState Button Unit)} {s : FlowState}
    (run : Run (reviewFlow sdk engine storage b tx g) trace s) (approved : Bool) :
    (∃ s', Relation.ReflTransGen (Pressed sdk engine storage b tx g) s s' ∧
        s'.decision = some approved) ↔
      (approved = true → (startSignTxUi .bagl tx storage).approvable = true) := by
  obtain ⟨view, _, _, sees, _⟩ := run_seen parses run
  constructor
  · rintro ⟨s', moves, decides⟩ rfl
    rw [approvable_startSignTxUi, Bool.not_eq_true']
    -- every state that is reached is at some place
    have seen : ∃ view, Sees sdk storage b tx g s' view := by
      clear decides
      induction moves with
      | refl => exact ⟨view, sees⟩
      | tail _ pressed ih =>
          obtain ⟨view, sees⟩ := ih
          obtain ⟨button, pressed⟩ := pressed
          obtain ⟨_, view', pressed', sees', _⟩ := press_turns parses sees button
          cases pressed.symm.trans pressed'
          exact ⟨view', sees'⟩
    obtain ⟨view, sees⟩ := seen
    obtain ⟨step, here, decides⟩ := Option.bind_eq_some_iff.mp decides
    rw [FlowState.step, sees.flow, sees.index] at here
    have placed := placed_of_getElem? (List.getElem?_eq_getElem sees.inside)
    exact (placed.approve_of_decision here decides).1
  · exact reaches_decision parses run

/-- The review of a transaction with one signer, while scripts are allowed. -/
theorem decision_reachable_first :
    let image := (SignerImage.plain (Area.fill _ 0)).transaction
    let tx := image.parsed Sdk.reference
    ∃ s s', startFlow Sdk.reference .reference ⟨1, 0, 0⟩ image.bytes tx .zero .full = some s ∧
      Relation.ReflTransGen
        (Pressed Sdk.reference .reference ⟨1, 0, 0⟩ image.bytes tx .zero) s s' ∧
      s'.decision = some true := by
  intro image tx
  have parses : Parses Sdk.reference image.bytes tx :=
    SignerImage.transaction_parses (by decide)
  obtain ⟨s, _, started, _⟩ :=
    @startFlow_sees Sdk.reference .reference ⟨1, 0, 0⟩ image.bytes tx .zero .full
  have allowed : (startSignTxUi .bagl tx ⟨1, 0, 0⟩).approvable = true := by
    simp [approvable_startSignTxUi, scriptRefused]
  obtain ⟨s', moves, decides⟩ :=
    (decision_reachable_iff parses (.start ⟨_, started⟩) true).mpr fun _ => allowed
  exact ⟨s, s', started, moves, decides⟩

end Bagl

end AppNeo3
