import AppNeo3.Foundation.Refinement
import AppNeo3.Review.FlowReview
import AppNeo3.Session.History
import AppNeo3.Ui.Menu

/-!
# The device with two buttons

The application with the screens of the devices with buttons: the user does not decide
or switch settings, but presses the left and the right button, or both. The screen is
the menu, the review of an address or that of a transaction, and all read the data of
the application when they are drawn, also data that a command has changed since.

It refines the device (`baglDevice_refines`): what its users can do amounts to the
decisions and switches that the device allows.
-/

set_option autoImplicit false

namespace AppNeo3

open Memory Runs

namespace Bagl

/-- What is on the screen. -/
inductive Ui where
  | menu (flow : MenuFlow) (screen : PlainState)
  | address (screen : PlainState)
  | transaction (screen : FlowState)
deriving DecidableEq

/-- The data of the application, the texts of the settings, what the slot of the signers
held when no transaction was shown, the screen, and whether the application has ended. -/
structure BaglDevice where
  app : App
  strings : SettingsStrings
  slot : DynamicSlot
  ui : Ui
  ended : Bool
deriving DecidableEq

inductive BaglEvent where
  | command (cmd : Command) (outcomes : CxOutcomes)
  /-- Bytes that the SDK does not parse as a command. -/
  | badLength
  | press (button : Button)
  /-- Both buttons. The outcomes are those of a signature that the press may ask for. -/
  | both (outcomes : CxOutcomes)

namespace BaglDevice

variable (sdk : Sdk) (engine : FlowEngine) (d : BaglDevice)

/-- The menu with a flow on the screen. -/
def menu (flow : MenuFlow) (screen : PlainState) : Menu := ⟨d.app.storage, d.strings, flow, screen⟩

/-- Show a menu. -/
def withMenu (menu : Menu) : BaglDevice :=
  { d with
    app := { d.app with storage := menu.storage }
    strings := menu.strings
    ui := .menu menu.flow menu.screen }

/-- The contents of the slot of the signers. -/
def currentSlot : DynamicSlot :=
  match d.ui with
  | .transaction screen => screen.display.view.slot
  | _ => d.slot

/-- The first screen of a review. -/
def openedUi (review : Review) : Option Ui :=
  match review with
  | .address _ => ((pubkeyFlow d.app.gAddress).enter engine engine.start).map .address
  | .transaction _ =>
      (startFlow sdk engine d.app.storage d.app.ctx.txInfo.received d.app.ctx.txInfo.transaction
        d.app.gTx d.slot).map .transaction

/-- What becomes of a handled command. -/
def afterCommand : Handled → Option (BaglDevice × Output)
  | none => some ({ d with ended := true }, silence)
  | some (app, .send reply) => some ({ d with app := app }, ⟨some (.send reply), none⟩)
  | some (app, .start review) =>
      let shown := { d with app := app, slot := d.currentSlot }
      (shown.openedUi sdk engine review).map fun ui =>
        ({ shown with ui := ui }, ⟨some (.start review), none⟩)

/-- The review ends and the menu is shown. -/
def afterDecision (app : App) (reply : Reply) (signing : Option Signing) : BaglDevice × Output :=
  let decided := { d with app := app, slot := d.currentSlot }
  (decided.withMenu (uiMenuMain engine app.storage d.strings), ⟨some (.send reply), signing⟩)

/-- The left or the right button. A press has no step where it would read outside the
data that it shows. -/
def press (button : Button) : Option BaglDevice :=
  match d.ui with
  | .menu flow screen => ((d.menu flow screen).press engine button).map d.withMenu
  | .address screen =>
      ((pubkeyFlow d.app.gAddress).press engine button screen).map fun screen =>
        { d with ui := .address screen }
  | .transaction screen =>
      (Bagl.press sdk engine d.app.storage d.app.ctx.txInfo.received d.app.ctx.txInfo.transaction
        d.app.gTx button screen).map fun screen => { d with ui := .transaction screen }

/-- Both buttons call what the step on the screen is for. -/
def both (outcomes : CxOutcomes) : BaglDevice × Output :=
  match d.ui with
  | .menu flow screen =>
      match (d.menu flow screen).step.bind MenuStep.callback with
      | none => (d, silence)
      | some action =>
          match action.run engine d.app.storage d.strings with
          | none => ({ d with ended := true }, silence)
          | some menu => (d.withMenu menu, silence)
  | .address screen =>
      match pubkeyFlowSteps[screen.position.index]?.bind AddressStep.decision with
      | none => (d, silence)
      | some approved =>
          d.afterDecision engine d.app (uiActionValidatePubkey approved d.app) none
  | .transaction screen =>
      match screen.decision with
      | none => (d, silence)
      | some approved =>
          let validated := uiActionValidateTransaction sdk outcomes approved d.app
          d.afterDecision engine validated.1 validated.2.1 validated.2.2

/-- Take an event. -/
def step (event : BaglEvent) : Option (BaglDevice × Output) :=
  if d.ended then none
  else
    match event with
    | .command cmd outcomes =>
        d.afterCommand sdk engine (apduDispatcher sdk .bagl outcomes cmd d.app)
    | .badLength => some (d, ⟨some (.send (.ofSw .swoWrongDataLength)), none⟩)
    | .press button => (d.press sdk engine button).map fun d' => (d', silence)
    | .both outcomes => some (d.both sdk engine outcomes)

end BaglDevice

variable (sdk : Sdk) (engine : FlowEngine)

/-- The device with buttons as a machine. At the start the context is zeroed and the menu
is shown. -/
def baglDevice : Machine BaglDevice BaglEvent Output where
  starts d := d.app.ctx = .zero ∧ d.ended = false ∧
    d.ui = .menu .main (uiMenuMain engine d.app.storage d.strings).screen
  step d event := d.step sdk engine event

/-- The entries of the device with buttons. -/
abbrev BaglTaken : Type := Entry BaglDevice BaglEvent Output

/-! ## What the buttons amount to -/

/-- The screen is that of the pending review, or the menu when there is none. -/
inductive UiAgrees (d : BaglDevice) : Ui → Option Review → Prop
  | menu {flow : MenuFlow} {screen : PlainState} (valid : (d.menu flow screen).Valid) :
      UiAgrees d (.menu flow screen) none
  | address {screen : PlainState} {review : AddressReview}
      (inside : (pubkeyFlow d.app.gAddress).Inside screen) :
      UiAgrees d (.address screen) (some (.address review))
  | transaction {screen : FlowState} {review : TransactionReview}
      (flow : review.screen = .flow screen.flow) :
      UiAgrees d (.transaction screen) (some (.transaction review))

/-- The device with buttons is in a state of the device. -/
structure Agrees (d : BaglDevice) (t : Device) : Prop where
  app : d.app = t.app
  ended : d.ended = false → t.ended = false
  ui : UiAgrees d d.ui t.pending

/-- The decision that the step on the screen reports. -/
def BaglDevice.decision (d : BaglDevice) : Option Bool :=
  match d.ui with
  | .menu _ _ => none
  | .address screen => pubkeyFlowSteps[screen.position.index]?.bind AddressStep.decision
  | .transaction screen => screen.decision

/-- The step of the setting is on the screen. -/
def BaglDevice.AtSetting (d : BaglDevice) (setting : Setting) : Prop :=
  ∃ flow screen, d.ui = .menu flow screen ∧
    (d.menu flow screen).step = some (switchStep setting)

/-- What an event amounts to. Both buttons decide or switch what the screen is for. -/
inductive Amounts (d : BaglDevice) : BaglEvent → Event → Prop
  | command (cmd : Command) (outcomes : CxOutcomes) :
      Amounts d (.command cmd outcomes) (.command cmd outcomes)
  | badLength : Amounts d .badLength .badLength
  | decision {approved : Bool} (decides : d.decision = some approved) (outcomes : CxOutcomes) :
      Amounts d (.both outcomes) (.decision approved outcomes)
  | setting {setting : Setting} (here : d.AtSetting setting) (outcomes : CxOutcomes) :
      Amounts d (.both outcomes) (.setting setting)

/-- Entries amount to entries of the device with the same data and answers; the others
are presses that leave the data alone. -/
def amounting : Pairing BaglDevice BaglEvent Output Device Event Output where
  pairs fine coarse := Agrees fine.before coarse.before ∧ Agrees fine.after coarse.after ∧
    Amounts fine.before fine.event coarse.event ∧ fine.output = coarse.output
  silent fine := fine.output = silence ∧ fine.after.app = fine.before.app ∧
    ((∃ button, fine.event = .press button) ∨ ∃ outcomes, fine.event = .both outcomes)

/-! ## The screens -/

section Screens

variable {sdk : Sdk} {engine : FlowEngine} {storage : InternalStorage} {b : List UInt8}
  {tx : Transaction} {g : GlobalItemStorage} {s s' : FlowState}

theorem flow_goTo {enter : FlowPosition → SignerDisplay → Option FlowState}
    (entered : ∀ position display s', enter position display = some s' → s'.flow = s.flow)
    {position : Option FlowPosition} (went : s.goTo enter position = some s') :
    s'.flow = s.flow := by
  cases position with
  | none =>
      cases went
      rfl
  | some position => exact entered _ _ _ went

/-- Entering a step stays in the flow. -/
theorem flow_showStep {flow : List FlowStep} :
    ∀ (depth : Nat) (position : FlowPosition) (display : SignerDisplay) (s' : FlowState),
      showStep sdk engine storage b tx g flow depth position display = some s' → s'.flow = flow
  | 0, _, _, _, shown => nomatch shown
  | depth + 1, position, display, s', shown => by
      rw [showStep] at shown
      obtain ⟨step, _, shown⟩ := Option.bind_eq_some_iff.mp shown
      cases delimits : step.isUpperDelimiter with
      | none =>
          rw [delimits] at shown
          obtain ⟨layout, _, same⟩ := Option.bind_eq_some_iff.mp shown
          cases same
          rfl
      | some isUpper =>
          rw [delimits] at shown
          obtain ⟨⟨move, display'⟩, _, followed⟩ := Option.bind_eq_some_iff.mp shown
          have entered := @flow_showStep flow depth
          cases move with
          | next => exact flow_goTo entered followed
          | prev => exact flow_goTo entered followed
          | pagingEdgecase => exact entered _ _ _ followed

/-- A press stays in the flow. -/
theorem flow_press {button : Button} (pressed : press sdk engine storage b tx g button s = some s') :
    s'.flow = s.flow := by
  obtain ⟨layout, _, moved⟩ := Option.bind_eq_some_iff.mp pressed
  cases turned : engine.turnPage (layout.pages engine) s.page button with
  | some page =>
      rw [turned] at moved
      cases moved
      rfl
  | none =>
      rw [turned] at moved
      exact flow_goTo (fun position display => flow_showStep 2 position display) moved

end Screens

/-! ## Steps -/

variable {sdk : Sdk} {engine : FlowEngine} {d d' : BaglDevice} {t : Device} {ui : Ui}
  {pending : Option Review}

theorem UiAgrees.of_menu {flow : MenuFlow} {screen : PlainState}
    (agrees : UiAgrees d (.menu flow screen) pending) :
    pending = none ∧ (d.menu flow screen).Valid := by
  cases agrees with
  | menu valid => exact ⟨rfl, valid⟩

theorem UiAgrees.of_address {screen : PlainState} (agrees : UiAgrees d (.address screen) pending) :
    ∃ review, pending = some (.address review) ∧ (pubkeyFlow d.app.gAddress).Inside screen := by
  cases agrees with
  | @address _ review inside => exact ⟨review, rfl, inside⟩

theorem UiAgrees.of_transaction {screen : FlowState}
    (agrees : UiAgrees d (.transaction screen) pending) :
    ∃ review, pending = some (.transaction review) ∧ review.screen = .flow screen.flow := by
  cases agrees with
  | @transaction _ review flow => exact ⟨review, rfl, flow⟩

/-- What agrees depends on the settings and their texts only. -/
theorem UiAgrees.congr (agrees : UiAgrees d ui pending) (storage : d'.app.storage = d.app.storage)
    (strings : d'.strings = d.strings) : UiAgrees d' ui pending := by
  cases agrees with
  | menu valid =>
      refine .menu ?_
      rw [BaglDevice.menu, storage, strings]
      exact valid
  | address inside => exact .address inside
  | transaction flow => exact .transaction flow

/-- The first screen of a review is one of the review. -/
theorem opened_agrees {review : Review}
    (screen : ∀ shown, review = .transaction shown → shown = d.app.review .bagl) :
    ∃ ui, d.openedUi sdk engine review = some ui ∧ UiAgrees d ui (some review) := by
  cases review with
  | address review =>
      have first : engine.start.index < (pubkeyFlow d.app.gAddress).layouts.length := by
        rw [engine.start_eq]
        exact Nat.succ_pos 3
      obtain ⟨s, entered, _⟩ := @PlainFlow.enter_of_inside engine _ _ first
      refine ⟨.address s, congrArg (Option.map Ui.address) entered, ?_⟩
      exact .address (PlainFlow.inside_of_enter entered)
  | transaction review =>
      obtain ⟨s, _, started, sees⟩ := @startFlow_sees sdk engine d.app.storage
        d.app.ctx.txInfo.received d.app.ctx.txInfo.transaction d.app.gTx d.slot
      refine ⟨.transaction s, congrArg (Option.map Ui.transaction) started, .transaction ?_⟩
      rw [screen review rfl, sees.flow]
      rfl

/-! ## Transitions -/

/-- What a step of the device with buttons does. -/
inductive BaglTransition (sdk : Sdk) (engine : FlowEngine) (d : BaglDevice) :
    BaglEvent → BaglDevice × Output → Prop
  | ended {cmd : Command} {outcomes : CxOutcomes}
      (handled : handle sdk .bagl outcomes d.app cmd.route = none) :
      BaglTransition sdk engine d (.command cmd outcomes) ({ d with ended := true }, silence)
  | sent {cmd : Command} {outcomes : CxOutcomes} {app : App} {reply : Reply}
      (handled : handle sdk .bagl outcomes d.app cmd.route = some (app, .send reply)) :
      BaglTransition sdk engine d (.command cmd outcomes)
        ({ d with app := app }, ⟨some (.send reply), none⟩)
  | opened {cmd : Command} {outcomes : CxOutcomes} {app : App} {review : Review} {ui : Ui}
      (handled : handle sdk .bagl outcomes d.app cmd.route = some (app, .start review))
      (shown : BaglDevice.openedUi sdk engine { d with app := app, slot := d.currentSlot } review =
        some ui) :
      BaglTransition sdk engine d (.command cmd outcomes)
        ({ d with app := app, slot := d.currentSlot, ui := ui }, ⟨some (.start review), none⟩)
  | badLength :
      BaglTransition sdk engine d .badLength (d, ⟨some (.send (.ofSw .swoWrongDataLength)), none⟩)
  | pressed {button : Button} {d' : BaglDevice} (pressed : d.press sdk engine button = some d') :
      BaglTransition sdk engine d (.press button) (d', silence)
  | idle {outcomes : CxOutcomes} : BaglTransition sdk engine d (.both outcomes) (d, silence)
  | quit {outcomes : CxOutcomes} {flow : MenuFlow} {screen : PlainState}
      (ui : d.ui = .menu flow screen) :
      BaglTransition sdk engine d (.both outcomes) ({ d with ended := true }, silence)
  | called {outcomes : CxOutcomes} {flow : MenuFlow} {screen : PlainState} {action : MenuAction}
      {menu : Menu} (ui : d.ui = .menu flow screen)
      (called : (d.menu flow screen).step.bind MenuStep.callback = some action)
      (ran : action.run engine d.app.storage d.strings = some menu) :
      BaglTransition sdk engine d (.both outcomes) (d.withMenu menu, silence)
  | confirmed {outcomes : CxOutcomes} {screen : PlainState} {approved : Bool}
      (ui : d.ui = .address screen)
      (decides : (pubkeyFlowSteps[screen.position.index]?).bind AddressStep.decision =
        some approved) :
      BaglTransition sdk engine d (.both outcomes)
        (d.afterDecision engine d.app (uiActionValidatePubkey approved d.app) none)
  | decided {outcomes : CxOutcomes} {screen : FlowState} {approved : Bool}
      {validated : App × Reply × Option Signing} (ui : d.ui = .transaction screen)
      (decides : screen.decision = some approved)
      (validates : validated = uiActionValidateTransaction sdk outcomes approved d.app) :
      BaglTransition sdk engine d (.both outcomes)
        (d.afterDecision engine validated.1 validated.2.1 validated.2.2)

variable {output : Output} {event : BaglEvent}

theorem both_transition (sdk : Sdk) (engine : FlowEngine) (d : BaglDevice) (outcomes : CxOutcomes) :
    BaglTransition sdk engine d (.both outcomes) (d.both sdk engine outcomes) := by
  rw [BaglDevice.both]
  cases ui : d.ui with
  | menu flow screen =>
      dsimp only
      cases called : (d.menu flow screen).step.bind MenuStep.callback with
      | none => exact .idle
      | some action =>
          dsimp only
          cases ran : action.run engine d.app.storage d.strings with
          | none =>
              rw [← ui]
              exact .quit ui
          | some menu => exact .called ui called ran
  | address screen =>
      dsimp only
      cases decides : (pubkeyFlowSteps[screen.position.index]?).bind AddressStep.decision with
      | none => exact .idle
      | some approved => exact .confirmed ui decides
  | transaction screen =>
      dsimp only
      cases decides : screen.decision with
      | none => exact .idle
      | some approved => exact .decided ui decides rfl

/-- **A step is one of the transitions**, of a device that runs. -/
theorem bagl_transition {result : BaglDevice × Output}
    (moved : (baglDevice sdk engine).step d event = some result) :
    d.ended = false ∧ BaglTransition sdk engine d event result := by
  change d.step sdk engine event = some result at moved
  rw [BaglDevice.step.eq_def] at moved
  cases running : d.ended with
  | true =>
      rw [running, if_pos rfl] at moved
      cases moved
  | false =>
      rw [running, if_neg Bool.false_ne_true] at moved
      refine ⟨rfl, ?_⟩
      cases event with
      | command cmd outcomes =>
          dsimp only at moved
          rw [apduDispatcher] at moved
          cases handled : handle sdk .bagl outcomes d.app cmd.route with
          | none =>
              rw [handled] at moved
              cases moved
              exact .ended handled
          | some done =>
              obtain ⟨app, answer⟩ := done
              rw [handled] at moved
              cases answer with
              | send reply =>
                  cases moved
                  exact .sent handled
              | start review =>
                  obtain ⟨ui, shown, same⟩ := Option.map_eq_some_iff.mp moved
                  cases same
                  exact .opened handled shown
      | badLength =>
          cases moved
          exact .badLength
      | press button =>
          obtain ⟨d', pressed, same⟩ := Option.map_eq_some_iff.mp moved
          cases same
          exact .pressed pressed
      | both outcomes =>
          cases moved
          exact both_transition sdk engine d outcomes

/-! ## The steps amount to steps of the device -/

/-- A menu with the same settings. -/
theorem Agrees.withMenu (agrees : Agrees d t) (pending : t.pending = none) {menu : Menu}
    (valid : menu.Valid) (storage : menu.storage = d.app.storage) :
    (d.withMenu menu).app = d.app ∧ Agrees (d.withMenu menu) t := by
  have kept : (d.withMenu menu).app = d.app :=
    congrArg (fun storage => ({ d.app with storage := storage } : App)) storage
  refine ⟨kept, kept.trans agrees.app, agrees.ended, ?_⟩
  rw [pending]
  exact .menu valid

/-- **A button** is silent, and does not end the application. -/
theorem press_amounts (agrees : Agrees d t) {button : Button}
    (pressed : d.press sdk engine button = some d') :
    d'.app = d.app ∧ d'.ended = d.ended ∧ Agrees d' t := by
  obtain ⟨app, ended, shows⟩ := agrees
  rw [BaglDevice.press] at pressed
  cases ui : d.ui with
  | menu flow screen =>
      rw [ui] at pressed shows
      obtain ⟨pending, valid⟩ := shows.of_menu
      obtain ⟨menu, moved, valid', storage, strings, _⟩ := @Menu.press_spec engine _ button valid
      obtain ⟨_, moved', same⟩ := Option.map_eq_some_iff.mp pressed
      cases moved.symm.trans moved'
      cases same
      obtain ⟨kept, agrees'⟩ := Agrees.withMenu ⟨app, ended, ui ▸ shows⟩ pending valid' storage
      exact ⟨kept, rfl, agrees'⟩
  | address screen =>
      rw [ui] at pressed shows
      obtain ⟨review, pending, inside⟩ := shows.of_address
      obtain ⟨screen', moved, inside'⟩ := @PlainFlow.press_of_inside engine _ button _ inside
      obtain ⟨_, moved', same⟩ := Option.map_eq_some_iff.mp pressed
      cases moved.symm.trans moved'
      cases same
      refine ⟨rfl, rfl, app, ended, ?_⟩
      rw [pending]
      exact .address inside'
  | transaction screen =>
      rw [ui] at pressed shows
      obtain ⟨review, pending, flow⟩ := shows.of_transaction
      obtain ⟨screen', moved, same⟩ := Option.map_eq_some_iff.mp pressed
      cases same
      refine ⟨rfl, rfl, app, ended, ?_⟩
      rw [pending]
      refine .transaction ?_
      rw [flow_press moved]
      exact flow

/-- The first screen of a review agrees with its opening. -/
theorem opened_amounts (agrees : Agrees d t) {app : App} {review : Review} {ui : Ui}
    {outcomes : CxOutcomes} {route : Route}
    (effect : Effect sdk .bagl outcomes d.app route (some (app, .start review)))
    (shown : BaglDevice.openedUi sdk engine { d with app := app, slot := d.currentSlot } review =
      some ui) :
    Agrees { d with app := app, slot := d.currentSlot, ui := ui }
      { t with app := app, pending := some review } := by
  have screen : ∀ shown, review = .transaction shown → shown = app.review .bagl := by
    rintro shown rfl
    exact effect.review rfl
  obtain ⟨ui', opened, shows⟩ := @opened_agrees sdk engine
    { d with app := app, slot := d.currentSlot } review screen
  cases opened.symm.trans shown
  exact ⟨rfl, agrees.ended, shows.congr rfl rfl⟩

/-- The menu after a decision. -/
theorem afterDecision_agrees (engine : FlowEngine) (d : BaglDevice) (t : Device)
    (running : t.ended = false) (app : App) (reply : Reply) (signing : Option Signing) :
    Agrees (d.afterDecision engine app reply signing).1 (t.afterDecision app reply signing).1 :=
  ⟨rfl, fun _ => running, .menu (Menu.valid_uiMenuMain engine app.storage d.strings)⟩

/-- An approval on the screen is one that the review offers. -/
theorem approvable_of_decision {screen : FlowState} {review : TransactionReview}
    (flow : review.screen = .flow screen.flow) {approved : Bool}
    (decides : screen.decision = some approved) (yes : approved = true) :
    review.screen.approvable = true := by
  subst yes
  obtain ⟨step, here, approves⟩ := Option.bind_eq_some_iff.mp decides
  rw [flow, SignTxScreen.approvable, decide_eq_true_iff, ← eq_approve approves]
  exact List.mem_of_getElem? here

/-- **A step amounts to a step of the device, or to nothing.** What amounts to a step
ends the application only when the step does. -/
theorem BaglTransition.amounts (transition : BaglTransition sdk engine d event (d', output))
    (running : d.ended = false) (agrees : Agrees d t) (separate : t.app.ctx.Separate) :
    (amounting.silent ⟨d, event, output, d'⟩ ∧ Agrees d' t) ∨
      ∃ event' t', (device sdk .bagl).step t event' = some (t', output) ∧
        Amounts d event event' ∧ Agrees d' t' ∧ (t'.ended = false → d'.ended = false) := by
  have effect : ∀ (cmd : Command) outcomes, Effect sdk .bagl outcomes d.app cmd.route
      (handle sdk .bagl outcomes d.app cmd.route) := by
    intro cmd outcomes
    rw [agrees.app]
    exact handle_effect separate cmd.route
  have taken := @step_command sdk .bagl t (agrees.ended running)
  have shows := agrees.ui
  cases transition with
  | @ended cmd outcomes handled =>
      have stepped := taken cmd outcomes
      rw [← agrees.app, handled] at stepped
      exact .inr ⟨_, _, stepped, .command cmd outcomes,
        ⟨agrees.app, nofun, shows.congr rfl rfl⟩, nofun⟩
  | @sent cmd outcomes app reply handled =>
      have stepped := taken cmd outcomes
      rw [← agrees.app, handled] at stepped
      have storage := (effect cmd outcomes).storage handled
      exact .inr ⟨_, _, stepped, .command cmd outcomes,
        ⟨rfl, agrees.ended, shows.congr storage rfl⟩, fun _ => running⟩
  | @opened cmd outcomes app review ui handled shown =>
      have stepped := taken cmd outcomes
      rw [← agrees.app, handled] at stepped
      exact .inr ⟨_, _, stepped, .command cmd outcomes,
        opened_amounts agrees (handled ▸ effect cmd outcomes) shown, fun _ => running⟩
  | badLength =>
      exact .inr ⟨_, _, step_badLength (agrees.ended running), .badLength, agrees, fun _ => running⟩
  | @pressed button _ pressed =>
      obtain ⟨app, _, agrees'⟩ := press_amounts agrees pressed
      exact .inl ⟨⟨rfl, app, .inl ⟨button, rfl⟩⟩, agrees'⟩
  | @idle outcomes => exact .inl ⟨⟨rfl, rfl, .inr ⟨outcomes, rfl⟩⟩, agrees⟩
  | @quit outcomes flow screen ui =>
      exact .inl ⟨⟨rfl, rfl, .inr ⟨outcomes, rfl⟩⟩, agrees.app, nofun, shows.congr rfl rfl⟩
  | @called outcomes flow screen action menu ui called ran =>
      rw [ui] at shows
      have pending := shows.of_menu.1
      obtain ⟨valid, ⟨setting, rfl, storage⟩ | ⟨_, storage⟩⟩ := Menu.run_spec ran
      · obtain ⟨step, here, asks⟩ := Option.bind_eq_some_iff.mp called
        cases eq_switchStep asks
        refine .inr ⟨_, _, step_setting (agrees.ended running) pending setting,
          .setting ⟨flow, screen, ui, here⟩ outcomes, ⟨?_, agrees.ended, ?_⟩, fun _ => running⟩
        · show ({ d.app with storage := menu.storage } : App) = _
          rw [storage, agrees.app]
        · show UiAgrees _ _ t.pending
          rw [pending]
          exact .menu valid
      · obtain ⟨kept, agrees'⟩ := agrees.withMenu pending valid storage
        exact .inl ⟨⟨rfl, kept, .inr ⟨outcomes, rfl⟩⟩, agrees'⟩
  | @confirmed outcomes screen approved ui decides =>
      rw [ui] at shows
      obtain ⟨_, asked, _⟩ := shows.of_address
      have decides : d.decision = some approved := by
        rw [BaglDevice.decision, ui]
        exact decides
      have stepped := @step_address sdk .bagl t (agrees.ended running) _ asked approved outcomes
      rw [← agrees.app] at stepped
      exact .inr ⟨_, _, stepped, .decision decides outcomes,
        afterDecision_agrees engine d t (agrees.ended running) d.app
          (uiActionValidatePubkey approved d.app) none, fun _ => running⟩
  | @decided outcomes screen approved validated ui decides validates =>
      rw [ui] at shows
      obtain ⟨_, asked, flow⟩ := shows.of_transaction
      have stepped := @step_offered sdk .bagl t (agrees.ended running) _ asked _
        (approvable_of_decision flow decides) outcomes
      rw [← agrees.app, ← validates] at stepped
      have decides : d.decision = some approved := by
        rw [BaglDevice.decision, ui]
        exact decides
      exact .inr ⟨_, _, stepped, .decision decides outcomes,
        afterDecision_agrees engine d t (agrees.ended running) validated.1 validated.2.1
          validated.2.2, fun _ => running⟩

/-- **The device with buttons refines the device.** -/
theorem baglDevice_refines (sdk : Sdk) (engine : FlowEngine) :
    Refinement (baglDevice sdk engine) (device sdk .bagl) amounting Agrees where
  starts d starts := by
    obtain ⟨zero, running, ui⟩ := starts
    refine ⟨⟨d.app, none, false⟩, ⟨zero, rfl, rfl⟩, rfl, fun _ => rfl, ?_⟩
    rw [ui]
    exact .menu (Menu.valid_uiMenuMain engine d.app.storage d.strings)
  steps := by
    intro history d t event output d' run agrees moved
    obtain ⟨running, transition⟩ := bagl_transition moved
    rcases transition.amounts running agrees (run_separate run) with
      quiet | ⟨event', t', stepped, amounts, agrees', _⟩
    · exact .inl quiet
    · exact .inr ⟨event', output, t', stepped, ⟨agrees, agrees', amounts, rfl⟩, agrees'⟩

end Bagl

end AppNeo3
