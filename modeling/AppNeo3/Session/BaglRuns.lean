import AppNeo3.Foundation.InnerRuns
import AppNeo3.Session.BaglDevice
import AppNeo3.Session.Held
import AppNeo3.Session.SignedScripts

/-!
# Runs of the device with two buttons

Every run is a run of the device (`bagl_run`), so that what holds of the decisions and
switches of the device holds of the buttons. A setting is changed only where the screen
says what it is (`settings_shown`). And while no command comes during a review, the screen
shows a run of the review of its data (`run_reviewing`).
-/

set_option autoImplicit false

namespace AppNeo3

open Memory Runs

namespace Bagl

variable {sdk : Sdk} {engine : FlowEngine} {trace : List BaglTaken} {d : BaglDevice}

/-- **A run of the device with buttons is a run of the device**, with the same answers
to the same commands, and with decisions and switches where the buttons ask for them. -/
theorem bagl_run (run : Run (baglDevice sdk engine) trace d) :
    ∃ history t, Run (device sdk .bagl) history t ∧ Agrees d t ∧
      Paired amounting trace history :=
  (baglDevice_refines sdk engine).run run

/-- The device with buttons after the application has started. -/
def BaglDevice.atStart : BaglDevice :=
  ⟨.zero, .zero, .full, .menu .main ⟨⟨0, 0⟩, 0⟩, false⟩

theorem run_baglAtStart (sdk : Sdk) : Run (baglDevice sdk .reference) [] .atStart :=
  .start ⟨rfl, rfl, rfl⟩

/-- The way to the first setting, and a switch of it. -/
def switchPresses : List BaglEvent :=
  [.press .right, .press .right, .both .success, .both .success]

/-- The device after the switch. -/
def BaglDevice.onSwitched : BaglDevice :=
  { BaglDevice.atStart with
    app := { App.zero with storage := ⟨1, 0, 0⟩ }
    strings := displaySettings ⟨1, 0, 0⟩ (displaySettings .zero .zero)
    ui := .menu .settings ⟨⟨0, 0⟩, 0⟩ }

theorem switchPresses_fed : ∃ trace, (baglDevice .reference .reference).feed [] .atStart
    switchPresses = some (trace, .onSwitched) := ⟨_, rfl⟩

/-- Switching from the start, and what it amounts to. -/
theorem bagl_run_switched : ∃ trace d, Run (baglDevice .reference .reference) trace d ∧
    d.app.storage = ⟨1, 0, 0⟩ ∧ ∃ history t, Run (device .reference .bagl) history t ∧
      Agrees d t ∧ Paired amounting trace history := by
  obtain ⟨trace, fed⟩ := switchPresses_fed
  have run := (run_baglAtStart .reference).feed fed
  exact ⟨trace, _, run, rfl, bagl_run run⟩

/-! ## Settings -/

/-- The screen is the step of a setting and ends with a text. -/
def ShowsSetting (d : BaglDevice) (setting : Setting) (text : List Char) : Prop :=
  ∃ flow screen texts, d.ui = .menu flow screen ∧
    (d.menu flow screen).step = some (switchStep setting) ∧
    (d.menu flow screen).layout = some (.lines (texts ++ [text]))

/-- A setting that the entry changes has been on the screen with its value, and is so
with the new one. Both buttons have been pressed there. -/
def SwitchedInSight (entry : BaglTaken) : Prop :=
  entry.after.app.storage ≠ entry.before.app.storage →
    ∃ setting, (∃ outcomes, entry.event = .both outcomes) ∧
      entry.after.app.storage = entry.before.app.storage.switch setting ∧
      ShowsSetting entry.before setting (settingShown entry.before.app.storage setting) ∧
      ShowsSetting entry.after setting (settingShown entry.after.app.storage setting)

/-- A valid menu at the step of a setting shows its value. -/
theorem showsSetting_of_valid {flow : MenuFlow} {screen : PlainState} (ui : d.ui = .menu flow screen)
    (valid : (d.menu flow screen).Valid) {setting : Setting}
    (here : (d.menu flow screen).step = some (switchStep setting)) :
    ShowsSetting d setting (settingShown d.app.storage setting) := by
  obtain ⟨texts, layout⟩ := Menu.layout_of_switch valid here
  exact ⟨flow, screen, texts, ui, here, layout⟩

/-- **A step changes settings in sight only.** -/
theorem BaglTransition.inSight {event : BaglEvent} {d' : BaglDevice} {output : Output}
    (transition : BaglTransition sdk engine d event (d', output)) {t : Device}
    (agrees : Agrees d t) (separate : t.app.ctx.Separate) :
    SwitchedInSight ⟨d, event, output, d'⟩ := by
  intro changed
  have effect : ∀ (cmd : Command) outcomes, Effect sdk .bagl outcomes d.app cmd.route
      (handle sdk .bagl outcomes d.app cmd.route) := by
    intro cmd outcomes
    rw [agrees.app]
    exact handle_effect separate cmd.route
  cases transition with
  | ended handled | badLength | idle | quit ui | confirmed ui decides => exact absurd rfl changed
  | sent handled => exact absurd ((effect _ _).storage handled) changed
  | opened handled shown => exact absurd ((effect _ _).storage handled) changed
  | pressed pressed =>
      exact absurd (congrArg App.storage (press_amounts agrees pressed).1) changed
  | decided ui decides validates =>
      subst validates
      exact absurd (storage_validated _ _ _ _) changed
  | @called outcomes flow screen action menu ui called ran =>
      obtain ⟨step, here, asks⟩ := Option.bind_eq_some_iff.mp called
      have shows := agrees.ui
      rw [ui] at shows
      obtain ⟨_, ⟨setting, rfl, storage⟩ | ⟨_, storage⟩⟩ := Menu.run_spec ran
      · cases (Menu.run_switch engine setting d.app.storage d.strings).symm.trans ran
        cases eq_switchStep asks
        let menu := switchSettings engine setting d.app.storage d.strings
        have valid : menu.Valid := Menu.valid_switchSettings engine setting _ _
        have shown : menu.step = some (switchStep setting) :=
          Menu.step_switchSettings engine setting _ _
        exact ⟨setting, ⟨outcomes, rfl⟩, rfl, showsSetting_of_valid ui shows.of_menu.2 here,
          @showsSetting_of_valid (d.withMenu menu) menu.flow menu.screen rfl valid setting shown⟩
      · exact absurd storage changed

/-- **Settings are changed in sight.** In every run the step of a setting shows the
stored value, and a value changes only by both buttons at its step. -/
theorem settings_shown (run : Run (baglDevice sdk engine) trace d) :
    (∀ setting text, ShowsSetting d setting text → text = settingShown d.app.storage setting) ∧
      Along (fun entry _ => SwitchedInSight entry) trace := by
  constructor
  · rintro setting text ⟨flow, screen, texts, ui, here, layout⟩
    obtain ⟨history, t, _, agrees, _⟩ := (baglDevice_refines _ _).run run
    have shows := agrees.ui
    rw [ui] at shows
    obtain ⟨texts', layout'⟩ := Menu.layout_of_switch shows.of_menu.2 here
    rw [layout, Option.some.injEq, Layout.lines.injEq] at layout'
    exact List.singleton_injective (List.append_inj' layout' rfl).2
  · induction run with
    | start starts => trivial
    | step run moved ih =>
        obtain ⟨history, t, reached, agrees, _⟩ := (baglDevice_refines _ _).run run
        exact ⟨(bagl_transition moved).2.inSight agrees (run_separate reached), ih⟩

/-- The setting that has been switched from the start, on the screen. -/
theorem settings_shown_switched : ∃ trace d, Run (baglDevice .reference .reference) trace d ∧
    ShowsSetting d .scriptsAllowed "Allowed".toList ∧
    Along (fun entry _ => SwitchedInSight entry) trace := by
  obtain ⟨trace, fed⟩ := switchPresses_fed
  have run := (run_baglAtStart .reference).feed fed
  refine ⟨trace, _, run, ⟨.settings, _, ["Contract scripts".toList,
    "Allow contract scripts".toList, "in transactions".toList], rfl, rfl, rfl⟩,
    (settings_shown run).2⟩

/-! ## Calm runs -/

/-- The route of the command, for a command. -/
def BaglEvent.route : BaglEvent → Option Route
  | .command cmd _ => some cmd.route
  | _ => none

/-- The menu is no review, and Approve is pressed with both buttons. -/
def screened : Screened BaglDevice BaglEvent where
  route := BaglEvent.route
  reviewing d := ∀ flow screen, d.ui ≠ .menu flow screen
  approves entry := ∃ screen outcomes, entry.before.ui = .transaction screen ∧
    screen.decision = some true ∧ entry.event = .both outcomes

theorem route_of_amounts {event : BaglEvent} {event' : Event} (amounts : Amounts d event event') :
    event'.route = event.route := by
  cases amounts <;> rfl

theorem screened_tells : screened.Tells amounting where
  route _ _ same := route_of_amounts same.2.2.1
  pending := by
    rintro fine coarse ⟨agrees, _, _, _⟩ unreviewed
    have shows := agrees.ui
    cases ui : fine.before.ui with
    | menu flow screen =>
        rw [ui] at shows
        exact shows.of_menu.1
    | address screen => exact absurd (fun flow other same => nomatch ui.symm.trans same) unreviewed
    | transaction screen =>
        exact absurd (fun flow other same => nomatch ui.symm.trans same) unreviewed
  approves := by
    rintro fine coarse ⟨agrees, _, amounts, _⟩ ⟨review, ⟨outcomes, decision⟩, pending⟩
    have shows := agrees.ui
    rw [pending] at shows
    rw [decision] at amounts
    generalize event : fine.event = pressed at amounts
    cases amounts with
    | decision decides =>
        rw [BaglDevice.decision] at decides
        cases ui : fine.before.ui with
        | transaction screen =>
            rw [ui] at decides
            exact ⟨screen, outcomes, ui, decides, event⟩
        | menu flow screen =>
            rw [ui] at decides
            cases decides
        | address screen =>
            rw [ui] at shows
            cases shows
  silent := by
    rintro fine ⟨_, _, ⟨button, press⟩ | ⟨outcomes, both⟩⟩
    · exact congrArg BaglEvent.route press
    · exact congrArg BaglEvent.route both

/-- **In every calm run, the transaction on the screen is held.** -/
theorem run_baglHeld (run : Run (baglDevice sdk engine) trace d)
    (calm : Along screened.Calm trace) {screen : FlowState} (ui : d.ui = .transaction screen) :
    ∃ review, Held sdk .bagl d.app review := by
  obtain ⟨history, t, reached, agrees, paired⟩ := (baglDevice_refines _ _).run run
  have shows := agrees.ui
  rw [ui] at shows
  obtain ⟨review, pending, _⟩ := shows.of_transaction
  refine ⟨review, ?_⟩
  rw [agrees.app]
  exact run_held reached (screened_tells.calmTaken paired calm) review pending

/-- The review of a transaction as it is shown. -/
def reviewing (sdk : Sdk) (engine : FlowEngine) :
    Showing BaglDevice BaglEvent Output FlowState Button Unit where
  inner d := reviewFlow sdk engine d.app.storage d.app.ctx.txInfo.received
    d.app.ctx.txInfo.transaction d.app.gTx
  shows d :=
    match d.ui with
    | .transaction screen => some screen
    | _ => none
  opens entry := entry.output.opens

variable {screen : FlowState}

theorem shows_of_ui (ui : d.ui = .transaction screen) :
    (reviewing sdk engine).shows d = some screen := by
  rw [reviewing]
  dsimp only
  rw [ui]

theorem ui_of_shows (shows : (reviewing sdk engine).shows d = some screen) :
    d.ui = .transaction screen := by
  rw [reviewing] at shows
  dsimp only at shows
  cases ui : d.ui with
  | transaction other =>
      rw [ui] at shows
      cases shows
      rfl
  | _ =>
      rw [ui] at shows
      cases shows

/-- How a review comes to be on the screen after a calm entry: it is opened, or it stays
as it is, or a button is pressed. -/
inductive BaglStays (sdk : Sdk) (engine : FlowEngine) (d : BaglDevice) :
    BaglEvent → BaglDevice × Output → Prop
  | opened {cmd : Command} {outcomes : CxOutcomes} {app : App} {review : Review} {ui : Ui}
      (handled : handle sdk .bagl outcomes d.app cmd.route = some (app, .start review))
      (shown : BaglDevice.openedUi sdk engine { d with app := app, slot := d.currentSlot } review =
        some ui) :
      BaglStays sdk engine d (.command cmd outcomes)
        ({ d with app := app, slot := d.currentSlot, ui := ui }, ⟨some (.start review), none⟩)
  | same {event : BaglEvent} {output : Output} (unopened : output.opens = false) :
      BaglStays sdk engine d event (d, output)
  | pressed {button : Button} {d' : BaglDevice} (pressed : d.press sdk engine button = some d') :
      BaglStays sdk engine d (.press button) (d', silence)

/-- **After a calm entry a review is on the screen in one of these ways only.** -/
theorem BaglTransition.stays {event : BaglEvent} {d' : BaglDevice} {output : Output}
    (transition : BaglTransition sdk engine d event (d', output))
    (calm : screened.Calm ⟨d, event, output, d'⟩ trace)
    (reviewing : ∀ flow menu, d'.ui ≠ .menu flow menu) :
    BaglStays sdk engine d event (d', output) := by
  cases transition with
  | @ended cmd outcomes handled | @sent cmd outcomes app reply handled =>
      exact absurd reviewing (calm.unreviewed _ rfl)
  | opened handled shown => exact .opened handled shown
  | badLength | idle => exact .same rfl
  | quit ui => exact absurd ui (reviewing _ _)
  | called ui called ran => exact absurd rfl (reviewing _ _)
  | confirmed ui decides => exact absurd rfl (reviewing _ _)
  | decided ui decides validates => exact absurd rfl (reviewing _ _)
  | pressed pressed => exact .pressed pressed

/-- **A step goes on with the review on the screen.** -/
theorem BaglStays.goesOn {event : BaglEvent} {d' : BaglDevice} {output : Output}
    (stays : BaglStays sdk engine d event (d', output)) (shows : d'.ui = .transaction screen) :
    GoesOn (reviewing sdk engine) ⟨d, event, output, d'⟩ screen := by
  cases stays with
  | @opened cmd outcomes app review ui handled shown =>
      cases shows
      cases review with
      | address review =>
          obtain ⟨_, _, other⟩ := Option.map_eq_some_iff.mp shown
          cases other
      | transaction review =>
          obtain ⟨_, started, same⟩ := Option.map_eq_some_iff.mp shown
          cases same
          exact .opened rfl ⟨_, started⟩
  | same unopened => exact .kept unopened rfl (shows_of_ui shows)
  | @pressed button _ pressed =>
      rw [BaglDevice.press] at pressed
      cases ui : d.ui with
      | menu flow other =>
          rw [ui] at pressed
          obtain ⟨_, _, rfl⟩ := Option.map_eq_some_iff.mp pressed
          cases shows
      | address other =>
          rw [ui] at pressed
          obtain ⟨_, _, rfl⟩ := Option.map_eq_some_iff.mp pressed
          cases shows
      | transaction before =>
          rw [ui] at pressed
          obtain ⟨_, moved, rfl⟩ := Option.map_eq_some_iff.mp pressed
          cases shows
          exact .moved rfl rfl (shows_of_ui ui) (congrArg (Option.map fun s => (s, ())) moved)

/-- **In every calm run, the review on the screen is a run of the review of its data.** -/
theorem run_reviewing (run : Run (baglDevice sdk engine) trace d)
    (calm : Along screened.Calm trace) (ui : d.ui = .transaction screen) :
    Inner (reviewing sdk engine) trace d screen := by
  refine Run.inner ?_ ?_ run calm screen (shows_of_ui ui)
  · intro d starts
    rw [reviewing]
    dsimp only
    rw [starts.2.2]
  · intro trace d event output d' run moved calm s' shows
    have ui := ui_of_shows shows
    have stays := (bagl_transition moved).2.stays calm fun flow menu other =>
      nomatch ui.symm.trans other
    exact stays.goesOn ui

end Bagl

end AppNeo3
