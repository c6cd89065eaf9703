import AppNeo3.Foundation.InnerRuns
import AppNeo3.Session.NbglDevice
import AppNeo3.Session.Held
import AppNeo3.Session.SignedScripts

/-!
# Runs of the device with a touch screen

Every run is a run of the device (`nbgl_run`), and the switches of the settings show what
is stored, which only they change (`switches_mirrored`). While no command comes during a
review, the screen shows a run of the review of its data (`run_reviewing`).
-/

set_option autoImplicit false

namespace AppNeo3

open Memory Runs

namespace Nbgl

variable {sdk : Sdk} {engine : PageEngine} {trace : List NbglTaken} {d : NbglDevice}

/-- **A run of the device with a touch screen is a run of the device**, with the same
answers to the same commands, and with decisions and switches where the screen asks for
them. -/
theorem nbgl_run (run : Run (nbglDevice sdk engine) trace d) :
    ∃ history t, Run (device sdk .nbgl) history t ∧ Agrees engine d t ∧
      Paired (amounting engine) trace history :=
  (nbglDevice_refines sdk engine).run run

/-- The device with a touch screen after the application has started. -/
def NbglDevice.atStart : NbglDevice :=
  ⟨.zero, uiMenuSettings 10 .zero, .zero, List.replicate 4 .full, .menu, false⟩

theorem run_nbglAtStart (sdk : Sdk) : Run (nbglDevice sdk .reference) [] .atStart :=
  .start ⟨rfl, rfl, rfl, rfl, rfl⟩

/-- The device after the first setting has been switched. -/
def NbglDevice.onSwitched : NbglDevice :=
  { NbglDevice.atStart with
    app := { App.zero with storage := ⟨1, 0, 0⟩ }
    switches := uiMenuSettings 10 ⟨1, 0, 0⟩ }

theorem control_fed : ∃ trace, (nbglDevice .reference .reference).feed [] .atStart
    [.control 10] = some (trace, .onSwitched) := ⟨_, rfl⟩

/-- Switching from the start, and what it amounts to. -/
theorem nbgl_run_switched : ∃ trace d, Run (nbglDevice .reference .reference) trace d ∧
    d.app.storage = ⟨1, 0, 0⟩ ∧ ∃ history t, Run (device .reference .nbgl) history t ∧
      Agrees .reference d t ∧ Paired (amounting .reference) trace history := by
  obtain ⟨trace, fed⟩ := control_fed
  have run := (run_nbglAtStart .reference).feed fed
  exact ⟨trace, _, run, rfl, nbgl_run run⟩

/-! ## Settings -/

/-- A setting that the entry changes is switched by its own switch in the menu. -/
def SwitchedByControl (engine : PageEngine) (entry : NbglTaken) : Prop :=
  entry.after.app.storage ≠ entry.before.app.storage →
    ∃ token setting, entry.event = .control token ∧ entry.before.ui = .menu ∧
      settingOfToken engine.firstUserToken token = some setting ∧
      entry.after.app.storage = entry.before.app.storage.switch setting

/-- A step switches settings by their switches only. -/
theorem NbglTransition.byControl {event : NbglEvent} {d' : NbglDevice} {output : Output}
    (transition : NbglTransition sdk engine d event (d', output)) {t : Device}
    (agrees : Agrees engine d t) (separate : t.app.ctx.Separate) :
    SwitchedByControl engine ⟨d, event, output, d'⟩ := by
  intro changed
  have effect : ∀ (cmd : Command) outcomes, Effect sdk .nbgl outcomes d.app cmd.route
      (handle sdk .nbgl outcomes d.app cmd.route) := by
    intro cmd outcomes
    rw [agrees.app]
    exact handle_effect separate cmd.route
  cases transition with
  | ended handled | badLength | quit ui | turned ui turned | confirmed ui | dismissed ui =>
      exact absurd rfl changed
  | sent handled => exact absurd ((effect _ _).storage handled) changed
  | opened handled shown => exact absurd ((effect _ _).storage handled) changed
  | refused ui validates | decided ui offered validates =>
      subst validates
      exact absurd (storage_validated _ _ _ _) changed
  | @controlled token controlled ui ran =>
      rw [agrees.switches, controlsCallback_eq] at ran
      subst ran
      cases stands : settingOfToken engine.firstUserToken token with
      | none =>
          rw [stands] at changed
          exact absurd rfl changed
      | some setting => exact ⟨token, setting, rfl, ui, stands, rfl⟩

/-- **The switches show what is stored**, in every run, and only they change it. -/
theorem switches_mirrored (run : Run (nbglDevice sdk engine) trace d) :
    d.switches = uiMenuSettings engine.firstUserToken d.app.storage ∧
      Along (fun entry _ => SwitchedByControl engine entry) trace := by
  constructor
  · obtain ⟨_, _, _, agrees, _⟩ := (nbglDevice_refines _ _).run run
    exact agrees.switches
  · induction run with
    | start starts => trivial
    | step run moved ih =>
        obtain ⟨_, _, reached, agrees, _⟩ := (nbglDevice_refines _ _).run run
        exact ⟨(nbgl_transition moved).2.byControl agrees (run_separate reached), ih⟩

/-- The switches after the first setting has been switched. -/
theorem switches_mirrored_first : ∃ trace d, Run (nbglDevice .reference .reference) trace d ∧
    d.switches = uiMenuSettings 10 ⟨1, 0, 0⟩ := by
  obtain ⟨trace, fed⟩ := control_fed
  have run := (run_nbglAtStart .reference).feed fed
  exact ⟨trace, _, run, (switches_mirrored run).1⟩

/-! ## Calm runs -/

/-- The route of the command, for a command. -/
def NbglEvent.route : NbglEvent → Option Route
  | .command cmd _ => some cmd.route
  | _ => none

/-- The menu and a status are no review, and a transaction is approved by the choice at
the end of its pages. -/
def screened : Screened NbglDevice NbglEvent where
  route := NbglEvent.route
  reviewing d := d.ui ≠ .menu ∧ ∀ status, d.ui ≠ .status status
  approves entry := ∃ screen outcomes, entry.before.ui = .pairs screen ∧
    entry.event = .choice true outcomes

theorem route_of_amounts {event : NbglEvent} {event' : Event}
    (amounts : Amounts engine d event event') : event'.route = event.route := by
  cases amounts <;> rfl

theorem screened_tells (engine : PageEngine) : screened.Tells (amounting engine) where
  route _ _ same := route_of_amounts same.2.2.1
  pending := by
    rintro fine coarse ⟨agrees, _, _, _⟩ unreviewed
    have shows := agrees.ui
    cases ui : fine.before.ui with
    | menu =>
        rw [ui] at shows
        exact shows.of_menu
    | status status =>
        rw [ui] at shows
        exact shows.of_status
    | _ =>
        refine absurd ⟨?_, ?_⟩ unreviewed
        · rw [ui]
          exact nofun
        · rw [ui]
          exact nofun
  approves := by
    rintro fine coarse ⟨agrees, _, amounts, _⟩ ⟨review, ⟨outcomes, decision⟩, pending⟩
    have shows := agrees.ui
    rw [pending] at shows
    rw [decision] at amounts
    generalize event : fine.event = chosen at amounts
    cases amounts with
    | @decision confirmed _ decides =>
        rw [NbglDevice.decision] at decides
        cases ui : fine.before.ui with
        | pairs screen =>
            rw [ui] at decides
            cases decides
            exact ⟨screen, outcomes, ui, event⟩
        | address =>
            rw [ui] at shows
            cases shows
        | _ =>
            rw [ui] at decides
            cases decides
  silent := by
    rintro fine ⟨_, _, quiet⟩
    generalize fine.event = event at quiet
    cases quiet <;> rfl

/-- **In every calm run, the transaction on the pages is held.** -/
theorem run_nbglHeld (run : Run (nbglDevice sdk engine) trace d)
    (calm : Along screened.Calm trace) {screen : PairState} (ui : d.ui = .pairs screen) :
    ∃ review, Held sdk .nbgl d.app review := by
  obtain ⟨history, t, reached, agrees, paired⟩ := (nbglDevice_refines _ _).run run
  have shows := agrees.ui
  rw [ui] at shows
  obtain ⟨review, pending, _⟩ := shows.of_pairs
  refine ⟨review, ?_⟩
  rw [agrees.app]
  exact run_held reached ((screened_tells engine).calmTaken paired calm) review pending

/-- The review of a transaction as it is shown. -/
def reviewing (sdk : Sdk) (engine : PageEngine) :
    Showing NbglDevice NbglEvent Output PairState Pages.Way Unit where
  inner d := pairReview sdk engine d.app.storage d.app.ctx.txInfo.received
    d.app.ctx.txInfo.transaction d.app.gTx d.flow
  shows d :=
    match d.ui with
    | .pairs screen => some screen
    | _ => none
  opens entry := entry.output.opens

variable {screen : PairState}

theorem shows_of_ui (ui : d.ui = .pairs screen) :
    (reviewing sdk engine).shows d = some screen := by
  rw [reviewing]
  dsimp only
  rw [ui]

theorem ui_of_shows (shows : (reviewing sdk engine).shows d = some screen) :
    d.ui = .pairs screen := by
  rw [reviewing] at shows
  dsimp only at shows
  cases ui : d.ui with
  | pairs other =>
      rw [ui] at shows
      cases shows
      rfl
  | _ =>
      rw [ui] at shows
      cases shows

/-- A page of pairs that opens a review is the first one. -/
theorem starts_of_opened {app : App} {review : Review} {flow : TransactionFlow}
    (slots : d.currentSlots.length = engine.maxDisplayedPairs)
    (shown : NbglDevice.openedUi sdk engine { d with app := app, slots := d.currentSlots } review =
      some (flow, .pairs screen)) :
    (pairReview sdk engine app.storage app.ctx.txInfo.received app.ctx.txInfo.transaction app.gTx
      flow).starts screen := by
  cases review with
  | address review => cases shown
  | transaction review =>
      rw [NbglDevice.openedUi] at shown
      dsimp only at shown
      split at shown
      · cases shown
      · split at shown
        · rename_i filled created
          obtain ⟨_, started, same⟩ := Option.map_eq_some_iff.mp shown
          cases same
          exact ⟨d.flow, d.currentSlots, created, slots, started⟩
        · cases shown

/-- **A step goes on with the review on the screen.** -/
theorem NbglTransition.goesOn {event : NbglEvent} {d' : NbglDevice} {output : Output}
    (transition : NbglTransition sdk engine d event (d', output))
    (slots : d.currentSlots.length = engine.maxDisplayedPairs)
    (calm : screened.Calm ⟨d, event, output, d'⟩ trace) (shows : d'.ui = .pairs screen) :
    GoesOn (reviewing sdk engine) ⟨d, event, output, d'⟩ screen := by
  cases transition with
  | @ended cmd outcomes handled | @sent cmd outcomes app reply handled =>
      have ui : d.ui = .pairs screen := shows
      refine absurd ⟨?_, ?_⟩ (calm.unreviewed _ rfl)
      · rw [ui]
        exact nofun
      · rw [ui]
        exact nofun
  | opened handled shown =>
      cases shows
      exact .opened rfl (starts_of_opened slots shown)
  | badLength => exact .kept rfl rfl (shows_of_ui shows)
  | controlled ui ran | quit ui => cases ui.symm.trans shows
  | turned ui turned =>
      cases shows
      exact .moved rfl rfl (shows_of_ui ui) (congrArg (Option.map fun s => (s, ())) turned)
  | confirmed ui => cases shows
  | refused ui validates => cases shows
  | decided ui offered validates => cases shows
  | dismissed ui => cases shows

/-- **In every calm run, the pages on the screen are a run of the review of its data.** -/
theorem run_reviewing (run : Run (nbglDevice sdk engine) trace d)
    (calm : Along screened.Calm trace) (ui : d.ui = .pairs screen) :
    Inner (reviewing sdk engine) trace d screen := by
  refine Run.inner ?_ ?_ run calm screen (shows_of_ui ui)
  · intro d starts
    rw [reviewing]
    dsimp only
    rw [starts.2.2.1]
  · intro trace d event output d' run moved calm s' shows
    obtain ⟨_, _, _, agrees, _⟩ := (nbglDevice_refines _ _).run run
    exact (nbgl_transition moved).2.goesOn agrees.slots calm (ui_of_shows shows)

end Nbgl

end AppNeo3
