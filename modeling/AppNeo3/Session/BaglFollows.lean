import AppNeo3.Review.AddressReading
import AppNeo3.Session.BaglRuns
import AppNeo3.Session.Following

/-!
# What the device does, two buttons can do

The device with two buttons follows every calm run of the device (`bagl_follows`). From
whatever screen there are presses to each decision that the review offers
(`Follows.toDecision`) and to each setting (`Follows.toSetting`), and no command is left
without a screen to show.
-/

set_option autoImplicit false

namespace AppNeo3

open Memory Runs

namespace Bagl

variable {sdk : Sdk} {engine : FlowEngine} {base trace : List BaglTaken} {d d' : BaglDevice}
  {past history : History} {t t' : Device}

theorem screened_shows : screened.Shows amounting where
  reviewing := by
    rintro fine coarse ⟨agrees, _, _, _⟩ pending reviewing
    have shows := agrees.ui
    rw [pending] at shows
    cases ui : fine.before.ui with
    | menu flow screen => exact reviewing flow screen ui
    | _ =>
        rw [ui] at shows
        cases shows
  approves := by
    rintro fine coarse ⟨agrees, _, amounts, _⟩ ⟨screen, outcomes, ui, decides, event⟩
    have shows := agrees.ui
    rw [ui] at shows
    obtain ⟨review, pending, _⟩ := shows.of_transaction
    refine ⟨review, ?_, pending⟩
    rw [event] at amounts
    generalize coarse.event = decided at amounts ⊢
    cases amounts with
    | decision decides' =>
        rw [BaglDevice.decision, ui] at decides'
        cases decides.symm.trans decides'
        exact ⟨outcomes, rfl⟩
    | setting here =>
        obtain ⟨flow, menu, other, _⟩ := here
        cases ui.symm.trans other

/-- The device with two buttons and its screens. -/
abbrev onScreen (sdk : Sdk) (engine : FlowEngine) : ScreenDevice BaglDevice BaglEvent :=
  ⟨baglDevice sdk engine, screened, amounting, Agrees, BaglDevice.ended⟩

/-- The device with two buttons has followed a history of the device. -/
abbrev Follows (sdk : Sdk) (engine : FlowEngine) (base : List BaglTaken) (past : History)
    (trace : List BaglTaken) (d : BaglDevice) (history : History) (t : Device) : Prop :=
  Followed (onScreen sdk engine) base past trace d history t

/-! ## Taking events -/

theorem step_baglCommand (running : d.ended = false) (cmd : Command) (outcomes : CxOutcomes) :
    (baglDevice sdk engine).step d (.command cmd outcomes) =
      d.afterCommand sdk engine (handle sdk .bagl outcomes d.app cmd.route) := by
  show d.step sdk engine (.command cmd outcomes) = _
  rw [BaglDevice.step.eq_def, running]
  rfl

theorem step_baglPress (running : d.ended = false) {button : Button} {d' : BaglDevice}
    (pressed : d.press sdk engine button = some d') :
    (baglDevice sdk engine).step d (.press button) = some (d', silence) := by
  show d.step sdk engine (.press button) = _
  rw [BaglDevice.step.eq_def, running]
  exact congrArg (Option.map fun d' => (d', silence)) pressed

theorem step_baglBadLength (running : d.ended = false) :
    (baglDevice sdk engine).step d .badLength =
      some (d, ⟨some (.send (.ofSw .swoWrongDataLength)), none⟩) := by
  show d.step sdk engine .badLength = _
  rw [BaglDevice.step.eq_def, running]
  rfl

/-- Both buttons can always be pressed. -/
theorem step_baglBoth (running : d.ended = false) (outcomes : CxOutcomes) :
    (baglDevice sdk engine).step d (.both outcomes) = some (d.both sdk engine outcomes) := by
  show d.step sdk engine (.both outcomes) = _
  rw [BaglDevice.step.eq_def, running]
  rfl

/-! ## Presses -/

/-- A press of some button. -/
def Presses (sdk : Sdk) (engine : FlowEngine) (d d' : BaglDevice) : Prop :=
  ∃ button, d.press sdk engine button = some d'

/-- Presses move what is on the screen. -/
theorem presses_of_moves {ς : Type} {shown : ς → Ui} {moved : ς → ς → Prop} {screen screen' : ς}
    (ui : d.ui = shown screen) (moves : Relation.ReflTransGen moved screen screen')
    (lead : ∀ before after, moved before after →
      Presses sdk engine { d with ui := shown before } { d with ui := shown after }) :
    Relation.ReflTransGen (Presses sdk engine) d { d with ui := shown screen' } := by
  have here : ({ d with ui := shown screen } : BaglDevice) = d := by rw [← ui]
  have lifted : Relation.ReflTransGen (Presses sdk engine) { d with ui := shown screen }
      { d with ui := shown screen' } := Relation.ReflTransGen.lift _ lead _ _ moves
  rwa [here] at lifted

/-- Presses in the menu. -/
theorem presses_menu {flow : MenuFlow} {screen screen' : PlainState} (ui : d.ui = .menu flow screen)
    (moves : Relation.ReflTransGen ((flow.plain d.strings).Pressed engine) screen screen') :
    Relation.ReflTransGen (Presses sdk engine) d { d with ui := .menu flow screen' } :=
  presses_of_moves ui moves fun before _ ⟨button, pressed⟩ =>
    ⟨button, congrArg (fun pressed => (pressed.map fun screen =>
      ({ d.menu flow before with screen := screen } : Menu)).map d.withMenu) pressed⟩

/-- Presses in the review of an address. -/
theorem presses_address {screen screen' : PlainState} (ui : d.ui = .address screen)
    (moves : Relation.ReflTransGen ((pubkeyFlow d.app.gAddress).Pressed engine) screen screen') :
    Relation.ReflTransGen (Presses sdk engine) d { d with ui := .address screen' } :=
  presses_of_moves ui moves fun _ _ ⟨button, pressed⟩ => ⟨button, congrArg (Option.map fun screen =>
    ({ d with ui := .address screen } : BaglDevice)) pressed⟩

/-- Presses in the review of a transaction. -/
theorem presses_transaction {screen screen' : FlowState} (ui : d.ui = .transaction screen)
    (moves : Relation.ReflTransGen (Pressed sdk engine d.app.storage d.app.ctx.txInfo.received
      d.app.ctx.txInfo.transaction d.app.gTx) screen screen') :
    Relation.ReflTransGen (Presses sdk engine) d { d with ui := .transaction screen' } :=
  presses_of_moves ui moves fun _ _ ⟨button, pressed⟩ => ⟨button, congrArg (Option.map fun screen =>
    ({ d with ui := .transaction screen } : BaglDevice)) pressed⟩

namespace Follows

/-- Presses follow nothing more. -/
theorem presses (follows : Follows sdk engine base past trace d history t) (running : t.ended = false)
    (moves : Relation.ReflTransGen (Presses sdk engine) d d') :
    ∃ trace', Follows sdk engine base past trace' d' history t := by
  induction moves with
  | refl => exact ⟨trace, follows⟩
  | @tail middle last _ pressed ih =>
      obtain ⟨trace', follows'⟩ := ih
      obtain ⟨button, pressed⟩ := pressed
      have up := follows'.running running
      obtain ⟨app, ended, agrees⟩ := press_amounts follows'.agrees pressed
      refine ⟨_, follows'.silent screened_tells (step_baglPress up pressed)
        ⟨rfl, app, .inl ⟨button, rfl⟩⟩ ?_ agrees fun _ => ended.trans up⟩
      rintro ⟨_, _, _, _, other⟩
      cases other

/-! ## Reaching what decides -/

/-- **Every decision that a review offers is within reach.** -/
theorem toDecision (follows : Follows sdk engine base past trace d history t)
    (run : Run (device sdk .bagl) history t) (running : t.ended = false) {review : Review}
    (pending : t.pending = some review) {approved : Bool}
    (offered : ∀ asked, review = .transaction asked → approved = true →
      asked.screen.approvable = true) :
    ∃ trace' d', Follows sdk engine base past trace' d' history t ∧ d'.decision = some approved := by
  have agrees := follows.agrees
  have shows := agrees.ui
  rw [pending] at shows
  cases ui : d.ui with
  | menu flow screen =>
      rw [ui] at shows
      cases shows
  | address screen =>
      rw [ui] at shows
      obtain ⟨_, _, inside⟩ := shows.of_address
      obtain ⟨screen', moves, decides⟩ := @address_decided engine _ _ inside approved
      obtain ⟨trace', follows'⟩ := follows.presses running (presses_address ui moves)
      exact ⟨trace', _, follows', decides⟩
  | transaction screen =>
      rw [ui] at shows
      obtain ⟨asked, same, _⟩ := shows.of_transaction
      cases same
      have held := run_held run (screened_tells.calmTaken follows.paired follows.calm) asked pending
      rw [← agrees.app] at held
      obtain ⟨_, walk, _⟩ := run_reviewing follows.run follows.calm ui
      have allowed := offered asked rfl
      rw [held.built] at allowed
      obtain ⟨screen', moves, decides⟩ := reaches_decision held.parses walk allowed
      obtain ⟨trace', follows'⟩ := follows.presses running (presses_transaction ui moves)
      exact ⟨trace', _, follows', decides⟩

/-- A step of the menu's flow is within reach. -/
theorem toStep (follows : Follows sdk engine base past trace d history t) (running : t.ended = false)
    {flow : MenuFlow} {screen : PlainState} (ui : d.ui = .menu flow screen) {k : Nat}
    {step : MenuStep} (there : flow.steps[k]? = some step) :
    ∃ trace' d' screen', Follows sdk engine base past trace' d' history t ∧
      d'.ui = .menu flow screen' ∧ (d'.menu flow screen').step = some step := by
  have shows := follows.agrees.ui
  rw [ui] at shows
  have listed : k < (flow.plain d.strings).layouts.length := by
    show k < (flow.steps.map _).length
    rw [List.length_map]
    exact (List.getElem?_eq_some_iff.mp there).1
  obtain ⟨screen', moves, reached⟩ :=
    @PlainFlow.reaches_step engine _ _ shows.of_menu.2.inside _ listed
  obtain ⟨trace', follows'⟩ := follows.presses running (presses_menu ui moves)
  refine ⟨trace', _, screen', follows', rfl, ?_⟩
  show flow.steps[screen'.position.index]? = some step
  rw [reached, there]

/-- A callback that switches nothing follows nothing more. -/
theorem call (follows : Follows sdk engine base past trace d history t) (running : t.ended = false)
    {flow : MenuFlow} {screen : PlainState} (ui : d.ui = .menu flow screen) {step : MenuStep}
    (here : (d.menu flow screen).step = some step) {action : MenuAction}
    (called : step.callback = some action) (keeps : ∀ setting, action ≠ .switch setting)
    {menu : Menu} (ran : action.run engine d.app.storage d.strings = some menu) :
    ∃ trace', Follows sdk engine base past trace' (d.withMenu menu) history t := by
  have up := follows.running running
  have agrees := follows.agrees
  have shows := agrees.ui
  rw [ui] at shows
  obtain ⟨valid, ⟨setting, switches, _⟩ | ⟨_, storage⟩⟩ := Menu.run_spec ran
  · exact absurd switches (keeps setting)
  · obtain ⟨kept, agrees'⟩ := agrees.withMenu shows.of_menu.1 valid storage
    have both : d.both sdk engine .success = (d.withMenu menu, silence) := by
      rw [BaglDevice.both, ui]
      dsimp only
      rw [here, Option.bind_some, called]
      dsimp only
      rw [ran]
    have stepped : (baglDevice sdk engine).step d (.both .success) =
        some (d.withMenu menu, silence) := by
      rw [← both]
      exact step_baglBoth up .success
    refine ⟨_, follows.silent screened_tells stepped ⟨rfl, kept, .inr ⟨_, rfl⟩⟩ ?_
      agrees' fun _ => up⟩
    rintro ⟨_, _, other, _, _⟩
    cases ui.symm.trans other

/-- From the flow of the settings. -/
theorem settings_toSetting (follows : Follows sdk engine base past trace d history t)
    (running : t.ended = false) {screen : PlainState} (ui : d.ui = .menu .settings screen)
    (setting : Setting) :
    ∃ trace' d', Follows sdk engine base past trace' d' history t ∧ d'.AtSetting setting := by
  have listed : switchStep setting ∈ MenuFlow.settings.steps := by cases setting <;> decide
  obtain ⟨k, there⟩ := List.mem_iff_getElem?.mp listed
  obtain ⟨trace', d', screen', follows', ui', here⟩ := follows.toStep running ui there
  exact ⟨trace', d', follows', _, _, ui', here⟩

/-- From the first flow. -/
theorem main_toSetting (follows : Follows sdk engine base past trace d history t)
    (running : t.ended = false) {screen : PlainState} (ui : d.ui = .menu .main screen)
    (setting : Setting) :
    ∃ trace' d', Follows sdk engine base past trace' d' history t ∧ d'.AtSetting setting := by
  have there : MenuFlow.main.steps[2]? = some .settings := rfl
  have called : MenuStep.settings.callback = some .settings := rfl
  obtain ⟨_, _, _, follows, ui, here⟩ := follows.toStep running ui there
  obtain ⟨_, follows⟩ := follows.call running ui here called nofun rfl
  exact follows.settings_toSetting running rfl setting

/-- **Every setting is within reach of the menu.** -/
theorem toSetting (follows : Follows sdk engine base past trace d history t)
    (running : t.ended = false) (pending : t.pending = none) (setting : Setting) :
    ∃ trace' d', Follows sdk engine base past trace' d' history t ∧ d'.AtSetting setting := by
  have shows := follows.agrees.ui
  rw [pending] at shows
  cases ui : d.ui with
  | address screen | transaction screen =>
      rw [ui] at shows
      cases shows
  | menu flow screen =>
      cases flow with
      | settings => exact follows.settings_toSetting running ui setting
      | main => exact follows.main_toSetting running ui setting
      | about =>
          have there : MenuFlow.about.steps[1]? = some .back := rfl
          have called : MenuStep.back.callback = some .main := rfl
          obtain ⟨_, _, _, follows, ui, here⟩ := follows.toStep running ui there
          obtain ⟨_, follows⟩ := follows.call running ui here called nofun rfl
          exact follows.main_toSetting running rfl setting

end Follows

/-! ## The entries that amount to something -/

variable {approved : Bool} {setting : Setting} {outcomes : CxOutcomes} {event : Event}

/-- No command is left without a screen. -/
theorem exists_step_command (agrees : Agrees d t) (separate : t.app.ctx.Separate)
    (running : d.ended = false) (cmd : Command) (outcomes : CxOutcomes) :
    ∃ result, (baglDevice sdk engine).step d (.command cmd outcomes) = some result := by
  rw [step_baglCommand running]
  rw [← agrees.app] at separate
  have effect := @handle_effect sdk .bagl outcomes _ separate cmd.route
  cases handled : handle sdk .bagl outcomes d.app cmd.route with
  | none => exact ⟨_, rfl⟩
  | some done =>
      obtain ⟨app, answer⟩ := done
      cases answer with
      | send reply => exact ⟨_, rfl⟩
      | start review =>
          rw [handled] at effect
          obtain ⟨ui, opened, _⟩ := @opened_agrees sdk engine
            { d with app := app, slot := d.currentSlot } review fun shown same => by
              subst same
              exact effect.review rfl
          exact ⟨_, congrArg (Option.map fun ui => (({ d with
            app := app, slot := d.currentSlot, ui := ui } : BaglDevice), _)) opened⟩

/-- Both buttons decide nothing else than the step on the screen. -/
theorem eq_decision (decides : d.decision = some approved)
    (amounts : Amounts d (.both outcomes) event) : event = .decision approved outcomes := by
  cases amounts with
  | decision decides' =>
      cases decides.symm.trans decides'
      rfl
  | setting here =>
      obtain ⟨flow, screen, ui, _⟩ := here
      rw [BaglDevice.decision, ui] at decides
      cases decides

/-- Both buttons switch nothing else than the setting on the screen. -/
theorem eq_setting (here : d.AtSetting setting) (amounts : Amounts d (.both outcomes) event) :
    event = .setting setting := by
  obtain ⟨flow, screen, ui, step⟩ := here
  cases amounts with
  | decision decides =>
      rw [BaglDevice.decision, ui] at decides
      cases decides
  | @setting other there =>
      obtain ⟨_, _, ui', step'⟩ := there
      cases ui.symm.trans ui'
      have same := step.symm.trans step'
      cases setting <;> cases other <;> first | rfl | cases same

/-- A decision is answered. -/
theorem both_answers (decides : d.decision = some approved) (outcomes : CxOutcomes) :
    (d.both sdk engine outcomes).2 ≠ silence := by
  intro silent
  rw [BaglDevice.both] at silent
  rw [BaglDevice.decision] at decides
  cases ui : d.ui with
  | menu flow screen =>
      rw [ui] at decides
      cases decides
  | address screen | transaction screen =>
      rw [ui] at decides silent
      dsimp only at decides silent
      rw [decides] at silent
      cases silent

/-- A switch changes what is stored. -/
theorem both_switches (here : d.AtSetting setting) (outcomes : CxOutcomes) :
    (d.both sdk engine outcomes).1.app ≠ d.app := by
  obtain ⟨flow, screen, ui, step⟩ := here
  have called : (switchStep setting).callback = some (.switch setting) := by cases setting <;> rfl
  intro same
  rw [BaglDevice.both, ui] at same
  dsimp only at same
  rw [step, Option.bind_some, called] at same
  dsimp only at same
  rw [Menu.run_switch] at same
  exact switch_ne _ setting (congrArg App.storage same)

namespace Follows

/-- An entry that amounts to one entry only. -/
theorem answers (follows : Follows sdk engine base past trace d history t)
    (run : Run (device sdk .bagl) history t) {pressed : BaglEvent} {output output' : Output}
    (stepped : (baglDevice sdk engine).step d pressed = some (d', output))
    (loud : ¬ amounting.silent ⟨d, pressed, output, d'⟩)
    (only : ∀ other, Amounts d pressed other → other = event)
    (moved : (device sdk .bagl).step t event = some (t', output'))
    (calm : CalmTaken ⟨t, event, output', t'⟩ history) :
    ∃ trace' d', Follows sdk engine base past trace' d' (⟨t, event, output', t'⟩ :: history) t' := by
  obtain ⟨up, transition⟩ := bagl_transition stepped
  have agrees := follows.agrees
  rcases transition.amounts up agrees (run_separate run) with
    ⟨silent, _⟩ | ⟨other, s, moved', amounts, agrees', ends⟩
  · exact absurd silent loud
  · cases only other amounts
    cases moved.symm.trans moved'
    exact ⟨_, _, follows.both screened_tells screened_shows stepped ⟨agrees, agrees', amounts, rfl⟩
      calm agrees' ends⟩

/-- **Every calm step can be followed.** -/
theorem step (follows : Follows sdk engine base past trace d history t)
    (run : Run (device sdk .bagl) history t) {output : Output}
    (moved : (device sdk .bagl).step t event = some (t', output))
    (calm : CalmTaken ⟨t, event, output, t'⟩ history) :
    ∃ trace' d', Follows sdk engine base past trace' d' (⟨t, event, output, t'⟩ :: history) t' := by
  have running := running_of_step moved
  have up := follows.running running
  cases event with
  | command cmd outcomes =>
      obtain ⟨_, stepped⟩ := @exists_step_command sdk engine _ _ follows.agrees
        (run_separate run) up cmd outcomes
      refine follows.answers run stepped ?_ ?_ moved calm
      · rintro ⟨_, _, ⟨_, other⟩ | ⟨_, other⟩⟩ <;> cases other
      · rintro _ ⟨⟩
        rfl
  | badLength =>
      refine follows.answers run (step_baglBadLength up) ?_ ?_ moved calm
      · rintro ⟨_, _, ⟨_, other⟩ | ⟨_, other⟩⟩ <;> cases other
      · rintro _ ⟨⟩
        rfl
  | decision approved outcomes =>
      obtain ⟨review, pending, offered⟩ := offered_of_step (run_separate run) moved
      obtain ⟨_, d', follows', decides⟩ := follows.toDecision run running pending offered
      refine follows'.answers run (step_baglBoth (follows'.running running) outcomes) ?_
        (fun _ => eq_decision decides) moved calm
      exact fun silent => both_answers decides outcomes silent.1
  | setting setting =>
      have pending := unreviewed_of_step (run_separate run) moved
      obtain ⟨_, d', follows', here⟩ := follows.toSetting running pending setting
      refine follows'.answers run (step_baglBoth (follows'.running running) .success) ?_
        (fun _ => eq_setting here) moved calm
      exact fun silent => both_switches here .success silent.2.1

end Follows

/-- **The device with two buttons follows the device.** -/
theorem baglFollowing (sdk : Sdk) (engine : FlowEngine) :
    Following sdk .bagl (onScreen sdk engine) where
  refines := baglDevice_refines sdk engine
  tells := screened_tells
  shows := screened_shows
  runs _ _ _ moved := (bagl_transition moved).1
  quiet := by
    rintro d event d' output moved silent ⟨screen, outcomes, ui, decides, rfl⟩
    have decides : d.decision = some true := by
      rw [BaglDevice.decision, ui]
      exact decides
    have both := (@step_baglBoth sdk engine _ (bagl_transition moved).1 outcomes).symm.trans moved
    refine @both_answers sdk engine _ _ decides outcomes ?_
    rw [Option.some.inj both]
    exact silent.1
  starts t starts := by
    obtain ⟨zero, pending, running⟩ := starts
    refine ⟨⟨t.app, .zero, .full, .menu .main (uiMenuMain engine t.app.storage .zero).screen, false⟩,
      ⟨zero, rfl, rfl⟩, ⟨rfl, fun _ => running, ?_⟩, rfl⟩
    rw [pending]
    exact .menu (Menu.valid_uiMenuMain engine _ _)
  steps _ _ _ _ _ _ _ _ _ follows run moved calm := Follows.step follows run moved calm

/-- **What the device does next, two buttons can do.** From whatever screen a calm run has
led to, every calm continuation of the device is one of the device with two buttons, up to
silent entries: no decision that a review offers and no setting is out of reach. -/
theorem bagl_follows (sdk : Sdk) (engine : FlowEngine) (run : Run (baglDevice sdk engine) trace d)
    (calm : Along screened.Calm trace) (running : d.ended = false) :
    ∃ history t, Run (device sdk .bagl) history t ∧ Agrees d t ∧ Paired amounting trace history ∧
      ∀ events newer' t', (device sdk .bagl).feed history t events = some (newer' ++ history, t') →
        Along CalmTaken (newer' ++ history) → ∃ newer d',
          Run (baglDevice sdk engine) (newer ++ trace) d' ∧ Along screened.Calm (newer ++ trace) ∧
          Agrees d' t' ∧ Paired amounting newer newer' :=
  (baglFollowing sdk engine).continues run calm running

/-- From the start, the presses that have the transfer signed. -/
theorem bagl_follows_transfer : ∃ trace d, Run (baglDevice .reference .reference) trace d ∧
    ∃ entry ∈ trace, ∃ signing, entry.output.signing = some signing := by
  obtain ⟨history, t, _, agrees, paired, next⟩ :=
    bagl_follows .reference .reference (run_baglAtStart .reference) trivial rfl
  have here : Device.atStart = t := by
    obtain ⟨app, pending, ended⟩ := t
    cases agrees.app
    cases agrees.ended rfl
    cases agrees.ui.of_menu.1
    rfl
  obtain ⟨events, newer', _, fed, calm, _, member, signing, signed⟩ := feed_signedTransfer .bagl
  cases paired
  rw [here, ← newer'.append_nil] at fed
  obtain ⟨newer, d, run, _, _, paired⟩ := next events _ _ fed (newer'.append_nil.symm ▸ calm)
  obtain ⟨entry, there, _, _, _, same⟩ := paired.mem member
  rw [newer.append_nil] at run
  exact ⟨newer, d, run, entry, there, signing, same ▸ signed⟩

end Bagl

end AppNeo3
