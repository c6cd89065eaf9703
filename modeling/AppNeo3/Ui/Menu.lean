import AppNeo3.Device
import AppNeo3.Ui.AddressFlow

/-!
# The menu

`menu.c`: the menu is on the screen when no review is. On the devices with buttons it is
three flows; the texts of the settings are written to buffers when their flow is opened,
and again after each switch. On the devices with touch screens it is one page of
switches; their states are read from the storage when the page is built, and the SDK
reports a touch by the token of the switch.
-/

set_option autoImplicit false

namespace AppNeo3

open Memory

/-- The value of a setting. -/
def settingOf (storage : InternalStorage) : Setting → UInt8
  | .scriptsAllowed => storage.scriptsAllowed
  | .showScriptHash => storage.showScriptHash
  | .signerAccountFormat => storage.signerAccountFormat

theorem settingOf_switch (storage : InternalStorage) (setting other : Setting) :
    settingOf (storage.switch setting) other =
      if other = setting then switched (settingOf storage setting) else settingOf storage other := by
  cases setting <;> cases other <;> rfl

/-- A switched setting has another value. -/
theorem switch_ne (storage : InternalStorage) (setting : Setting) :
    storage.switch setting ≠ storage := by
  intro same
  have value := settingOf_switch storage setting setting
  rw [same, if_pos rfl, switched] at value
  split at value
  · rename_i zero
    rw [zero] at value
    cases value
  · exact absurd value ‹_›

namespace Bagl

/-! ## The texts of the settings -/

/-- `settings_strings_t`. -/
structure SettingsStrings where
  scriptsAllowed : Area Char 12
  showScriptHash : Area Char 6
  signerAccountFormat : Area Char 12
deriving DecidableEq

def SettingsStrings.zero : SettingsStrings :=
  ⟨Area.fill _ CText.nul, Area.fill _ CText.nul, Area.fill _ CText.nul⟩

/-- The text in the buffer of a setting. -/
def SettingsStrings.shown (strings : SettingsStrings) : Setting → List Char
  | .scriptsAllowed => CText.text strings.scriptsAllowed.cells
  | .showScriptHash => CText.text strings.showScriptHash.cells
  | .signerAccountFormat => CText.text strings.signerAccountFormat.cells

/-- The texts for a setting that is on and for one that is off. -/
def settingText : Setting → Bool → List Char
  | .scriptsAllowed, on => (if on then "Allowed" else "NOT Allowed").toList
  | .showScriptHash, on => (if on then "Show" else "Hide").toList
  | .signerAccountFormat, on => (if on then "NEO address" else "Script Hash").toList

/-- The text for the value of a setting. -/
def settingShown (storage : InternalStorage) (setting : Setting) : List Char :=
  settingText setting (settingOf storage setting != 0)

/-- The texts that `display_settings` writes. -/
def displaySettings (storage : InternalStorage) (strings : SettingsStrings) : SettingsStrings where
  scriptsAllowed := CText.strlcpy strings.scriptsAllowed (settingShown storage .scriptsAllowed)
  showScriptHash := CText.strlcpy strings.showScriptHash (settingShown storage .showScriptHash)
  signerAccountFormat :=
    CText.strlcpy strings.signerAccountFormat (settingShown storage .signerAccountFormat)

/-- **Every text fits its buffer**: the texts are shown as they are meant. -/
theorem shown_displaySettings (storage : InternalStorage) (strings : SettingsStrings)
    (setting : Setting) :
    (displaySettings storage strings).shown setting = settingShown storage setting := by
  have fits : ∀ on, (settingText setting on).length < 12 ∧ CText.nul ∉ settingText setting on ∧
      (setting = .showScriptHash → (settingText setting on).length < 6) := by
    cases setting <;> decide
  obtain ⟨short, clean, shorter⟩ := fits (settingOf storage setting != 0)
  cases setting with
  | scriptsAllowed => exact CText.text_strlcpy short clean
  | showScriptHash => exact CText.text_strlcpy (shorter rfl) clean
  | signerAccountFormat => exact CText.text_strlcpy short clean

/-! ## The flows -/

/-- The steps of the menu. -/
inductive MenuStep where
  | ready
  | version
  | settings
  | about
  | exit
  | contractScripts
  | displayScript
  | signerDisplayFormat
  | settingsBack
  | info
  | back
deriving DecidableEq

/-- The three flows of the menu. -/
inductive MenuFlow where
  | main
  | settings
  | about
deriving DecidableEq

def MenuFlow.steps : MenuFlow → List MenuStep
  | .main => [.ready, .version, .settings, .about, .exit]
  | .settings => [.contractScripts, .displayScript, .signerDisplayFormat, .settingsBack]
  | .about => [.info, .back]

/-- Whether the flow ends with `FLOW_LOOP`. -/
def MenuFlow.loops : MenuFlow → Bool
  | .settings => false
  | _ => true

/-- What a step shows. The step `info` has a second line below the name, a notice that is
left out here. -/
def MenuStep.layout (strings : SettingsStrings) : MenuStep → Layout
  | .ready => .lines ["Wake up NEO..".toList]
  | .version => .lines ["Version".toList, "0.6.1".toList]
  | .settings => .button "Settings".toList
  | .about => .button "About".toList
  | .exit => .button "Quit".toList
  | .contractScripts =>
      .lines ["Contract scripts".toList, "Allow contract scripts".toList, "in transactions".toList,
        strings.shown .scriptsAllowed]
  | .displayScript =>
      .lines ["Transaction script".toList, "Display script hash".toList, "in transactions".toList,
        strings.shown .showScriptHash]
  | .signerDisplayFormat =>
      .lines ["Signer account".toList, "Show as".toList, strings.shown .signerAccountFormat]
  | .settingsBack => .button "Back".toList
  | .info => .lines ["NEO N3 App".toList]
  | .back => .button "Back".toList

def MenuFlow.plain (strings : SettingsStrings) (flow : MenuFlow) : PlainFlow :=
  ⟨flow.steps.map (MenuStep.layout strings), flow.loops⟩

/-! ## The callbacks -/

/-- What both buttons do at a step. -/
inductive MenuAction where
  /-- `ui_menu_main`. -/
  | main
  | about
  /-- `display_settings`, without a start step. -/
  | settings
  | switch (setting : Setting)
  | exit
deriving DecidableEq

def MenuStep.callback : MenuStep → Option MenuAction
  | .settings => some .settings
  | .about => some .about
  | .exit => some .exit
  | .contractScripts => some (.switch .scriptsAllowed)
  | .displayScript => some (.switch .showScriptHash)
  | .signerDisplayFormat => some (.switch .signerAccountFormat)
  | .settingsBack | .back => some .main
  | _ => none

/-- The step that switches a setting, from which the flow is shown again. -/
def switchStep : Setting → MenuStep
  | .scriptsAllowed => .contractScripts
  | .showScriptHash => .displayScript
  | .signerAccountFormat => .signerDisplayFormat

/-- Only the step of a setting switches it. -/
theorem eq_switchStep {step : MenuStep} {setting : Setting}
    (called : step.callback = some (.switch setting)) : step = switchStep setting := by
  cases step <;> cases called <;> rfl

/-- What the menu keeps: the settings, their texts and the flow on the screen. -/
structure Menu where
  storage : InternalStorage
  strings : SettingsStrings
  flow : MenuFlow
  screen : PlainState
deriving DecidableEq

section Actions

variable (engine : FlowEngine)

/-- Show a flow of the menu at a position. No step of the menu has further pages. -/
def showMenu (storage : InternalStorage) (strings : SettingsStrings) (flow : MenuFlow)
    (position : FlowPosition) : Menu :=
  ⟨storage, strings, flow, ⟨position, 0⟩⟩

def uiMenuMain (storage : InternalStorage) (strings : SettingsStrings) : Menu :=
  showMenu storage strings .main engine.start

def uiMenuAbout (storage : InternalStorage) (strings : SettingsStrings) : Menu :=
  showMenu storage strings .about engine.start

/-- Write the texts and show the flow of the settings. -/
def showSettings (storage : InternalStorage) (strings : SettingsStrings) (position : FlowPosition) :
    Menu :=
  showMenu storage (displaySettings storage strings) .settings position

/-- Write the other value and show the settings again, from the step of the setting. -/
def switchSettings (setting : Setting) (storage : InternalStorage) (strings : SettingsStrings) :
    Menu :=
  showSettings (storage.switch setting) strings
    (engine.startAt (MenuFlow.settings.steps.idxOf (switchStep setting)))

def switchSettingsContractScripts : InternalStorage → SettingsStrings → Menu :=
  switchSettings engine .scriptsAllowed

def switchSettingsDisplayScript : InternalStorage → SettingsStrings → Menu :=
  switchSettings engine .showScriptHash

def switchSettingsSignerDisplayFormat : InternalStorage → SettingsStrings → Menu :=
  switchSettings engine .signerAccountFormat

/-- Run a callback. Quitting leaves no menu. -/
def MenuAction.run (storage : InternalStorage) (strings : SettingsStrings) :
    MenuAction → Option Menu
  | .main => some (uiMenuMain engine storage strings)
  | .about => some (uiMenuAbout engine storage strings)
  | .settings => some (showSettings storage strings engine.start)
  | .switch .scriptsAllowed => some (switchSettingsContractScripts engine storage strings)
  | .switch .showScriptHash => some (switchSettingsDisplayScript engine storage strings)
  | .switch .signerAccountFormat =>
      some (switchSettingsSignerDisplayFormat engine storage strings)
  | .exit => none

end Actions

namespace Menu

variable {engine : FlowEngine} (menu : Menu)

/-- The step on the screen. -/
def step : Option MenuStep := menu.flow.steps[menu.screen.position.index]?

/-- What the screen shows. -/
def layout : Option Layout := menu.step.map (MenuStep.layout menu.strings)

/-- Press a button. -/
def press (engine : FlowEngine) (button : Button) : Option Menu :=
  ((menu.flow.plain menu.strings).press engine button menu.screen).map fun screen =>
    { menu with screen := screen }

/-- The menu shows one of its steps, and on the flow of the settings their texts are
those of the stored values. -/
structure Valid : Prop where
  inside : (menu.flow.plain menu.strings).Inside menu.screen
  texts : menu.flow = .settings →
    ∀ setting, menu.strings.shown setting = settingShown menu.storage setting

variable {menu}

/-- A flow of the menu that has just been opened. -/
theorem valid_showMenu {storage : InternalStorage} {strings : SettingsStrings} {flow : MenuFlow}
    {position : FlowPosition} (inside : position.index < flow.steps.length)
    (texts : flow = .settings → ∀ setting, strings.shown setting = settingShown storage setting) :
    (showMenu storage strings flow position).Valid := by
  refine ⟨?_, texts⟩
  show position.index < (flow.steps.map _).length
  rwa [List.length_map]

theorem valid_uiMenuMain (engine : FlowEngine) (storage : InternalStorage)
    (strings : SettingsStrings) : (uiMenuMain engine storage strings).Valid := by
  refine valid_showMenu ?_ nofun
  rw [engine.start_eq]
  decide

theorem valid_showSettings {storage : InternalStorage} {strings : SettingsStrings}
    {position : FlowPosition} (inside : position.index < 4) :
    (showSettings storage strings position).Valid :=
  valid_showMenu inside fun _ setting => shown_displaySettings storage strings setting

theorem valid_switchSettings (engine : FlowEngine) (setting : Setting) (storage : InternalStorage)
    (strings : SettingsStrings) : (switchSettings engine setting storage strings).Valid := by
  refine valid_showSettings ?_
  rw [engine.startAt_eq]
  cases setting <;> decide

/-- A switch leaves its step on the screen. -/
theorem step_switchSettings (engine : FlowEngine) (setting : Setting) (storage : InternalStorage)
    (strings : SettingsStrings) :
    (switchSettings engine setting storage strings).step = some (switchStep setting) := by
  show MenuFlow.settings.steps[(engine.startAt _).index]? = _
  rw [engine.startAt_eq]
  cases setting <;> rfl

theorem run_switch (engine : FlowEngine) (setting : Setting) (storage : InternalStorage)
    (strings : SettingsStrings) : (MenuAction.switch setting).run engine storage strings =
      some (switchSettings engine setting storage strings) := by
  cases setting <;> rfl

/-- **What a callback does**: it changes the storage by the switch that it is for, if it
is for one, and leaves a menu that shows what is stored. -/
theorem run_spec {storage : InternalStorage} {strings : SettingsStrings} {action : MenuAction}
    {menu' : Menu} (ran : action.run engine storage strings = some menu') :
    menu'.Valid ∧ ((∃ setting, action = .switch setting ∧ menu'.storage = storage.switch setting) ∨
      (∀ setting, action ≠ .switch setting) ∧ menu'.storage = storage) := by
  have switched : ∀ setting, (switchSettings engine setting storage strings).storage =
      storage.switch setting := fun _ => rfl
  cases action with
  | main =>
      cases ran
      exact ⟨valid_uiMenuMain engine storage strings, .inr ⟨nofun, rfl⟩⟩
  | about =>
      cases ran
      refine ⟨valid_showMenu ?_ nofun, .inr ⟨nofun, rfl⟩⟩
      rw [engine.start_eq]
      decide
  | settings =>
      cases ran
      refine ⟨valid_showSettings ?_, .inr ⟨nofun, rfl⟩⟩
      rw [engine.start_eq]
      decide
  | switch setting =>
      cases (run_switch engine setting storage strings).symm.trans ran
      exact ⟨valid_switchSettings engine setting storage strings,
        .inl ⟨setting, rfl, switched setting⟩⟩
  | exit => cases ran

/-- **No press fails in the menu**, and it leaves the settings alone. -/
theorem press_spec (button : Button) (valid : menu.Valid) :
    ∃ menu', menu.press engine button = some menu' ∧ menu'.Valid ∧
      menu'.storage = menu.storage ∧ menu'.strings = menu.strings ∧ menu'.flow = menu.flow := by
  obtain ⟨screen, pressed, inside⟩ := @PlainFlow.press_of_inside engine _ button _ valid.inside
  refine ⟨{ menu with screen := screen }, ?_, ⟨inside, valid.texts⟩, rfl, rfl, rfl⟩
  rw [press, pressed]
  rfl

/-- **The flow of the settings shows what is stored.** -/
theorem layout_of_switch (valid : menu.Valid) {setting : Setting}
    (here : menu.step = some (switchStep setting)) :
    ∃ texts, menu.layout = some (.lines (texts ++ [settingShown menu.storage setting])) := by
  have settings : menu.flow = .settings := by
    have member := List.mem_of_getElem? here
    cases flow : menu.flow with
    | settings => rfl
    | main =>
        rw [flow] at member
        cases setting <;> cases member <;> contradiction
    | about =>
        rw [flow] at member
        cases setting <;> cases member <;> contradiction
  rw [layout, here, ← valid.texts settings]
  cases setting with
  | scriptsAllowed =>
      exact ⟨["Contract scripts".toList, "Allow contract scripts".toList, "in transactions".toList],
        rfl⟩
  | showScriptHash =>
      exact ⟨["Transaction script".toList, "Display script hash".toList, "in transactions".toList],
        rfl⟩
  | signerAccountFormat => exact ⟨["Signer account".toList, "Show as".toList], rfl⟩

end Menu

end Bagl

namespace Nbgl

/-! ## The switches -/

/-- `nbgl_contentSwitch_t`. -/
structure ContentSwitch where
  text : String
  subText : String
  token : Nat
  initState : Bool
deriving DecidableEq

/-- The switches of the page of the settings. -/
abbrev Switches : Type := Vector ContentSwitch 3

/-- The place of a setting among the switches. -/
def switchIndex : Setting → Fin 3
  | .scriptsAllowed => 0
  | .showScriptHash => 1
  | .signerAccountFormat => 2

/-- Store a byte as a setting. -/
def nvmWrite (storage : InternalStorage) (value : UInt8) : Setting → InternalStorage
  | .scriptsAllowed => { storage with scriptsAllowed := value }
  | .showScriptHash => { storage with showScriptHash := value }
  | .signerAccountFormat => { storage with signerAccountFormat := value }

section Tokens

-- `FIRST_USER_TOKEN` of the SDK
variable (firstUserToken : Nat)

/-- The setting that a token stands for. -/
def settingOfToken (token : Nat) : Option Setting :=
  if token = firstUserToken then some .scriptsAllowed
  else if token = firstUserToken + 1 then some .showScriptHash
  else if token = firstUserToken + 2 then some .signerAccountFormat
  else none

/-- Every setting has a token. -/
theorem exists_token (setting : Setting) :
    ∃ token, settingOfToken firstUserToken token = some setting := by
  cases setting with
  | scriptsAllowed => exact ⟨firstUserToken, if_pos rfl⟩
  | showScriptHash => exact ⟨firstUserToken + 1, by simp [settingOfToken]⟩
  | signerAccountFormat => exact ⟨firstUserToken + 2, by simp [settingOfToken]⟩

/-- The switches in given states. -/
def switchesOf (on : Setting → Bool) : Switches :=
  #v[⟨"Contract scripts", "Allow contract scripts", firstUserToken, on .scriptsAllowed⟩,
    ⟨"Transaction script", "Display SHA256 of transaction script", firstUserToken + 1,
      on .showScriptHash⟩,
    ⟨"Signer account field", "Show as NEO address (default: as script hash)", firstUserToken + 2,
      on .signerAccountFormat⟩]

/-- The switches as `ui_menu_settings` fills them. -/
def uiMenuSettings (storage : InternalStorage) : Switches :=
  switchesOf firstUserToken fun setting => settingOf storage setting != 0

/-- Turn a switch over and store what it then says. Another token does nothing. -/
def controlsCallback (token : Nat) (switches : Switches) (storage : InternalStorage) :
    Switches × InternalStorage :=
  match settingOfToken firstUserToken token with
  | none => (switches, storage)
  | some setting =>
      let item := switches[switchIndex setting]
      let turned := { item with initState := !item.initState }
      (switches.set (switchIndex setting) turned,
        nvmWrite storage (if turned.initState then 1 else 0) setting)

theorem initState_switchesOf (on : Setting → Bool) (setting : Setting) :
    (switchesOf firstUserToken on)[switchIndex setting].initState = on setting := by
  cases setting <;> rfl

theorem set_switchesOf (on : Setting → Bool) (setting : Setting) (value : Bool) :
    (switchesOf firstUserToken on).set (switchIndex setting)
        { (switchesOf firstUserToken on)[switchIndex setting] with initState := value } =
      switchesOf firstUserToken (Function.update on setting value) := by
  cases setting <;> rfl

/-- The other value, as it is stored and as it is shown. -/
theorem turned_value (value : UInt8) :
    (if !(value != 0) then 1 else 0) = switched value ∧
      (!(value != 0)) = (switched value != 0) := by
  by_cases zero : value = 0
  · subst zero
    exact ⟨rfl, rfl⟩
  · have other : (value != 0) = true := bne_iff_ne.mpr zero
    rw [switched, if_neg zero, other]
    exact ⟨rfl, rfl⟩

/-- **Turning a switch over switches its setting**, when the switches show what is
stored. -/
theorem controlsCallback_eq (token : Nat) (storage : InternalStorage) :
    controlsCallback firstUserToken token (uiMenuSettings firstUserToken storage) storage =
      match settingOfToken firstUserToken token with
      | none => (uiMenuSettings firstUserToken storage, storage)
      | some setting =>
          (uiMenuSettings firstUserToken (storage.switch setting), storage.switch setting) := by
  rw [controlsCallback]
  cases settingOfToken firstUserToken token with
  | none => rfl
  | some setting =>
      obtain ⟨stored, shown⟩ := turned_value (settingOf storage setting)
      dsimp only
      rw [uiMenuSettings, initState_switchesOf, set_switchesOf, stored]
      have states : Function.update (fun setting => settingOf storage setting != 0) setting
          (!(settingOf storage setting != 0)) =
          fun other => settingOf (storage.switch setting) other != 0 := by
        funext other
        rw [settingOf_switch, Function.update_apply, shown]
        split <;> rfl
      rw [states]
      cases setting <;> rfl

end Tokens

end Nbgl

end AppNeo3
