import AppNeo3.Apdu.Dispatcher
import AppNeo3.Foundation.Runs
import AppNeo3.Ui.Validate

/-!
# The device

`app_main` as a machine. Its events are the commands of the host, the decisions of
the user and the changes of the settings. A command may arrive while a review is on
the screen; a review is replaced by the next one that is opened. Settings are
changed from the menu, which is on the screen when no review is. What the
cryptographic functions answer comes with the event, so a run may meet any
combination of errors.
-/

set_option autoImplicit false

namespace AppNeo3

open Memory Runs

/-- The settings that the menu switches. -/
inductive Setting where
  | scriptsAllowed
  | showScriptHash
  | signerAccountFormat
deriving DecidableEq

/-- A switched setting. -/
def switched (value : UInt8) : UInt8 := if value = 0 then 1 else 0

def InternalStorage.switch (storage : InternalStorage) : Setting → InternalStorage
  | .scriptsAllowed => { storage with scriptsAllowed := switched storage.scriptsAllowed }
  | .showScriptHash => { storage with showScriptHash := switched storage.showScriptHash }
  | .signerAccountFormat =>
      { storage with signerAccountFormat := switched storage.signerAccountFormat }

/-- The data of the application, the review on the screen, and whether the
application has ended. -/
structure Device where
  app : App
  pending : Option Review
  ended : Bool
deriving DecidableEq

inductive Event where
  | command (cmd : Command) (outcomes : CxOutcomes)
  /-- Bytes that the SDK does not parse as a command. -/
  | badLength
  | decision (approved : Bool) (outcomes : CxOutcomes)
  | setting (setting : Setting)

/-- What an event brings about: the answer, if any, and the signature made. -/
structure Output where
  answer : Option Answer
  signing : Option Signing
deriving DecidableEq

variable (sdk : Sdk) (build : Build)

namespace Device

variable (device : Device)

/-- What becomes of a handled command. -/
def afterCommand : Handled → Device × Output
  | none => ({ device with ended := true }, ⟨none, none⟩)
  | some (app, .send reply) => ({ device with app := app }, ⟨some (.send reply), none⟩)
  | some (app, .start review) =>
      ({ device with app := app, pending := some review }, ⟨some (.start review), none⟩)

/-- The review ends and the menu is shown. -/
def afterDecision (app : App) (reply : Reply) (signing : Option Signing) : Device × Output :=
  ({ device with app := app, pending := none }, ⟨some (.send reply), signing⟩)

/-- The decision of the user. A screen without approval can only be refused. -/
def decide (approved : Bool) (outcomes : CxOutcomes) : Option (Device × Output) :=
  match device.pending with
  | none => none
  | some (.address _) =>
      some (device.afterDecision device.app (uiActionValidatePubkey approved device.app) none)
  | some (.transaction review) =>
      if approved && !review.screen.approvable then none
      else
        let validated := uiActionValidateTransaction sdk outcomes approved device.app
        some (device.afterDecision validated.1 validated.2.1 validated.2.2)

/-- Switch a setting, from the menu. -/
def setSetting (setting : Setting) : Option (Device × Output) :=
  match device.pending with
  | some _ => none
  | none =>
      some ({ device with app :=
        { device.app with storage := device.app.storage.switch setting } }, ⟨none, none⟩)

/-- Take an event. -/
def step (event : Event) : Option (Device × Output) :=
  if device.ended then none
  else
    match event with
    | .command cmd outcomes =>
        some (device.afterCommand (apduDispatcher sdk build outcomes cmd device.app))
    | .badLength => some (device, ⟨some (.send (.ofSw .swoWrongDataLength)), none⟩)
    | .decision approved outcomes => device.decide sdk approved outcomes
    | .setting setting => device.setSetting setting

end Device

/-- The device as a machine. At the start the context is zeroed and the menu is
shown. -/
def device : Machine Device Event Output where
  starts device := device.app.ctx = .zero ∧ device.pending = none ∧ device.ended = false
  step device event := device.step sdk build event

/-- The histories of the device. -/
abbrev History : Type := List (Entry Device Event Output)

end AppNeo3
