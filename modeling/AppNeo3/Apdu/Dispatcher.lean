import AppNeo3.Handler.GetPublicKey
import AppNeo3.Handler.SignTx

/-!
# Dispatching commands

`dispatcher.c`: the class, the instruction and the parameters of a command decide
which handler it reaches, or with which status word it is refused. A refused
command does not touch the context.
-/

set_option autoImplicit false

namespace AppNeo3

/-- `command_t`. A command without data has no data pointer. -/
structure Command where
  cla : UInt8
  ins : UInt8
  p1 : UInt8
  p2 : UInt8
  data : Option (List UInt8)
  data_le : ∀ bytes, data = some bytes → 0 < bytes.length ∧ bytes.length ≤ 255

/-- `command_e`. -/
inductive Instruction where
  | getAppName
  | getVersion
  | signTx
  | getPublicKey
deriving DecidableEq

def Instruction.code : Instruction → UInt8
  | .getAppName => 0x00
  | .getVersion => 0x01
  | .signTx => 0x02
  | .getPublicKey => 0x04

/-- The handler that a command reaches, with what it is given. -/
inductive Route where
  | refused (sw : StatusWord)
  | getVersion
  | getAppName
  | getPublicKey (data : List UInt8) (showOnScreen : Bool)
  | signTx (data : List UInt8) (chunk : UInt8) (more : Bool)
deriving DecidableEq

/-- The checks of `apdu_dispatcher`. -/
def Command.route (cmd : Command) : Route :=
  if cmd.cla ≠ AppNeo3.cla then .refused .swoInvalidCla
  else if cmd.ins = Instruction.getVersion.code then
    if cmd.p1 ≠ 0 ∨ cmd.p2 ≠ 0 then .refused .swoIncorrectP1P2 else .getVersion
  else if cmd.ins = Instruction.getAppName.code then
    if cmd.p1 ≠ 0 ∨ cmd.p2 ≠ 0 then .refused .swoIncorrectP1P2 else .getAppName
  else if cmd.ins = Instruction.getPublicKey.code then
    if cmd.p1 > 0 ∨ cmd.p2 > 1 then .refused .swoIncorrectP1P2
    else
      match cmd.data with
      | none => .refused .swoWrongDataLength
      | some data => .getPublicKey data (cmd.p2 != 0)
  else if cmd.ins = Instruction.signTx.code then
    if (cmd.p1 = p1Start ∧ cmd.p2 ≠ p2More) ∨ cmd.p1 > p1Max ∨
        (cmd.p2 ≠ p2Last ∧ cmd.p2 ≠ p2More) then .refused .swoIncorrectP1P2
    else
      match cmd.data with
      | none => .refused .swoWrongDataLength
      | some data => .signTx data cmd.p1 (cmd.p2 &&& p2More != 0)
  else .refused .swoInvalidIns

/-! ## The commands of a host -/

/-- A chunk of a signing session. -/
def Command.signTx (chunk : UInt8) (more : Bool) (data : List UInt8)
    (size : 0 < data.length ∧ data.length ≤ 255) : Command where
  cla := AppNeo3.cla
  ins := Instruction.signTx.code
  p1 := chunk
  p2 := if more then p2More else p2Last
  data := some data
  data_le := fun _ same => Option.some.inj same ▸ size

/-- A request for a public key. -/
def Command.getPublicKey (showOnScreen : Bool) (data : List UInt8)
    (size : 0 < data.length ∧ data.length ≤ 255) : Command where
  cla := AppNeo3.cla
  ins := Instruction.getPublicKey.code
  p1 := 0
  p2 := if showOnScreen then 1 else 0
  data := some data
  data_le := fun _ same => Option.some.inj same ▸ size

theorem Command.route_signTx {chunk : UInt8} {more : Bool} {data : List UInt8}
    {size : 0 < data.length ∧ data.length ≤ 255} (known : chunk ≤ p1Max)
    (first : chunk = p1Start → more = true) :
    (Command.signTx chunk more data size).route = .signTx data chunk more := by
  have inRange : ¬ chunk > p1Max := UInt8.not_lt.mpr known
  cases more with
  | true => simp [Command.route, Command.signTx, Instruction.code, inRange, p2More, p2Last]
  | false =>
      have later : chunk ≠ p1Start := fun same => nomatch first same
      simp [Command.route, Command.signTx, Instruction.code, inRange, later, p2More, p2Last]

theorem Command.route_getPublicKey {showOnScreen : Bool} {data : List UInt8}
    {size : 0 < data.length ∧ data.length ≤ 255} :
    (Command.getPublicKey showOnScreen data size).route = .getPublicKey data showOnScreen := by
  cases showOnScreen <;> simp [Command.route, Command.getPublicKey, Instruction.code]

/-- The version of the application. -/
def appVersion : List UInt8 := [0, 6, 1]

/-- The name of the application. -/
def appName : List UInt8 := "NEO N3".toList.map fun c => UInt8.ofNat c.toNat

variable (sdk : Sdk) (build : Build) (outcomes : CxOutcomes)

/-- Call the handler of a route. -/
def handle (app : App) : Route → Handled
  | .refused sw => app.send app.ctx sw
  | .getVersion => some (app, .send ⟨appVersion, .swoSuccess⟩)
  | .getAppName => some (app, .send ⟨appName, .swoSuccess⟩)
  | .getPublicKey data showOnScreen =>
      handlerGetPublicKey sdk outcomes (.ofBytes data) showOnScreen app
  | .signTx data chunk more => handlerSignTx sdk build outcomes app (.ofBytes data) chunk more

def apduDispatcher (cmd : Command) (app : App) : Handled :=
  handle sdk build outcomes app cmd.route

end AppNeo3
