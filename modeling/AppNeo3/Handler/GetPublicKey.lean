import AppNeo3.Common.Bip44
import AppNeo3.Crypto
import AppNeo3.Ui.UiGetPublicKey

/-!
# The public key command

`get_public_key.c`: the context is wiped before the path is read. The results of
the derivation and of the key generation are not looked at.
-/

set_option autoImplicit false

namespace AppNeo3

open Memory

variable (sdk : Sdk) (outcomes : CxOutcomes)

/-- The context that a public key command starts from. -/
def GlobalCtx.forAddress : GlobalCtx := { GlobalCtx.zero with reqType := .confirmAddress }

/-- Store the public key of the path. -/
def storePublicKey (ctx : GlobalCtx) : GlobalCtx :=
  let key := (cryptoDerivePrivateKey sdk outcomes ctx.bip44Path).1
  ctx.setRawPublicKey (cryptoInitPublicKey sdk outcomes key ctx.rawPublicKey).1

def handlerGetPublicKey (cdata : Buffer) (showOnScreen : Bool) (app : App) : Handled :=
  match bufferReadAndValidateBip44 sdk cdata GlobalCtx.forAddress.bip44Path with
  | .fault => none
  | .ret status read => app.send { GlobalCtx.forAddress with bip44Path := read.path } status
  | .next () read =>
      let ctx := storePublicKey sdk outcomes { GlobalCtx.forAddress with bip44Path := read.path }
      let stored := { app with ctx := ctx }
      if showOnScreen then uiDisplayAddress sdk outcomes stored
      else some (stored, .send stored.sendResponsePubkey)

/-- The context once the public key of a path is stored. -/
def GlobalCtx.ofAddress (path : Bip44Path) : GlobalCtx :=
  storePublicKey sdk outcomes { GlobalCtx.forAddress with bip44Path := path }

theorem rawPublicKey_ofAddress (path : Bip44Path) :
    (GlobalCtx.ofAddress sdk outcomes path).rawPublicKey =
      (cryptoInitPublicKey sdk outcomes (cryptoDerivePrivateKey sdk outcomes path).1
        GlobalCtx.zero.rawPublicKey).1 :=
  GlobalCtx.rawPublicKey_setRawPublicKey _ _

variable {sdk}

/-- **What the command does once the path is accepted.** -/
theorem handlerGetPublicKey_of_accepted {data : List UInt8} {path : Bip44Path}
    (accepted : PathAccepted sdk data path) (showOnScreen : Bool) (app : App) :
    handlerGetPublicKey sdk outcomes (.ofBytes data) showOnScreen app =
      let stored : App := { app with ctx := GlobalCtx.ofAddress sdk outcomes path }
      if showOnScreen then
        if outcomes.hashesOk 4 then
          some ({ stored with gAddress := shownAddress sdk stored.ctx.rawPublicKey },
            .start (.address ⟨CText.text (shownAddress sdk stored.ctx.rawPublicKey).cells,
              stored.ctx.rawPublicKey⟩))
        else none
      else some (stored, .send stored.sendResponsePubkey) := by
  obtain ⟨read, rfl, run⟩ := accepted
  have zeroPath : GlobalCtx.forAddress.bip44Path = Vector.replicate _ 0 := rfl
  rw [handlerGetPublicKey, zeroPath, run]
  cases showOnScreen with
  | true =>
      exact @uiDisplayAddress_eq sdk outcomes
        { app with ctx := GlobalCtx.ofAddress sdk outcomes read.path } rfl rfl
  | false => rfl

end AppNeo3
