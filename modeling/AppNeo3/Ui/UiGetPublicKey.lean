import AppNeo3.App
import AppNeo3.Ui.Utils

/-!
# The review of an address

`ui_get_public_key.c`: the address of the stored public key is computed when the
review is opened. The key itself is read again when the review is approved.
-/

set_option autoImplicit false

namespace AppNeo3

open Memory CText

variable (sdk : Sdk) (outcomes : CxOutcomes)

/-- The text of the address of a key, as the review shows it. -/
def shownAddress (key : Area UInt8 pubkeyLen) : Area Char (addressLen + 1) :=
  snprintf (Area.fill _ nul) (text (scriptHashToAddress sdk (Area.fill addressLen nul)
    (publicKeyHash160 sdk (createSignatureRedeemScript key)).cells).cells)

/-- Zero the text shown, compute the address and print it over the text. -/
def uiDisplayAddress (app : App) : Handled :=
  if app.ctx.reqType ≠ .confirmAddress ∨ app.ctx.state ≠ .none then
    app.send { app.ctx with state := .none } .swBadState
  else
    match addressFromPubkey sdk outcomes app.ctx.rawPublicKey (Area.fill addressLen nul) with
    | none => none
    | some (converted, address) =>
        let zeroed := { app with gAddress := Area.fill _ nul }
        if !converted then zeroed.send app.ctx .swConvertToAddressFail
        else
          let shown := snprintf zeroed.gAddress (text address.cells)
          some ({ zeroed with gAddress := shown },
            .start (.address ⟨text shown.cells, app.ctx.rawPublicKey⟩))

/-- **The review shows the address of the stored key.** -/
theorem uiDisplayAddress_eq {app : App} (request : app.ctx.reqType = .confirmAddress)
    (state : app.ctx.state = .none) :
    uiDisplayAddress sdk outcomes app =
      if outcomes.hashesOk 4 then
        some ({ app with gAddress := shownAddress sdk app.ctx.rawPublicKey },
          .start (.address
            ⟨text (shownAddress sdk app.ctx.rawPublicKey).cells, app.ctx.rawPublicKey⟩))
      else none := by
  rw [uiDisplayAddress, if_neg (by rw [request, state]; decide), addressFromPubkey]
  cases outcomes.hashesOk 4 <;> rfl

end AppNeo3
