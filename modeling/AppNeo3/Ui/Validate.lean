import AppNeo3.App
import AppNeo3.Crypto

/-!
# The decision of the user

`validate.c`: the callbacks of both reviews. They work on the context as it is
when the user decides, and do not look at its state.
-/

set_option autoImplicit false

namespace AppNeo3

variable (sdk : Sdk) (outcomes : CxOutcomes) (approved : Bool) (app : App)

def uiActionValidatePubkey : Reply :=
  if approved then app.sendResponsePubkey else .ofSw .swoConditionsNotSatisfied

/-- Sign and answer with the signature. -/
def approveTransaction : App × Reply × Option Signing :=
  let signed := cryptoSignTx sdk outcomes { app.ctx with state := .approved }
  if signed.2.1 < 0 then
    ({ app with ctx := { signed.1 with state := .none } }, .ofSw .swSignFail, signed.2.2)
  else ({ app with ctx := signed.1 }, ⟨signed.1.txInfo.signatureBytes, .swoSuccess⟩, signed.2.2)

def uiActionValidateTransaction : App × Reply × Option Signing :=
  if approved then approveTransaction sdk outcomes app
  else
    ({ app with ctx := { app.ctx with state := .none } }, .ofSw .swoConditionsNotSatisfied, none)

/-- **An approval answers with a signature when the hash and the signature
succeed.** -/
theorem approveTransaction_of_signs (signs : outcomes.signs = true) :
    ∃ app', approveTransaction sdk outcomes app = (app',
      ⟨sdk.cxEcdsaSign (cryptoDerivePrivateKey sdk outcomes app.ctx.bip44Path).1
        (sdk.digest app.ctx), .swoSuccess⟩,
      some ⟨(cryptoDerivePrivateKey sdk outcomes app.ctx.bip44Path).1, sdk.digest app.ctx⟩) := by
  have run := cryptoSignTx_of_signs sdk outcomes signs { app.ctx with state := .approved }
  rw [approveTransaction, run, if_neg (Int.lt_irrefl 0), signatureBytes_setSignature]
  exact ⟨_, rfl⟩

theorem approveTransaction_of_not (fails : outcomes.signs = false) :
    ∃ app', approveTransaction sdk outcomes app = (app', .ofSw .swSignFail, none) := by
  have result := cryptoSignTx_of_not sdk outcomes fails { app.ctx with state := .approved }
  rw [approveTransaction, result, if_pos (by decide)]
  exact ⟨_, rfl⟩

end AppNeo3
