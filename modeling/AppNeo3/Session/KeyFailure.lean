import AppNeo3.Apdu.Dispatcher
import AppNeo3.Ui.Validate

/-!
# Failed derivations

A command fails closed when it yields a key, an address or a signature only after
all calls for it have succeeded, and refuses otherwise. The two handlers that
derive keys do not look at the result of the derivation, so they fail closed
exactly when no call fails that they do not look at, or when they yield nothing
for another reason (`failsClosed_iff`).
-/

set_option autoImplicit false

namespace AppNeo3

open Memory CBody

/-- The handler yields a success or a review. -/
def Handled.yields : Handled → Prop
  | some (_, .send reply) => reply.sw = .swoSuccess
  | some (_, .start _) => True
  | none => False

/-- Every answer is an error status without data. -/
def Handled.refuses : Handled → Prop
  | some (_, .send reply) => reply.sw ≠ .swoSuccess ∧ reply.data = []
  | some (_, .start _) => False
  | none => True

/-- The handler yields nothing unless all calls have succeeded, and then refuses. -/
structure FailsClosed (succeeded : Bool) (handled : Handled) : Prop where
  yields : handled.yields → succeeded = true
  refuses : succeeded = false → handled.refuses

theorem FailsClosed.iff_of_yields {succeeded : Bool} {handled : Handled}
    (yields : handled.yields) : FailsClosed succeeded handled ↔ succeeded = true := by
  constructor
  · exact fun closed => closed.yields yields
  · rintro rfl
    exact ⟨fun _ => rfl, fun fails => absurd fails (by decide)⟩

theorem FailsClosed.of_refuses {succeeded : Bool} {handled : Handled} (refuses : handled.refuses)
    (never : ¬ handled.yields) : FailsClosed succeeded handled :=
  ⟨fun yields => absurd yields never, fun _ => refuses⟩

/-- Whether the generation of a public key succeeds. -/
def CxOutcomes.generates (outcomes : CxOutcomes) : Bool := outcomes.cxEcfpGeneratePair == cxOk

variable {sdk : Sdk} {outcomes : CxOutcomes}

/-- **The public key command fails closed exactly when no derivation fails, or when
the address cannot be computed and the application ends.** -/
theorem failsClosed_getPublicKey {data : List UInt8} {path : Bip44Path}
    (accepted : PathAccepted sdk data path) (showOnScreen : Bool) (app : App) :
    FailsClosed (outcomes.derives && outcomes.generates)
        (handlerGetPublicKey sdk outcomes (.ofBytes data) showOnScreen app) ↔
      (outcomes.derives && outcomes.generates) = true ∨
        showOnScreen = true ∧ outcomes.hashesOk 4 = false := by
  rw [handlerGetPublicKey_of_accepted outcomes accepted]
  let stored : App := { app with ctx := GlobalCtx.ofAddress sdk outcomes path }
  let shown : Area Char (addressLen + 1) := shownAddress sdk stored.ctx.rawPublicKey
  let review : AddressReview := ⟨CText.text shown.cells, stored.ctx.rawPublicKey⟩
  cases showOnScreen with
  | false =>
      have yields : Handled.yields (some (stored, .send stored.sendResponsePubkey)) := rfl
      rw [if_neg Bool.false_ne_true, FailsClosed.iff_of_yields yields]
      simp
  | true =>
      rw [if_pos rfl]
      cases outcomes.hashesOk 4 with
      | true =>
          have yields : Handled.yields
            (some ({ stored with gAddress := shown }, .start (.address review))) := trivial
          rw [if_pos rfl, FailsClosed.iff_of_yields yields]
          simp
      | false =>
          rw [if_neg Bool.false_ne_true]
          exact iff_of_true (.of_refuses trivial id) (.inr ⟨rfl, rfl⟩)

/-- The result of an approval as that of a handler. -/
def approvalHandled (sdk : Sdk) (outcomes : CxOutcomes) (app : App) : Handled :=
  let validated := uiActionValidateTransaction sdk outcomes true app
  some (validated.1, .send validated.2.1)

/-- **An approval fails closed exactly when the derivation succeeds, or when the
hash or the signature fails.** -/
theorem failsClosed_approval (app : App) :
    FailsClosed (outcomes.derives && outcomes.signs) (approvalHandled sdk outcomes app) ↔
      outcomes.derives = true ∨ outcomes.signs = false := by
  rw [approvalHandled, uiActionValidateTransaction, if_pos rfl]
  cases signs : outcomes.signs with
  | true =>
      obtain ⟨app', approved⟩ := approveTransaction_of_signs sdk outcomes app signs
      have yields : ∀ data, Handled.yields (some (app', .send ⟨data, .swoSuccess⟩)) :=
        fun _ => rfl
      rw [approved, Bool.and_true, FailsClosed.iff_of_yields (yields _)]
      simp
  | false =>
      obtain ⟨app', refused⟩ := approveTransaction_of_not sdk outcomes app signs
      have failed : StatusWord.swSignFail ≠ .swoSuccess := nofun
      rw [refused]
      exact iff_of_true (.of_refuses ⟨failed, rfl⟩ failed) (.inr rfl)

/-- **When a failed derivation never yields a success.** -/
theorem failsClosed_iff (sdk : Sdk) (outcomes : CxOutcomes) {data : List UInt8}
    {path : Bip44Path} (accepted : PathAccepted sdk data path) :
    (∀ (showOnScreen : Bool) (app : App),
      FailsClosed (outcomes.derives && outcomes.generates)
          (handlerGetPublicKey sdk outcomes (.ofBytes data) showOnScreen app) ↔
        (outcomes.derives && outcomes.generates) = true ∨
          showOnScreen = true ∧ outcomes.hashesOk 4 = false) ∧
    ∀ app : App, app.ctx.bip44Path = path →
      (FailsClosed (outcomes.derives && outcomes.signs) (approvalHandled sdk outcomes app) ↔
        outcomes.derives = true ∨ outcomes.signs = false) :=
  ⟨failsClosed_getPublicKey accepted, fun app _ => failsClosed_approval app⟩

/-- A session on the first path. -/
def App.onFirstPath : App :=
  { App.zero with ctx := { GlobalCtx.forTransaction with bip44Path := firstPath } }

/-- Without an error, the key and the signature of the first path are yielded. -/
theorem failsClosed_firstPath :
    FailsClosed true
        (handlerGetPublicKey Sdk.reference .success (.ofBytes firstPathData) true .zero) ∧
      FailsClosed true (approvalHandled Sdk.reference .success .onFirstPath) :=
  ⟨((failsClosed_iff _ .success firstPath_accepted).1 true .zero).mpr (.inl rfl),
    ((failsClosed_iff _ .success firstPath_accepted).2 .onFirstPath rfl).mpr (.inl rfl)⟩

/-- The derivation fails, and nothing else does. -/
def CxOutcomes.underivable : CxOutcomes := { CxOutcomes.success with osDeriveBip32WithSeed := 1 }

/-- **After a failed derivation the key of the zero private key is sent, and the
zero private key signs.** -/
theorem failsClosed_underivable :
    let handled := handlerGetPublicKey Sdk.reference .underivable (.ofBytes firstPathData) false
    let digest := Sdk.reference.digest App.onFirstPath.ctx
    CxOutcomes.underivable.derives = false ∧
    (∃ app, handled .zero =
      some (app, .send ⟨0x04 :: (Sdk.reference.cxEcfpGeneratePair .zero).cells, .swoSuccess⟩)) ∧
    (∃ app, uiActionValidateTransaction Sdk.reference .underivable true .onFirstPath =
      (app, ⟨Sdk.reference.cxEcdsaSign .zero digest, .swoSuccess⟩, some ⟨.zero, digest⟩)) ∧
    (¬ FailsClosed false (handled .zero)) ∧
    ¬ FailsClosed false (approvalHandled Sdk.reference .underivable .onFirstPath) := by
  intro handled digest
  have fails : CxOutcomes.underivable.derives = false := by decide
  have signs : CxOutcomes.underivable.signs = true := by decide
  have stored := rawPublicKey_ofAddress Sdk.reference .underivable firstPath
  rw [cryptoDerivePrivateKey_of_not _ _ fails] at stored
  have key : ∃ app, handled .zero = some (app,
      .send ⟨0x04 :: (Sdk.reference.cxEcfpGeneratePair .zero).cells, .swoSuccess⟩) :=
    ⟨_, (handlerGetPublicKey_of_accepted .underivable firstPath_accepted false .zero).trans
      (congrArg (fun key : Area UInt8 pubkeyLen =>
        some (_, Answer.send ⟨0x04 :: key.cells, .swoSuccess⟩)) stored)⟩
  have approved := approveTransaction_of_signs Sdk.reference .underivable .onFirstPath signs
  rw [cryptoDerivePrivateKey_of_not _ _ fails] at approved
  refine ⟨fails, key, approved, fun closed => ?_, fun closed => ?_⟩
  · obtain ⟨app, sent⟩ := key
    rw [sent] at closed
    exact Bool.false_ne_true (closed.yields rfl)
  · obtain ⟨app, signed⟩ := approved
    rw [approvalHandled, uiActionValidateTransaction, if_pos rfl, signed] at closed
    exact Bool.false_ne_true (closed.yields rfl)

end AppNeo3
