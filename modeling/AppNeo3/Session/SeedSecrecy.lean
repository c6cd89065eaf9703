import AppNeo3.Foundation.Refinement
import AppNeo3.Session.SingleReview

/-!
# What the seed reaches

Keys are derived from the seed of the device for two purposes: to export public keys and
to sign. What is left of a key afterwards stays in the context: the public key in the
union with the raw transaction, its address in the text of the review, the signature in
the transaction context. None of it reaches a later response or a later review of a
transaction.

So two devices that differ in their seeds only cannot be told apart by the responses,
but for those to GET_PUBLIC_KEY and to approvals (`seed_secret`). The two devices run in
lockstep. Their contexts differ in what a `Disguise` holds: in the raw transaction only
while the request is one for an address, when no part is taken.
-/

set_option autoImplicit false

namespace AppNeo3

open Memory Runs

/-- The SDK of a device with another seed. -/
def Sdk.withSeed (sdk : Sdk) (derive : List UInt32 → Area UInt8 64) : Sdk :=
  { sdk with osDeriveBip32WithSeed := derive }

/-! ## Observations -/

/-- What the host and the user can see of a step, but for exported keys and signatures. -/
inductive Observation where
  | silent
  /-- A response that may hold a key or a signature. -/
  | status (sw : StatusWord)
  | response (reply : Reply)
  | address
  /-- The review of a transaction, with all that its texts are made from. -/
  | transaction (screen : SignTxScreen) (settings : InternalStorage) (texts : GlobalItemStorage)
      (bytes : List UInt8) (transaction : Transaction)

/-- The command exports a public key. -/
def Route.exports : Route → Bool
  | .getPublicKey _ _ => true
  | _ => false

/-- The event may be answered with a key or a signature. -/
def Event.exports : Event → Bool
  | .command cmd _ => cmd.route.exports
  | .decision approved _ => approved
  | _ => false

/-- What can be seen of an entry. -/
def Taken.observed (entry : Taken) : Observation :=
  match entry.output.answer with
  | none => .silent
  | some (.send reply) => if entry.event.exports then .status reply.sw else .response reply
  | some (.start (.address _)) => .address
  | some (.start (.transaction review)) =>
      let app := entry.after.app
      .transaction review.screen review.settings app.gTx app.ctx.txInfo.received
        app.ctx.txInfo.transaction

/-! ## Contexts that look alike -/

/-- What may be left of a key. -/
structure Disguise where
  gAddress : Area Char (addressLen + 1)
  rawTx : Area UInt8 maxTransactionLen
  signature : Area UInt8 maxDerSigLen
  signatureLen : UInt8

def GlobalCtx.disguise (ctx : GlobalCtx) (left : Disguise) : GlobalCtx :=
  { ctx with txInfo := { ctx.txInfo with
      rawTx := left.rawTx
      signature := left.signature
      signatureLen := left.signatureLen } }

def App.disguise (app : App) (left : Disguise) : App :=
  { app with gAddress := left.gAddress, ctx := app.ctx.disguise left }

/-- The applications differ in what may be left of a key. While a transaction is asked
for, the raw transaction is the same. -/
def AppAlike (app app' : App) : Prop :=
  ∃ left : Disguise, app' = app.disguise left ∧
    (app.ctx.reqType = .confirmTransaction → left.rawTx = app.ctx.txInfo.rawTx)

inductive PendingAlike : Option Review → Option Review → Prop
  | none : PendingAlike none none
  | address {review review' : AddressReview} :
      PendingAlike (some (.address review)) (some (.address review'))
  | transaction {review review' : TransactionReview} (screen : review.screen = review'.screen)
      (settings : review.settings = review'.settings) :
      PendingAlike (some (.transaction review)) (some (.transaction review'))

/-- The devices differ in what may be left of a key. -/
structure DeviceAlike (s s' : Device) : Prop where
  app : AppAlike s.app s'.app
  pending : PendingAlike s.pending s'.pending
  ended : s.ended = s'.ended

namespace AppAlike

variable {app app' : App}

theorem rfl' (app : App) : AppAlike app app :=
  ⟨⟨app.gAddress, app.ctx.txInfo.rawTx, app.ctx.txInfo.signature, app.ctx.txInfo.signatureLen⟩,
    rfl, fun _ => rfl⟩

/-- A context that does not depend on the one before. -/
theorem withCtx (alike : AppAlike app app') (ctx : GlobalCtx) :
    AppAlike (app.withCtx ctx) (app'.withCtx ctx) := by
  obtain ⟨left, rfl, _⟩ := alike
  exact ⟨⟨left.gAddress, ctx.txInfo.rawTx, ctx.txInfo.signature, ctx.txInfo.signatureLen⟩, rfl,
    fun _ => rfl⟩

/-- Another address. -/
theorem withAddress (alike : AppAlike app app') (gAddress gAddress' : Area Char (addressLen + 1)) :
    AppAlike { app with gAddress := gAddress } { app' with gAddress := gAddress' } := by
  obtain ⟨left, rfl, same⟩ := alike
  exact ⟨{ left with gAddress := gAddress' }, rfl, same⟩

/-- A switched setting. -/
theorem switch (alike : AppAlike app app') (setting : Setting) :
    AppAlike { app with storage := app.storage.switch setting }
      { app' with storage := app'.storage.switch setting } := by
  obtain ⟨left, rfl, same⟩ := alike
  exact ⟨left, rfl, same⟩

end AppAlike

/-! ## Commands -/

/-- What two handled commands have in common. -/
inductive HandledAlike (exports : Bool) : Handled → Handled → Prop
  | ended : HandledAlike exports none none
  | sent {app app' : App} {reply reply' : Reply} (alike : AppAlike app app')
      (sw : reply.sw = reply'.sw) (data : exports = false → reply = reply') :
      HandledAlike exports (some (app, .send reply)) (some (app', .send reply'))
  | opened {app app' : App} {review review' : Review} (alike : AppAlike app app')
      (reviews : PendingAlike (some review) (some review'))
      (bytes : app.ctx.txInfo.received = app'.ctx.txInfo.received) :
      HandledAlike exports (some (app, .start review)) (some (app', .start review'))

variable {sdk : Sdk} {build : Build} {derive : List UInt32 → Area UInt8 64}

/-- A response with a context of its own. -/
theorem HandledAlike.send {app app' : App} (alike : AppAlike app app') (exports : Bool)
    (ctx : GlobalCtx) (sw : StatusWord) :
    HandledAlike exports (app.send ctx sw) (app'.send ctx sw) :=
  .sent (alike.withCtx ctx) rfl fun _ => rfl

theorem signTxPath_alike {app app' : App} (alike : AppAlike app app') (cdata : Buffer) :
    HandledAlike false (signTxPath sdk app cdata) (signTxPath sdk app' cdata) := by
  rw [signTxPath, signTxPath]
  split
  · exact .ended
  · exact .send alike _ _ _
  · exact .send alike _ _ _

theorem signTxMagic_alike {app app' : App} (alike : AppAlike app app')
    (separate : app.ctx.Separate) (data : List UInt8) :
    HandledAlike false (signTxMagic sdk app (.ofBytes data))
      (signTxMagic sdk app' (.ofBytes data)) := by
  obtain ⟨left, rfl, same⟩ := alike
  by_cases request : app.ctx.reqType = .confirmTransaction
  · have request' : (app.disguise left).ctx.reqType = .confirmTransaction := request
    rw [signTxMagic_eq request, signTxMagic_eq request']
    split
    · exact .sent ⟨left, rfl, same⟩ rfl fun _ => rfl
    · exact .sent ⟨left, rfl, same⟩ rfl fun _ => rfl
  · have refused := (@GlobalCtx.Separate.refused _ separate .bip44Ok (by decide)).mpr request
    have refused' : (app.disguise left).ctx.reqType ≠ .confirmTransaction ∧
      (app.disguise left).ctx.state ≠ .bip44Ok := refused
    rw [signTxMagic, if_pos refused, signTxMagic, if_pos refused']
    exact .sent ⟨left, rfl, same⟩ rfl fun _ => rfl

/-- What becomes of the last part does not depend on what is left of a key. -/
theorem lastPart_alike {outcomes : CxOutcomes} (app : App) {left : Disguise}
    (same : left.rawTx = app.ctx.txInfo.rawTx) :
    HandledAlike false (lastPart sdk build outcomes app)
      (lastPart sdk build outcomes (app.disguise left)) := by
  obtain ⟨gAddress, rawTx, signature, signatureLen⟩ := left
  cases same
  let left : Disguise := ⟨gAddress, app.ctx.txInfo.rawTx, signature, signatureLen⟩
  have status : (app.disguise left).ctx.parseStatus sdk = app.ctx.parseStatus sdk := rfl
  rw [lastPart, lastPart, status]
  split
  · exact .sent ⟨left, rfl, fun _ => rfl⟩ rfl fun _ => rfl
  · split
    · exact .opened ⟨left, rfl, fun _ => rfl⟩ (.transaction rfl rfl) rfl
    · exact .ended

theorem signTxPart_alike {outcomes : CxOutcomes} {app app' : App} (alike : AppAlike app app')
    (separate : app.ctx.Separate) (data : List UInt8) (more : Bool) :
    HandledAlike false (signTxPart sdk build outcomes app (.ofBytes data) more)
      (signTxPart sdk build outcomes app' (.ofBytes data) more) := by
  obtain ⟨left, rfl, same⟩ := alike
  by_cases request : app.ctx.reqType = .confirmTransaction
  · have first := @signTxPart_eq sdk build outcomes app request data more
    have second := @signTxPart_eq sdk build outcomes (app.disguise left) request data more
    by_cases fits : app.ctx.txInfo.rawTxLen + data.length ≤ maxTransactionLen
    · have fits' : (app.disguise left).ctx.txInfo.rawTxLen + data.length ≤ _ := fits
      rw [dif_pos fits] at first
      rw [dif_pos fits'] at second
      rw [first, second]
      obtain ⟨gAddress, rawTx, signature, signatureLen⟩ := left
      cases same request
      let left : Disguise :=
        ⟨gAddress, (app.ctx.receive data fits).txInfo.rawTx, signature, signatureLen⟩
      cases more with
      | true => exact .sent ⟨left, rfl, fun _ => rfl⟩ rfl fun _ => rfl
      | false =>
          let received := app.withCtx (app.ctx.receive data fits)
          exact @lastPart_alike sdk build outcomes received left rfl
    · have fits' : ¬ (app.disguise left).ctx.txInfo.rawTxLen + data.length ≤ _ := fits
      rw [dif_neg fits] at first
      rw [dif_neg fits'] at second
      rw [first, second]
      exact .sent ⟨left, rfl, same⟩ rfl fun _ => rfl
  · have refused := (@GlobalCtx.Separate.refused _ separate .magicOk (by decide)).mpr request
    have refused' : (app.disguise left).ctx.reqType ≠ .confirmTransaction ∧
      (app.disguise left).ctx.state ≠ .magicOk := refused
    rw [signTxPart, if_pos refused, signTxPart, if_pos refused']
    exact .sent ⟨left, rfl, same⟩ rfl fun _ => rfl

/-- A key of another seed is stored where the key was. -/
theorem key_alike {outcomes : CxOutcomes} {app app' : App} (alike : AppAlike app app')
    (path : Bip44Path) :
    AppAlike (app.key sdk outcomes path) (app'.key (sdk.withSeed derive) outcomes path) := by
  obtain ⟨left, rfl, _⟩ := alike
  let ctx := GlobalCtx.ofAddress (sdk.withSeed derive) outcomes path
  refine ⟨⟨left.gAddress, ctx.txInfo.rawTx, ctx.txInfo.signature, ctx.txInfo.signatureLen⟩, rfl, ?_⟩
  intro request
  cases request

theorem getPublicKey_alike {outcomes : CxOutcomes} {app app' : App} (alike : AppAlike app app')
    (data : List UInt8) (showOnScreen : Bool) :
    HandledAlike true (handlerGetPublicKey sdk outcomes (.ofBytes data) showOnScreen app)
      (handlerGetPublicKey (sdk.withSeed derive) outcomes (.ofBytes data) showOnScreen app') := by
  have zeroPath : GlobalCtx.forAddress.bip44Path = Vector.replicate _ 0 := rfl
  cases run : bufferReadAndValidateBip44 sdk (.ofBytes data) (Vector.replicate _ 0) with
  | fault => exact absurd run (bufferReadAndValidateBip44_ne_fault _ _)
  | ret status read =>
      have run' : bufferReadAndValidateBip44 (sdk.withSeed derive) (.ofBytes data)
        (Vector.replicate _ 0) = _ := run
      rw [handlerGetPublicKey, zeroPath, run, handlerGetPublicKey, zeroPath, run']
      exact .send alike _ _ _
  | next value read =>
      have accepted : PathAccepted sdk data read.path := ⟨read, rfl, run⟩
      have accepted' : PathAccepted (sdk.withSeed derive) data read.path := ⟨read, rfl, run⟩
      rw [handlerGetPublicKey_of_accepted outcomes accepted,
        handlerGetPublicKey_of_accepted outcomes accepted']
      have stored := @key_alike sdk derive outcomes app app' alike read.path
      cases showOnScreen with
      | false =>
          refine .sent stored rfl fun other => ?_
          cases other
      | true =>
          cases outcomes.hashesOk 4 with
          | false => exact .ended
          | true =>
              exact .opened (stored.withAddress _ _) .address rfl

/-- **A command does the same whatever the seed is**, but for what it exports. -/
theorem handle_alike {outcomes : CxOutcomes} {app app' : App} (alike : AppAlike app app')
    (separate : app.ctx.Separate) (route : Route) :
    HandledAlike route.exports (handle sdk build outcomes app route)
      (handle (sdk.withSeed derive) build outcomes app' route) := by
  cases route with
  | refused sw =>
      obtain ⟨left, rfl, same⟩ := alike
      exact .sent ⟨left, rfl, same⟩ rfl fun _ => rfl
  | getVersion | getAppName => exact .sent alike rfl fun _ => rfl
  | getPublicKey data showOnScreen => exact getPublicKey_alike alike data showOnScreen
  | signTx data chunk more =>
      have seedless : handlerSignTx (sdk.withSeed derive) build outcomes app' (.ofBytes data) chunk
        more = handlerSignTx sdk build outcomes app' (.ofBytes data) chunk more := rfl
      rw [handle, handle, seedless, handlerSignTx, handlerSignTx]
      split
      · exact signTxPath_alike alike _
      · split
        · exact signTxMagic_alike alike separate data
        · exact signTxPart_alike alike separate data more

/-! ## Decisions -/

/-- What two signing calls have in common. -/
structure SignedAlike (first second : GlobalCtx × Int × Option Signing) : Prop where
  ctx : ∃ left : Disguise, second.1 = first.1.disguise left ∧
    (first.1.reqType = .confirmTransaction → left.rawTx = first.1.txInfo.rawTx)
  result : first.2.1 = second.2.1
  digest : first.2.2.map Signing.digest = second.2.2.map Signing.digest

/-- **The digest that is signed does not depend on the seed.** -/
theorem cryptoSignTx_alike {outcomes : CxOutcomes} {ctx : GlobalCtx} {left : Disguise}
    (same : ctx.reqType = .confirmTransaction → left.rawTx = ctx.txInfo.rawTx) :
    SignedAlike (cryptoSignTx sdk outcomes ctx)
      (cryptoSignTx (sdk.withSeed derive) outcomes (ctx.disguise left)) := by
  have fits : 0 + ctx.signedData.length ≤ maxTransactionLen := by
    rw [ctx.length_signedData]
    decide
  let left' : Disguise := { left with rawTx := left.rawTx.write 0 ctx.signedData fits }
  have kept : ctx.reqType = .confirmTransaction →
      left'.rawTx = ctx.gatherSignedData.txInfo.rawTx := by
    intro request
    show left.rawTx.write 0 ctx.signedData fits = _
    rw [same request]
    rfl
  have digest : (ctx.disguise left).gatherSignedData.txInfo.rawTx.cells.take 36 =
      ctx.gatherSignedData.txInfo.rawTx.cells.take 36 :=
    (take_gatherSignedData (ctx.disguise left)).trans (take_gatherSignedData ctx).symm
  rw [cryptoSignTx, cryptoSignTx, digest]
  split
  · exact ⟨⟨left', rfl, kept⟩, rfl, rfl⟩
  · split
    · exact ⟨⟨left', rfl, kept⟩, rfl, rfl⟩
    · exact ⟨⟨⟨left.gAddress, left'.rawTx, _, _⟩, rfl, kept⟩, rfl, rfl⟩

/-- What two decisions have in common. -/
structure DecidedAlike (approved : Bool) (first second : App × Reply × Option Signing) : Prop where
  app : AppAlike first.1 second.1
  sw : first.2.1.sw = second.2.1.sw
  data : approved = false → first.2.1 = second.2.1
  digest : first.2.2.map Signing.digest = second.2.2.map Signing.digest

theorem validate_alike {outcomes : CxOutcomes} {app app' : App} (alike : AppAlike app app')
    (approved : Bool) :
    DecidedAlike approved (uiActionValidateTransaction sdk outcomes approved app)
      (uiActionValidateTransaction (sdk.withSeed derive) outcomes approved app') := by
  obtain ⟨left, rfl, same⟩ := alike
  cases approved with
  | false => exact ⟨⟨left, rfl, same⟩, rfl, fun _ => rfl, rfl⟩
  | true =>
      obtain ⟨⟨left', ctx, kept⟩, result, digest⟩ := @cryptoSignTx_alike sdk derive outcomes
        { app.ctx with state := .approved } left same
      have disguised : { (app.disguise left).ctx with state := State.approved } =
        GlobalCtx.disguise { app.ctx with state := .approved } left := rfl
      rw [uiActionValidateTransaction, if_pos rfl, uiActionValidateTransaction, if_pos rfl,
        approveTransaction, approveTransaction, disguised, ← result, ctx]
      let left'' : Disguise := { left' with gAddress := left.gAddress }
      split
      · refine ⟨⟨left'', rfl, kept⟩, rfl, fun other => ?_, digest⟩
        cases other
      · refine ⟨⟨left'', rfl, kept⟩, rfl, fun other => ?_, digest⟩
        cases other

/-! ## Steps -/

/-- Two outputs that cannot be told apart. -/
structure OutputAlike (entry entry' : Taken) : Prop where
  event : entry.event = entry'.event
  observed : entry.observed = entry'.observed
  digest : entry.output.signing.map Signing.digest = entry'.output.signing.map Signing.digest

/-- Two devices in lockstep, with nothing silent. -/
def lockstep : Pairing Device Event Output Device Event Output where
  pairs := OutputAlike
  silent _ := False

/-- What two results of a step have in common. -/
def StepAlike (s s' : Device) (event : Event) (result result' : Option (Device × Output)) : Prop :=
  ∀ t output, result = some (t, output) → ∃ t' output', result' = some (t', output') ∧
    OutputAlike ⟨s, event, output, t⟩ ⟨s', event, output', t'⟩ ∧ DeviceAlike t t'

/-- A response is seen as far as it may be. -/
theorem observed_send {s s' t t' : Device} {event : Event} {reply reply' : Reply}
    {signing signing' : Option Signing} (sw : reply.sw = reply'.sw)
    (data : event.exports = false → reply = reply')
    (digest : signing.map Signing.digest = signing'.map Signing.digest) :
    OutputAlike ⟨s, event, ⟨some (.send reply), signing⟩, t⟩
      ⟨s', event, ⟨some (.send reply'), signing'⟩, t'⟩ := by
  refine ⟨rfl, ?_, digest⟩
  cases exports : event.exports with
  | true =>
      show (if event.exports then _ else _) = if event.exports then _ else _
      rw [exports, if_pos rfl, if_pos rfl, sw]
  | false => rw [data exports]; rfl

theorem afterCommand_alike {s s' : Device} (alike : DeviceAlike s s') {cmd : Command}
    {outcomes : CxOutcomes} {handled handled' : Handled}
    (same : HandledAlike cmd.route.exports handled handled') :
    StepAlike s s' (.command cmd outcomes) (some (s.afterCommand handled))
      (some (s'.afterCommand handled')) := by
  rintro t output stepped
  cases same with
  | ended =>
      cases stepped
      exact ⟨_, _, rfl, ⟨rfl, rfl, rfl⟩, alike.app, alike.pending, rfl⟩
  | sent app sw data =>
      cases stepped
      exact ⟨_, _, rfl, observed_send sw data rfl, app, alike.pending, alike.ended⟩
  | opened app reviews bytes =>
      cases stepped
      refine ⟨_, _, rfl, ⟨rfl, ?_, rfl⟩, app, reviews, alike.ended⟩
      obtain ⟨left, rfl, _⟩ := app
      cases reviews with
      | address => rfl
      | transaction screen settings =>
          show Observation.transaction _ _ _ _ _ = Observation.transaction _ _ _ _ _
          rw [screen, settings, bytes]
          rfl

theorem decide_alike {s s' : Device} (alike : DeviceAlike s s') (approved : Bool)
    (outcomes : CxOutcomes) :
    StepAlike s s' (.decision approved outcomes) (s.decide sdk approved outcomes)
      (s'.decide (sdk.withSeed derive) approved outcomes) := by
  rintro t output stepped
  have reviews := alike.pending
  rw [Device.decide] at stepped ⊢
  generalize s.pending = pending at reviews stepped
  generalize s'.pending = pending' at reviews
  cases reviews with
  | none => cases stepped
  | address =>
      cases stepped
      refine ⟨_, _, rfl, observed_send ?_ ?_ rfl, alike.app, .none, alike.ended⟩
      · cases approved <;> rfl
      · rintro rfl
        rfl
  | transaction screen settings =>
      have validated := @validate_alike sdk derive outcomes _ _ alike.app approved
      simp only at stepped ⊢
      rw [← screen]
      split at stepped
      · cases stepped
      · cases stepped
        rename_i offered
        rw [if_neg offered]
        exact ⟨_, _, rfl, observed_send validated.sw validated.data validated.digest, validated.app,
          .none, alike.ended⟩

/-- **A step looks the same whatever the seed is.** -/
theorem step_alike {s s' : Device} (alike : DeviceAlike s s') (separate : s.app.ctx.Separate)
    (event : Event) :
    StepAlike s s' event ((device sdk build).step s event)
      ((device (sdk.withSeed derive) build).step s' event) := by
  show StepAlike s s' event (s.step sdk build event) (s'.step (sdk.withSeed derive) build event)
  rw [Device.step.eq_def, Device.step.eq_def, ← alike.ended]
  split
  · rintro t output stepped
    cases stepped
  · cases event with
    | command cmd outcomes =>
        exact afterCommand_alike alike (handle_alike alike.app separate cmd.route)
    | badLength =>
        rintro t output stepped
        cases stepped
        exact ⟨_, _, rfl, ⟨rfl, rfl, rfl⟩, alike⟩
    | decision approved outcomes => exact decide_alike alike approved outcomes
    | setting setting =>
        rintro t output stepped
        have reviews := alike.pending
        simp only [Device.setSetting] at stepped ⊢
        generalize s.pending = pending at reviews stepped
        generalize s'.pending = pending' at reviews
        cases reviews with
        | none =>
            cases stepped
            exact ⟨_, _, rfl, ⟨rfl, rfl, rfl⟩, alike.app.switch setting, .none, alike.ended⟩
        | address | transaction screen settings => cases stepped

/-! ## Runs -/

theorem lockstep_refines (sdk : Sdk) (build : Build) (derive : List UInt32 → Area UInt8 64) :
    Refinement (device sdk build) (device (sdk.withSeed derive) build) lockstep
      fun s s' => s.app.ctx.Separate ∧ DeviceAlike s s' where
  starts s starts := by
    refine ⟨s, starts, ?_, ?_⟩
    · rw [starts.1]
      exact .inr (.inl rfl)
    · refine ⟨.rfl' _, ?_, rfl⟩
      rw [starts.2.1]
      exact .none
  steps trace s t event output s' run alike moved := by
    obtain ⟨separate, alike⟩ := alike
    obtain ⟨t', output', moved', outputs, alike'⟩ := step_alike alike separate event _ _ moved
    exact .inr ⟨event, output', t', moved', outputs,
      (step_transition separate moved).separate separate, alike'⟩

/-- **Devices with different seeds cannot be told apart**, but for the keys they export
and the signatures they make. -/
theorem seed_secret (sdk : Sdk) (build : Build) (derive : List UInt32 → Area UInt8 64)
    {history : History} {s : Device} (run : Run (device sdk build) history s) :
    ∃ history' s', Run (device (sdk.withSeed derive) build) history' s' ∧
      List.Forall₂ OutputAlike history history' ∧ DeviceAlike s s' := by
  obtain ⟨history', s', run', ⟨_, alike⟩, paired⟩ := (lockstep_refines sdk build derive).run run
  exact ⟨history', s', run', paired.forall₂ fun _ => id, alike⟩

/-- The transfer is approved on two devices. -/
theorem seed_secret_transfer : ∃ history history' s', history.length = 4 ∧
    Run (device (Sdk.reference.withSeed fun _ => Area.fill 64 1) .bagl) history' s' ∧
    List.Forall₂ OutputAlike history history' := by
  have run := Run.step (run_transfer .bagl)
    (step_transaction rfl rfl (approvable_transferReview .bagl) true CxOutcomes.success)
  obtain ⟨history', s', run', alike, _⟩ :=
    seed_secret .reference .bagl (fun _ => Area.fill 64 1) run
  exact ⟨_, history', s', rfl, run', alike⟩

end AppNeo3
