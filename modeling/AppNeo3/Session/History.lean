import AppNeo3.Device
import AppNeo3.Session.Effects

/-!
# Histories of the device

What the history of a device tells: whether the context has been wiped since the review
on the screen was opened, whether a transaction has been approved since, and what the
newest chunks 0 and 1 were answered.

A step of the device is one of a few transitions (`step_transition`), and in every
run an address request and a signing session stay apart (`run_separate`).
-/

set_option autoImplicit false

namespace AppNeo3

open Memory Runs

/-! ## Events -/

/-- The route of the command, for a command. -/
def Event.route : Event → Option Route
  | .command cmd _ => some cmd.route
  | _ => none

/-- The command wipes the context. -/
def Route.wipes : Route → Bool
  | .getPublicKey _ _ => true
  | .signTx _ chunk _ => chunk == 0
  | _ => false

/-- The command begins a signing session. -/
def Route.begins : Route → Bool
  | .signTx _ chunk _ => chunk == 0
  | _ => false

theorem Route.wipes_of_begins {route : Route} (begins : route.begins = true) :
    route.wipes = true := by
  cases route with
  | signTx data chunk more => exact begins
  | _ => cases begins

/-- The request that a command sets. -/
def Route.request : Route → Option RequestType
  | .getPublicKey _ _ => some .confirmAddress
  | .signTx _ chunk _ => if chunk = 0 then some .confirmTransaction else none
  | _ => none

/-- An event that nothing comes of. -/
def silence : Output := ⟨none, none⟩

/-- A review is opened. -/
def Output.opens (output : Output) : Bool :=
  match output.answer with
  | some (.start _) => true
  | _ => false

/-- An entry of a history of the device. -/
abbrev Taken : Type := Entry Device Event Output

namespace Taken

variable (entry : Taken)

/-- The command of the entry has this route. -/
def Routed (route : Route) : Prop := entry.event.route = some route

/-- The entry wipes the context. -/
def Wipes : Prop := ∃ route, entry.Routed route ∧ route.wipes = true

/-- The entry begins a signing session. -/
def Begins : Prop := ∃ route, entry.Routed route ∧ route.begins = true

theorem Begins.wipes {entry : Taken} (begins : entry.Begins) : entry.Wipes := by
  obtain ⟨route, routed, first⟩ := begins
  exact ⟨route, routed, Route.wipes_of_begins first⟩

/-- The entry opens a review. -/
def Opens : Prop := ∃ review, entry.output.answer = some (.start review)

/-- The entry is answered with success. -/
def Succeeds : Prop := ∃ data, entry.output.answer = some (.send ⟨data, .swoSuccess⟩)

/-- The entry is answered with a status word alone. -/
def AnsweredBy (sw : StatusWord) : Prop := entry.output.answer = some (.send (.ofSw sw))

/-- The entry is a decision on this review. -/
def Decides (approved : Bool) (review : Review) : Prop :=
  (∃ outcomes, entry.event = .decision approved outcomes) ∧ entry.before.pending = some review

end Taken

/-- The context has not been wiped since the newest review was opened. -/
def Unwiped : History → Prop := Since Taken.Opens Taken.Wipes

/-- A transaction has been approved since the context was wiped. -/
def Approved : History → Prop :=
  Since (fun entry : Taken => ∃ review, entry.Decides true (.transaction review)) Taken.Wipes

/-! ## Transitions -/

/-- What a step of the device does. -/
inductive Transition (sdk : Sdk) (build : Build) (device : Device) :
    Event → Device × Output → Prop
  | ended {cmd : Command} {outcomes : CxOutcomes}
      (effect : Effect sdk build outcomes device.app cmd.route none) :
      Transition sdk build device (.command cmd outcomes)
        ({ device with ended := true }, ⟨none, none⟩)
  | sent {cmd : Command} {outcomes : CxOutcomes} {app : App} {reply : Reply}
      (effect : Effect sdk build outcomes device.app cmd.route (some (app, .send reply))) :
      Transition sdk build device (.command cmd outcomes)
        ({ device with app := app }, ⟨some (.send reply), none⟩)
  | opened {cmd : Command} {outcomes : CxOutcomes} {app : App} {review : Review}
      (effect : Effect sdk build outcomes device.app cmd.route (some (app, .start review))) :
      Transition sdk build device (.command cmd outcomes)
        ({ device with app := app, pending := some review }, ⟨some (.start review), none⟩)
  | badLength :
      Transition sdk build device .badLength
        (device, ⟨some (.send (.ofSw .swoWrongDataLength)), none⟩)
  | address {approved : Bool} {outcomes : CxOutcomes} {review : AddressReview}
      (pending : device.pending = some (.address review)) :
      Transition sdk build device (.decision approved outcomes)
        ({ device with pending := none },
          ⟨some (.send (uiActionValidatePubkey approved device.app)), none⟩)
  | transaction {approved : Bool} {outcomes : CxOutcomes} {review : TransactionReview}
      {validated : App × Reply × Option Signing}
      (pending : device.pending = some (.transaction review))
      (offered : approved = true → review.screen.approvable = true)
      (validates : validated = uiActionValidateTransaction sdk outcomes approved device.app) :
      Transition sdk build device (.decision approved outcomes)
        ({ device with app := validated.1, pending := none },
          ⟨some (.send validated.2.1), validated.2.2⟩)
  | setting {setting : Setting} (pending : device.pending = none) :
      Transition sdk build device (.setting setting)
        ({ device with app :=
          { device.app with storage := device.app.storage.switch setting } }, ⟨none, none⟩)

variable {sdk : Sdk} {build : Build}

/-- Only a device that runs takes a step. -/
theorem running_of_step {s : Device} {event : Event} {result : Device × Output}
    (moved : (device sdk build).step s event = some result) : s.ended = false := by
  change s.step sdk build event = some result at moved
  unfold Device.step at moved
  split at moved
  · cases moved
  · rename_i running
    exact Bool.eq_false_of_not_eq_true running

/-- **A step is one of the transitions.** -/
theorem step_transition {s : Device} (separate : s.app.ctx.Separate) {event : Event}
    {result : Device × Output} (moved : (device sdk build).step s event = some result) :
    Transition sdk build s event result := by
  have running := running_of_step moved
  change s.step sdk build event = some result at moved
  simp only [Device.step, running, Bool.false_eq_true, if_false] at moved
  cases event with
  | command cmd outcomes =>
      have effect := @handle_effect sdk build outcomes _ separate cmd.route
      simp only [apduDispatcher] at moved
      generalize handle sdk build outcomes s.app cmd.route = handled at effect moved
      cases handled with
      | none =>
          cases moved
          exact .ended effect
      | some done =>
          obtain ⟨app, answer⟩ := done
          cases answer with
          | send reply =>
              cases moved
              exact .sent effect
          | start review =>
              cases moved
              exact .opened effect
  | badLength =>
      cases moved
      exact .badLength
  | decision approved outcomes =>
      simp only [Device.decide] at moved
      split at moved
      · cases moved
      · rename_i review pending
        cases moved
        exact .address pending
      · rename_i review pending
        split at moved
        · cases moved
        · rename_i offered
          cases moved
          refine .transaction pending (fun yes => ?_) rfl
          subst yes
          simpa using offered
  | setting setting =>
      simp only [Device.setSetting] at moved
      split at moved
      · cases moved
      · rename_i pending
        cases moved
        exact .setting pending

/-! ## Requests and sessions stay apart -/

/-- A decision leaves the request, and a state of its own. -/
theorem validated_frame (sdk : Sdk) (outcomes : CxOutcomes) (approved : Bool) (app : App) :
    let ctx := (uiActionValidateTransaction sdk outcomes approved app).1.ctx
    ctx.reqType = app.ctx.reqType ∧ (ctx.state = .none ∨ ctx.state = .approved) := by
  cases approved with
  | false => exact ⟨rfl, .inl rfl⟩
  | true =>
      obtain ⟨state, request, _⟩ :=
        cryptoSignTx_frame sdk outcomes { app.ctx with state := .approved }
      rw [uiActionValidateTransaction, if_pos rfl, approveTransaction]
      by_cases fails :
          (cryptoSignTx sdk outcomes { app.ctx with state := .approved }).2.1 < 0
      · rw [if_pos fails]
        exact ⟨request, .inl rfl⟩
      · rw [if_neg fails]
        exact ⟨request, .inr state⟩

/-- A decision leaves the settings alone. -/
theorem storage_validated (sdk : Sdk) (outcomes : CxOutcomes) (approved : Bool) (app : App) :
    (uiActionValidateTransaction sdk outcomes approved app).1.storage = app.storage := by
  cases approved with
  | false => rfl
  | true =>
      rw [uiActionValidateTransaction, if_pos rfl, approveTransaction]
      split <;> rfl

/-- Only the commands that wipe the context set the request. -/
theorem Effect.reqType {outcomes : CxOutcomes} {app app' : App} {answer : Answer} {route : Route}
    {handled : Handled} (effect : Effect sdk build outcomes app route handled)
    (done : handled = some (app', answer)) :
    app'.ctx.reqType = route.request.getD app.ctx.reqType := by
  cases effect with
  | refused sw | version | name | keyRefused path refusal | keySent accepted
  | keyShown accepted gAddress | pathRefused path refusal | pathAccepted accepted
  | magicRefused request short | magicAccepted request magic =>
      cases done
      rfl
  | misplaced later request =>
      cases done
      rw [Route.request, if_neg later]
      rfl
  | tooLong part request | partStored part request fits
  | parseFailed part request fits failed code =>
      cases done
      rw [Route.request, if_neg part.1]
      rfl
  | reviewOpened part request fits ok fill =>
      cases done
      rw [Route.request, if_neg part.1, fill]
      rfl
  | keyEnded | reviewEnded part request => cases done

theorem Effect.separate {outcomes : CxOutcomes} {app app' : App} {answer : Answer} {route : Route}
    {handled : Handled} (effect : Effect sdk build outcomes app route handled)
    (done : handled = some (app', answer)) (separate : app.ctx.Separate) :
    app'.ctx.Separate := by
  cases effect with
  | refused sw | version | name | misplaced later request | tooLong part request =>
      cases done
      exact separate
  | keyRefused path refusal | keySent accepted | keyShown accepted gAddress =>
      cases done
      exact .inr (.inl rfl)
  | keyEnded | reviewEnded part request => cases done
  | pathRefused path refusal | pathAccepted accepted =>
      cases done
      exact .inl rfl
  | magicRefused request short | magicAccepted request magic | partStored part request fits
  | parseFailed part request fits failed code =>
      cases done
      exact .inl request
  | reviewOpened part request fits ok fill =>
      cases done
      subst fill
      exact .inl request

/-- Commands leave the settings alone. -/
theorem Effect.storage {outcomes : CxOutcomes} {app app' : App} {answer : Answer} {route : Route}
    {handled : Handled} (effect : Effect sdk build outcomes app route handled)
    (done : handled = some (app', answer)) : app'.storage = app.storage := by
  cases effect with
  | keyEnded | reviewEnded part request => cases done
  | reviewOpened part request fits ok fill =>
      cases done
      subst fill
      rfl
  | _ =>
      cases done
      rfl

/-- The review that is opened is that of the data left. -/
theorem Effect.review {outcomes : CxOutcomes} {app app' : App} {review : TransactionReview}
    {route : Route} {handled : Handled} (effect : Effect sdk build outcomes app route handled)
    (done : handled = some (app', .start (.transaction review))) : review = app'.review build := by
  cases effect with
  | reviewOpened part request fits ok fill =>
      cases done
      rfl
  | _ => cases done

/-- The request after a step. -/
theorem Transition.reqType {s s' : Device} {event : Event} {output : Output}
    (transition : Transition sdk build s event (s', output)) (running : s'.ended = false) :
    s'.app.ctx.reqType = (event.route.bind Route.request).getD s.app.ctx.reqType := by
  cases transition with
  | ended effect => cases running
  | sent effect | opened effect => exact effect.reqType rfl
  | badLength | address pending | setting pending => rfl
  | transaction pending offered validates =>
      subst validates
      exact (validated_frame _ _ _ _).1

theorem Transition.separate {s s' : Device} {event : Event} {output : Output}
    (transition : Transition sdk build s event (s', output))
    (separate : s.app.ctx.Separate) : s'.app.ctx.Separate := by
  cases transition with
  | ended effect | badLength | address pending | setting pending => exact separate
  | sent effect | opened effect => exact effect.separate rfl separate
  | transaction pending offered validates =>
      subst validates
      exact .inr (validated_frame _ _ _ _).2

/-- **In every state reached, an address request is in no state of a session.** -/
theorem run_separate {history : History} {s : Device} (run : Run (device sdk build) history s) :
    s.app.ctx.Separate := by
  refine @Run.invariant _ _ _ (device sdk build) (fun s => s.app.ctx.Separate)
    (fun s starts => ?_) (fun s event s' output separate moved => ?_) _ _ run
  · rw [starts.1]
    exact .inr (.inl rfl)
  · exact (step_transition separate moved).separate separate

/-! ## Taking commands -/

theorem step_command {s : Device} (running : s.ended = false) (cmd : Command)
    (outcomes : CxOutcomes) :
    (device sdk build).step s (.command cmd outcomes) =
      some (s.afterCommand (handle sdk build outcomes s.app cmd.route)) := by
  show s.step sdk build (.command cmd outcomes) = _
  rw [Device.step.eq_def, running]
  rfl

/-- The entry of a command that is answered. -/
def Device.answered (s : Device) (event : Event) (app : App) (reply : Reply) : Taken :=
  ⟨s, event, ⟨some (.send reply), none⟩, { s with app := app }⟩

theorem step_answered {s : Device} (running : s.ended = false) {cmd : Command}
    {outcomes : CxOutcomes} {app : App} {reply : Reply}
    (handled : handle sdk build outcomes s.app cmd.route = some (app, .send reply)) :
    (device sdk build).step s (.command cmd outcomes) =
      some ({ s with app := app }, ⟨some (.send reply), none⟩) := by
  rw [step_command running, handled]
  rfl

theorem run_answered {history : History} {s : Device} (run : Run (device sdk build) history s)
    (running : s.ended = false) {cmd : Command} {outcomes : CxOutcomes} {app : App} {reply : Reply}
    (handled : handle sdk build outcomes s.app cmd.route = some (app, .send reply)) :
    Run (device sdk build) (s.answered (.command cmd outcomes) app reply :: history)
      { s with app := app } := .step run (step_answered running handled)

theorem step_opened {s : Device} (running : s.ended = false) {cmd : Command}
    {outcomes : CxOutcomes} {app : App} {review : Review}
    (handled : handle sdk build outcomes s.app cmd.route = some (app, .start review)) :
    (device sdk build).step s (.command cmd outcomes) =
      some ({ s with app := app, pending := some review }, ⟨some (.start review), none⟩) := by
  rw [step_command running, handled]
  rfl

/-- A decision on an address. -/
theorem step_address {s : Device} (running : s.ended = false) {review : AddressReview}
    (pending : s.pending = some (.address review)) (approved : Bool) (outcomes : CxOutcomes) :
    (device sdk build).step s (.decision approved outcomes) =
      some (s.afterDecision s.app (uiActionValidatePubkey approved s.app) none) := by
  show s.step sdk build (.decision approved outcomes) = _
  rw [Device.step.eq_def, running]
  show s.decide sdk approved outcomes = _
  rw [Device.decide, pending]

/-- A decision on a transaction that can be approved. -/
theorem step_transaction {s : Device} (running : s.ended = false) {review : TransactionReview}
    (pending : s.pending = some (.transaction review))
    (approvable : review.screen.approvable = true) (approved : Bool) (outcomes : CxOutcomes) :
    (device sdk build).step s (.decision approved outcomes) =
      let validated := uiActionValidateTransaction sdk outcomes approved s.app
      some (s.afterDecision validated.1 validated.2.1 validated.2.2) := by
  show s.step sdk build (.decision approved outcomes) = _
  rw [Device.step.eq_def, running]
  show s.decide sdk approved outcomes = _
  rw [Device.decide, pending]
  refine if_neg ?_
  rw [approvable]
  cases approved <;> decide

theorem step_badLength {s : Device} (running : s.ended = false) :
    (device sdk build).step s .badLength =
      some (s, ⟨some (.send (.ofSw .swoWrongDataLength)), none⟩) := by
  show s.step sdk build .badLength = _
  rw [Device.step.eq_def, running]
  rfl

/-- A decision that the review offers. -/
theorem step_offered {s : Device} (running : s.ended = false) {review : TransactionReview}
    (pending : s.pending = some (.transaction review)) {approved : Bool}
    (offered : approved = true → review.screen.approvable = true) (outcomes : CxOutcomes) :
    (device sdk build).step s (.decision approved outcomes) =
      let validated := uiActionValidateTransaction sdk outcomes approved s.app
      some (s.afterDecision validated.1 validated.2.1 validated.2.2) := by
  show s.step sdk build (.decision approved outcomes) = _
  rw [Device.step.eq_def, running]
  show s.decide sdk approved outcomes = _
  rw [Device.decide, pending]
  refine if_neg ?_
  cases approved with
  | false => exact Bool.false_ne_true
  | true =>
      rw [offered rfl]
      exact Bool.false_ne_true

theorem step_setting {s : Device} (running : s.ended = false) (pending : s.pending = none)
    (setting : Setting) :
    (device sdk build).step s (.setting setting) = some ({ s with
      app := { s.app with storage := s.app.storage.switch setting } }, ⟨none, none⟩) := by
  have same : s.setSetting setting = some ({ s with
      app := { s.app with storage := s.app.storage.switch setting } }, ⟨none, none⟩) := by
    rw [Device.setSetting]
    split
    · rename_i other
      cases pending.symm.trans other
    · rfl
  rw [← same]
  show s.step sdk build (.setting setting) = _
  rw [Device.step.eq_def, running]
  rfl

/-- The application with another context. -/
def App.withCtx (app : App) (ctx : GlobalCtx) : App := { app with ctx := ctx }

theorem handle_path {outcomes : CxOutcomes} (app : App) {data : List UInt8} {path : Bip44Path}
    (accepted : PathAccepted sdk data path) (more : Bool) :
    handle sdk build outcomes app (.signTx data 0 more) =
      some (app.withCtx (.ofPath path), .send (.ofSw .swoSuccess)) := by
  obtain ⟨read, rfl, run⟩ := accepted
  have zeroPath : GlobalCtx.forTransaction.bip44Path = Vector.replicate _ 0 := rfl
  rw [handle, handlerSignTx, if_pos rfl, signTxPath, zeroPath, run]
  rfl

theorem handle_magic {outcomes : CxOutcomes} {app : App}
    (request : app.ctx.reqType = .confirmTransaction) {data : List UInt8} (long : 4 ≤ data.length)
    (more : Bool) :
    handle sdk build outcomes app (.signTx data 1 more) =
      some (app.withCtx (app.ctx.ofMagic (magicOf data)), .send (.ofSw .swoSuccess)) := by
  rw [handle, handlerSignTx, if_neg (by decide), if_pos rfl, signTxMagic_eq request, if_pos long]
  rfl

theorem handle_part {outcomes : CxOutcomes} {app : App}
    (request : app.ctx.reqType = .confirmTransaction) {data : List UInt8} {chunk : UInt8}
    (part : chunk ≠ 0 ∧ chunk ≠ 1)
    (fits : app.ctx.txInfo.rawTxLen + data.length ≤ maxTransactionLen) :
    handle sdk build outcomes app (.signTx data chunk true) =
      some (app.withCtx (app.ctx.receive data fits), .send (.ofSw .swoSuccess)) := by
  rw [handle, handlerSignTx, if_neg part.1, if_neg part.2, signTxPart_eq request, dif_pos fits]
  rfl

theorem handle_last {outcomes : CxOutcomes} {app : App}
    (request : app.ctx.reqType = .confirmTransaction) {data : List UInt8} {chunk : UInt8}
    (part : chunk ≠ 0 ∧ chunk ≠ 1)
    (fits : app.ctx.txInfo.rawTxLen + data.length ≤ maxTransactionLen) :
    handle sdk build outcomes app (.signTx data chunk false) =
      lastPart sdk build outcomes (app.withCtx (app.ctx.receive data fits)) := by
  rw [handle, handlerSignTx, if_neg part.1, if_neg part.2, signTxPart_eq request, dif_pos fits]
  rfl

theorem handle_key {outcomes : CxOutcomes} (app : App) {data : List UInt8} {path : Bip44Path}
    (accepted : PathAccepted sdk data path) :
    handle sdk build outcomes app (.getPublicKey data false) =
      some (app.withCtx (.ofAddress sdk outcomes path),
        .send (app.key sdk outcomes path).sendResponsePubkey) := by
  rw [handle, handlerGetPublicKey_of_accepted outcomes accepted]
  rfl

theorem handle_keyShown {outcomes : CxOutcomes} (app : App) {data : List UInt8}
    {path : Bip44Path} (accepted : PathAccepted sdk data path) (hashes : outcomes.hashesOk 4 = true) :
    handle sdk build outcomes app (.getPublicKey data true) =
      some ({ app.key sdk outcomes path with
          gAddress := shownAddress sdk (app.key sdk outcomes path).ctx.rawPublicKey },
        .start (.address ((app.key sdk outcomes path).addressReview sdk))) := by
  rw [handle, handlerGetPublicKey_of_accepted outcomes accepted]
  dsimp only
  rw [if_pos rfl, if_pos hashes]
  rfl

/-! ## The first session -/

/-- The device after the application has started. -/
def Device.atStart : Device := ⟨.zero, none, false⟩

theorem run_atStart : Run (device sdk build) [] .atStart := .start ⟨rfl, rfl, rfl⟩

/-- The bytes of the number of the main network. -/
def mainnetData : List UInt8 := [0x4E, 0x45, 0x4F, 0x33]

def pathCommand : Command := .signTx 0 true firstPathData (by decide)

def magicCommand : Command := .signTx 1 true mainnetData (by decide)

def keyCommand : Command := .getPublicKey false firstPathData (by decide)

def showCommand : Command := .getPublicKey true firstPathData (by decide)

theorem route_pathCommand : pathCommand.route = .signTx firstPathData 0 true :=
  Command.route_signTx (by decide) fun _ => rfl

theorem route_magicCommand : magicCommand.route = .signTx mainnetData 1 true :=
  Command.route_signTx (by decide) fun _ => rfl

/-- A transaction in one part, or its last part. -/
theorem Command.route_last {data : List UInt8} {size : 0 < data.length ∧ data.length ≤ 255} :
    (Command.signTx 2 false data size).route = .signTx data 2 false :=
  Command.route_signTx (by decide) fun first => absurd first (by decide)

theorem two_part : (2 : UInt8) ≠ 0 ∧ (2 : UInt8) ≠ 1 := by decide

/-- The context after the first path. -/
def App.onPath (app : App) : App := app.withCtx (.ofPath firstPath)

/-- The context after the first path and the main network. -/
def App.onMainnet (app : App) : App :=
  app.withCtx ((GlobalCtx.ofPath firstPath).ofMagic (magicOf mainnetData))

variable {history : History} {s : Device} (run : Run (device .reference build) history s)
  (running : s.ended = false)

include run running

theorem run_path : Run (device .reference build)
    (s.answered (.command pathCommand .success) s.app.onPath (.ofSw .swoSuccess) :: history)
    { s with app := s.app.onPath } := by
  refine run_answered run running ?_
  rw [route_pathCommand]
  exact handle_path _ firstPath_accepted true

theorem run_session : Run (device .reference build)
    (Device.answered { s with app := s.app.onPath } (.command magicCommand .success)
        s.app.onMainnet (.ofSw .swoSuccess) ::
      s.answered (.command pathCommand .success) s.app.onPath (.ofSw .swoSuccess) :: history)
    { s with app := s.app.onMainnet } := by
  refine run_answered (run_path run running) running ?_
  rw [route_magicCommand]
  exact @handle_magic _ _ _ s.app.onPath rfl _ (by decide) true

theorem run_key : Run (device .reference build)
    (s.answered (.command keyCommand .success)
      (s.app.withCtx (.ofAddress .reference .success firstPath))
      (s.app.key .reference .success firstPath).sendResponsePubkey :: history)
    { s with app := s.app.withCtx (.ofAddress .reference .success firstPath) } := by
  refine run_answered run running ?_
  rw [keyCommand, Command.route_getPublicKey]
  exact handle_key _ firstPath_accepted

end AppNeo3
