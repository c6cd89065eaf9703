import AppNeo3.Session.BaglFollows
import AppNeo3.Session.KeyFailure

/-!
# Addresses on the device with two buttons

The text of an address is kept beside the context, and the key that an approval sends is
read from the context when the user decides. In a calm run, in which no command comes
while a review is on the screen, both are still what the command that opened the review
has left: the key of its path unless a call has failed, and the address of this key. So
whoever confirms an address has been shown the whole address of the key that is sent
(`address_read`).
-/

set_option autoImplicit false

namespace AppNeo3

open Memory Runs

variable {sdk : Sdk} {build : Build}

/-- The key of a path is stored when its calls succeed. -/
theorem rawPublicKey_of_succeeds {outcomes : CxOutcomes} (derives : outcomes.derives = true)
    (generates : outcomes.generates = true) (path : Bip44Path) :
    (GlobalCtx.ofAddress sdk outcomes path).rawPublicKey =
      sdk.cxEcfpGeneratePair (sdk.privateKey path) := by
  rw [CxOutcomes.generates, beq_iff_eq] at generates
  rw [rawPublicKey_ofAddress, cryptoDerivePrivateKey_of_derives _ _ derives, cryptoInitPublicKey,
    generates]
  rfl

/-- The review of an address is opened by a command for an accepted path, which leaves
the key that its calls have yielded and the address of this key. -/
theorem asked_of_opened {outcomes : CxOutcomes} {app app' : App} {route : Route}
    {review : AddressReview} (separate : app.ctx.Separate)
    (handled : handle sdk build outcomes app route = some (app', .start (.address review))) :
    ∃ data path, route = .getPublicKey data true ∧ PathAccepted sdk data path ∧
      app'.ctx = GlobalCtx.ofAddress sdk outcomes path ∧
      app'.gAddress = shownAddress sdk app'.ctx.rawPublicKey := by
  have effect := @handle_effect sdk build outcomes app separate route
  generalize done : handle sdk build outcomes app route = result at effect
  have opened := done.symm.trans handled
  cases effect with
  | @keyShown data path accepted gAddress =>
      rw [handle, handlerGetPublicKey_of_accepted outcomes accepted] at handled
      dsimp only at handled
      rw [if_pos rfl] at handled
      split at handled
      · cases handled
        exact ⟨data, path, rfl, accepted, rfl, rfl⟩
      · cases handled
  | _ => cases opened

namespace Bagl

variable {engine : FlowEngine} {trace : List BaglTaken} {d : BaglDevice} {screen : PlainState}

/-- The entry opens the review of the address of a path, its calls having these outcomes. -/
def Asks (sdk : Sdk) (path : Bip44Path) (outcomes : CxOutcomes) (entry : BaglTaken) : Prop :=
  entry.output.opens = true ∧ ∃ cmd data, entry.event = .command cmd outcomes ∧
    cmd.route = .getPublicKey data true ∧ PathAccepted sdk data path

/-- The newest review is the one of the address of a path. -/
def AskedFor (sdk : Sdk) (path : Bip44Path) (outcomes : CxOutcomes) : List BaglTaken → Prop :=
  Since (Asks sdk path outcomes) fun entry => entry.output.opens = true

/-- The application holds what the newest review has been opened with: the key that the
calls for its path have yielded, and the address of this key. -/
structure AddressHeld (sdk : Sdk) (trace : List BaglTaken) (app : App) : Prop where
  key : ∃ path outcomes, AskedFor sdk path outcomes trace ∧
    app.ctx = GlobalCtx.ofAddress sdk outcomes path
  address : app.gAddress = shownAddress sdk app.ctx.rawPublicKey

/-- What is held is kept by an entry that opens no review and leaves the data. -/
theorem AddressHeld.kept {app : App} (held : AddressHeld sdk trace app) {entry : BaglTaken}
    (unopened : entry.output.opens = false) : AddressHeld sdk (entry :: trace) app := by
  obtain ⟨⟨path, outcomes, asked, key⟩, address⟩ := held
  exact ⟨⟨path, outcomes, asked.keep (Bool.eq_false_iff.mp unopened), key⟩, address⟩

/-- The review of an address as it is shown. -/
def addressing (engine : FlowEngine) :
    Showing BaglDevice BaglEvent Output PlainState Button Unit where
  inner d := (pubkeyFlow d.app.gAddress).walk engine
  shows d :=
    match d.ui with
    | .address screen => some screen
    | _ => none
  opens entry := entry.output.opens

theorem shows_of_address (ui : d.ui = .address screen) :
    (addressing engine).shows d = some screen := by
  rw [addressing]
  dsimp only
  rw [ui]

theorem address_of_shows (shows : (addressing engine).shows d = some screen) :
    d.ui = .address screen := by
  rw [addressing] at shows
  dsimp only at shows
  cases ui : d.ui with
  | address other =>
      rw [ui] at shows
      cases shows
      rfl
  | _ =>
      rw [ui] at shows
      cases shows

/-- A button in the review of an address. -/
theorem press_of_address {d' : BaglDevice} {button : Button}
    (pressed : d.press sdk engine button = some d') (shows : d'.ui = .address screen) :
    d'.app = d.app ∧ ∃ before, d.ui = .address before ∧
      (pubkeyFlow d.app.gAddress).press engine button before = some screen := by
  rw [BaglDevice.press] at pressed
  cases ui : d.ui with
  | menu flow other =>
      rw [ui] at pressed
      obtain ⟨_, _, rfl⟩ := Option.map_eq_some_iff.mp pressed
      cases shows
  | transaction other =>
      rw [ui] at pressed
      obtain ⟨_, _, rfl⟩ := Option.map_eq_some_iff.mp pressed
      cases shows
  | address before =>
      rw [ui] at pressed
      obtain ⟨_, moved, rfl⟩ := Option.map_eq_some_iff.mp pressed
      cases shows
      exact ⟨rfl, before, rfl, moved⟩

/-- A review with an address on the screen is that of an address. -/
theorem review_of_address {review : Review} {ui : Ui}
    (shown : d.openedUi sdk engine review = some ui) (shows : ui = .address screen) :
    ∃ asked, review = .address asked ∧
      (pubkeyFlow d.app.gAddress).enter engine engine.start = some screen := by
  subst shows
  cases review with
  | address asked =>
      obtain ⟨_, started, same⟩ := Option.map_eq_some_iff.mp shown
      cases same
      exact ⟨asked, rfl, started⟩
  | transaction asked =>
      obtain ⟨_, _, other⟩ := Option.map_eq_some_iff.mp shown
      cases other

/-- **A step goes on with the review of an address.** -/
theorem BaglStays.addressGoesOn {event : BaglEvent} {d' : BaglDevice} {output : Output}
    (stays : BaglStays sdk engine d event (d', output)) (shows : d'.ui = .address screen) :
    GoesOn (addressing engine) ⟨d, event, output, d'⟩ screen := by
  cases stays with
  | opened handled shown =>
      obtain ⟨_, _, started⟩ := review_of_address shown shows
      exact .opened rfl started
  | same unopened => exact .kept unopened rfl (shows_of_address shows)
  | pressed pressed =>
      obtain ⟨app, before, ui, moved⟩ := press_of_address pressed shows
      have same : (addressing engine).inner _ = (addressing engine).inner d :=
        congrArg (fun app : App => (pubkeyFlow app.gAddress).walk engine) app
      exact .moved rfl same (shows_of_address ui) (congrArg (Option.map fun s => (s, ())) moved)

theorem BaglStays.addressHeld {event : BaglEvent} {d' : BaglDevice} {output : Output}
    (stays : BaglStays sdk engine d event (d', output)) (separate : d.app.ctx.Separate)
    (held : ∀ screen, d.ui = .address screen → AddressHeld sdk trace d.app)
    (shows : d'.ui = .address screen) :
    AddressHeld sdk (⟨d, event, output, d'⟩ :: trace) d'.app := by
  cases stays with
  | @opened cmd outcomes app review ui handled shown =>
      obtain ⟨_, rfl, _⟩ := review_of_address shown shows
      obtain ⟨data, path, route, accepted, ctx, address⟩ := asked_of_opened separate handled
      exact ⟨⟨path, outcomes, .marked ⟨rfl, cmd, data, rfl, route, accepted⟩, ctx⟩, address⟩
  | same unopened => exact (held screen shows).kept unopened
  | pressed pressed =>
      obtain ⟨app, before, ui, _⟩ := press_of_address pressed shows
      rw [app]
      exact (held before ui).kept rfl

/-- A calm entry before the review of an address. -/
theorem stays_of_address {event : BaglEvent} {d' : BaglDevice} {output : Output}
    (moved : (baglDevice sdk engine).step d event = some (d', output))
    (calm : screened.Calm ⟨d, event, output, d'⟩ trace) (ui : d'.ui = .address screen) :
    BaglStays sdk engine d event (d', output) :=
  (bagl_transition moved).2.stays calm fun _ _ other => nomatch ui.symm.trans other

/-- **In every calm run, the address on the screen is held.** -/
theorem run_addressHeld (run : Run (baglDevice sdk engine) trace d)
    (calm : Along screened.Calm trace) :
    ∀ screen, d.ui = .address screen → AddressHeld sdk trace d.app := by
  induction run with
  | start starts => exact fun screen ui => nomatch starts.2.2.symm.trans ui
  | step run moved ih =>
      intro screen ui
      obtain ⟨history, t, reached, agrees, _⟩ := (baglDevice_refines _ _).run run
      have separate := run_separate reached
      rw [← agrees.app] at separate
      exact (stays_of_address moved calm.1 ui).addressHeld separate (ih calm.2) ui

/-- **In every calm run, the review of an address on the screen is a run of its flow.** -/
theorem run_addressing (run : Run (baglDevice sdk engine) trace d)
    (calm : Along screened.Calm trace) (ui : d.ui = .address screen) :
    Inner (addressing engine) trace d screen := by
  refine Run.inner ?_ ?_ run calm screen (shows_of_address ui)
  · intro d starts
    rw [addressing]
    dsimp only
    rw [starts.2.2]
  · intro trace d event output d' run moved calm s' shows
    have ui := address_of_shows shows
    exact (stays_of_address moved calm ui).addressGoesOn ui

/-- A key that is confirmed is what the calls of the command that opened the review have
yielded for its path, which is the key of the path when they have succeeded, and every
page of its address has been on the screen since. -/
def ConfirmsRead (sdk : Sdk) (engine : FlowEngine) (entry : BaglTaken) (older : List BaglTaken) :
    Prop :=
  ∀ screen data, entry.before.ui = .address screen →
    entry.output.answer = some (.send ⟨data, .swoSuccess⟩) →
    let app := entry.before.app
    ∃ path outcomes, AskedFor sdk path outcomes older ∧
      app.ctx = GlobalCtx.ofAddress sdk outcomes path ∧
      (outcomes.derives = true → outcomes.generates = true →
        app.ctx.rawPublicKey = sdk.cxEcfpGeneratePair (sdk.privateKey path)) ∧
      data = 0x04 :: app.ctx.rawPublicKey.cells ∧
      (pubkeyFlow app.gAddress).ShownWhole engine
        (screen :: shownSince (addressing engine) older)
        (.paging "Address".toList (CText.text (shownAddress sdk app.ctx.rawPublicKey).cells))

/-- An approval of an address that is held and has been shown. -/
theorem confirmsRead_of_inner (inner : Inner (addressing engine) trace d screen)
    (held : AddressHeld sdk trace d.app) (ui : d.ui = .address screen)
    (approve : screen.addressDecision = some true) {event : BaglEvent} {output : Output}
    {d' : BaglDevice} (answer : output.answer = some (.send d.app.sendResponsePubkey)) :
    ConfirmsRead sdk engine ⟨d, event, output, d'⟩ trace := by
  intro screen' data ui' sent
  cases ui.symm.trans ui'
  cases answer.symm.trans sent
  obtain ⟨path, outcomes, asked, ctx⟩ := held.key
  obtain ⟨visits, run, seen⟩ := inner
  refine ⟨path, outcomes, asked, ctx, fun derives generates => ?_, rfl, ?_⟩
  · rw [ctx]
    exact rawPublicKey_of_succeeds derives generates path
  have whole := address_shown run approve
  rw [held.address] at whole ⊢
  intro page inside
  obtain ⟨s, member, here⟩ := whole page inside
  exact ⟨s, seen s member, here⟩

/-- **A key that is confirmed has had its address read.** In every calm run the review of an
address is confirmed only when all of it has been shown, and the key that is sent is the
one of this address. -/
theorem address_read (run : Run (baglDevice sdk engine) trace d)
    (calm : Along screened.Calm trace) : Along (ConfirmsRead sdk engine) trace := by
  induction run with
  | start starts => trivial
  | @step trace d d' event output run moved ih =>
      refine ⟨?_, ih calm.2⟩
      have transition := (bagl_transition moved).2
      cases transition with
      | @confirmed outcomes screen approved ui decides =>
          cases approved with
          | true =>
              exact confirmsRead_of_inner (run_addressing run calm.2 ui)
                (run_addressHeld run calm.2 screen ui) ui decides rfl
          | false =>
              intro other data _ sent
              cases sent
      | sent handled =>
          intro screen data ui _
          have other : ∀ flow menu, d.ui ≠ .menu flow menu := fun flow menu menu' =>
            nomatch ui.symm.trans menu'
          exact absurd other (calm.1.unreviewed _ rfl)
      | decided ui decides validates =>
          intro screen data ui' _
          cases ui.symm.trans ui'
      | _ =>
          intro screen data _ sent
          cases sent

/-- The address of the first path is confirmed. -/
theorem address_read_first : ∃ trace d, Run (baglDevice .reference .reference) trace d ∧
    (∃ entry ∈ trace, ∃ data, entry.output.answer = some (.send ⟨data, .swoSuccess⟩)) ∧
    Along (ConfirmsRead .reference .reference) trace := by
  obtain ⟨_, _, run, calm, _, member, data, sent⟩ := run_confirmedAddress .bagl
  obtain ⟨trace, d, follows⟩ := (baglFollowing .reference .reference).of_run run calm
  obtain ⟨entry, there, _, _, _, same⟩ := follows.paired.mem member
  exact ⟨trace, d, follows.run, ⟨entry, there, data, same ▸ sent⟩,
    address_read follows.run follows.calm⟩

end Bagl

end AppNeo3
