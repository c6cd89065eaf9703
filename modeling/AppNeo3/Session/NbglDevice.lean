import AppNeo3.Foundation.Refinement
import AppNeo3.Review.PairPages
import AppNeo3.Session.History
import AppNeo3.Ui.Menu

/-!
# The device with a touch screen

The application with the pages of the devices with touch screens. The SDK shows a use
case until the user is done with it, and calls the application back: for a switch of the
settings, for the end of the application, for a choice at the end of a review or instead
of one, and when a page with a status has been shown long enough. A page of pairs is
drawn from the data of the application as they are then.

It refines the device (`nbglDevice_refines`), with switches that show what is stored.
-/

set_option autoImplicit false

namespace AppNeo3

open Memory Runs

namespace Nbgl

/-- The page after a review. -/
inductive ReviewStatus where
  | transactionSigned
  | transactionRejected
  | addressVerified
  | addressRejected
deriving DecidableEq

/-- The use case on the screen. The menu is the home page with the settings. -/
inductive Ui where
  | menu
  | address
  | refusal
  | pairs (screen : PairState)
  | status (status : ReviewStatus)
deriving DecidableEq

/-- The data of the application, the switches of the settings, the stored pairs of a
review, what the slots held when no pairs were shown, the screen, and whether the
application has ended. -/
structure NbglDevice where
  app : App
  switches : Switches
  flow : TransactionFlow
  slots : List DynamicSlot
  ui : Ui
  ended : Bool

inductive NbglEvent where
  | command (cmd : Command) (outcomes : CxOutcomes)
  /-- Bytes that the SDK does not parse as a command. -/
  | badLength
  /-- A switch of the settings. -/
  | control (token : Nat)
  | quit
  | turn (way : Pages.Way)
  /-- The choice of a review. The outcomes are those of a signature that it may ask for. -/
  | choice (confirmed : Bool) (outcomes : CxOutcomes)
  /-- A status has been shown long enough. -/
  | dismiss

namespace NbglDevice

variable (sdk : Sdk) (engine : PageEngine) (d : NbglDevice)

/-- The contents of the slots. -/
def currentSlots : List DynamicSlot :=
  match d.ui with
  | .pairs screen => screen.slots
  | _ => d.slots

/-- Show the menu. -/
def toMenu : NbglDevice :=
  { d with
    switches := uiMenuSettings engine.firstUserToken d.app.storage
    slots := d.currentSlots
    ui := .menu }

/-- The stored pairs and the first page of a review. -/
def openedUi (review : Review) : Option (TransactionFlow × Ui) :=
  match review with
  | .address _ => some (d.flow, .address)
  | .transaction _ =>
      if scriptRefused d.app.ctx.txInfo.transaction d.app.storage then some (d.flow, .refusal)
      else
        match createTransactionFlow d.app.ctx.txInfo.transaction d.flow with
        | .next _ filled =>
            (startReview sdk engine d.app.storage d.app.ctx.txInfo.received
              d.app.ctx.txInfo.transaction d.app.gTx filled d.slots).map fun screen =>
                (filled, .pairs screen)
        | _ => none

/-- What becomes of a handled command. -/
def afterCommand : Handled → Option (NbglDevice × Output)
  | none => some ({ d with ended := true }, silence)
  | some (app, .send reply) => some ({ d with app := app }, ⟨some (.send reply), none⟩)
  | some (app, .start review) =>
      let shown := { d with app := app, slots := d.currentSlots }
      (shown.openedUi sdk engine review).map fun opened =>
        ({ shown with flow := opened.1, ui := opened.2 }, ⟨some (.start review), none⟩)

/-- `controls_callback`, from the menu. -/
def control (token : Nat) : Option NbglDevice :=
  match d.ui with
  | .menu =>
      let controlled := controlsCallback engine.firstUserToken token d.switches d.app.storage
      some { d with
        app := { d.app with storage := controlled.2 }
        switches := controlled.1 }
  | _ => none

/-- Turn a page of pairs. -/
def turn (way : Pages.Way) : Option NbglDevice :=
  match d.ui with
  | .pairs screen =>
      (Nbgl.turn sdk d.app.storage d.app.ctx.txInfo.received d.app.ctx.txInfo.transaction
        d.app.gTx d.flow way screen).map fun screen => { d with ui := .pairs screen }
  | _ => none

/-- The choice that a use case ends with. A transaction is confirmed by the button on
the last page, and a refused one is rejected in any case. -/
def choose (confirmed : Bool) (outcomes : CxOutcomes) : Option (NbglDevice × Output) :=
  match d.ui with
  | .address =>
      some ({ d with ui := .status (if confirmed then .addressVerified else .addressRejected) },
        ⟨some (.send (uiActionValidatePubkey confirmed d.app)), none⟩)
  | .refusal =>
      let validated := uiActionValidateTransaction sdk outcomes false d.app
      some ({ d with app := validated.1 }.toMenu engine,
        ⟨some (.send validated.2.1), validated.2.2⟩)
  | .pairs screen =>
      if confirmed && !screen.approvable then none
      else
        let validated := uiActionValidateTransaction sdk outcomes confirmed d.app
        let status := if confirmed then .transactionSigned else .transactionRejected
        some ({ d with app := validated.1, slots := screen.slots, ui := .status status },
          ⟨some (.send validated.2.1), validated.2.2⟩)
  | _ => none

/-- Take an event. -/
def step (event : NbglEvent) : Option (NbglDevice × Output) :=
  if d.ended then none
  else
    match event with
    | .command cmd outcomes =>
        d.afterCommand sdk engine (apduDispatcher sdk .nbgl outcomes cmd d.app)
    | .badLength => some (d, ⟨some (.send (.ofSw .swoWrongDataLength)), none⟩)
    | .control token => (d.control engine token).map fun d' => (d', silence)
    | .quit => if d.ui = .menu then some ({ d with ended := true }, silence) else none
    | .turn way => (d.turn sdk way).map fun d' => (d', silence)
    | .choice confirmed outcomes => d.choose sdk engine confirmed outcomes
    | .dismiss =>
        match d.ui with
        | .status _ => some (d.toMenu engine, silence)
        | _ => none

end NbglDevice

variable (sdk : Sdk) (engine : PageEngine)

/-- The device with a touch screen as a machine. At the start the context is zeroed and
the menu is shown. -/
def nbglDevice : Machine NbglDevice NbglEvent Output where
  starts d := d.app.ctx = .zero ∧ d.ended = false ∧ d.ui = .menu ∧
    d.switches = uiMenuSettings engine.firstUserToken d.app.storage ∧
    d.slots.length = engine.maxDisplayedPairs
  step d event := d.step sdk engine event

/-- The entries of the device with a touch screen. -/
abbrev NbglTaken : Type := Entry NbglDevice NbglEvent Output

/-! ## What the events amount to -/

/-- The use case is that of the pending review, or one without a review. -/
inductive UiAgrees : Ui → Option Review → Prop
  | menu : UiAgrees .menu none
  | status {status : ReviewStatus} : UiAgrees (.status status) none
  | address {review : AddressReview} : UiAgrees .address (some (.address review))
  | refusal {review : TransactionReview} (refused : review.screen.approvable = false) :
      UiAgrees .refusal (some (.transaction review))
  | pairs {screen : PairState} {review : TransactionReview}
      (approvable : review.screen.approvable = true) :
      UiAgrees (.pairs screen) (some (.transaction review))

/-- The device with a touch screen is in a state of the device, and the switches show
what is stored. -/
structure Agrees (engine : PageEngine) (d : NbglDevice) (t : Device) : Prop where
  app : d.app = t.app
  ended : d.ended = false → t.ended = false
  ui : UiAgrees d.ui t.pending
  switches : d.switches = uiMenuSettings engine.firstUserToken d.app.storage
  slots : d.currentSlots.length = engine.maxDisplayedPairs

/-- The decision that a choice makes on the screen. -/
def NbglDevice.decision (d : NbglDevice) (confirmed : Bool) : Option Bool :=
  match d.ui with
  | .address | .pairs _ => some confirmed
  | .refusal => some false
  | _ => none

/-- What an event amounts to. -/
inductive Amounts (engine : PageEngine) (d : NbglDevice) : NbglEvent → Event → Prop
  | command (cmd : Command) (outcomes : CxOutcomes) :
      Amounts engine d (.command cmd outcomes) (.command cmd outcomes)
  | badLength : Amounts engine d .badLength .badLength
  | decision {confirmed approved : Bool} (decides : d.decision confirmed = some approved)
      (outcomes : CxOutcomes) :
      Amounts engine d (.choice confirmed outcomes) (.decision approved outcomes)
  | setting {token : Nat} {setting : Setting} (ui : d.ui = .menu)
      (stands : settingOfToken engine.firstUserToken token = some setting) :
      Amounts engine d (.control token) (.setting setting)

/-- The event is none of a command, and leaves the data alone. -/
inductive Quiet : NbglEvent → Prop
  | control (token : Nat) : Quiet (.control token)
  | quit : Quiet .quit
  | turn (way : Pages.Way) : Quiet (.turn way)
  | dismiss : Quiet .dismiss

/-- Entries amount to entries of the device with the same data and answers; the others
leave the data alone. -/
def amounting (engine : PageEngine) : Pairing NbglDevice NbglEvent Output Device Event Output where
  pairs fine coarse := Agrees engine fine.before coarse.before ∧
    Agrees engine fine.after coarse.after ∧
    Amounts engine fine.before fine.event coarse.event ∧ fine.output = coarse.output
  silent fine := fine.output = silence ∧ fine.after.app = fine.before.app ∧ Quiet fine.event

/-! ## Transitions -/

/-- What a step of the device with a touch screen does. -/
inductive NbglTransition (sdk : Sdk) (engine : PageEngine) (d : NbglDevice) :
    NbglEvent → NbglDevice × Output → Prop
  | ended {cmd : Command} {outcomes : CxOutcomes}
      (handled : handle sdk .nbgl outcomes d.app cmd.route = none) :
      NbglTransition sdk engine d (.command cmd outcomes) ({ d with ended := true }, silence)
  | sent {cmd : Command} {outcomes : CxOutcomes} {app : App} {reply : Reply}
      (handled : handle sdk .nbgl outcomes d.app cmd.route = some (app, .send reply)) :
      NbglTransition sdk engine d (.command cmd outcomes)
        ({ d with app := app }, ⟨some (.send reply), none⟩)
  | opened {cmd : Command} {outcomes : CxOutcomes} {app : App} {review : Review}
      {flow : TransactionFlow} {ui : Ui}
      (handled : handle sdk .nbgl outcomes d.app cmd.route = some (app, .start review))
      (shown : NbglDevice.openedUi sdk engine { d with app := app, slots := d.currentSlots }
        review = some (flow, ui)) :
      NbglTransition sdk engine d (.command cmd outcomes)
        ({ d with app := app, slots := d.currentSlots, flow := flow, ui := ui },
          ⟨some (.start review), none⟩)
  | badLength :
      NbglTransition sdk engine d .badLength (d, ⟨some (.send (.ofSw .swoWrongDataLength)), none⟩)
  | controlled {token : Nat} {controlled : Switches × InternalStorage} (ui : d.ui = .menu)
      (ran : controlled = controlsCallback engine.firstUserToken token d.switches d.app.storage) :
      NbglTransition sdk engine d (.control token)
        ({ d with app := { d.app with storage := controlled.2 }, switches := controlled.1 }, silence)
  | quit (ui : d.ui = .menu) : NbglTransition sdk engine d .quit ({ d with ended := true }, silence)
  | turned {way : Pages.Way} {screen screen' : PairState} (ui : d.ui = .pairs screen)
      (turned : turn sdk d.app.storage d.app.ctx.txInfo.received d.app.ctx.txInfo.transaction
        d.app.gTx d.flow way screen = some screen') :
      NbglTransition sdk engine d (.turn way) ({ d with ui := .pairs screen' }, silence)
  | confirmed {confirmed : Bool} {outcomes : CxOutcomes} {status : ReviewStatus}
      (ui : d.ui = .address) :
      NbglTransition sdk engine d (.choice confirmed outcomes)
        ({ d with ui := .status status },
          ⟨some (.send (uiActionValidatePubkey confirmed d.app)), none⟩)
  | refused {confirmed : Bool} {outcomes : CxOutcomes} {validated : App × Reply × Option Signing}
      (ui : d.ui = .refusal)
      (validates : validated = uiActionValidateTransaction sdk outcomes false d.app) :
      NbglTransition sdk engine d (.choice confirmed outcomes)
        (NbglDevice.toMenu engine { d with app := validated.1 },
          ⟨some (.send validated.2.1), validated.2.2⟩)
  | decided {confirmed : Bool} {outcomes : CxOutcomes} {screen : PairState}
      {validated : App × Reply × Option Signing} {status : ReviewStatus} (ui : d.ui = .pairs screen)
      (offered : confirmed = true → screen.approvable = true)
      (validates : validated = uiActionValidateTransaction sdk outcomes confirmed d.app) :
      NbglTransition sdk engine d (.choice confirmed outcomes)
        ({ d with app := validated.1, slots := screen.slots, ui := .status status },
          ⟨some (.send validated.2.1), validated.2.2⟩)
  | dismissed {status : ReviewStatus} (ui : d.ui = .status status) :
      NbglTransition sdk engine d .dismiss (d.toMenu engine, silence)

variable {sdk : Sdk} {engine : PageEngine} {d d' : NbglDevice} {t : Device} {output : Output}
  {event : NbglEvent}

theorem afterCommand_transition {cmd : Command} {outcomes : CxOutcomes}
    {result : NbglDevice × Output}
    (moved : d.afterCommand sdk engine (handle sdk .nbgl outcomes d.app cmd.route) = some result) :
    NbglTransition sdk engine d (.command cmd outcomes) result := by
  cases handled : handle sdk .nbgl outcomes d.app cmd.route with
  | none =>
      rw [handled] at moved
      cases moved
      exact .ended handled
  | some done =>
      obtain ⟨app, answer⟩ := done
      rw [handled] at moved
      cases answer with
      | send reply =>
          cases moved
          exact .sent handled
      | start review =>
          obtain ⟨⟨flow, ui⟩, shown, same⟩ := Option.map_eq_some_iff.mp moved
          cases same
          exact .opened handled shown

theorem choose_transition {confirmed : Bool} {outcomes : CxOutcomes} {result : NbglDevice × Output}
    (moved : d.choose sdk engine confirmed outcomes = some result) :
    NbglTransition sdk engine d (.choice confirmed outcomes) result := by
  rw [NbglDevice.choose] at moved
  cases ui : d.ui with
  | menu | status status =>
      rw [ui] at moved
      cases moved
  | address =>
      rw [ui] at moved
      cases moved
      exact .confirmed ui
  | refusal =>
      rw [ui] at moved
      cases moved
      rw [← ui]
      exact .refused ui rfl
  | pairs screen =>
      rw [ui] at moved
      dsimp only at moved
      split at moved
      · cases moved
      · rename_i offered
        cases moved
        refine .decided ui (fun yes => ?_) rfl
        subst yes
        exact Bool.not_eq_false _ ▸ fun other => offered (by rw [other]; rfl)

/-- **A step is one of the transitions**, of a device that runs. -/
theorem nbgl_transition {result : NbglDevice × Output}
    (moved : (nbglDevice sdk engine).step d event = some result) :
    d.ended = false ∧ NbglTransition sdk engine d event result := by
  change d.step sdk engine event = some result at moved
  rw [NbglDevice.step.eq_def] at moved
  cases running : d.ended with
  | true =>
      rw [running, if_pos rfl] at moved
      cases moved
  | false =>
      rw [running, if_neg Bool.false_ne_true] at moved
      refine ⟨rfl, ?_⟩
      cases event with
      | command cmd outcomes => exact afterCommand_transition moved
      | badLength =>
          cases moved
          exact .badLength
      | control token =>
          obtain ⟨d', controlled, same⟩ := Option.map_eq_some_iff.mp moved
          rw [NbglDevice.control] at controlled
          cases ui : d.ui with
          | menu =>
              rw [ui] at controlled
              cases controlled
              cases same
              rw [← ui]
              exact .controlled ui rfl
          | _ =>
              rw [ui] at controlled
              cases controlled
      | quit =>
          dsimp only at moved
          split at moved
          · rename_i ui
            cases moved
            exact .quit ui
          · cases moved
      | turn way =>
          obtain ⟨d', turned, same⟩ := Option.map_eq_some_iff.mp moved
          rw [NbglDevice.turn] at turned
          cases ui : d.ui with
          | pairs screen =>
              rw [ui] at turned
              obtain ⟨screen', went, same'⟩ := Option.map_eq_some_iff.mp turned
              cases same'
              cases same
              exact .turned ui went
          | _ =>
              rw [ui] at turned
              cases turned
      | choice confirmed outcomes => exact choose_transition moved
      | dismiss =>
          cases ui : d.ui with
          | status status =>
              rw [ui] at moved
              cases moved
              exact .dismissed ui
          | _ =>
              rw [ui] at moved
              cases moved

/-! ## The steps amount to steps of the device -/

section Slots

variable {storage : InternalStorage} {b : List UInt8} {tx : Transaction} {g : GlobalItemStorage}
  {flow : TransactionFlow} {slots slots' : List DynamicSlot}

/-- A fetch keeps the number of the slots. -/
theorem length_of_fetch {index : UInt8} {pair : Pair}
    (fetched : flow.getSingleActionReviewPair sdk storage b tx g index slots =
      some (pair, slots')) : slots'.length = slots.length := by
  rw [TransactionFlow.getSingleActionReviewPair] at fetched
  split at fetched
  · obtain ⟨_, _, found⟩ := Option.bind_eq_some_iff.mp fetched
    obtain ⟨_, _, same⟩ := Option.map_eq_some_iff.mp found
    cases same
    rfl
  · obtain ⟨_, _, found⟩ := Option.bind_eq_some_iff.mp fetched
    obtain ⟨_, _, found⟩ := Option.bind_eq_some_iff.mp found
    obtain ⟨_, _, same⟩ := Option.bind_eq_some_iff.mp found
    cases same
    exact List.length_set

/-- Fetches keep the number of the slots. -/
theorem length_of_fetches {indices : List UInt8} {pairs : List Pair}
    (fetched : SlotCache.fetchAll (flow.getSingleActionReviewPair sdk storage b tx g) indices slots =
      some (pairs, slots')) : slots'.length = slots.length := by
  induction indices generalizing slots pairs with
  | nil =>
      cases fetched
      rfl
  | cons index indices ih =>
      obtain ⟨_, first, others⟩ := Option.bind_eq_some_iff.mp fetched
      obtain ⟨_, rest, same⟩ := Option.bind_eq_some_iff.mp others
      cases same
      exact (ih rest).trans (length_of_fetch first)

theorem length_of_startReview {s : PairState}
    (started : startReview sdk engine storage b tx g flow slots = some s) :
    s.slots.length = slots.length := by
  obtain ⟨_, fetched, same⟩ := Option.bind_eq_some_iff.mp started
  cases same
  exact length_of_fetches fetched

theorem length_of_showPage {s s' : PairState} {page : Nat}
    (shown : showPage sdk storage b tx g flow s page = some s') :
    s'.slots.length = s.slots.length := by
  cases page with
  | zero =>
      cases shown
      rfl
  | succ k =>
      rw [showPage] at shown
      cases there : s.windows[k]? with
      | none =>
          rw [there] at shown
          cases shown
          rfl
      | some window =>
          rw [there] at shown
          obtain ⟨_, drawn, same⟩ := Option.map_eq_some_iff.mp shown
          cases same
          obtain ⟨_, fetched, read⟩ := Option.bind_eq_some_iff.mp drawn
          obtain ⟨_, _, same⟩ := Option.bind_eq_some_iff.mp read
          cases same
          exact length_of_fetches fetched

theorem length_of_turn {s s' : PairState} {way : Pages.Way}
    (turned : turn sdk storage b tx g flow way s = some s') : s'.slots.length = s.slots.length := by
  rw [turn] at turned
  cases target : s.turned way with
  | none =>
      rw [target] at turned
      cases turned
      rfl
  | some page =>
      rw [target] at turned
      exact length_of_showPage turned

end Slots

theorem UiAgrees.of_menu {pending : Option Review} (agrees : UiAgrees .menu pending) :
    pending = none := by
  cases agrees
  rfl

theorem UiAgrees.of_status {status : ReviewStatus} {pending : Option Review}
    (agrees : UiAgrees (.status status) pending) : pending = none := by
  cases agrees
  rfl

theorem UiAgrees.of_address {pending : Option Review} (agrees : UiAgrees .address pending) :
    ∃ review, pending = some (.address review) := by
  cases agrees with
  | @address review => exact ⟨review, rfl⟩

theorem UiAgrees.of_refusal {pending : Option Review} (agrees : UiAgrees .refusal pending) :
    ∃ review, pending = some (.transaction review) ∧ review.screen.approvable = false := by
  cases agrees with
  | @refusal review refused => exact ⟨review, rfl, refused⟩

theorem UiAgrees.of_pairs {screen : PairState} {pending : Option Review}
    (agrees : UiAgrees (.pairs screen) pending) :
    ∃ review, pending = some (.transaction review) ∧ review.screen.approvable = true := by
  cases agrees with
  | @pairs _ review approvable => exact ⟨review, rfl, approvable⟩

/-- What agrees with a new context and the same screen. -/
theorem Agrees.withApp (agrees : Agrees engine d t) {app : App}
    (storage : app.storage = d.app.storage) :
    Agrees engine { d with app := app } { t with app := app } :=
  ⟨rfl, agrees.ended, agrees.ui, agrees.switches.trans (by rw [storage]), agrees.slots⟩

/-- The menu agrees, whatever has been decided. -/
theorem Agrees.toMenu (agrees : Agrees engine d t) (running : t.ended = false) (app : App) :
    Agrees engine (NbglDevice.toMenu engine { d with app := app })
      { t with app := app, pending := none } :=
  ⟨rfl, fun _ => running, .menu, rfl, agrees.slots⟩

/-- The first page of a review agrees with its opening. -/
theorem Agrees.opened (agrees : Agrees engine d t) {app : App} {review : Review}
    {flow : TransactionFlow} {ui : Ui} {outcomes : CxOutcomes} {route : Route}
    (effect : Effect sdk .nbgl outcomes d.app route (some (app, .start review)))
    (shown : NbglDevice.openedUi sdk engine { d with app := app, slots := d.currentSlots } review =
      some (flow, ui)) :
    Agrees engine { d with app := app, slots := d.currentSlots, flow := flow, ui := ui }
      { t with app := app, pending := some review } := by
  have switches := (agrees.withApp (effect.storage rfl)).switches
  cases review with
  | address review =>
      cases shown
      exact ⟨rfl, agrees.ended, .address, switches, agrees.slots⟩
  | transaction review =>
      have approvable : review.screen.approvable =
          !scriptRefused app.ctx.txInfo.transaction app.storage := by
        rw [effect.review rfl]
        exact approvable_startSignTxUi _ _
      rw [NbglDevice.openedUi] at shown
      dsimp only at shown
      cases refused : scriptRefused app.ctx.txInfo.transaction app.storage with
      | true =>
          rw [refused, if_pos rfl] at shown
          rw [refused] at approvable
          cases shown
          exact ⟨rfl, agrees.ended, .refusal approvable, switches, agrees.slots⟩
      | false =>
          rw [refused, if_neg Bool.false_ne_true] at shown
          rw [refused] at approvable
          split at shown
          · obtain ⟨screen, started, same⟩ := Option.map_eq_some_iff.mp shown
            cases same
            exact ⟨rfl, agrees.ended, .pairs approvable, switches,
              (length_of_startReview started).trans agrees.slots⟩
          · cases shown

/-- A switch of the settings. -/
theorem Agrees.controlled (agrees : Agrees engine d t) (token : Nat) :
    let controlled := controlsCallback engine.firstUserToken token d.switches d.app.storage
    let d' : NbglDevice := { d with
      app := { d.app with storage := controlled.2 }, switches := controlled.1 }
    match settingOfToken engine.firstUserToken token with
    | none => d' = d
    | some setting => Agrees engine d' { t with
        app := { t.app with storage := t.app.storage.switch setting } } := by
  have pending := agrees.ui
  have slots := agrees.slots
  rw [agrees.switches, controlsCallback_eq]
  cases settingOfToken engine.firstUserToken token with
  | none =>
      dsimp only
      rw [← agrees.switches]
  | some setting =>
      refine ⟨?_, agrees.ended, pending, rfl, slots⟩
      dsimp only
      rw [agrees.app]

/-- **A step amounts to a step of the device, or to nothing.** What amounts to a step
ends the application only when the step does. -/
theorem NbglTransition.amounts (transition : NbglTransition sdk engine d event (d', output))
    (running : d.ended = false) (agrees : Agrees engine d t) (separate : t.app.ctx.Separate) :
    ((amounting engine).silent ⟨d, event, output, d'⟩ ∧ Agrees engine d' t) ∨
      ∃ event' t', (device sdk .nbgl).step t event' = some (t', output) ∧
        Amounts engine d event event' ∧ Agrees engine d' t' ∧
          (t'.ended = false → d'.ended = false) := by
  have effect : ∀ (cmd : Command) outcomes, Effect sdk .nbgl outcomes d.app cmd.route
      (handle sdk .nbgl outcomes d.app cmd.route) := by
    intro cmd outcomes
    rw [agrees.app]
    exact handle_effect separate cmd.route
  have running' := agrees.ended running
  have taken := @step_command sdk .nbgl t running'
  have shows := agrees.ui
  cases transition with
  | @ended cmd outcomes handled =>
      have stepped := taken cmd outcomes
      rw [← agrees.app, handled] at stepped
      exact .inr ⟨_, _, stepped, .command cmd outcomes,
        ⟨agrees.app, nofun, shows, agrees.switches, agrees.slots⟩, nofun⟩
  | @sent cmd outcomes app reply handled =>
      have stepped := taken cmd outcomes
      rw [← agrees.app, handled] at stepped
      exact .inr ⟨_, _, stepped, .command cmd outcomes,
        agrees.withApp ((effect cmd outcomes).storage handled), fun _ => running⟩
  | @opened cmd outcomes app review flow ui handled shown =>
      have stepped := taken cmd outcomes
      rw [← agrees.app, handled] at stepped
      exact .inr ⟨_, _, stepped, .command cmd outcomes,
        agrees.opened (handled ▸ effect cmd outcomes) shown, fun _ => running⟩
  | badLength => exact .inr ⟨_, _, step_badLength running', .badLength, agrees, fun _ => running⟩
  | @controlled token controlled ui ran =>
      subst ran
      have stepped := agrees.controlled token
      cases stands : settingOfToken engine.firstUserToken token with
      | none =>
          rw [stands] at stepped
          dsimp only at stepped
          rw [stepped]
          exact .inl ⟨⟨rfl, rfl, .control token⟩, agrees⟩
      | some setting =>
          rw [stands] at stepped
          rw [ui] at shows
          exact .inr ⟨_, _, step_setting running' shows.of_menu setting, .setting ui stands, stepped,
            fun _ => running⟩
  | quit ui => exact .inl ⟨⟨rfl, rfl, .quit⟩, agrees.app, nofun, shows, agrees.switches, agrees.slots⟩
  | @turned way screen screen' ui turned =>
      rw [ui] at shows
      obtain ⟨review, pending, approvable⟩ := shows.of_pairs
      have slots := agrees.slots
      rw [NbglDevice.currentSlots, ui] at slots
      refine .inl ⟨⟨rfl, rfl, .turn way⟩, agrees.app, agrees.ended, ?_, agrees.switches,
        (length_of_turn turned).trans slots⟩
      rw [pending]
      exact .pairs approvable
  | @confirmed confirmed outcomes status ui =>
      rw [ui] at shows
      obtain ⟨review, pending⟩ := shows.of_address
      have slots := agrees.slots
      rw [NbglDevice.currentSlots, ui] at slots
      have stepped := @step_address sdk .nbgl t running' _ pending confirmed outcomes
      rw [← agrees.app] at stepped
      have decides : d.decision confirmed = some confirmed := by rw [NbglDevice.decision, ui]
      exact .inr ⟨_, _, stepped, .decision decides outcomes,
        ⟨rfl, fun _ => running', .status, agrees.switches, slots⟩, fun _ => running⟩
  | @refused confirmed outcomes validated ui validates =>
      rw [ui] at shows
      obtain ⟨review, pending, _⟩ := shows.of_refusal
      have stepped := @step_offered sdk .nbgl t running' _ pending false nofun outcomes
      rw [← agrees.app, ← validates] at stepped
      have decides : d.decision confirmed = some false := by rw [NbglDevice.decision, ui]
      exact .inr ⟨_, _, stepped, .decision decides outcomes, agrees.toMenu running' validated.1,
        fun _ => running⟩
  | @decided confirmed outcomes screen validated status ui offered validates =>
      rw [ui] at shows
      obtain ⟨review, pending, approvable⟩ := shows.of_pairs
      have slots := agrees.slots
      rw [NbglDevice.currentSlots, ui] at slots
      have stepped := @step_offered sdk .nbgl t running' _ pending confirmed (fun _ => approvable)
        outcomes
      rw [← agrees.app, ← validates] at stepped
      have decides : d.decision confirmed = some confirmed := by rw [NbglDevice.decision, ui]
      have storage : validated.1.storage = d.app.storage := by
        rw [validates]
        exact storage_validated sdk outcomes confirmed d.app
      exact .inr ⟨_, _, stepped, .decision decides outcomes,
        ⟨rfl, fun _ => running', .status, agrees.switches.trans (by rw [storage]), slots⟩,
        fun _ => running⟩
  | dismissed ui =>
      rw [ui] at shows
      have same : ({ t with app := d.app, pending := none } : Device) = t := by
        rw [agrees.app, ← shows.of_status]
      exact .inl ⟨⟨rfl, rfl, .dismiss⟩, same ▸ agrees.toMenu running' d.app⟩

/-- **The device with a touch screen refines the device.** -/
theorem nbglDevice_refines (sdk : Sdk) (engine : PageEngine) :
    Refinement (nbglDevice sdk engine) (device sdk .nbgl) (amounting engine) (Agrees engine) where
  starts d starts := by
    obtain ⟨zero, running, ui, switches, slots⟩ := starts
    refine ⟨⟨d.app, none, false⟩, ⟨zero, rfl, rfl⟩, rfl, fun _ => rfl, ?_, switches, ?_⟩
    · rw [ui]
      exact .menu
    · rw [NbglDevice.currentSlots, ui]
      exact slots
  steps := by
    intro history d t event output d' run agrees moved
    obtain ⟨running, transition⟩ := nbgl_transition moved
    rcases transition.amounts running agrees (run_separate run) with
      quiet | ⟨event', t', stepped, amounts, agrees', _⟩
    · exact .inl quiet
    · exact .inr ⟨event', output, t', stepped, ⟨agrees, agrees', amounts, rfl⟩, agrees'⟩

end Nbgl

end AppNeo3
