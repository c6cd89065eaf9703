import AppNeo3.Session.Following
import AppNeo3.Session.NbglRuns

/-!
# What the device does, a touch screen can do

The device with a touch screen follows every calm run of the device (`nbgl_follows`). The
pages of a review lead to its button, a page with a status to the menu, and the choice at
the end of a review and the switches of the settings do what the device does.
-/

set_option autoImplicit false

namespace AppNeo3

open Memory Runs

namespace Nbgl

variable {sdk : Sdk} {engine : PageEngine} {base trace : List NbglTaken} {d d' : NbglDevice}
  {past history : History} {t t' : Device}

theorem screened_shows (engine : PageEngine) : screened.Shows (amounting engine) where
  reviewing := by
    rintro fine coarse ⟨agrees, _, _, _⟩ pending ⟨unlisted, unfinished⟩
    have shows := agrees.ui
    rw [pending] at shows
    cases ui : fine.before.ui with
    | menu => exact unlisted ui
    | status status => exact unfinished status ui
    | _ =>
        rw [ui] at shows
        cases shows
  approves := by
    rintro fine coarse ⟨agrees, _, amounts, _⟩ ⟨screen, outcomes, ui, event⟩
    have shows := agrees.ui
    rw [ui] at shows
    obtain ⟨review, pending, _⟩ := shows.of_pairs
    refine ⟨review, ?_, pending⟩
    rw [event] at amounts
    generalize coarse.event = decided at amounts ⊢
    cases amounts with
    | decision decides =>
        rw [NbglDevice.decision, ui] at decides
        cases decides
        exact ⟨outcomes, rfl⟩

/-- The device with a touch screen and its screens. -/
abbrev onScreen (sdk : Sdk) (engine : PageEngine) : ScreenDevice NbglDevice NbglEvent :=
  ⟨nbglDevice sdk engine, screened, amounting engine, Agrees engine, NbglDevice.ended⟩

/-- The device with a touch screen has followed a history of the device. -/
abbrev Follows (sdk : Sdk) (engine : PageEngine) (base : List NbglTaken) (past : History)
    (trace : List NbglTaken) (d : NbglDevice) (history : History) (t : Device) : Prop :=
  Followed (onScreen sdk engine) base past trace d history t

/-! ## Taking events -/

section Steps

variable (running : d.ended = false)

include running

theorem step_nbglCommand (cmd : Command) (outcomes : CxOutcomes) :
    (nbglDevice sdk engine).step d (.command cmd outcomes) =
      d.afterCommand sdk engine (handle sdk .nbgl outcomes d.app cmd.route) := by
  show d.step sdk engine (.command cmd outcomes) = _
  rw [NbglDevice.step.eq_def, running]
  rfl

theorem step_nbglBadLength : (nbglDevice sdk engine).step d .badLength =
    some (d, ⟨some (.send (.ofSw .swoWrongDataLength)), none⟩) := by
  show d.step sdk engine .badLength = _
  rw [NbglDevice.step.eq_def, running]
  rfl

theorem step_control (ui : d.ui = .menu) (token : Nat) :
    let controlled := controlsCallback engine.firstUserToken token d.switches d.app.storage
    (nbglDevice sdk engine).step d (.control token) = some ({ d with
      app := { d.app with storage := controlled.2 }, switches := controlled.1 }, silence) := by
  intro controlled
  have controls : d.control engine token = some { d with
      app := { d.app with storage := controlled.2 }, switches := controlled.1 } := by
    rw [NbglDevice.control, ui]
  show d.step sdk engine (.control token) = _
  rw [NbglDevice.step.eq_def]
  refine (if_neg ?_).trans (congrArg (Option.map fun d' => (d', silence)) controls)
  rw [running]
  exact Bool.false_ne_true

theorem step_turn {way : Pages.Way} (turned : d.turn sdk way = some d') :
    (nbglDevice sdk engine).step d (.turn way) = some (d', silence) := by
  show d.step sdk engine (.turn way) = _
  rw [NbglDevice.step.eq_def, running]
  exact congrArg (Option.map fun d' => (d', silence)) turned

theorem step_choice (confirmed : Bool) (outcomes : CxOutcomes) :
    (nbglDevice sdk engine).step d (.choice confirmed outcomes) =
      d.choose sdk engine confirmed outcomes := by
  show d.step sdk engine (.choice confirmed outcomes) = _
  rw [NbglDevice.step.eq_def, running]
  rfl

theorem step_dismiss {status : ReviewStatus} (ui : d.ui = .status status) :
    (nbglDevice sdk engine).step d .dismiss = some (d.toMenu engine, silence) := by
  show d.step sdk engine .dismiss = _
  rw [NbglDevice.step.eq_def, running, ui]
  rfl

end Steps

/-! ## What there is to show and to choose -/

/-- The first page of a review that is not refused. -/
theorem openedUi_of_accepted (sdk : Sdk) (engine : PageEngine) (review : TransactionReview)
    (accepted : scriptRefused d.app.ctx.txInfo.transaction d.app.storage = false)
    (parses : Parses sdk d.app.ctx.txInfo.received d.app.ctx.txInfo.transaction)
    (slots : d.slots.length = engine.maxDisplayedPairs) : ∃ flow screen,
      d.openedUi sdk engine (.transaction review) = some (flow, .pairs screen) := by
  obtain ⟨filled, created, holds, _⟩ := createTransactionFlow_fills
    (Bagl.signersSize_bounds parses).2 (length_dynItems_le parses) d.flow
  obtain ⟨screen, started, _⟩ :=
    startReview_shown parses d.app.storage engine d.app.gTx holds slots
  refine ⟨filled, screen, ?_⟩
  rw [NbglDevice.openedUi, accepted, if_neg Bool.false_ne_true, created]
  exact congrArg (Option.map fun screen => (filled, Ui.pairs screen)) started

/-- No calm command is left without a screen. -/
theorem exists_step_command (agrees : Agrees engine d t) (run : Run (device sdk .nbgl) history t)
    (running : d.ended = false) {cmd : Command} {outcomes : CxOutcomes} {output : Output}
    (calm : CalmTaken ⟨t, .command cmd outcomes, output, t'⟩ history) :
    ∃ result, (nbglDevice sdk engine).step d (.command cmd outcomes) = some result := by
  rw [step_nbglCommand running]
  have effect := @handle_effect sdk .nbgl outcomes _ (run_separate run) cmd.route
  have covered := run_covered run (agrees.ended running)
  rw [← agrees.app] at effect covered
  cases handled : handle sdk .nbgl outcomes d.app cmd.route with
  | none => exact ⟨_, rfl⟩
  | some done =>
      obtain ⟨app, answer⟩ := done
      cases answer with
      | send reply => exact ⟨_, rfl⟩
      | start review =>
          rw [handled] at effect
          obtain ⟨opened, shown⟩ : ∃ opened, NbglDevice.openedUi sdk engine
              { d with app := app, slots := d.currentSlots } review = some opened := by
            cases review with
            | address asked => exact ⟨_, rfl⟩
            | transaction asked =>
                cases refused : scriptRefused app.ctx.txInfo.transaction app.storage with
                | true => exact ⟨_, if_pos refused⟩
                | false =>
                    have held := held_of_opened effect fun data chunk more routed first second =>
                      covered (calm.begun data chunk more (congrArg some routed) first second)
                    obtain ⟨flow, screen, opened⟩ := @openedUi_of_accepted
                      { d with app := app, slots := d.currentSlots } sdk engine asked refused
                      held.parses agrees.slots
                    exact ⟨_, opened⟩
          exact ⟨_, congrArg (Option.map fun opened : TransactionFlow × Ui => (({ d with
            app := app, slots := d.currentSlots, flow := opened.1, ui := opened.2 } : NbglDevice),
              (⟨some (.start review), none⟩ : Output))) shown⟩

/-- A choice can be made, of a transaction at the end of its pages. -/
theorem exists_step_choice (running : d.ended = false) {confirmed approved : Bool}
    (decides : d.decision confirmed = some approved)
    (last : ∀ screen, d.ui = .pairs screen → confirmed = true → screen.approvable = true)
    (outcomes : CxOutcomes) :
    ∃ result, (nbglDevice sdk engine).step d (.choice confirmed outcomes) = some result := by
  rw [step_choice running, NbglDevice.choose]
  rw [NbglDevice.decision] at decides
  cases ui : d.ui with
  | menu | status status =>
      rw [ui] at decides
      cases decides
  | address => exact ⟨_, rfl⟩
  | refusal => exact ⟨_, rfl⟩
  | pairs screen =>
      refine ⟨_, if_neg ?_⟩
      cases confirmed with
      | false => exact Bool.false_ne_true
      | true =>
          rw [last screen ui rfl]
          exact Bool.false_ne_true

namespace Follows

/-- A page that is turned follows nothing more. -/
theorem turn (follows : Follows sdk engine base past trace d history t)
    (run : Run (device sdk .nbgl) history t) (running : t.ended = false) {way : Pages.Way}
    {screen screen' : PairState} (ui : d.ui = .pairs screen)
    (turned : Nbgl.turn sdk d.app.storage d.app.ctx.txInfo.received d.app.ctx.txInfo.transaction
      d.app.gTx d.flow way screen = some screen') :
    ∃ trace', Follows sdk engine base past trace' { d with ui := .pairs screen' } history t := by
  have up := follows.running running
  have moved : d.turn sdk way = some { d with ui := .pairs screen' } := by
    rw [NbglDevice.turn, ui]
    exact congrArg (Option.map fun screen => ({ d with ui := .pairs screen } : NbglDevice)) turned
  have transition : NbglTransition sdk engine d (.turn way)
      ({ d with ui := .pairs screen' }, silence) := .turned ui turned
  rcases transition.amounts up follows.agrees (run_separate run) with
    ⟨silent, agrees⟩ | ⟨_, _, _, amounts, _⟩
  · refine ⟨_, follows.silent (screened_tells engine) (step_turn up moved) silent ?_
      agrees fun _ => up⟩
    rintro ⟨_, _, _, other⟩
    cases other
  · cases amounts

/-- Turned pages follow nothing more. -/
theorem turns (follows : Follows sdk engine base past trace d history t)
    (run : Run (device sdk .nbgl) history t) (running : t.ended = false) {screen screen' : PairState}
    (ui : d.ui = .pairs screen)
    (moves : Relation.ReflTransGen (Turned sdk d.app.storage d.app.ctx.txInfo.received
      d.app.ctx.txInfo.transaction d.app.gTx d.flow) screen screen') :
    ∃ trace', Follows sdk engine base past trace' { d with ui := .pairs screen' } history t := by
  induction moves with
  | refl =>
      refine ⟨trace, ?_⟩
      rw [← ui]
      exact follows
  | tail _ turned ih =>
      obtain ⟨_, follows⟩ := ih
      obtain ⟨way, turned⟩ := turned
      exact follows.turn run running rfl turned

/-- **Every decision that a review offers is within reach.** -/
theorem toDecision (follows : Follows sdk engine base past trace d history t)
    (run : Run (device sdk .nbgl) history t) (running : t.ended = false) {review : Review}
    (pending : t.pending = some review) {approved : Bool}
    (offered : ∀ asked, review = .transaction asked → approved = true →
      asked.screen.approvable = true) :
    ∃ trace' d', Follows sdk engine base past trace' d' history t ∧
      d'.decision approved = some approved ∧
      ∀ screen, d'.ui = .pairs screen → approved = true → screen.approvable = true := by
  have agrees := follows.agrees
  have shows := agrees.ui
  rw [pending] at shows
  cases ui : d.ui with
  | menu | status status =>
      rw [ui] at shows
      cases shows
  | address =>
      refine ⟨trace, d, follows, ?_, fun screen other => ?_⟩
      · rw [NbglDevice.decision, ui]
      · cases ui.symm.trans other
  | refusal =>
      rw [ui] at shows
      obtain ⟨asked, same, refused⟩ := shows.of_refusal
      refine ⟨trace, d, follows, ?_, fun screen other => ?_⟩
      · rw [NbglDevice.decision, ui]
        cases approved with
        | false => rfl
        | true => cases refused.symm.trans (offered asked (Option.some.inj same) rfl)
      · cases ui.symm.trans other
  | pairs screen =>
      obtain ⟨review, held⟩ := run_nbglHeld follows.run follows.calm ui
      obtain ⟨_, walk, _⟩ := run_reviewing follows.run follows.calm ui
      obtain ⟨_, all⟩ := run_pages held.parses walk
      obtain ⟨screen', moves, last⟩ := reaches_approvable held.parses
        (holds_of_run held.parses walk) (all screen (.head _)).1
      obtain ⟨trace', follows'⟩ := follows.turns run running ui moves
      refine ⟨trace', _, follows', rfl, fun other same _ => ?_⟩
      cases same
      exact last

/-- **The menu is within reach when there is no review.** -/
theorem toMenu (follows : Follows sdk engine base past trace d history t)
    (run : Run (device sdk .nbgl) history t) (running : t.ended = false)
    (pending : t.pending = none) :
    ∃ trace' d', Follows sdk engine base past trace' d' history t ∧ d'.ui = .menu := by
  have up := follows.running running
  have shows := follows.agrees.ui
  rw [pending] at shows
  cases ui : d.ui with
  | menu => exact ⟨trace, d, follows, ui⟩
  | status status =>
      have transition : NbglTransition sdk engine d .dismiss (d.toMenu engine, silence) :=
        .dismissed ui
      rcases transition.amounts up follows.agrees (run_separate run) with
        ⟨silent, agrees⟩ | ⟨_, _, _, amounts, _⟩
      · refine ⟨_, _, follows.silent (screened_tells engine) (step_dismiss up ui) silent ?_
          agrees fun _ => up, rfl⟩
        rintro ⟨_, _, _, other⟩
        cases other
      · cases amounts
  | address | refusal | pairs screen =>
      rw [ui] at shows
      cases shows

/-! ## Following a run -/

/-- An entry that amounts to one entry only. -/
theorem answers (follows : Follows sdk engine base past trace d history t)
    (run : Run (device sdk .nbgl) history t) {chosen : NbglEvent} {event : Event}
    {output output' : Output}
    (stepped : (nbglDevice sdk engine).step d chosen = some (d', output))
    (loud : ¬ (amounting engine).silent ⟨d, chosen, output, d'⟩)
    (only : ∀ other, Amounts engine d chosen other → other = event)
    (moved : (device sdk .nbgl).step t event = some (t', output'))
    (calm : CalmTaken ⟨t, event, output', t'⟩ history) :
    ∃ trace' d', Follows sdk engine base past trace' d' (⟨t, event, output', t'⟩ :: history) t' := by
  obtain ⟨up, transition⟩ := nbgl_transition stepped
  have agrees := follows.agrees
  rcases transition.amounts up agrees (run_separate run) with
    ⟨silent, _⟩ | ⟨other, s, moved', amounts, agrees', ends⟩
  · exact absurd silent loud
  · cases only other amounts
    cases moved.symm.trans moved'
    exact ⟨_, _, follows.both (screened_tells engine) (screened_shows engine) stepped
      ⟨agrees, agrees', amounts, rfl⟩ calm agrees' ends⟩

/-- **Every calm step can be followed.** -/
theorem step (follows : Follows sdk engine base past trace d history t)
    (run : Run (device sdk .nbgl) history t) {event : Event} {output : Output}
    (moved : (device sdk .nbgl).step t event = some (t', output))
    (calm : CalmTaken ⟨t, event, output, t'⟩ history) :
    ∃ trace' d', Follows sdk engine base past trace' d' (⟨t, event, output, t'⟩ :: history) t' := by
  have running := running_of_step moved
  have up := follows.running running
  cases event with
  | command cmd outcomes =>
      obtain ⟨_, stepped⟩ := @exists_step_command sdk engine _ _ _ _ follows.agrees run up
        _ _ _ calm
      refine follows.answers run stepped ?_ ?_ moved calm
      · rintro ⟨_, _, ⟨⟩⟩
      · rintro _ ⟨⟩
        rfl
  | badLength =>
      refine follows.answers run (step_nbglBadLength up) ?_ ?_ moved calm
      · rintro ⟨_, _, ⟨⟩⟩
      · rintro _ ⟨⟩
        rfl
  | decision approved outcomes =>
      obtain ⟨review, pending, offered⟩ := offered_of_step (run_separate run) moved
      obtain ⟨_, d', follows', decides, last⟩ := follows.toDecision run running pending offered
      obtain ⟨_, stepped⟩ := @exists_step_choice sdk engine _ (follows'.running running) _ _
        decides last outcomes
      refine follows'.answers run stepped ?_ ?_ moved calm
      · rintro ⟨_, _, ⟨⟩⟩
      · rintro _ amounts
        cases amounts with
        | decision decides' =>
            cases decides.symm.trans decides'
            rfl
  | setting setting =>
      have pending := unreviewed_of_step (run_separate run) moved
      obtain ⟨_, d', follows', ui⟩ := follows.toMenu run running pending
      obtain ⟨token, stands⟩ := exists_token engine.firstUserToken setting
      have stepped := @step_control sdk engine _ (follows'.running running) ui token
      refine follows'.answers run stepped ?_ ?_ moved calm
      · rintro ⟨_, same, _⟩
        have switched := congrArg App.storage same
        rw [follows'.agrees.switches, controlsCallback_eq, stands] at switched
        exact switch_ne _ setting switched
      · rintro _ amounts
        cases amounts with
        | setting _ stands' =>
            cases stands.symm.trans stands'
            rfl

end Follows

/-- **The device with a touch screen follows the device.** -/
theorem nbglFollowing (sdk : Sdk) (engine : PageEngine) :
    Following sdk .nbgl (onScreen sdk engine) where
  refines := nbglDevice_refines sdk engine
  tells := screened_tells engine
  shows := screened_shows engine
  runs _ _ _ moved := (nbgl_transition moved).1
  quiet := by
    rintro d event d' output moved ⟨_, _, quiet⟩ ⟨_, _, _, rfl⟩
    cases quiet
  starts t starts := by
    obtain ⟨zero, pending, running⟩ := starts
    let d : NbglDevice := ⟨t.app, uiMenuSettings engine.firstUserToken t.app.storage, .zero,
      List.replicate engine.maxDisplayedPairs .full, .menu, false⟩
    have slots : d.currentSlots.length = engine.maxDisplayedPairs := List.length_replicate
    refine ⟨d, ⟨zero, rfl, rfl, rfl, slots⟩, ⟨rfl, fun _ => running, ?_, rfl, slots⟩, rfl⟩
    rw [pending]
    exact .menu
  steps _ _ _ _ _ _ _ _ _ follows run moved calm := Follows.step follows run moved calm

/-- **What the device does next, a touch screen can do.** From whatever screen a calm run
has led to, every calm continuation of the device is one of the device with a touch
screen, up to silent entries: no decision that a review offers and no setting is out of
reach. -/
theorem nbgl_follows (sdk : Sdk) (engine : PageEngine) (run : Run (nbglDevice sdk engine) trace d)
    (calm : Along screened.Calm trace) (running : d.ended = false) :
    ∃ history t, Run (device sdk .nbgl) history t ∧ Agrees engine d t ∧
      Paired (amounting engine) trace history ∧
      ∀ events newer' t', (device sdk .nbgl).feed history t events = some (newer' ++ history, t') →
        Along CalmTaken (newer' ++ history) → ∃ newer d',
          Run (nbglDevice sdk engine) (newer ++ trace) d' ∧ Along screened.Calm (newer ++ trace) ∧
          Agrees engine d' t' ∧ Paired (amounting engine) newer newer' :=
  (nbglFollowing sdk engine).continues run calm running

/-- From the start, the touches that have the transfer signed. -/
theorem nbgl_follows_transfer : ∃ trace d, Run (nbglDevice .reference .reference) trace d ∧
    ∃ entry ∈ trace, ∃ signing, entry.output.signing = some signing := by
  obtain ⟨history, t, _, agrees, paired, next⟩ :=
    nbgl_follows .reference .reference (run_nbglAtStart .reference) trivial rfl
  have here : Device.atStart = t := by
    obtain ⟨app, pending, ended⟩ := t
    cases agrees.app
    cases agrees.ended rfl
    cases agrees.ui.of_menu
    rfl
  obtain ⟨events, newer', _, fed, calm, _, member, signing, signed⟩ := feed_signedTransfer .nbgl
  cases paired
  rw [here, ← newer'.append_nil] at fed
  obtain ⟨newer, d, run, _, _, paired⟩ := next events _ _ fed (newer'.append_nil.symm ▸ calm)
  obtain ⟨entry, there, _, _, _, same⟩ := paired.mem member
  rw [newer.append_nil] at run
  exact ⟨newer, d, run, entry, there, signing, same ▸ signed⟩

end Nbgl

end AppNeo3
