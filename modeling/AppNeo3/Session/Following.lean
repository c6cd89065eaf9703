import AppNeo3.Session.Held

/-!
# Following the device on a screen

A device with a screen refines the device. The other way round, it follows the device when
it can take every calm step of the device after some silent entries (`Following`). Then it
follows every calm run (`Following.of_run`), and from whatever screen a calm run has led
to, it follows whatever the device does next (`Following.continues`): no screen is a dead
end.
-/

set_option autoImplicit false

namespace AppNeo3

open Memory Runs

/-! ## What the device takes -/

section Taking

variable {sdk : Sdk} {build : Build} {t : Device} {result : Device × Output}

/-- A decision that is taken is offered by the review. -/
theorem offered_of_step (separate : t.app.ctx.Separate) {approved : Bool} {outcomes : CxOutcomes}
    (moved : (device sdk build).step t (.decision approved outcomes) = some result) :
    ∃ review, t.pending = some review ∧ ∀ asked, review = .transaction asked →
      approved = true → asked.screen.approvable = true := by
  cases step_transition separate moved with
  | address pending =>
      refine ⟨_, pending, fun asked other => ?_⟩
      cases other
  | transaction pending offered validates =>
      refine ⟨_, pending, fun asked same => ?_⟩
      cases Review.transaction.inj same
      exact offered

/-- A setting is switched while there is no review. -/
theorem unreviewed_of_step (separate : t.app.ctx.Separate) {setting : Setting}
    (moved : (device sdk build).step t (.setting setting) = some result) : t.pending = none := by
  cases step_transition separate moved with
  | setting pending => exact pending

end Taking

/-! ## Following -/

variable {σ ε : Type}

/-- What the entries of the device are on the screen. -/
structure Screened.Shows (screened : Screened σ ε)
    (pairing : Pairing σ ε Output Device Event Output) : Prop where
  reviewing : ∀ fine coarse, pairing.pairs fine coarse → coarse.before.pending = none →
    ¬ screened.reviewing fine.before
  approves : ∀ fine (coarse : Taken), pairing.pairs fine coarse → screened.approves fine →
    ∃ review, coarse.Decides true (.transaction review)

/-- A device with a screen: the machine, what is known of its screens, what its entries
amount to, the states of the device that it agrees with, and whether it has ended. -/
structure ScreenDevice (σ ε : Type) where
  machine : Machine σ ε Output
  screened : Screened σ ε
  pairing : Pairing σ ε Output Device Event Output
  agrees : σ → Device → Prop
  ended : σ → Bool

/-- A calm run of a device with a screen has followed a history of the device, and since
the end of an earlier run what has been added to an earlier history. -/
structure Followed (screen : ScreenDevice σ ε) (base : List (Entry σ ε Output)) (past : History)
    (trace : List (Entry σ ε Output)) (d : σ) (history : History) (t : Device) : Prop where
  run : Run screen.machine trace d
  since : ∃ newer newer', trace = newer ++ base ∧ history = newer' ++ past ∧
    Paired screen.pairing newer newer'
  paired : Paired screen.pairing trace history
  calm : Along screen.screened.Calm trace
  approved : screen.screened.Approved trace → Approved history
  agrees : screen.agrees d t
  running : t.ended = false → screen.ended d = false

variable {screen : ScreenDevice σ ε} {base trace : List (Entry σ ε Output)} {d d' : σ}
  {past history : History} {t t' : Device} {event : ε} {output : Output}

namespace Followed

/-- **A silent entry** follows the same history. -/
theorem silent (followed : Followed screen base past trace d history t)
    (tells : screen.screened.Tells screen.pairing)
    (moved : screen.machine.step d event = some (d', output))
    (silent : screen.pairing.silent ⟨d, event, output, d'⟩)
    (unapproving : ¬ screen.screened.approves ⟨d, event, output, d'⟩) (agrees : screen.agrees d' t)
    (running : t.ended = false → screen.ended d' = false) :
    Followed screen base past (⟨d, event, output, d'⟩ :: trace) d' history t where
  run := followed.run.step moved
  since := by
    obtain ⟨newer, newer', rfl, rfl, paired⟩ := followed.since
    exact ⟨_ :: newer, newer', rfl, rfl, .skip silent paired⟩
  paired := .skip silent followed.paired
  calm := ⟨Screened.calm_of_none (tells.silent _ silent) _, followed.calm⟩
  approved since := followed.approved (since.before unapproving).2
  agrees := agrees
  running := running

/-- **A paired entry** follows one more entry. -/
theorem both (followed : Followed screen base past trace d history t)
    (tells : screen.screened.Tells screen.pairing) (shows : screen.screened.Shows screen.pairing)
    (moved : screen.machine.step d event = some (d', output)) {entry : Taken}
    (pairs : screen.pairing.pairs ⟨d, event, output, d'⟩ entry) (calm : CalmTaken entry history)
    (agrees : screen.agrees d' t') (running : t'.ended = false → screen.ended d' = false) :
    Followed screen base past (⟨d, event, output, d'⟩ :: trace) d' (entry :: history) t' := by
  have routes := tells.route _ _ pairs
  refine ⟨followed.run.step moved, ?_, .both pairs followed.paired, ⟨⟨?_, ?_⟩, followed.calm⟩, ?_,
    agrees, running⟩
  · obtain ⟨newer, newer', rfl, rfl, paired⟩ := followed.since
    exact ⟨_ :: newer, _ :: newer', rfl, rfl, .both pairs paired⟩
  · intro route routed
    exact shows.reviewing _ _ pairs (calm.unreviewed route (routes.trans routed))
  · intro data chunk more routed first second approved
    exact calm.begun data chunk more (routes.trans routed) first second (followed.approved approved)
  · rintro (approves | ⟨kept, since⟩)
    · exact .marked (shows.approves _ _ pairs approves)
    · refine (followed.approved since).keep ?_
      rintro ⟨route, routed, wipes⟩
      exact kept ⟨route, routes.symm.trans routed, wipes⟩

/-- The same run, from its end on. -/
theorem rebase (followed : Followed screen base past trace d history t) :
    Followed screen trace history trace d history t :=
  { followed with since := ⟨[], [], rfl, rfl, .start⟩ }

end Followed

/-- **A device with a screen follows the device.** It refines it, and takes its calm steps
after silent entries. -/
structure Following (sdk : Sdk) (build : Build) (screen : ScreenDevice σ ε) : Prop where
  refines : Refinement screen.machine (device sdk build) screen.pairing screen.agrees
  tells : screen.screened.Tells screen.pairing
  shows : screen.screened.Shows screen.pairing
  runs : ∀ d event result, screen.machine.step d event = some result → screen.ended d = false
  quiet : ∀ d event d' output, screen.machine.step d event = some (d', output) →
    screen.pairing.silent ⟨d, event, output, d'⟩ → ¬ screen.screened.approves ⟨d, event, output, d'⟩
  starts : ∀ t, (device sdk build).starts t →
    ∃ d, screen.machine.starts d ∧ screen.agrees d t ∧ screen.ended d = false
  steps : ∀ base past trace d history t event output t', Followed screen base past trace d history t →
    Run (device sdk build) history t → (device sdk build).step t event = some (t', output) →
    CalmTaken ⟨t, event, output, t'⟩ history →
    ∃ trace' d', Followed screen base past trace' d' (⟨t, event, output, t'⟩ :: history) t'

namespace Following

variable {sdk : Sdk} {build : Build}

/-- **Every calm run of the device can be followed.** -/
theorem of_run (following : Following sdk build screen) (run : Run (device sdk build) history t)
    (calm : Along CalmTaken history) : ∃ trace d, Followed screen [] [] trace d history t := by
  induction run with
  | start starts =>
      obtain ⟨d, starts', agrees, running⟩ := following.starts _ starts
      exact ⟨[], d, .start starts', ⟨[], [], rfl, rfl, .start⟩, .start, trivial, id, agrees,
        fun _ => running⟩
  | step run moved ih =>
      obtain ⟨trace, d, followed⟩ := ih calm.2
      exact following.steps _ _ _ _ _ _ _ _ _ followed run moved calm.1

/-- A calm run of the device with a screen has followed some run of the device. -/
theorem of_calm (following : Following sdk build screen) (run : Run screen.machine trace d)
    (calm : Along screen.screened.Calm trace) (running : screen.ended d = false) :
    ∃ history t, Run (device sdk build) history t ∧ Followed screen [] [] trace d history t := by
  induction run with
  | start starts =>
      obtain ⟨t, starts', agrees⟩ := following.refines.starts _ starts
      exact ⟨[], t, .start starts', .start starts, ⟨[], [], rfl, rfl, .start⟩, .start,
        trivial, id, agrees, fun _ => running⟩
  | step run moved ih =>
      obtain ⟨history, t, reached, followed⟩ := ih calm.2 (following.runs _ _ _ moved)
      rcases following.refines.steps _ _ _ _ _ _ reached followed.agrees moved with
        ⟨silent, agrees⟩ | ⟨event', output', t', moved', pairs, agrees⟩
      · exact ⟨history, t, reached, followed.silent following.tells moved silent
          (following.quiet _ _ _ _ moved silent) agrees fun _ => running⟩
      · have calm' := following.tells.calmTaken (.both pairs followed.paired) calm
        exact ⟨_, t', reached.step moved', followed.both following.tells following.shows moved pairs
          calm'.1 agrees fun _ => running⟩

/-- Whatever the device does next can be followed, while it is calm. -/
theorem feed (following : Following sdk build screen) : ∀ {events : List Event}
    {trace : List (Entry σ ε Output)} {d : σ} {history history' : History} {t t' : Device},
    Followed screen base past trace d history t → Run (device sdk build) history t →
    (device sdk build).feed history t events = some (history', t') → Along CalmTaken history' →
    ∃ trace' d', Followed screen base past trace' d' history' t'
  | [], trace, d, _, _, _, _, followed, _, fed, _ => by
      cases fed
      exact ⟨trace, d, followed⟩
  | _ :: _, _, _, _, _, _, _, followed, run, fed, calm => by
      obtain ⟨_, _, moved, fed⟩ := Machine.step_of_feed fed
      have calm' := calm.of_suffix (Machine.suffix_of_feed fed)
      obtain ⟨_, _, followed'⟩ := following.steps _ _ _ _ _ _ _ _ _ followed run moved calm'.1
      exact following.feed followed' (run.step moved) fed calm

/-- **No screen is a dead end.** A calm run of the device with a screen that has not ended
is at a state of the device, and whatever calm run the device continues with is followed
from there. -/
theorem continues (following : Following sdk build screen) (run : Run screen.machine trace d)
    (calm : Along screen.screened.Calm trace) (running : screen.ended d = false) :
    ∃ history t, Run (device sdk build) history t ∧ screen.agrees d t ∧
      Paired screen.pairing trace history ∧ ∀ events newer' t',
        (device sdk build).feed history t events = some (newer' ++ history, t') →
        Along CalmTaken (newer' ++ history) → ∃ newer d', Run screen.machine (newer ++ trace) d' ∧
          Along screen.screened.Calm (newer ++ trace) ∧ screen.agrees d' t' ∧
          Paired screen.pairing newer newer' := by
  obtain ⟨history, t, reached, followed⟩ := following.of_calm run calm running
  refine ⟨history, t, reached, followed.agrees, followed.paired, fun events newer' t' fed calm => ?_⟩
  obtain ⟨_, d', after⟩ := following.feed followed.rebase reached fed calm
  obtain ⟨newer, _, rfl, same, paired⟩ := after.since
  rw [← List.append_cancel_right same] at paired
  exact ⟨newer, d', after.run, after.calm, after.agrees, paired⟩

end Following

/-! ## Calm sessions -/

/-- An entry without a review, before anything is approved. -/
theorem calmTaken_of_none {entry : Taken} (pending : entry.before.pending = none)
    {older : History} (unapproved : ¬ Approved older) : CalmTaken entry older :=
  ⟨fun _ _ => pending, fun _ _ _ _ _ _ => unapproved⟩

/-- An entry that is no command. -/
theorem calmTaken_of_other {entry : Taken} (other : entry.event.route = none) (older : History) :
    CalmTaken entry older := by
  constructor
  · intro _ routed
    cases other.symm.trans routed
  · intro _ _ _ routed
    cases other.symm.trans routed

/-- The transfer is approved in the first session. -/
theorem feed_signedTransfer (build : Build) : ∃ events history s,
    (device .reference build).feed [] .atStart events = some (history, s) ∧
      Along CalmTaken history ∧
      ∃ entry ∈ history, ∃ signing, entry.output.signing = some signing := by
  have path := @handle_path .reference build .success App.zero _ _ firstPath_accepted true
  rw [← route_pathCommand] at path
  have magic := @handle_magic .reference build .success App.zero.onPath rfl mainnetData (by decide)
    true
  rw [← route_magicCommand] at magic
  have parses := (@receive_image .reference App.zero.onMainnet.ctx rfl _ fits_transferImage).2.1
  have reviewed := @handle_reviewed .reference build .success App.zero.onMainnet rfl _ _ two_part
    fits_transferImage parses rfl
  rw [← route_transferCommand] at reviewed
  have signed := @step_transaction .reference build
    ⟨App.onTransfer, some (.transaction (transferReview build)), false⟩ rfl _ rfl
    (approvable_transferReview build) true .success
  obtain ⟨_, signs⟩ := approveTransaction_of_signs .reference .success App.onTransfer rfl
  rw [uiActionValidateTransaction, if_pos rfl, signs] at signed
  have answered := @step_answered .reference build .atStart rfl _ _ _ _ path
  have stored := @step_answered .reference build ⟨_, none, false⟩ rfl _ _ _ _ magic
  have opened := @step_opened .reference build ⟨_, none, false⟩ rfl _ _ _ _ reviewed
  have fed := calc
    (device .reference build).feed [] .atStart [.command pathCommand .success,
      .command magicCommand .success, .command transferCommand .success, .decision true .success]
    _ = _ := Machine.feed_of_step answered [] _
    _ = _ := Machine.feed_of_step stored _ _
    _ = _ := Machine.feed_of_step opened _ _
    _ = _ := Machine.feed_of_step signed _ []
  refine ⟨_, _, _, fed, ⟨?_, ?_, ?_, ?_, trivial⟩, _, .head _, _, rfl⟩
  · exact calmTaken_of_other rfl _
  · exact calmTaken_of_none rfl (not_approved_of_command rfl (not_approved_of_command rfl id))
  · exact calmTaken_of_none rfl (not_approved_of_command rfl id)
  · exact calmTaken_of_none rfl id

theorem run_signedTransfer (build : Build) : ∃ history s, Run (device .reference build) history s ∧
    Along CalmTaken history ∧
      ∃ entry ∈ history, ∃ signing, entry.output.signing = some signing := by
  obtain ⟨_, history, s, fed, calm, signed⟩ := feed_signedTransfer build
  exact ⟨history, s, run_atStart.feed fed, calm, signed⟩

/-- An address is confirmed. -/
theorem run_confirmedAddress (build : Build) :
    ∃ history s, Run (device .reference build) history s ∧ Along CalmTaken history ∧
      ∃ entry ∈ history, ∃ data, entry.output.answer = some (.send ⟨data, .swoSuccess⟩) := by
  have run := Run.step (@run_show build _ _ run_atStart rfl)
    (@step_address .reference build _ rfl _ rfl true .success)
  refine ⟨_, _, run, ⟨calmTaken_of_other rfl _, calmTaken_of_none rfl id, trivial⟩, _, .head _, _,
    rfl⟩

end AppNeo3
