/-!
# Runs of a machine and their histories

A machine starts in one of its start states and answers each event it can take
with an output and a next state. A run records one entry for every event taken,
the newest first, so that what happened before an entry is the rest of the list.

`Run.invariant` is the rule for properties of states, and `Run.along` the rule
for properties of entries in the runs whose entries all meet a guard; where the
guard is not needed for the invariant, `Run.along_steps` does. `Since` says
of a history that something has happened since something else, and `times` how
often it has happened. What always needs something else since it last happened
does not happen more often than that (`Along.times_le`).
-/

set_option autoImplicit false

namespace Runs

variable {σ ε ω : Type}

/-- A machine. An event that a state cannot take has no step. -/
structure Machine (σ ε ω : Type) where
  starts : σ → Prop
  step : σ → ε → Option (σ × ω)

/-- One event taken: the state it met, what it was answered, the state it left. -/
structure Entry (σ ε ω : Type) where
  before : σ
  event : ε
  output : ω
  after : σ

/-- The runs of a machine, with the state they have reached. -/
inductive Run (machine : Machine σ ε ω) : List (Entry σ ε ω) → σ → Prop
  | start {s : σ} (starts : machine.starts s) : Run machine [] s
  | step {trace : List (Entry σ ε ω)} {s s' : σ} {event : ε} {output : ω}
      (run : Run machine trace s) (moved : machine.step s event = some (s', output)) :
      Run machine (⟨s, event, output, s'⟩ :: trace) s'

/-- The states that a machine has been in, the newest first. -/
def visited (trace : List (Entry σ ε ω)) (s : σ) : List σ := s :: trace.map Entry.before

/-- Every entry of a history has a property, which may speak of the history
before it. -/
def Along (holds : Entry σ ε ω → List (Entry σ ε ω) → Prop) : List (Entry σ ε ω) → Prop
  | [] => True
  | entry :: older => holds entry older ∧ Along holds older

theorem Along.mono {first second : Entry σ ε ω → List (Entry σ ε ω) → Prop}
    (sub : ∀ entry older, first entry older → second entry older) :
    ∀ {trace : List (Entry σ ε ω)}, Along first trace → Along second trace
  | [], _ => trivial
  | _ :: _, ⟨newest, older⟩ => ⟨sub _ _ newest, older.mono sub⟩

/-- What holds along a history held along it before. -/
theorem Along.of_suffix {holds : Entry σ ε ω → List (Entry σ ε ω) → Prop} :
    ∀ {trace older : List (Entry σ ε ω)}, Along holds trace → older <:+ trace → Along holds older
  | [], _, along, suffix => List.suffix_nil.mp suffix ▸ along
  | entry :: trace, older, along, suffix => by
      rcases List.suffix_cons_iff.mp suffix with rfl | earlier
      · exact along
      · exact along.2.of_suffix earlier

variable {machine : Machine σ ε ω}

/-- **The rule for states.** What holds at the start and is kept by every step
holds in every state reached. -/
theorem Run.invariant {holds : σ → Prop} (initial : ∀ s, machine.starts s → holds s)
    (preserved : ∀ s event s' output, holds s → machine.step s event = some (s', output) →
      holds s')
    {trace : List (Entry σ ε ω)} {s : σ} (run : Run machine trace s) : holds s := by
  induction run with
  | start starts => exact initial _ starts
  | step _ moved ih => exact preserved _ _ _ _ ih moved

/-- **The rule for guarded runs.** An invariant of history and state that holds
at the start and is kept by every step that meets the guard holds at the end of
every run whose entries all meet it. -/
theorem Run.guarded {guard : Entry σ ε ω → List (Entry σ ε ω) → Prop}
    {holds : List (Entry σ ε ω) → σ → Prop} (initial : ∀ s, machine.starts s → holds [] s)
    (preserved : ∀ trace s event s' output, Run machine trace s → holds trace s →
      machine.step s event = some (s', output) → guard ⟨s, event, output, s'⟩ trace →
      holds (⟨s, event, output, s'⟩ :: trace) s')
    {trace : List (Entry σ ε ω)} {s : σ} (run : Run machine trace s) (along : Along guard trace) :
    holds trace s := by
  induction run with
  | start starts => exact initial _ starts
  | step run moved ih => exact preserved _ _ _ _ _ run (ih along.2) moved along.1

/-- **The rule for entries.** When an invariant of the guarded runs gives every
further guarded entry a property, all entries of a guarded run have it. -/
theorem Run.along {guard property : Entry σ ε ω → List (Entry σ ε ω) → Prop}
    {holds : List (Entry σ ε ω) → σ → Prop} (initial : ∀ s, machine.starts s → holds [] s)
    (preserved : ∀ trace s event s' output, Run machine trace s → holds trace s →
      machine.step s event = some (s', output) → guard ⟨s, event, output, s'⟩ trace →
      holds (⟨s, event, output, s'⟩ :: trace) s')
    (yields : ∀ trace s event s' output, Run machine trace s → holds trace s →
      machine.step s event = some (s', output) → guard ⟨s, event, output, s'⟩ trace →
      property ⟨s, event, output, s'⟩ trace)
    {trace : List (Entry σ ε ω)} {s : σ} (run : Run machine trace s) (along : Along guard trace) :
    Along property trace := by
  induction run with
  | start starts => exact trivial
  | step run moved ih =>
      have reached := Run.guarded initial preserved run along.2
      exact ⟨yields _ _ _ _ _ run reached moved along.1, ih along.2⟩

/-- **The rule for guarded steps.** When every guarded step of a run gives its entry a
property, all entries of a guarded run have it. -/
theorem Run.along_steps {guard property : Entry σ ε ω → List (Entry σ ε ω) → Prop}
    (yields : ∀ trace s event s' output, Run machine trace s →
      machine.step s event = some (s', output) → guard ⟨s, event, output, s'⟩ trace →
      property ⟨s, event, output, s'⟩ trace)
    {trace : List (Entry σ ε ω)} {s : σ} (run : Run machine trace s) (along : Along guard trace) :
    Along property trace := by
  induction run with
  | start starts => exact trivial
  | step run moved ih => exact ⟨yields _ _ _ _ _ run moved along.1, ih along.2⟩

/-- **The rule for all entries.** When an invariant of the runs gives every further
entry a property, all entries of a run have it. -/
theorem Run.every {property : Entry σ ε ω → List (Entry σ ε ω) → Prop}
    {holds : List (Entry σ ε ω) → σ → Prop} (initial : ∀ s, machine.starts s → holds [] s)
    (preserved : ∀ trace s event s' output, Run machine trace s → holds trace s →
      machine.step s event = some (s', output) → holds (⟨s, event, output, s'⟩ :: trace) s')
    (yields : ∀ trace s event s' output, Run machine trace s → holds trace s →
      machine.step s event = some (s', output) → property ⟨s, event, output, s'⟩ trace)
    {trace : List (Entry σ ε ω)} {s : σ} (run : Run machine trace s) :
    holds trace s ∧ Along property trace := by
  induction run with
  | start starts => exact ⟨initial _ starts, trivial⟩
  | step run moved ih =>
      exact ⟨preserved _ _ _ _ _ run ih.1 moved, yields _ _ _ _ _ run ih.1 moved, ih.2⟩

/-! ## Feeding events -/

/-- Take events one after the other, when each can be taken. -/
def Machine.feed (machine : Machine σ ε ω) :
    List (Entry σ ε ω) → σ → List ε → Option (List (Entry σ ε ω) × σ)
  | trace, s, [] => some (trace, s)
  | trace, s, event :: events =>
      match machine.step s event with
      | none => none
      | some (s', output) => machine.feed (⟨s, event, output, s'⟩ :: trace) s' events

theorem Machine.feed_of_step {s s' : σ} {event : ε} {output : ω}
    (moved : machine.step s event = some (s', output)) (trace : List (Entry σ ε ω))
    (events : List ε) :
    machine.feed trace s (event :: events) =
      machine.feed (⟨s, event, output, s'⟩ :: trace) s' events := by
  rw [feed, moved]

/-- Feeding events one after the other. -/
theorem Machine.feed_append (events later : List ε) :
    ∀ (trace : List (Entry σ ε ω)) (s : σ), machine.feed trace s (events ++ later) =
      (machine.feed trace s events).bind fun fed => machine.feed fed.1 fed.2 later := by
  induction events with
  | nil => exact fun _ _ => rfl
  | cons event events ih =>
      intro trace s
      rw [List.cons_append, feed, feed]
      cases machine.step s event with
      | none => rfl
      | some result => exact ih _ _

/-- The first of the events that are fed is taken. -/
theorem Machine.step_of_feed {s : σ} {event : ε} {events : List ε} {trace : List (Entry σ ε ω)}
    {fed : List (Entry σ ε ω) × σ} (feeds : machine.feed trace s (event :: events) = some fed) :
    ∃ s' output, machine.step s event = some (s', output) ∧
      machine.feed (⟨s, event, output, s'⟩ :: trace) s' events = some fed := by
  rw [feed] at feeds
  cases moved : machine.step s event with
  | none =>
      rw [moved] at feeds
      cases feeds
  | some result =>
      rw [moved] at feeds
      exact ⟨_, _, rfl, feeds⟩

/-- Feeding a run gives a run. -/
theorem Run.feed : ∀ {events : List ε} {trace trace' : List (Entry σ ε ω)} {s s' : σ},
    Run machine trace s → machine.feed trace s events = some (trace', s') → Run machine trace' s'
  | [], _, _, _, _, run, fed => by
      cases fed
      exact run
  | _ :: _, _, _, _, _, run, fed => by
      obtain ⟨_, _, moved, fed⟩ := Machine.step_of_feed fed
      exact Run.feed (.step run moved) fed

/-- Feeding adds entries. -/
theorem Machine.suffix_of_feed : ∀ {events : List ε} {trace trace' : List (Entry σ ε ω)} {s s' : σ},
    machine.feed trace s events = some (trace', s') → trace <:+ trace'
  | [], _, _, _, _, fed => by
      cases fed
      exact List.suffix_rfl
  | _ :: _, _, _, _, _, fed => by
      obtain ⟨_, _, _, fed⟩ := Machine.step_of_feed fed
      exact (List.suffix_cons _ _).trans (Machine.suffix_of_feed fed)

/-- The entries that have been added are those of the events, the newest first. -/
theorem Machine.events_of_feed : ∀ {events : List ε} {trace trace' : List (Entry σ ε ω)} {s s' : σ},
    machine.feed trace s events = some (trace', s') →
      trace'.map Entry.event = events.reverse ++ trace.map Entry.event
  | [], _, _, _, _, fed => by
      cases fed
      rfl
  | _ :: _, _, _, _, _, fed => by
      obtain ⟨_, _, _, fed⟩ := Machine.step_of_feed fed
      rw [Machine.events_of_feed fed, List.reverse_cons, List.append_assoc]
      rfl

/-! ## What has happened since -/

/-- An entry with a mark is newer than every entry with a reset. An entry with
both counts as marked. -/
def Since (mark reset : Entry σ ε ω → Prop) : List (Entry σ ε ω) → Prop
  | [] => False
  | entry :: older => mark entry ∨ ¬ reset entry ∧ Since mark reset older

section Since

variable {mark reset : Entry σ ε ω → Prop} {entry : Entry σ ε ω} {older : List (Entry σ ε ω)}

theorem Since.marked (marked : mark entry) : Since mark reset (entry :: older) := .inl marked

theorem Since.keep (since : Since mark reset older) (kept : ¬ reset entry) :
    Since mark reset (entry :: older) := .inr ⟨kept, since⟩

/-- What an entry without a mark leaves was there before it. -/
theorem Since.before (since : Since mark reset (entry :: older)) (unmarked : ¬ mark entry) :
    ¬ reset entry ∧ Since mark reset older :=
  since.resolve_left unmarked

/-- More marks and fewer resets. -/
theorem Since.mono {mark' reset' : Entry σ ε ω → Prop} (marks : ∀ entry, mark entry → mark' entry)
    (resets : ∀ entry, reset' entry → reset entry) :
    ∀ {trace : List (Entry σ ε ω)}, Since mark reset trace → Since mark' reset' trace
  | _ :: _, .inl marked => .inl (marks _ marked)
  | _ :: _, .inr ⟨kept, since⟩ => .inr ⟨fun reset => kept (resets _ reset), since.mono marks resets⟩

end Since

/-! ## How often something has happened -/

/-- How many entries have a mark. -/
def times (mark : Entry σ ε ω → Prop) [DecidablePred mark] (trace : List (Entry σ ε ω)) : Nat :=
  trace.countP fun entry => decide (mark entry)

section Times

variable {mark other : Entry σ ε ω → Prop} [DecidablePred mark] {entry : Entry σ ε ω}
  {older : List (Entry σ ε ω)}

theorem times_of_mark (marked : mark entry) : times mark (entry :: older) = times mark older + 1 :=
  List.countP_cons_of_pos (decide_eq_true marked)

theorem times_of_not (unmarked : ¬ mark entry) : times mark (entry :: older) = times mark older :=
  List.countP_cons_of_neg fun marked => unmarked (of_decide_eq_true marked)

/-- Counting the entries that a test finds. -/
theorem times_cons_eq (test : Entry σ ε ω → Bool) (entry : Entry σ ε ω)
    (older : List (Entry σ ε ω)) :
    times (fun entry => test entry = true) (entry :: older) =
      times (fun entry => test entry = true) older + (test entry).toNat := by
  cases found : test entry with
  | true => exact times_of_mark found
  | false => exact times_of_not fun marked => nomatch found.symm.trans marked

/-- **What needs a mark since it last happened happens at most as often as marks.**
While there is a newer mark, it has happened less often. -/
theorem Along.times_le [DecidablePred other] : ∀ {trace : List (Entry σ ε ω)},
    Along (fun entry older => other entry → ¬ mark entry ∧ Since mark other older) trace →
      times other trace ≤ times mark trace ∧
        (Since mark other trace → times other trace < times mark trace)
  | [], _ => ⟨Nat.le_refl _, False.elim⟩
  | entry :: older, ⟨needs, earlier⟩ => by
      obtain ⟨bound, strict⟩ := earlier.times_le
      by_cases marked : mark entry
      · have unused : ¬ other entry := fun used => (needs used).1 marked
        rw [times_of_mark marked, times_of_not unused]
        exact ⟨Nat.le_succ_of_le bound, fun _ => Nat.lt_succ_of_le bound⟩
      · rw [times_of_not marked]
        by_cases used : other entry
        · rw [times_of_mark used]
          refine ⟨strict (needs used).2, fun since => ?_⟩
          exact absurd used (since.before marked).1
        · rw [times_of_not used]
          exact ⟨bound, fun since => strict (since.before marked).2⟩

end Times

end Runs
