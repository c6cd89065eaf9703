import AppNeo3.Foundation.Runs

/-!
# Runs inside runs

A machine may have another one inside, which it starts anew from time to time, shows for
a while and lets step. Which one it is may depend on the data of the machine. While the
data that the inner machine depends on stay the same, the inner states that have been
shown since it was started are those of one of its runs (`Run.inner`).
-/

set_option autoImplicit false

namespace Runs

variable {σ ε ω ς η υ : Type}

/-- The inner machine of a state, its state while it is shown, and the entries that start
it anew. -/
structure Showing (σ ε ω ς η υ : Type) where
  inner : σ → Machine ς η υ
  shows : σ → Option ς
  opens : Entry σ ε ω → Bool

variable {showing : Showing σ ε ω ς η υ}

/-- The inner states that have been shown since the newest start, up to the newest entry. -/
def shownSince (showing : Showing σ ε ω ς η υ) : List (Entry σ ε ω) → List ς
  | [] => []
  | entry :: older =>
      if showing.opens entry then []
      else (showing.shows entry.before).toList ++ shownSince showing older

/-- How the inner state that is shown after an entry comes about. -/
inductive GoesOn (showing : Showing σ ε ω ς η υ) (entry : Entry σ ε ω) (s' : ς) : Prop
  | opened (opens : showing.opens entry = true) (starts : (showing.inner entry.after).starts s')
  | kept (unopened : showing.opens entry = false)
      (same : showing.inner entry.after = showing.inner entry.before)
      (shows : showing.shows entry.before = some s')
  | moved {s : ς} {event : η} {output : υ} (unopened : showing.opens entry = false)
      (same : showing.inner entry.after = showing.inner entry.before)
      (shows : showing.shows entry.before = some s)
      (moved : (showing.inner entry.before).step s event = some (s', output))

/-- The inner state is one of a run, whose states have been shown. -/
def Inner (showing : Showing σ ε ω ς η υ) (trace : List (Entry σ ε ω)) (d : σ) (s : ς) : Prop :=
  ∃ visits, Run (showing.inner d) visits s ∧
    ∀ other ∈ visited visits s, other ∈ s :: shownSince showing trace

theorem shownSince_cons {entry : Entry σ ε ω} (unopened : showing.opens entry = false) {s : ς}
    (shows : showing.shows entry.before = some s) (older : List (Entry σ ε ω)) :
    shownSince showing (entry :: older) = s :: shownSince showing older := by
  rw [shownSince, unopened, shows]
  rfl

/-- One entry. -/
theorem GoesOn.inner {entry : Entry σ ε ω} {older : List (Entry σ ε ω)} {s' : ς}
    (goesOn : GoesOn showing entry s')
    (inner : ∀ s, showing.shows entry.before = some s → Inner showing older entry.before s) :
    Inner showing (entry :: older) entry.after s' := by
  cases goesOn with
  | opened opens starts =>
      refine ⟨[], .start starts, fun other member => ?_⟩
      rw [List.mem_singleton.mp member]
      exact .head _
  | kept unopened same shows =>
      obtain ⟨visits, run, shown⟩ := inner s' shows
      rw [Inner, same, shownSince_cons unopened shows]
      exact ⟨visits, run, fun other member => .tail _ (shown other member)⟩
  | @moved s event output unopened same shows moved =>
      obtain ⟨visits, run, shown⟩ := inner s shows
      rw [Inner, same, shownSince_cons unopened shows]
      refine ⟨_, .step run moved, fun other member => ?_⟩
      rcases List.mem_cons.mp member with rfl | earlier
      · exact .head _
      · exact .tail _ (shown other earlier)

/-- **What is shown of the inner machine are its runs**, in the runs of a machine whose
entries all meet a guard. -/
theorem Run.inner {machine : Machine σ ε ω} {guard : Entry σ ε ω → List (Entry σ ε ω) → Prop}
    (initial : ∀ d, machine.starts d → showing.shows d = none)
    (goesOn : ∀ trace d event output d', Run machine trace d →
      machine.step d event = some (d', output) → guard ⟨d, event, output, d'⟩ trace →
      ∀ s', showing.shows d' = some s' → GoesOn showing ⟨d, event, output, d'⟩ s')
    {trace : List (Entry σ ε ω)} {d : σ} (run : Run machine trace d) (along : Along guard trace) :
    ∀ s, showing.shows d = some s → Inner showing trace d s := by
  induction run with
  | start starts =>
      intro s shows
      cases (initial _ starts).symm.trans shows
  | step run moved ih =>
      intro s' shows
      exact (goesOn _ _ _ _ _ run moved along.1 s' shows).inner (ih along.2)

end Runs
