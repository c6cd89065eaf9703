import Mathlib.Data.List.Forall2
import AppNeo3.Foundation.Runs

/-!
# One machine refines another

A fine machine refines a coarse one along a relation of their states when each of its
steps is a step of the coarse machine, with the entries paired, or is silent there. Its
runs are then runs of the coarse machine with silent entries in between
(`Refinement.run`). What guards the fine runs guards the coarse ones (`Paired.guarded`).
-/

set_option autoImplicit false

namespace Runs

variable {σ ε ω τ η υ : Type}

/-- How the entries of two machines are related: which pairs amount to the same, and
which entries of the fine machine amount to nothing. -/
structure Pairing (σ ε ω τ η υ : Type) where
  pairs : Entry σ ε ω → Entry τ η υ → Prop
  silent : Entry σ ε ω → Prop

/-- A history of the fine machine is one of the coarse machine with silent entries in
between. -/
inductive Paired (pairing : Pairing σ ε ω τ η υ) :
    List (Entry σ ε ω) → List (Entry τ η υ) → Prop
  | start : Paired pairing [] []
  | both {fine : Entry σ ε ω} {coarse : Entry τ η υ} {older : List (Entry σ ε ω)}
      {older' : List (Entry τ η υ)} (pairs : pairing.pairs fine coarse)
      (paired : Paired pairing older older') : Paired pairing (fine :: older) (coarse :: older')
  | skip {fine : Entry σ ε ω} {older : List (Entry σ ε ω)} {older' : List (Entry τ η υ)}
      (silent : pairing.silent fine) (paired : Paired pairing older older') :
      Paired pairing (fine :: older) older'

/-- **A fine machine refines a coarse one.** The states of the coarse machine are those
that it reaches. -/
structure Refinement (fine : Machine σ ε ω) (coarse : Machine τ η υ)
    (pairing : Pairing σ ε ω τ η υ) (related : σ → τ → Prop) : Prop where
  starts : ∀ s, fine.starts s → ∃ t, coarse.starts t ∧ related s t
  steps : ∀ trace s t event output s', Run coarse trace t → related s t →
    fine.step s event = some (s', output) →
    (pairing.silent ⟨s, event, output, s'⟩ ∧ related s' t) ∨
      ∃ event' output' t', coarse.step t event' = some (t', output') ∧
        pairing.pairs ⟨s, event, output, s'⟩ ⟨t, event', output', t'⟩ ∧ related s' t'

variable {fine : Machine σ ε ω} {coarse : Machine τ η υ} {pairing : Pairing σ ε ω τ η υ}
  {related : σ → τ → Prop}

/-- **A run of the fine machine is a run of the coarse one.** -/
theorem Refinement.run (refines : Refinement fine coarse pairing related)
    {trace : List (Entry σ ε ω)} {s : σ} (run : Run fine trace s) :
    ∃ trace' t, Run coarse trace' t ∧ related s t ∧ Paired pairing trace trace' := by
  induction run with
  | start starts =>
      obtain ⟨t, starts', related⟩ := refines.starts _ starts
      exact ⟨[], t, .start starts', related, .start⟩
  | step _ moved ih =>
      obtain ⟨trace', t, run', related, paired⟩ := ih
      rcases refines.steps _ _ _ _ _ _ run' related moved with
        ⟨silent, related⟩ | ⟨event', output', t', moved', pairs, related⟩
      · exact ⟨trace', t, run', related, .skip silent paired⟩
      · exact ⟨_, t', .step run' moved', related, .both pairs paired⟩

/-- An entry of the coarse history is one of the fine history. -/
theorem Paired.mem {trace : List (Entry σ ε ω)} {trace' : List (Entry τ η υ)}
    (paired : Paired pairing trace trace') {coarse : Entry τ η υ} (member : coarse ∈ trace') :
    ∃ fine ∈ trace, pairing.pairs fine coarse := by
  induction paired with
  | start => cases member
  | both pairs _ ih =>
      rcases List.mem_cons.mp member with rfl | earlier
      · exact ⟨_, .head _, pairs⟩
      · obtain ⟨fine, there, pairs⟩ := ih earlier
        exact ⟨fine, .tail _ there, pairs⟩
  | skip _ _ ih =>
      obtain ⟨fine, there, pairs⟩ := ih member
      exact ⟨fine, .tail _ there, pairs⟩

/-- Where nothing is silent, the histories are paired entry by entry. -/
theorem Paired.forall₂ {trace : List (Entry σ ε ω)} {trace' : List (Entry τ η υ)}
    (paired : Paired pairing trace trace') (speaks : ∀ fine, ¬ pairing.silent fine) :
    List.Forall₂ pairing.pairs trace trace' := by
  induction paired with
  | start => exact .nil
  | both pairs _ ih => exact .cons pairs ih
  | skip silent _ _ => exact absurd silent (speaks _)

/-- What has happened since in the coarse history has happened in the fine one, when pairs
carry the marks there and the resets back. -/
theorem Paired.since {trace : List (Entry σ ε ω)} {trace' : List (Entry τ η υ)}
    {mark reset : Entry σ ε ω → Prop} {mark' reset' : Entry τ η υ → Prop}
    (paired : Paired pairing trace trace')
    (marks : ∀ fine coarse, pairing.pairs fine coarse → mark' coarse → mark fine)
    (resets : ∀ fine coarse, pairing.pairs fine coarse → reset fine → reset' coarse)
    (silent : ∀ fine, pairing.silent fine → ¬ reset fine) :
    Since mark' reset' trace' → Since mark reset trace := by
  induction paired with
  | start => exact id
  | both same _ ih =>
      rintro (marked | ⟨kept, since⟩)
      · exact .marked (marks _ _ same marked)
      · exact (ih since).keep fun reset => kept (resets _ _ same reset)
  | skip quiet _ ih => exact fun since => (ih since).keep (silent _ quiet)

/-- A guard of the fine history is one of the coarse history. -/
theorem Paired.guarded {trace : List (Entry σ ε ω)} {trace' : List (Entry τ η υ)}
    {guard : Entry σ ε ω → List (Entry σ ε ω) → Prop}
    {guard' : Entry τ η υ → List (Entry τ η υ) → Prop} (paired : Paired pairing trace trace')
    (pairs : ∀ fine older coarse older', pairing.pairs fine coarse → Paired pairing older older' →
      guard fine older → guard' coarse older')
    (along : Along guard trace) : Along guard' trace' := by
  induction paired with
  | start => trivial
  | both same paired ih => exact ⟨pairs _ _ _ _ same paired along.1, ih along.2⟩
  | skip _ _ ih => exact ih along.2

end Runs
