import Mathlib.Data.List.Chain

/-!
# Walks along a path

A path is a list of places. Two neighbours are linked when one function moves from
the first to the second and another moves back. A machine that moves a place in
these two ways, forward while there is a place ahead and backward while there is
one behind, is where the count of its moves says (`Walk.follows`).
-/

set_option autoImplicit false

namespace Walks

variable {σ τ γ : Type}

/-- A move leads to the neighbour and another one back. -/
structure Linked (next prev : γ → Option γ) (first second : γ) : Prop where
  next : next first = some second
  prev : prev second = some first

/-- The walks of a machine between the places 0 and `last`, with the place where
each ends. -/
inductive Walk (starts : σ → Prop) (forward backward : σ → σ → Prop) (last : Nat) :
    Nat → σ → Prop
  | start {s : σ} (begins : starts s) : Walk starts forward backward last 0 s
  | forward {k : Nat} {s s' : σ} (walk : Walk starts forward backward last k s)
      (inside : k < last) (moved : forward s s') : Walk starts forward backward last (k + 1) s'
  | backward {k : Nat} {s s' : σ} (walk : Walk starts forward backward last (k + 1) s)
      (moved : backward s s') : Walk starts forward backward last k s'

variable {starts : σ → Prop} {forward backward : σ → σ → Prop} {last : Nat}

/-- The walks of a machine are walks of what is seen of it. -/
theorem Walk.map {starts' : τ → Prop} {forward' backward' : τ → τ → Prop} {view : σ → τ}
    (start : ∀ s, starts s → starts' (view s))
    (ahead : ∀ s s', forward s s' → forward' (view s) (view s'))
    (back : ∀ s s', backward s s' → backward' (view s) (view s')) {k : Nat} {s : σ}
    (walk : Walk starts forward backward last k s) :
    Walk starts' forward' backward' last k (view s) := by
  induction walk with
  | start begins => exact .start (start _ begins)
  | forward _ inside moved ih => exact .forward ih inside (ahead _ _ moved)
  | backward _ moved ih => exact .backward ih (back _ _ moved)

section Paths

variable {path : List γ} {next prev : γ → Option γ}

theorem next_of_chain (chain : path.IsChain (Linked next prev)) {k : Nat} {place : γ}
    (here : path[k]? = some place) (inside : k + 1 < path.length) :
    ∃ place', path[k + 1]? = some place' ∧ next place = some place' := by
  have linked := chain.getElem k inside
  rw [List.getElem?_eq_getElem (Nat.lt_of_succ_lt inside), Option.some.injEq] at here
  rw [here] at linked
  exact ⟨_, List.getElem?_eq_getElem inside, linked.next⟩

theorem prev_of_chain (chain : path.IsChain (Linked next prev)) {k : Nat} {place : γ}
    (here : path[k + 1]? = some place) :
    ∃ place', path[k]? = some place' ∧ prev place = some place' := by
  obtain ⟨inside, here⟩ := List.getElem?_eq_some_iff.mp here
  have linked := chain.getElem k inside
  rw [here] at linked
  exact ⟨_, List.getElem?_eq_getElem (Nat.lt_of_succ_lt inside), linked.prev⟩

/-- **A machine stands where the count of its moves says.** -/
theorem Walk.follows (chain : path.IsChain (Linked next prev)) (size : path.length = last + 1)
    {place : σ → γ} (start : ∀ s, starts s → path[0]? = some (place s))
    (ahead : ∀ s s', forward s s' → next (place s) = some (place s'))
    (back : ∀ s s', backward s s' → prev (place s) = some (place s')) {k : Nat} {s : σ}
    (walk : Walk starts forward backward last k s) : path[k]? = some (place s) := by
  induction walk with
  | start begins => exact start _ begins
  | forward _ inside moved ih =>
      obtain ⟨place', there, next⟩ := next_of_chain chain ih (by rw [size]; omega)
      rw [there, ← next, ahead _ _ moved]
  | backward _ moved ih =>
      obtain ⟨place', there, prev⟩ := prev_of_chain chain ih
      rw [there, ← prev, back _ _ moved]

end Paths

end Walks
