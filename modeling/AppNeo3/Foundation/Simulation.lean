import AppNeo3.Foundation.CBody

/-!
# Bodies that simulate others

A body that works closer to the machine is compared with one that abstracts from
it. From related states both end in the same way, with related values and related
states, unless the abstract body faults; a concrete body that simulates one that
does not fault therefore does not fault either. `Simulates` is closed under the
constructs of bodies.
-/

set_option autoImplicit false

namespace CBody

variable {σ τ ρ α β γ δ : Type}

/-- The first outcome is as the second one, unless that is a fault. -/
inductive Agrees (states : σ → τ → Prop) (values : α → β → Prop) :
    Outcome σ ρ α → Outcome τ ρ β → Prop
  | next {a : α} {b : β} {s : σ} {t : τ} (value : values a b) (state : states s t) :
      Agrees states values (.next a s) (.next b t)
  | ret {r : ρ} {s : σ} {t : τ} (state : states s t) : Agrees states values (.ret r s) (.ret r t)
  | fault {outcome : Outcome σ ρ α} : Agrees states values outcome .fault

/-- From related states the concrete body ends as the abstract one does. -/
def Simulates (states : σ → τ → Prop) (values : α → β → Prop) (concrete : Body σ ρ α)
    (abstract : Body τ ρ β) : Prop :=
  ∀ s t, states s t → Agrees states values (concrete s) (abstract t)

open Body

/-- **Sequencing from given states.** The second bodies are compared from the states
that the first ones leave. -/
theorem Agrees.bind {states : σ → τ → Prop} {values : α → β → Prop} {values' : γ → δ → Prop}
    {first : Body σ ρ α} {first' : Body τ ρ β} {second : α → Body σ ρ γ}
    {second' : β → Body τ ρ δ} {s : σ} {t : τ}
    (agrees : Agrees states values (first s) (first' t))
    (continues : ∀ a b s t, values a b → states s t →
      Agrees states values' (second a s) (second' b t)) :
    Agrees states values' ((first >>= second) s) ((first' >>= second') t) := by
  rw [bind_run, bind_run]
  generalize first s = outcome at agrees
  generalize first' t = outcome' at agrees
  cases agrees with
  | next value state => exact continues _ _ _ _ value state
  | ret state => exact .ret state
  | fault => exact .fault

namespace Simulates

variable {states : σ → τ → Prop} {values : α → β → Prop} {values' : γ → δ → Prop}

theorem pure {a : α} {b : β} (value : values a b) :
    Simulates states values (Pure.pure a : Body σ ρ α) (Pure.pure b) :=
  fun _ _ state => .next value state

theorem bind {first : Body σ ρ α} {first' : Body τ ρ β} {second : α → Body σ ρ γ}
    {second' : β → Body τ ρ δ} (simulates : Simulates states values first first')
    (continues : ∀ a b, values a b → Simulates states values' (second a) (second' b)) :
    Simulates states values' (first >>= second) (first' >>= second') := fun s t state =>
  (simulates s t state).bind fun a b s' t' value state' => continues a b value s' t' state'

/-- The values are the same. -/
theorem bind_eq {first : Body σ ρ α} {first' : Body τ ρ α} {second : α → Body σ ρ γ}
    {second' : α → Body τ ρ δ} (simulates : Simulates states Eq first first')
    (continues : ∀ a, Simulates states values' (second a) (second' a)) :
    Simulates states values' (first >>= second) (first' >>= second') :=
  simulates.bind fun a _ same => same ▸ continues a

theorem returnIf (condition : Bool) (r : ρ) :
    Simulates states Eq (returnIf condition r : Body σ ρ Unit) (Body.returnIf condition r) := by
  intro s t state
  cases condition with
  | true => exact .ret state
  | false => exact .next rfl state

/-- What follows a check is compared only when the check has passed. -/
theorem guard {condition : Bool} {r : ρ} {rest : Unit → Body σ ρ α} {rest' : Unit → Body τ ρ β}
    (continues : condition = false → Simulates states values (rest ()) (rest' ())) :
    Simulates states values (Body.returnIf condition r >>= rest)
      (Body.returnIf condition r >>= rest') := by
  intro s t state
  cases condition with
  | true => exact .ret state
  | false => exact continues rfl s t state

theorem orReturn {call : Body σ ρ Bool} {call' : Body τ ρ Bool}
    (simulates : Simulates states Eq call call') (r : ρ) :
    Simulates states Eq (orReturn call r) (Body.orReturn call' r) :=
  simulates.bind_eq fun ok => returnIf (!ok) r

/-- A step of the concrete body that changes nothing. -/
theorem skip {first : Body σ ρ γ} {second : γ → Body σ ρ α} {abstract : Body τ ρ β} {c : γ}
    (still : ∀ s, first s = .next c s) (continues : Simulates states values (second c) abstract) :
    Simulates states values (first >>= second) abstract := by
  intro s t state
  rw [bind_of_next (still s)]
  exact continues s t state

/-- The value of the abstract body is not needed. -/
theorem discard {values : Unit → β → Prop} {concrete : Body σ ρ Unit} {abstract : Body τ ρ β}
    (simulates : Simulates states values concrete abstract) :
    Simulates states Eq concrete (abstract >>= fun _ => Pure.pure ()) := by
  intro s t state
  rw [← bind_unit_run concrete s]
  exact simulates.bind (fun _ _ _ => pure rfl) s t state

/-- **Loops** whose turns simulate each other. -/
theorem loop {turn : Nat → Body σ ρ Unit} {turn' : Nat → Body τ ρ Unit} :
    ∀ count index : Nat,
      (∀ k, index ≤ k → k < index + count → Simulates states Eq (turn k) (turn' k)) →
      Simulates states Eq (loop turn count index) (Body.loop turn' count index)
  | 0, _, _ => pure rfl
  | count + 1, index, turns => by
      refine bind_eq (turns index (Nat.le_refl _) (by omega)) fun _ => ?_
      exact loop count (index + 1) fun k lower upper => turns k (by omega) (by omega)

end Simulates

end CBody
