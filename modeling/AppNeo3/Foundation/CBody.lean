/-!
# Bodies of C functions

A body runs on a state and either continues with a value, or returns from the
function early, or makes an access outside the objects it may access. The last
outcome is undefined in C and is kept apart from every regular result, so that
"the body does not fault" is a statement about the model.
-/

set_option autoImplicit false

namespace CBody

universe u

variable {σ ρ α β : Type}

/-- How the run of a body ends. -/
inductive Outcome (σ ρ α : Type) where
  | next (value : α) (state : σ)
  | ret (value : ρ) (state : σ)
  | fault
deriving DecidableEq

/-- A body over the state `σ` of a function that returns a `ρ`. -/
def Body (σ ρ α : Type) : Type := σ → Outcome σ ρ α

namespace Body

/-- Continue with what follows, unless the body has ended. -/
def andThen (body : Body σ ρ α) (rest : α → Body σ ρ β) : Body σ ρ β := fun s =>
  match body s with
  | .next a s' => rest a s'
  | .ret r s' => .ret r s'
  | .fault => .fault

instance : Monad (Body σ ρ) where
  pure a := fun s => .next a s
  bind := andThen

/-- The current state. -/
def get : Body σ ρ σ := fun s => .next s s

/-- Assign to the state. -/
def modify (f : σ → σ) : Body σ ρ Unit := fun s => .next () (f s)

/-- Return from the function. -/
def ret (r : ρ) : Body σ ρ α := fun s => .ret r s

/-- An access outside the objects the body may access. -/
def fault : Body σ ρ α := fun _ => .fault

/-- Return when a condition holds. -/
def returnIf (condition : Bool) (r : ρ) : Body σ ρ Unit :=
  if condition then ret r else pure ()

/-- Return when a call reports failure. -/
def orReturn (call : Body σ ρ Bool) (r : ρ) : Body σ ρ Unit := do
  let ok ← call
  returnIf (!ok) r

/-- `count` turns of a loop whose counter starts at `index`. -/
def loop (turn : Nat → Body σ ρ Unit) : Nat → Nat → Body σ ρ Unit
  | 0, _ => pure ()
  | count + 1, index => do
      turn index
      loop turn count (index + 1)

/-! ## Running bodies -/

@[simp] theorem pure_run (a : α) (s : σ) : (pure a : Body σ ρ α) s = .next a s := rfl

@[simp] theorem get_run (s : σ) : (get : Body σ ρ σ) s = .next s s := rfl

@[simp] theorem modify_run (f : σ → σ) (s : σ) : (modify f : Body σ ρ Unit) s = .next () (f s) :=
  rfl

@[simp] theorem ret_run (r : ρ) (s : σ) : (ret r : Body σ ρ α) s = .ret r s := rfl

@[simp] theorem fault_run (s : σ) : (fault : Body σ ρ α) s = .fault := rfl

theorem bind_run (body : Body σ ρ α) (rest : α → Body σ ρ β) (s : σ) :
    (body >>= rest) s =
      match body s with
      | .next a s' => rest a s'
      | .ret r s' => .ret r s'
      | .fault => .fault := rfl

theorem bind_of_next {body : Body σ ρ α} {s s' : σ} {a : α} (run : body s = .next a s')
    (rest : α → Body σ ρ β) : (body >>= rest) s = rest a s' := by
  rw [bind_run, run]

theorem bind_of_ret {body : Body σ ρ α} {s s' : σ} {r : ρ} (run : body s = .ret r s')
    (rest : α → Body σ ρ β) : (body >>= rest) s = .ret r s' := by
  rw [bind_run, run]

theorem bind_assoc_run {γ : Type} (body : Body σ ρ α) (middle : α → Body σ ρ β)
    (rest : β → Body σ ρ γ) (s : σ) :
    ((body >>= middle) >>= rest) s = (body >>= fun a => middle a >>= rest) s := by
  rw [bind_run, bind_run, bind_run]
  cases body s <;> rfl

/-- A body that gives no value continues with nothing. -/
theorem bind_unit_run (body : Body σ ρ Unit) (s : σ) :
    (body >>= fun _ => pure ()) s = body s := by
  rw [bind_run]
  cases body s <;> rfl

theorem returnIf_run (condition : Bool) (r : ρ) (s : σ) :
    (returnIf condition r : Body σ ρ Unit) s =
      if condition then .ret r s else .next () s := by
  cases condition <;> rfl

theorem orReturn_of_true {call : Body σ ρ Bool} {s s' : σ} (run : call s = .next true s')
    (r : ρ) : orReturn call r s = .next () s' := by
  rw [orReturn, bind_of_next run]
  rfl

theorem orReturn_of_false {call : Body σ ρ Bool} {s s' : σ} (run : call s = .next false s')
    (r : ρ) : orReturn call r s = .ret r s' := by
  rw [orReturn, bind_of_next run]
  rfl

/-- What a body continues with, it continues with after its first part. -/
theorem bind_eq_next {body : Body σ ρ α} {rest : α → Body σ ρ β} {s s'' : σ} {b : β}
    (run : (body >>= rest) s = .next b s'') :
    ∃ a s', body s = .next a s' ∧ rest a s' = .next b s'' := by
  rw [bind_run] at run
  cases first : body s with
  | next a s' =>
      rw [first] at run
      exact ⟨a, s', rfl, run⟩
  | ret r s' =>
      rw [first] at run
      cases run
  | fault =>
      rw [first] at run
      cases run

theorem returnIf_eq_next {condition : Bool} {r : ρ} {s s' : σ}
    (run : (returnIf condition r : Body σ ρ Unit) s = .next () s') :
    condition = false ∧ s' = s := by
  cases condition with
  | true => cases run
  | false =>
      cases run
      exact ⟨rfl, rfl⟩

/-- A loop whose turns only check the state ends at the first check that fails. -/
theorem loop_of_checks {turn : Nat → Body σ ρ Unit} {bad : Nat → Bool} {r : ρ} {s : σ} :
    ∀ (count index : Nat),
      (∀ k, index ≤ k → k < index + count → turn k s = returnIf (bad k) r s) →
      loop turn count index s = returnIf ((List.range' index count).any bad) r s
  | 0, index, _ => rfl
  | count + 1, index, checks => by
      have first := checks index (Nat.le_refl _) (by omega)
      have others := loop_of_checks count (index + 1) fun k lower upper =>
        checks k (by omega) (by omega)
      rw [loop, List.range'_succ, List.any_cons]
      cases stops : bad index with
      | true =>
          rw [stops] at first
          exact bind_of_ret first _
      | false =>
          rw [stops] at first
          rw [bind_of_next first, others, Bool.false_or]

/-! ## Bodies that never fault -/

/-- Whatever state the body starts in, its accesses are inside. -/
def NoFault (body : Body σ ρ α) : Prop := ∀ s, body s ≠ .fault

theorem noFault_get : NoFault (get : Body σ ρ σ) := fun _ run => nomatch run

theorem noFault_modify (f : σ → σ) : NoFault (modify f : Body σ ρ Unit) := fun _ run => nomatch run

theorem noFault_returnIf (condition : Bool) (r : ρ) :
    NoFault (returnIf condition r : Body σ ρ Unit) := by
  intro s run
  cases condition <;> cases run

theorem NoFault.bind {body : Body σ ρ α} {rest : α → Body σ ρ β} (first : NoFault body)
    (second : ∀ a, NoFault (rest a)) : NoFault (body >>= rest) := by
  intro s run
  rw [bind_run] at run
  cases outcome : body s with
  | next a s' =>
      rw [outcome] at run
      exact second a s' run
  | ret r s' =>
      rw [outcome] at run
      cases run
  | fault => exact first s outcome

/-! ## Returned values -/

/-- Every value that the body returns has a property. -/
def ReturnsWithin (holds : ρ → Prop) (body : Body σ ρ α) : Prop :=
  ∀ s r s', body s = .ret r s' → holds r

section Returning

variable {holds : ρ → Prop}

theorem returnsWithin_get : ReturnsWithin holds (get : Body σ ρ σ) := fun _ _ _ run => nomatch run

theorem returnsWithin_modify (f : σ → σ) : ReturnsWithin holds (modify f : Body σ ρ Unit) :=
  fun _ _ _ run => nomatch run

theorem returnsWithin_returnIf (condition : Bool) {r : ρ} (valid : holds r) :
    ReturnsWithin holds (returnIf condition r : Body σ ρ Unit) := by
  intro s r' s' run
  cases condition with
  | true =>
      cases run
      exact valid
  | false => cases run

theorem ReturnsWithin.bind {body : Body σ ρ α} {rest : α → Body σ ρ β}
    (first : ReturnsWithin holds body) (second : ∀ a, ReturnsWithin holds (rest a)) :
    ReturnsWithin holds (body >>= rest) := by
  intro s r s'' run
  rw [bind_run] at run
  cases outcome : body s with
  | next a s' =>
      rw [outcome] at run
      exact second a s' r s'' run
  | ret r' s' =>
      rw [outcome] at run
      cases run
      exact first _ _ _ outcome
  | fault =>
      rw [outcome] at run
      cases run

end Returning

end Body

end CBody
