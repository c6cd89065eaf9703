/-!
# Stores with fields and the replay of writes

A write acts on a store and has one field as its target. It leaves every other
field as it was, and a valid write leaves its value in its field. Replaying a
list of writes leaves in each field the value of the last write to it, and an
untouched field as it was; so two stores that replay the same writes differ at
most in the fields that no write has touched.
-/

set_option autoImplicit false

namespace Stores

universe u

/-- How writes act on a store with fields. -/
structure FieldStore (τ ω φ ν : Type u) where
  act : τ → ω → τ
  target : ω → φ
  value : ω → ν
  read : τ → φ → ν
  valid : ω → Prop
  read_act : ∀ store write, valid write → read (act store write) (target write) = value write
  read_act_of_ne : ∀ store write field, target write ≠ field →
    read (act store write) field = read store field

namespace FieldStore

variable {τ ω φ ν : Type u} (fields : FieldStore τ ω φ ν)

/-- Replay writes, the first of the list first. -/
def replay (store : τ) (writes : List ω) : τ := writes.foldl fields.act store

@[simp] theorem replay_nil (store : τ) : fields.replay store [] = store := rfl

@[simp] theorem replay_cons (store : τ) (write : ω) (writes : List ω) :
    fields.replay store (write :: writes) = fields.replay (fields.act store write) writes := rfl

theorem replay_append (store : τ) (first second : List ω) :
    fields.replay store (first ++ second) = fields.replay (fields.replay store first) second :=
  List.foldl_append

/-- A field that is no target keeps its value. -/
theorem read_replay_of_not_mem {writes : List ω} {field : φ}
    (untouched : ∀ write ∈ writes, fields.target write ≠ field) (store : τ) :
    fields.read (fields.replay store writes) field = fields.read store field := by
  induction writes generalizing store with
  | nil => rfl
  | cons write writes ih =>
      rw [replay_cons, ih (fun later member => untouched later (List.mem_cons_of_mem _ member)),
        fields.read_act_of_ne _ _ _ (untouched write List.mem_cons_self)]

/-- What every write keeps, a replay keeps. -/
theorem replay_keeps {γ : Type u} {shown : τ → γ} {holds : ω → Prop}
    (keeps : ∀ store write, holds write → shown (fields.act store write) = shown store) :
    ∀ {writes : List ω}, (∀ write ∈ writes, holds write) → ∀ store,
      shown (fields.replay store writes) = shown store
  | [], _, _ => rfl
  | write :: writes, every, store => by
      rw [replay_cons, replay_keeps keeps fun later member => every later
        (List.mem_cons_of_mem _ member), keeps store write (every write List.mem_cons_self)]

/-- **The same writes leave the same value in every field they touch.** -/
theorem read_replay_congr {writes : List ω} (valid : ∀ write ∈ writes, fields.valid write)
    {field : φ} (first second : τ)
    (settled : fields.read first field = fields.read second field ∨
      ∃ write ∈ writes, fields.target write = field) :
    fields.read (fields.replay first writes) field =
      fields.read (fields.replay second writes) field := by
  induction writes generalizing first second with
  | nil =>
      rcases settled with same | ⟨_, member, _⟩
      · exact same
      · cases member
  | cons write writes ih =>
      rw [replay_cons, replay_cons]
      refine ih (fun later member => valid later (List.mem_cons_of_mem _ member)) _ _ ?_
      by_cases hit : fields.target write = field
      · subst hit
        have writeValid := valid write List.mem_cons_self
        exact .inl (by rw [fields.read_act _ _ writeValid, fields.read_act _ _ writeValid])
      · rcases settled with same | ⟨later, member, target⟩
        · exact .inl (by rw [fields.read_act_of_ne _ _ _ hit, fields.read_act_of_ne _ _ _ hit, same])
        · rcases List.mem_cons.mp member with rfl | member
          · exact absurd target hit
          · exact .inr ⟨later, member, target⟩

/-- When every write carries the value expected of its field, a field that is
written, or had its value before, has the value expected of it. -/
theorem read_replay_of_expected {writes : List ω} {expected : φ → ν}
    (valid : ∀ write ∈ writes, fields.valid write)
    (carried : ∀ write ∈ writes, fields.value write = expected (fields.target write))
    {field : φ} (store : τ)
    (settled : fields.read store field = expected field ∨
      ∃ write ∈ writes, fields.target write = field) :
    fields.read (fields.replay store writes) field = expected field := by
  induction writes generalizing store with
  | nil =>
      rcases settled with same | ⟨_, member, _⟩
      · exact same
      · cases member
  | cons write writes ih =>
      rw [replay_cons]
      refine ih (fun later member => valid later (List.mem_cons_of_mem _ member))
        (fun later member => carried later (List.mem_cons_of_mem _ member)) _ ?_
      by_cases hit : fields.target write = field
      · subst hit
        exact .inl ((fields.read_act _ _ (valid write List.mem_cons_self)).trans
          (carried write List.mem_cons_self))
      · rcases settled with same | ⟨later, member, target⟩
        · exact .inl ((fields.read_act_of_ne _ _ _ hit).trans same)
        · rcases List.mem_cons.mp member with rfl | member
          · exact absurd target hit
          · exact .inr ⟨later, member, target⟩

end FieldStore

end Stores
