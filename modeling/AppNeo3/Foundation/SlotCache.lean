/-!
# Slots that indices share

Items are fetched by index, and a fetch writes at most the slot at the remainder
of its index. Indices of a window that is not wider than the number of slots have
different slots (`eq_of_mod_eq`), so the slot of an index stays as its last fetch
left it, whatever else of the window is fetched afterwards (`fetchAll_keeps`).
-/

set_option autoImplicit false

namespace SlotCache

universe u v w

variable {ι : Type u} {σ : Type v} {ω : Type w}

/-! ## Windows -/

/-- The `width` indices from `first` on. -/
def Window (first width index : Nat) : Prop := first ≤ index ∧ index < first + width

theorem eq_of_mod_eq_of_le {first width slots i j : Nat} (narrow : width ≤ slots)
    (left : Window first width i) (right : Window first width j) (before : i ≤ j)
    (same : i % slots = j % slots) : i = j := by
  obtain ⟨lower, _⟩ := left
  obtain ⟨_, upper⟩ := right
  have apart : (j - i) % slots = 0 := Nat.sub_mod_eq_zero_of_mod_eq same.symm
  rw [Nat.mod_eq_of_lt (by omega)] at apart
  omega

/-- **Indices of a window no wider than the slots do not share a slot.** -/
theorem eq_of_mod_eq {first width slots i j : Nat} (narrow : width ≤ slots)
    (left : Window first width i) (right : Window first width j)
    (same : i % slots = j % slots) : i = j := by
  rcases Nat.le_total i j with before | behind
  · exact eq_of_mod_eq_of_le narrow left right before same
  · exact (eq_of_mod_eq_of_le narrow right left behind same.symm).symm

/-! ## Fetching one after the other -/

/-- Fetch every index of a list, as long as the fetches succeed. -/
def fetchAll (fetch : ι → List σ → Option (ω × List σ)) : List ι → List σ →
    Option (List ω × List σ)
  | [], slots => some ([], slots)
  | index :: indices, slots => do
      let (item, slots') ← fetch index slots
      let (items, slots'') ← fetchAll fetch indices slots'
      some (item :: items, slots'')

theorem length_of_fetchAll {fetch : ι → List σ → Option (ω × List σ)} {slots' : List σ} :
    ∀ {indices : List ι} {slots : List σ} {items : List ω},
      fetchAll fetch indices slots = some (items, slots') → items.length = indices.length
  | [], _, _, fetched => by
      cases fetched
      rfl
  | index :: indices, _, _, fetched => by
      obtain ⟨_, _, others⟩ := Option.bind_eq_some_iff.mp fetched
      obtain ⟨_, rest, done⟩ := Option.bind_eq_some_iff.mp others
      cases done
      exact congrArg Nat.succ (length_of_fetchAll rest)

/-- At most the slot of the index has changed. -/
structure OwnSlot (index : Nat) (slots slots' : List σ) : Prop where
  length : slots'.length = slots.length
  other : ∀ k, k ≠ index % slots.length → slots'[k]? = slots[k]?

theorem OwnSlot.refl (index : Nat) (slots : List σ) : OwnSlot index slots slots :=
  ⟨rfl, fun _ _ => rfl⟩

theorem OwnSlot.set (index : Nat) (slots : List σ) (slot : σ) :
    OwnSlot index slots (slots.set (index % slots.length) slot) :=
  ⟨List.length_set, fun _ other => List.getElem?_set_ne (Ne.symm other)⟩

section Fetching

variable {fetch : ι → List σ → Option (ω × List σ)} {position : ι → Nat} {usable : ι → Prop}
  {count : Nat}

theorem fetchAll_cons {index : ι} {indices : List ι} {slots slots' slots'' : List σ} {item : ω}
    {items : List ω} (fetched : fetch index slots = some (item, slots'))
    (others : fetchAll fetch indices slots' = some (items, slots'')) :
    fetchAll fetch (index :: indices) slots = some (item :: items, slots'') := by
  rw [fetchAll, fetched]
  show (fetchAll fetch indices slots').bind _ = _
  rw [others]
  rfl

/-- **Fetches of usable indices succeed**, and the slots after them come from those
before by changes to the slots of these indices. -/
theorem fetchAll_succeeds
    (succeeds : ∀ index slots, usable index → slots.length = count →
      ∃ item slots', fetch index slots = some (item, slots') ∧
        OwnSlot (position index) slots slots') :
    ∀ (indices : List ι) (slots : List σ), (∀ index ∈ indices, usable index) →
      slots.length = count →
      ∃ items slots', fetchAll fetch indices slots = some (items, slots') ∧
        slots'.length = count ∧
        ∀ k, (∀ index ∈ indices, k ≠ position index % count) → slots'[k]? = slots[k]?
  | [], slots, _, size => ⟨[], slots, rfl, size, fun _ _ => rfl⟩
  | index :: indices, slots, all, size => by
      obtain ⟨item, slots', fetched, own⟩ := succeeds index slots
        (all index List.mem_cons_self) size
      obtain ⟨items, slots'', others, size'', kept⟩ := fetchAll_succeeds succeeds indices slots'
        (fun other member => all other (List.mem_cons_of_mem _ member)) (own.length.trans size)
      refine ⟨item :: items, slots'', ?_, size'', fun k free => ?_⟩
      · exact fetchAll_cons fetched others
      · have first := free index List.mem_cons_self
        rw [← size] at first
        exact (kept k fun other member => free other (List.mem_cons_of_mem _ member)).trans
          (own.other k first)

/-- Fetching two lists one after the other. -/
theorem fetchAll_append {slots' slots'' : List σ} {items' : List ω} {later : List ι} :
    ∀ {earlier : List ι} {slots : List σ} {items : List ω},
      fetchAll fetch earlier slots = some (items, slots') →
      fetchAll fetch later slots' = some (items', slots'') →
      fetchAll fetch (earlier ++ later) slots = some (items ++ items', slots'')
  | [], _, _, first, second => by
      cases first
      exact second
  | index :: earlier, slots, items, first, second => by
      rw [fetchAll] at first
      obtain ⟨⟨item, middle⟩, fetched, others⟩ := Option.bind_eq_some_iff.mp first
      obtain ⟨⟨items₁, last⟩, rest, done⟩ := Option.bind_eq_some_iff.mp others
      cases done
      exact fetchAll_cons fetched (fetchAll_append rest second)

/-- **The slot of an index stays as its last fetch left it**, whatever else of the
window is fetched afterwards. -/
theorem fetchAll_keeps {first width : Nat} (narrow : width ≤ count)
    (succeeds : ∀ index slots, Window first width (position index) → slots.length = count →
      ∃ item slots', fetch index slots = some (item, slots') ∧
        OwnSlot (position index) slots slots')
    (inj : ∀ i j, position i = position j → i = j)
    {earlier later : List ι} {index : ι}
    (window : ∀ i ∈ earlier ++ index :: later, Window first width (position i))
    (last : index ∉ later) {slots : List σ} (size : slots.length = count) :
    ∃ items before item after items' slots',
      fetchAll fetch earlier slots = some (items, before) ∧ before.length = count ∧
      fetch index before = some (item, after) ∧ after.length = count ∧
      fetchAll fetch (earlier ++ index :: later) slots = some (items ++ item :: items', slots') ∧
      slots'.length = count ∧
      slots'[position index % count]? = after[position index % count]? := by
  have here : Window first width (position index) := window index
    (List.mem_append_right _ List.mem_cons_self)
  have behind : ∀ i ∈ later, Window first width (position i) := fun i member =>
    window i (List.mem_append_right _ (List.mem_cons_of_mem _ member))
  obtain ⟨items, before, ran, size', _⟩ := fetchAll_succeeds succeeds earlier slots
    (fun i member => window i (List.mem_append_left _ member)) size
  obtain ⟨item, after, fetched, own⟩ := succeeds index before here size'
  have size'' : after.length = count := own.length.trans size'
  obtain ⟨items', slots', rest, size₃, kept⟩ := fetchAll_succeeds succeeds later after behind size''
  have both : fetchAll fetch (index :: later) before = some (item :: items', slots') :=
    fetchAll_cons fetched rest
  refine ⟨items, before, item, after, items', slots', ran, size', fetched, size'',
    fetchAll_append ran both, size₃, kept _ fun other member shared => last ?_⟩
  have same := eq_of_mod_eq narrow here (behind other member) shared
  exact inj index other same ▸ member

end Fetching

end SlotCache
