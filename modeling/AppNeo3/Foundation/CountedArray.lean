/-!
# Arrays with an 8-bit count of their cells in use

A C array of a fixed size stands beside a counter of the cells that hold
something. An item is added by storing to the cell at the counter, which need not
change all of the cell, and counting it. As long as there is room, and the counter
can count to the size of the array, the cells in use are the items added, in order
(`Holds.push`).
-/

set_option autoImplicit false

universe u v

/-- An array of `capacity` cells, and how many of them are in use. -/
structure CountedArray (α : Type u) (capacity : Nat) where
  cells : Vector α capacity
  count : UInt8

namespace CountedArray

variable {α : Type u} {β : Type v} {capacity : Nat}

/-- The cells in use. -/
def used (array : CountedArray α capacity) : List α := array.cells.toList.take array.count.toNat

/-- No cell is in use; the cells keep what they hold. -/
def clear (array : CountedArray α capacity) : CountedArray α capacity := { array with count := 0 }

/-- Store to the next cell and count it. There is no result when the next cell is
outside the array. -/
def push (array : CountedArray α capacity) (store : α → α) : Option (CountedArray α capacity) :=
  if inside : array.count.toNat < capacity then
    some ⟨array.cells.set array.count.toNat (store array.cells[array.count.toNat]),
      array.count + 1⟩
  else none

/-- The cells in use stand for `items`, and all of these are counted. -/
structure Holds (view : α → β) (array : CountedArray α capacity) (items : List β) : Prop where
  count : array.count.toNat = items.length
  used : array.used.map view = items

variable {view : α → β} {array : CountedArray α capacity} {items : List β}

theorem holds_clear (array : CountedArray α capacity) : Holds view array.clear [] where
  count := rfl
  used := rfl

/-- Behind the cells in use the array is free to be stored to. -/
theorem toList_take_set {cells : Vector α capacity} {k : Nat} (inside : k < capacity) (item : α) :
    (cells.set k item).toList.take (k + 1) = cells.toList.take k ++ [item] := by
  have size : k < cells.toList.length := by rwa [Vector.length_toList]
  rw [Vector.toList_set, List.take_succ_eq_append_getElem (by rwa [List.length_set]),
    List.take_set_of_le (Nat.le_refl k), List.getElem_set_self]

/-- **Adding an item** while there is room. -/
theorem Holds.push (holds : Holds view array items) (room : items.length < capacity)
    (counted : capacity < UInt8.size) (store : α → α) {item : β}
    (stored : ∀ old, view (store old) = item) :
    ∃ grown, array.push store = some grown ∧ Holds view grown (items ++ [item]) := by
  have inside : array.count.toNat < capacity := by rwa [holds.count]
  have next : (array.count + 1).toNat = array.count.toNat + 1 := by
    rw [UInt8.toNat_add, UInt8.toNat_one]
    exact Nat.mod_eq_of_lt (Nat.lt_of_le_of_lt inside counted)
  refine ⟨_, dif_pos inside, ?_, ?_⟩
  · rw [next, holds.count, List.length_append]
    rfl
  · rw [CountedArray.used, next, toList_take_set inside, List.map_append, List.map_cons,
      List.map_nil, stored]
    exact congrArg (· ++ [item]) holds.used

/-- A counted item stands in its cell. -/
theorem Holds.getElem? (holds : Holds view array items) {k : Nat} {item : β}
    (found : items[k]? = some item) : ∃ cell, array.cells[k]? = some cell ∧ view cell = item := by
  rw [← holds.used, List.getElem?_map, Option.map_eq_some_iff] at found
  obtain ⟨cell, here, viewed⟩ := found
  refine ⟨cell, ?_, viewed⟩
  rw [CountedArray.used, List.getElem?_take] at here
  split at here
  · rwa [← Vector.getElem?_toList]
  · cases here

end CountedArray
