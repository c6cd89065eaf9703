/-!
# Memory areas of a fixed size

An area of `n` cells carries the proof that it holds `n` cells, so that writing
inside it cannot change its size. `overwrite` is the raw operation on lists: it
puts data over the positions from `pos` on, and a write that does not fit makes
the list longer. `slice` reads `len` positions from `pos` on.
-/

set_option autoImplicit false

namespace Memory

universe u

variable {α : Type u}

/-! ## Writing over and reading from a list of cells -/

/-- Put `data` over the cells of `cells` from position `pos` on. -/
def overwrite (cells : List α) (pos : Nat) (data : List α) : List α :=
  cells.take pos ++ data ++ cells.drop (pos + data.length)

/-- The `len` cells from position `pos` on. -/
def slice (cells : List α) (pos len : Nat) : List α :=
  (cells.drop pos).take len

/-- A write that fits keeps the number of cells. -/
theorem length_overwrite {cells data : List α} {pos : Nat}
    (fits : pos + data.length ≤ cells.length) :
    (overwrite cells pos data).length = cells.length := by
  simp only [overwrite, List.length_append, List.length_take, List.length_drop]
  omega

/-- Up to the end of a write stand the cells before it and then the data. -/
theorem take_overwrite_end {cells data : List α} {pos : Nat} (inside : pos ≤ cells.length) :
    (overwrite cells pos data).take (pos + data.length) = cells.take pos ++ data := by
  have size : (cells.take pos ++ data).length = pos + data.length := by
    rw [List.length_append, List.length_take, Nat.min_eq_left inside]
  rw [overwrite, ← size, List.take_left]

/-- Two writes, one behind the other, are one write. -/
theorem overwrite_overwrite {cells front back : List α} {pos next : Nat}
    (inside : pos ≤ cells.length) (follows : next = pos + front.length) :
    overwrite (overwrite cells pos front) next back = overwrite cells pos (front ++ back) := by
  subst follows
  have size : (cells.take pos ++ front).length = pos + front.length := by
    rw [List.length_append, List.length_take, Nat.min_eq_left inside]
  have behind : (overwrite cells pos front).drop (pos + front.length + back.length) =
      cells.drop (pos + front.length + back.length) := by
    rw [overwrite, ← size, List.drop_length_add_append, List.drop_drop, size]
  calc overwrite (overwrite cells pos front) (pos + front.length) back
      = (overwrite cells pos front).take (pos + front.length) ++ back ++
          (overwrite cells pos front).drop (pos + front.length + back.length) := rfl
    _ = cells.take pos ++ front ++ back ++ cells.drop (pos + front.length + back.length) := by
        rw [take_overwrite_end inside, behind]
    _ = overwrite cells pos (front ++ back) := by
        rw [overwrite, List.length_append, List.append_assoc (cells.take pos), Nat.add_assoc]

theorem overwrite_zero (cells data : List α) :
    overwrite cells 0 data = data ++ cells.drop data.length := by
  simp [overwrite]

/-- A write inside the middle part changes that part only. -/
theorem overwrite_middle {front cells back data : List α} {pos : Nat}
    (fits : pos + data.length ≤ cells.length) :
    overwrite (front ++ cells ++ back) (front.length + pos) data =
      front ++ overwrite cells pos data ++ back := by
  have start : pos ≤ cells.length := by omega
  have before : (front ++ cells ++ back).take (front.length + pos) = front ++ cells.take pos := by
    rw [List.append_assoc, List.take_length_add_append, List.take_append_of_le_length start]
  have behind : (front ++ cells ++ back).drop (front.length + pos + data.length) =
      cells.drop (pos + data.length) ++ back := by
    rw [List.append_assoc, Nat.add_assoc, List.drop_length_add_append,
      List.drop_append_of_le_length fits]
  rw [overwrite, overwrite, before, behind]
  simp only [List.append_assoc]

/-- A slice that ends inside is as long as asked. -/
theorem length_slice {cells : List α} {pos len : Nat} (inside : pos + len ≤ cells.length) :
    (slice cells pos len).length = len := by
  rw [slice, List.length_take, List.length_drop]
  omega

/-- The slice at the end of `front` is the start of what follows. -/
theorem slice_append_length (front back : List α) (len : Nat) :
    slice (front ++ back) front.length len = back.take len := by
  rw [slice, List.drop_left]

/-! ## Parts at a position -/

/-- `part` stands in `whole` from position `pos` on. -/
def StandsAt (whole : List α) (pos : Nat) (part : List α) : Prop :=
  ∃ front back, whole = front ++ part ++ back ∧ front.length = pos

theorem StandsAt.slice_eq {whole part : List α} {pos : Nat} (stands : StandsAt whole pos part) :
    slice whole pos part.length = part := by
  obtain ⟨front, back, rfl, rfl⟩ := stands
  rw [List.append_assoc, slice_append_length, List.take_left]

theorem StandsAt.end_le {whole part : List α} {pos : Nat} (stands : StandsAt whole pos part) :
    pos + part.length ≤ whole.length := by
  obtain ⟨front, back, rfl, rfl⟩ := stands
  rw [List.length_append, List.length_append]
  exact Nat.le_add_right _ _

/-- A part of a part. -/
theorem StandsAt.trans {whole middle part : List α} {pos offset : Nat}
    (outer : StandsAt whole pos middle) (inner : StandsAt middle offset part) :
    StandsAt whole (pos + offset) part := by
  obtain ⟨front, back, rfl, rfl⟩ := outer
  obtain ⟨front', back', rfl, rfl⟩ := inner
  exact ⟨front ++ front', back' ++ back, by simp only [List.append_assoc], List.length_append⟩

/-- In a concatenation every member stands behind the members before it. -/
theorem standsAt_flatMap {ι : Type} (f : ι → List α) {items : List ι} {k : Nat} {item : ι}
    (found : items[k]? = some item) :
    StandsAt (items.flatMap f) ((items.take k).flatMap f).length (f item) := by
  refine ⟨(items.take k).flatMap f, (items.drop (k + 1)).flatMap f, ?_, rfl⟩
  obtain ⟨inside, rfl⟩ := List.getElem?_eq_some_iff.mp found
  have split : items = items.take k ++ items[k] :: items.drop (k + 1) := by
    rw [← List.drop_eq_getElem_cons inside, List.take_append_drop]
  calc items.flatMap f = (items.take k ++ items[k] :: items.drop (k + 1)).flatMap f :=
        congrArg (List.flatMap f) split
    _ = _ := by rw [List.flatMap_append, List.flatMap_cons, List.append_assoc]

/-! ## Areas -/

/-- An area of `n` cells. -/
structure Area (α : Type u) (n : Nat) where
  cells : List α
  size_eq : cells.length = n
deriving DecidableEq

namespace Area

variable {n : Nat}

theorem ext_cells {first second : Area α n} (same : first.cells = second.cells) :
    first = second := by
  cases first
  cases second
  cases same
  rfl

/-- An area with one value in every cell, as `memset` leaves it. -/
def fill (n : Nat) (value : α) : Area α n := ⟨List.replicate n value, List.length_replicate⟩

/-- The area with the first `n` cells of a list, filled up with a value. -/
def ofList (n : Nat) (filler : α) (data : List α) : Area α n :=
  ⟨(data ++ List.replicate n filler).take n, by
    rw [List.length_take, List.length_append, List.length_replicate]
    omega⟩

theorem ofList_eq {filler : α} {data : List α} (size : data.length = n) :
    ofList n filler data = ⟨data, size⟩ := by
  refine ext_cells ?_
  subst size
  exact List.take_left

/-- Write `data` at `pos`; the write stays inside. -/
def write (area : Area α n) (pos : Nat) (data : List α) (fits : pos + data.length ≤ n) :
    Area α n :=
  ⟨overwrite area.cells pos data,
    (length_overwrite (by rw [area.size_eq]; exact fits)).trans area.size_eq⟩

theorem write_cells (area : Area α n) {pos : Nat} {data : List α} (fits : pos + data.length ≤ n) :
    (area.write pos data fits).cells = overwrite area.cells pos data := rfl

/-- A write of the whole area leaves the data. -/
theorem write_whole (area : Area α n) {data : List α} (size : data.length = n)
    (fits : 0 + data.length ≤ n) : area.write 0 data fits = ⟨data, size⟩ := by
  refine ext_cells ?_
  have whole : area.cells.length ≤ data.length := Nat.le_of_eq (area.size_eq.trans size.symm)
  rw [write_cells, overwrite_zero, List.drop_eq_nil_of_le whole, List.append_nil]

end Area

end Memory
