import AppNeo3.Foundation.Memory

/-!
# C strings in character buffers of a fixed size

A character buffer is an area of characters; the C string in it ends before the
first terminating character, or fills the buffer when there is none. The
functions of the C string library are given with their effect on a buffer: what
they do not write stays as it was. The size that a bounded function is given is
the size of the buffer.
-/

set_option autoImplicit false

namespace CText

open Memory

variable {n : Nat}

/-- The terminating character. -/
def nul : Char := Char.ofNat 0

/-- The C string that starts at the first of some characters. -/
def text (chars : List Char) : List Char := chars.takeWhile (· != nul)

/-- The length of the C string that starts at the first of some characters. -/
def strlen (chars : List Char) : Nat := (text chars).length

theorem strlen_le_length (chars : List Char) : strlen chars ≤ chars.length :=
  (List.takeWhile_sublist _).length_le

/-- Copy a string and a terminator, cutting the string when it does not fit. -/
def strlcpy (dest : Area Char n) (src : List Char) : Area Char n :=
  if room : 0 < n then
    dest.write 0 (src.take (n - 1) ++ [nul]) (by
      rw [List.length_append, List.length_take, List.length_singleton]
      omega)
  else dest

/-- Append a string to the string in a buffer, cutting it when it does not fit. -/
def strlcat (dest : Area Char n) (src : List Char) : Area Char n :=
  if room : strlen dest.cells < n then
    dest.write (strlen dest.cells) (src.take (n - strlen dest.cells - 1) ++ [nul]) (by
      rw [List.length_append, List.length_take, List.length_singleton]
      omega)
  else dest

/-- Print a rendered text, cutting it when it does not fit. -/
def snprintf (dest : Area Char n) (rendered : List Char) : Area Char n :=
  strlcpy dest rendered

/-- What `strncpy` writes: at most `count` characters of a string, filled up
with terminators. -/
def strncpyData (src : List Char) (count : Nat) : List Char :=
  src.take count ++ List.replicate (count - src.length) nul

theorem length_strncpyData (src : List Char) (count : Nat) :
    (strncpyData src count).length = count := by
  rw [strncpyData, List.length_append, List.length_take, List.length_replicate]
  omega

/-- Copy at most `count` characters of a string to position `pos`, filling up
with terminators. -/
def strncpy (dest : Area Char n) (pos : Nat) (src : List Char) (count : Nat)
    (fits : pos + count ≤ n) : Area Char n :=
  dest.write pos (strncpyData src count) (by rwa [length_strncpyData])

/-- Copy a string and its terminator. -/
def strcpy (dest : Area Char n) (src : List Char) (fits : src.length < n) : Area Char n :=
  dest.write 0 (src ++ [nul]) (by
    rw [List.length_append, List.length_singleton]
    omega)

/-! ## Reading the string back -/

/-- Characters before the first terminator belong to the string. -/
theorem text_append {front : List Char} (clean : nul ∉ front) (rest : List Char) :
    text (front ++ rest) = front ++ text rest := by
  rw [text, List.takeWhile_append_of_pos]
  · rfl
  · intro c member
    simp only [bne_iff_ne, ne_eq]
    exact fun same => clean (same ▸ member)

@[simp] theorem text_nul_cons (rest : List Char) : text (nul :: rest) = [] := by
  simp [text]

theorem text_terminated {front : List Char} (clean : nul ∉ front) (rest : List Char) :
    text (front ++ nul :: rest) = front := by
  rw [text_append clean, text_nul_cons, List.append_nil]

theorem text_eq_self {front : List Char} (clean : nul ∉ front) : text front = front := by
  simpa only [List.append_nil, text, List.takeWhile_nil] using text_append clean []

theorem nul_not_mem_text (chars : List Char) : nul ∉ text chars := by
  intro member
  have passes := List.all_eq_true.mp (List.all_takeWhile (p := (· != nul)) (l := chars)) nul member
  simp at passes

theorem text_append_rest (chars : List Char) :
    text chars ++ chars.dropWhile (· != nul) = chars :=
  List.takeWhile_append_dropWhile

/-- A string that ends inside its buffer is followed by a terminator. -/
theorem nul_mem_of_strlen_lt {chars : List Char} (short : strlen chars < chars.length) :
    nul ∈ chars := by
  refine Classical.byContradiction fun clean => ?_
  rw [strlen, text_eq_self clean] at short
  exact Nat.lt_irrefl _ short

/-- What follows the string does not start with a character of one. -/
theorem text_rest (chars : List Char) : text (chars.dropWhile (· != nul)) = [] := by
  cases dropped : chars.dropWhile (· != nul) with
  | nil => rfl
  | cons c rest =>
      have stops := List.head_dropWhile_not (p := (· != nul)) (l := chars) (by rw [dropped]; simp)
      simp only [dropped, List.head_cons] at stops
      rw [text, List.takeWhile_cons, stops]
      rfl

/-- The characters of the string stand at its start. -/
theorem take_eq_take_text {chars : List Char} {count : Nat} (inside : count ≤ strlen chars) :
    chars.take count = (text chars).take count := by
  calc chars.take count = (text chars ++ chars.dropWhile (· != nul)).take count := by
        rw [text_append_rest]
    _ = (text chars).take count := List.take_append_of_le_length inside

/-- The string that starts at a later character of the string. -/
theorem text_drop {chars : List Char} {count : Nat} (inside : count ≤ strlen chars) :
    text (chars.drop count) = (text chars).drop count := by
  have clean : nul ∉ (text chars).drop count := fun member =>
    nul_not_mem_text chars (List.mem_of_mem_drop member)
  calc text (chars.drop count)
      = text ((text chars ++ chars.dropWhile (· != nul)).drop count) := by rw [text_append_rest]
    _ = text ((text chars).drop count ++ chars.dropWhile (· != nul)) := by
        rw [List.drop_append_of_le_length inside]
    _ = (text chars).drop count := by rw [text_append clean, text_rest, List.append_nil]

/-! ## What the library functions leave in a buffer -/

/-- A string that fits is copied whole. -/
theorem strlcpy_fits {dest : Area Char n} {src : List Char} (fits : src.length < n) :
    (strlcpy dest src).cells = src ++ nul :: dest.cells.drop (src.length + 1) := by
  have whole : src.take (n - 1) = src := List.take_of_length_le (by omega)
  rw [strlcpy, dif_pos (by omega : 0 < n), Area.write_cells, whole, overwrite_zero]
  simp only [List.length_append, List.length_singleton, List.append_assoc,
    List.singleton_append]

/-- What the buffer has no room for is cut off. -/
theorem text_strlcpy_take {dest : Area Char n} {src : List Char} (room : 0 < n)
    (clean : nul ∉ src) : text (strlcpy dest src).cells = src.take (n - 1) := by
  have cut : nul ∉ src.take (n - 1) := fun member => clean (List.mem_of_mem_take member)
  rw [strlcpy, dif_pos room, Area.write_cells, overwrite_zero, List.append_assoc,
    List.singleton_append, text_terminated cut]

theorem text_strlcpy {dest : Area Char n} {src : List Char} (fits : src.length < n)
    (clean : nul ∉ src) : text (strlcpy dest src).cells = src := by
  rw [strlcpy_fits fits, text_terminated clean]

theorem text_snprintf {dest : Area Char n} {rendered : List Char} (fits : rendered.length < n)
    (clean : nul ∉ rendered) : text (snprintf dest rendered).cells = rendered :=
  text_strlcpy fits clean

theorem text_strcpy {dest : Area Char n} {src : List Char} (fits : src.length < n)
    (clean : nul ∉ src) : text (strcpy dest src fits).cells = src := by
  rw [strcpy, Area.write_cells, overwrite_zero, List.append_assoc, List.singleton_append,
    text_terminated clean]

/-- A string that fits behind the string in the buffer is appended whole. -/
theorem text_strlcat {dest : Area Char n} {src : List Char}
    (fits : strlen dest.cells + src.length < n) (clean : nul ∉ src) :
    text (strlcat dest src).cells = text dest.cells ++ src := by
  have room : strlen dest.cells < n := by omega
  have whole : src.take (n - strlen dest.cells - 1) = src := List.take_of_length_le (by omega)
  have front : dest.cells.take (strlen dest.cells) = text dest.cells := by
    rw [take_eq_take_text (Nat.le_refl _), strlen, List.take_length]
  rw [strlcat, dif_pos room, Area.write_cells, whole, overwrite, front, List.append_assoc,
    text_append (nul_not_mem_text _), List.append_assoc, List.singleton_append,
    text_terminated clean]

example : text (strlcat (strlcpy (Area.fill 8 'x') ['B', 'y']) ['!']).cells = ['B', 'y', '!'] := by
  decide

end CText
