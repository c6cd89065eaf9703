import AppNeo3.Foundation.Cursor

/-!
# Phrases that are cut short

A parser reads a phrase when it consumes it, whatever follows, and fails on every
front of it; `codes` lists, element by element, the error with which the parser
ends when the phrase is cut in front of that element. The rules follow the way
parsers are put together, and the codes of a sequence are those of its parts.
-/

set_option autoImplicit false

namespace CursorParsing

variable {β ω ε α γ : Type}

namespace Cursor

/-- The parser consumes the phrase, and fails with the listed errors where the
phrase is cut short. -/
structure Reads (parser : Cursor β ω ε α) (phrase : List β) (value : α) (codes : List ε) :
    Prop where
  whole : ∀ pos rest, ∃ writes,
    parser pos (phrase ++ rest) = ⟨writes, .ok (value, pos + phrase.length, rest)⟩
  length_eq : codes.length = phrase.length
  cut : ∀ pos (k : Nat) e, codes[k]? = some e → ∃ writes,
    parser pos (phrase.take k) = ⟨writes, .error e⟩

theorem Reads.of_accepts {parser : Cursor β ω ε α} {value : α} {log : Nat → List ω}
    (accepts : Accepts parser [] value log) : Reads parser [] value [] where
  whole pos rest := ⟨log pos, accepts pos rest⟩
  length_eq := rfl
  cut _ k _ found := by simp at found

theorem reads_pure (a : α) : Reads (pure a : Cursor β ω ε α) [] a [] :=
  .of_accepts (accepts_pure a)

theorem reads_failIf {condition : Bool} (passes : condition = false) (e : ε) :
    Reads (failIf condition e : Cursor β ω ε Unit) [] () [] := .of_accepts (accepts_failIf passes e)

theorem reads_write (w : ω) : Reads (write w : Cursor β ω ε Unit) [] () [] :=
  .of_accepts (accepts_write w)

theorem reads_writeAll (ws : List ω) : Reads (writeAll ws : Cursor β ω ε Unit) [] () [] :=
  .of_accepts (accepts_writeAll ws)

/-- The code of a place in a phrase that has one code only. -/
theorem lt_of_getElem?_map {phrase : List β} {e e' : ε} {k : Nat}
    (found : (phrase.map fun _ => e)[k]? = some e') : k < phrase.length ∧ e' = e := by
  rw [List.getElem?_map] at found
  cases here : phrase[k]? with
  | none =>
      rw [here] at found
      cases found
  | some b =>
      rw [here] at found
      exact ⟨(List.getElem?_eq_some_iff.mp here).1, (Option.some.inj found).symm⟩

theorem length_take_lt {phrase : List β} {k : Nat} (short : k < phrase.length) :
    ¬ phrase.length ≤ (phrase.take k).length := by
  rw [List.length_take]
  omega

theorem reads_takeAs {phrase : List β} {count : Nat} (size : phrase.length = count)
    (decode : List β → γ) (e : ε) :
    Reads (takeAs count decode e : Cursor β ω ε γ) phrase (decode phrase)
      (phrase.map fun _ => e) where
  whole pos rest := ⟨[], accepts_takeAs size decode e pos rest⟩
  length_eq := List.length_map _
  cut pos k e' found := by
    subst size
    obtain ⟨short, rfl⟩ := lt_of_getElem?_map found
    exact ⟨[], takeAs_of_not_le (length_take_lt short)⟩

theorem reads_take {phrase : List β} {count : Nat} (size : phrase.length = count) (e : ε) :
    Reads (take count e : Cursor β ω ε _) phrase phrase (phrase.map fun _ => e) :=
  reads_takeAs size id e

theorem reads_takeInto {phrase : List β} {count : Nat} (size : phrase.length = count)
    (decode : List β → γ) (zero : γ) (into : γ → ω) (e : ε) :
    Reads (takeInto count decode zero into e) phrase (decode phrase)
      (phrase.map fun _ => e) where
  whole pos rest := ⟨_, accepts_takeInto size decode zero into e pos rest⟩
  length_eq := List.length_map _
  cut pos k e' found := by
    subst size
    obtain ⟨short, rfl⟩ := lt_of_getElem?_map found
    refine ⟨[into zero], ?_⟩
    rw [takeInto, if_neg (length_take_lt short)]

/-- **The codes of a sequence are those of its parts.** A cut in the first part
is met by the first parser; a cut behind it by the second. -/
theorem Reads.bind {first : Cursor β ω ε α} {second : α → Cursor β ω ε γ}
    {front back : List β} {a : α} {value : γ} {frontCodes backCodes : List ε}
    (readsFirst : Reads first front a frontCodes)
    (readsSecond : Reads (second a) back value backCodes) :
    Reads (first >>= second) (front ++ back) value (frontCodes ++ backCodes) where
  whole pos rest := by
    obtain ⟨firstWrites, start⟩ := readsFirst.whole pos (back ++ rest)
    obtain ⟨secondWrites, tail⟩ := readsSecond.whole (pos + front.length) rest
    refine ⟨firstWrites ++ secondWrites, ?_⟩
    rw [List.append_assoc, bind_of_ok start, tail, List.length_append, Nat.add_assoc]
  length_eq := by
    rw [List.length_append, List.length_append, readsFirst.length_eq, readsSecond.length_eq]
  cut pos k e found := by
    by_cases early : k < frontCodes.length
    · rw [List.getElem?_append_left early] at found
      obtain ⟨writes, failed⟩ := readsFirst.cut pos k e found
      refine ⟨writes, ?_⟩
      rw [List.take_append_of_le_length (by rw [← readsFirst.length_eq]; omega)]
      exact bind_of_error failed
    · rw [List.getElem?_append_right (Nat.le_of_not_lt early), readsFirst.length_eq] at found
      rw [readsFirst.length_eq] at early
      obtain ⟨firstWrites, start⟩ := readsFirst.whole pos (back.take (k - front.length))
      obtain ⟨secondWrites, failed⟩ := readsSecond.cut (pos + front.length) _ e found
      refine ⟨firstWrites ++ secondWrites, ?_⟩
      rw [List.take_append, List.take_of_length_le (Nat.le_of_not_lt early), bind_of_ok start,
        failed]

/-- Another spelling of the phrase and of the codes. -/
theorem Reads.of_eq {parser : Cursor β ω ε α} {phrase phrase' : List β} {value : α}
    {codes codes' : List ε} (reads : Reads parser phrase' value codes')
    (samePhrase : phrase = phrase') (sameCodes : codes = codes') :
    Reads parser phrase value codes := by
  subst samePhrase sameCodes
  exact reads

theorem reads_position_bind {second : Nat → Cursor β ω ε γ} {phrase : List β} {value : γ}
    {codes : List ε} (reads : ∀ here, Reads (second here) phrase value codes) :
    Reads (position >>= second) phrase value codes where
  whole pos rest := by
    obtain ⟨writes, read⟩ := (reads pos).whole pos rest
    exact ⟨[] ++ writes, by rw [bind_of_ok (position_run pos _), read]⟩
  length_eq := (reads 0).length_eq
  cut pos k e found := by
    obtain ⟨writes, failed⟩ := (reads pos).cut pos k e found
    exact ⟨[] ++ writes, by rw [bind_of_ok (position_run pos _), failed]⟩

/-- A repetition reads the phrases of a list of items, when each turn reads the
phrase of the next item. -/
theorem reads_repeatFrom {ι : Type} {phrase : ι → List β} {codes : ι → List ε}
    {turn : Nat → α → Cursor β ω ε α} {next : Nat → α → ι → α}
    {holds : Nat → α → List ι → Prop}
    (turns : ∀ index gathered item items, holds index gathered (item :: items) →
      Reads (turn index gathered) (phrase item) (next index gathered item) (codes item) ∧
        holds (index + 1) (next index gathered item) items) :
    ∀ (items : List ι) (index : Nat) (gathered : α), holds index gathered items →
      Reads (repeatFrom turn items.length index gathered) (items.flatMap phrase) ()
        (items.flatMap codes)
  | [], _, _, _ => reads_pure ()
  | item :: items, index, gathered, start => by
      obtain ⟨read, follows⟩ := turns index gathered item items start
      exact Reads.of_eq (Reads.bind read
        (reads_repeatFrom turns items (index + 1) (next index gathered item) follows))
        List.flatMap_cons List.flatMap_cons

end Cursor

end CursorParsing
