import AppNeo3.Foundation.CBody

/-!
# Parsers that move a cursor and log their writes

A cursor parser reads symbols from the front of an input, knows the position it
has reached, and logs the writes it asks for. It ends with a value and the rest
of the input, or with an error; the log is there in both cases.

Four properties are stated for single parsers and carried through sequencing.
A parser *streams* when more input behind the input it has seen changes nothing
that it has already read (`Streams`). It is *sound* for a grammar when what it
consumes is in the grammar (`Sound`), and it *accepts* a phrase when it consumes
that phrase whatever follows (`Accepts`). It *writes within* a property when all
the writes it asks for have it (`WritesWithin`).

A body of a C function *refines* a cursor parser when, from a given state, it
ends as the parser does, with the parser's writes applied to its store
(`Refines`).
-/

set_option autoImplicit false

namespace CursorParsing

variable {β ω ε α γ : Type}

/-- What a parser read: the writes it asked for, and its value with the position
and the rest of the input, or its error. -/
structure Reading (β ω ε α : Type) where
  writes : List ω
  outcome : Except ε (α × Nat × List β)

/-- A parser over symbols `β`, with writes `ω` and errors `ε`. -/
def Cursor (β ω ε α : Type) : Type := Nat → List β → Reading β ω ε α

namespace Cursor

/-- Go on where the first parser stopped, unless it failed. -/
def andThen (first : Cursor β ω ε α) (second : α → Cursor β ω ε γ) : Cursor β ω ε γ :=
  fun pos input =>
    match first pos input with
    | ⟨writes, .ok (a, pos', rest)⟩ =>
        ⟨writes ++ (second a pos' rest).writes, (second a pos' rest).outcome⟩
    | ⟨writes, .error e⟩ => ⟨writes, .error e⟩

instance : Monad (Cursor β ω ε) where
  pure a := fun pos input => ⟨[], .ok (a, pos, input)⟩
  bind := andThen

/-- End with an error. -/
def fail (e : ε) : Cursor β ω ε α := fun _ _ => ⟨[], .error e⟩

/-- End with an error when a condition holds. -/
def failIf (condition : Bool) (e : ε) : Cursor β ω ε Unit :=
  if condition then fail e else pure ()

/-- Ask for a write. -/
def write (w : ω) : Cursor β ω ε Unit := fun pos input => ⟨[w], .ok ((), pos, input)⟩

/-- Ask for several writes. -/
def writeAll (ws : List ω) : Cursor β ω ε Unit := fun pos input => ⟨ws, .ok ((), pos, input)⟩

/-- The position reached. -/
def position : Cursor β ω ε Nat := fun pos input => ⟨[], .ok (pos, pos, input)⟩

/-- Consume `count` symbols; their value. -/
def takeAs (count : Nat) (decode : List β → γ) (e : ε) : Cursor β ω ε γ := fun pos input =>
  if count ≤ input.length then
    ⟨[], .ok (decode (input.take count), pos + count, input.drop count)⟩
  else ⟨[], .error e⟩

/-- Consume `count` symbols. -/
def take (count : Nat) (e : ε) : Cursor β ω ε (List β) := takeAs count id e

/-- Consume `count` symbols and ask for a write of their value; when there are
fewer, ask for a write of another value and end with an error. -/
def takeInto (count : Nat) (decode : List β → γ) (zero : γ) (into : γ → ω) (e : ε) :
    Cursor β ω ε γ := fun pos input =>
  if count ≤ input.length then
    ⟨[into (decode (input.take count))],
      .ok (decode (input.take count), pos + count, input.drop count)⟩
  else ⟨[into zero], .error e⟩

/-- End with an error unless the whole input has been consumed. -/
def atEnd (e : ε) : Cursor β ω ε Unit := fun pos input =>
  if input.isEmpty then ⟨[], .ok ((), pos, input)⟩ else ⟨[], .error e⟩

/-- Repeat a parser `count` times, handing it the number of the turn and what
the turns before have gathered. -/
def repeatFrom (turn : Nat → α → Cursor β ω ε α) : Nat → Nat → α → Cursor β ω ε Unit
  | 0, _, _ => pure ()
  | count + 1, index, gathered => do
      let gathered' ← turn index gathered
      repeatFrom turn count (index + 1) gathered'

theorem bind_run (first : Cursor β ω ε α) (second : α → Cursor β ω ε γ) (pos : Nat)
    (input : List β) :
    (first >>= second) pos input =
      match first pos input with
      | ⟨writes, .ok (a, pos', rest)⟩ =>
          ⟨writes ++ (second a pos' rest).writes, (second a pos' rest).outcome⟩
      | ⟨writes, .error e⟩ => ⟨writes, .error e⟩ := rfl

theorem bind_of_ok {first : Cursor β ω ε α} {second : α → Cursor β ω ε γ} {pos pos' : Nat}
    {input rest : List β} {writes : List ω} {a : α}
    (run : first pos input = ⟨writes, .ok (a, pos', rest)⟩) :
    (first >>= second) pos input =
      ⟨writes ++ (second a pos' rest).writes, (second a pos' rest).outcome⟩ := by
  rw [bind_run, run]

theorem bind_of_error {first : Cursor β ω ε α} {second : α → Cursor β ω ε γ} {pos : Nat}
    {input : List β} {writes : List ω} {e : ε}
    (run : first pos input = ⟨writes, .error e⟩) :
    (first >>= second) pos input = ⟨writes, .error e⟩ := by
  rw [bind_run, run]

/-- What the first parser asks for, the sequence asks for. -/
theorem mem_bind_of_first {first : Cursor β ω ε α} {second : α → Cursor β ω ε γ} {pos : Nat}
    {input : List β} {w : ω} (member : w ∈ (first pos input).writes) :
    w ∈ ((first >>= second) pos input).writes := by
  cases run : first pos input with
  | mk writes outcome =>
      rw [run] at member
      cases outcome with
      | error e =>
          rw [bind_of_error run]
          exact member
      | ok result =>
          obtain ⟨a, pos', rest⟩ := result
          rw [bind_of_ok run]
          exact List.mem_append_left _ member

instance : LawfulMonad (Cursor β ω ε) := LawfulMonad.mk' _
  (fun parser => by
    funext pos input
    show (parser >>= fun a => pure (id a)) pos input = _
    rw [bind_run]
    cases parser pos input with
    | mk writes outcome =>
        cases outcome with
        | error e => rfl
        | ok result => exact congrArg (Reading.mk · _) (List.append_nil writes))
  (fun a second => by
    funext pos input
    rfl)
  (fun first second third => by
    funext pos input
    rw [bind_run, bind_run, bind_run]
    cases first pos input with
    | mk writes outcome =>
        cases outcome with
        | error e => rfl
        | ok result =>
            obtain ⟨a, pos', rest⟩ := result
            simp only [bind_run]
            cases second a pos' rest with
            | mk writes' outcome' =>
                cases outcome' with
                | error e => rfl
                | ok result' => simp only [List.append_assoc])

@[simp] theorem pure_run (a : α) (pos : Nat) (input : List β) :
    (pure a : Cursor β ω ε α) pos input = ⟨[], .ok (a, pos, input)⟩ := rfl

@[simp] theorem fail_run (e : ε) (pos : Nat) (input : List β) :
    (fail e : Cursor β ω ε α) pos input = ⟨[], .error e⟩ := rfl

@[simp] theorem write_run (w : ω) (pos : Nat) (input : List β) :
    (write w : Cursor β ω ε Unit) pos input = ⟨[w], .ok ((), pos, input)⟩ := rfl

@[simp] theorem position_run (pos : Nat) (input : List β) :
    (position : Cursor β ω ε Nat) pos input = ⟨[], .ok (pos, pos, input)⟩ := rfl

theorem takeAs_of_le {count : Nat} {decode : List β → γ} {e : ε} {pos : Nat} {input : List β}
    (fits : count ≤ input.length) :
    (takeAs count decode e : Cursor β ω ε γ) pos input =
      ⟨[], .ok (decode (input.take count), pos + count, input.drop count)⟩ := if_pos fits

theorem takeAs_of_not_le {count : Nat} {decode : List β → γ} {e : ε} {pos : Nat} {input : List β}
    (short : ¬ count ≤ input.length) :
    (takeAs count decode e : Cursor β ω ε γ) pos input = ⟨[], .error e⟩ := if_neg short

theorem failIf_run (condition : Bool) (e : ε) (pos : Nat) (input : List β) :
    (failIf condition e : Cursor β ω ε Unit) pos input =
      if condition then ⟨[], .error e⟩ else ⟨[], .ok ((), pos, input)⟩ := by
  cases condition <;> rfl

theorem failIf_passes {condition : Bool} {e : ε} {pos : Nat} {input : List β} {writes : List ω}
    {result : Unit × Nat × List β}
    (run : (failIf condition e : Cursor β ω ε Unit) pos input = ⟨writes, .ok result⟩) :
    condition = false := by
  cases condition with
  | true => cases run
  | false => rfl

/-! ## Streaming -/

section Streaming

variable {τ : Type} (target : ω → τ)

/-- More input changes nothing that was read: after a success the same reading
is made, and after an error every target written so far is written again. -/
def Streams (parser : Cursor β ω ε α) : Prop :=
  ∀ pos input more,
    match parser pos input with
    | ⟨writes, .ok (a, pos', rest)⟩ =>
        parser pos (input ++ more) = ⟨writes, .ok (a, pos', rest ++ more)⟩
    | ⟨writes, .error _⟩ =>
        ∀ w ∈ writes, target w ∈ (parser pos (input ++ more)).writes.map target

variable {target}

theorem Streams.of_ok {parser : Cursor β ω ε α} (streams : Streams target parser) {pos pos' : Nat}
    {input rest : List β} {writes : List ω} {a : α}
    (run : parser pos input = ⟨writes, .ok (a, pos', rest)⟩) (more : List β) :
    parser pos (input ++ more) = ⟨writes, .ok (a, pos', rest ++ more)⟩ := by
  have step := streams pos input more
  rw [run] at step
  exact step

/-- The targets written on an input are written on every longer input. -/
theorem Streams.targets {parser : Cursor β ω ε α} (streams : Streams target parser) (pos : Nat)
    (input more : List β) :
    ∀ w ∈ (parser pos input).writes, target w ∈ (parser pos (input ++ more)).writes.map target := by
  have step := streams pos input more
  cases run : parser pos input with
  | mk writes outcome =>
      rw [run] at step
      cases outcome with
      | error e => exact step
      | ok result =>
          obtain ⟨a, pos', rest⟩ := result
          intro w member
          rw [streams.of_ok run more]
          exact List.mem_map_of_mem member

theorem streams_pure (a : α) : Streams target (pure a : Cursor β ω ε α) := fun _ _ _ => rfl

theorem streams_fail (e : ε) : Streams target (fail e : Cursor β ω ε α) := by
  intro pos input more w member
  cases member

theorem streams_failIf (condition : Bool) (e : ε) :
    Streams target (failIf condition e : Cursor β ω ε Unit) := by
  cases condition with
  | true => exact streams_fail e
  | false => exact streams_pure ()

theorem streams_write (w : ω) : Streams target (write w : Cursor β ω ε Unit) := fun _ _ _ => rfl

theorem streams_writeAll (ws : List ω) :
    Streams target (writeAll ws : Cursor β ω ε Unit) := fun _ _ _ => rfl

theorem streams_position : Streams target (position : Cursor β ω ε Nat) := fun _ _ _ => rfl

theorem streams_takeAs (count : Nat) (decode : List β → γ) (e : ε) :
    Streams target (takeAs count decode e : Cursor β ω ε γ) := by
  intro pos input more
  by_cases fits : count ≤ input.length
  · have longer : count ≤ (input ++ more).length := by
      rw [List.length_append]
      omega
    simp only [takeAs, if_pos fits, if_pos longer, List.take_append_of_le_length fits,
      List.drop_append_of_le_length fits]
  · simp only [takeAs, if_neg fits]
    intro w member
    cases member

theorem streams_take (count : Nat) (e : ε) : Streams target (take count e : Cursor β ω ε _) :=
  streams_takeAs count id e

theorem streams_takeInto (count : Nat) (decode : List β → γ) (zero : γ) {into : γ → ω}
    (single : ∀ a b, target (into a) = target (into b)) (e : ε) :
    Streams target (takeInto count decode zero into e) := by
  intro pos input more
  by_cases fits : count ≤ input.length
  · have longer : count ≤ (input ++ more).length := by
      rw [List.length_append]
      omega
    simp only [takeInto, if_pos fits, if_pos longer, List.take_append_of_le_length fits,
      List.drop_append_of_le_length fits]
  · simp only [takeInto, if_neg fits]
    intro w member
    rw [List.mem_singleton.mp member]
    split
    · exact List.mem_map.mpr ⟨_, List.mem_singleton_self _, single _ _⟩
    · exact List.mem_map.mpr ⟨_, List.mem_singleton_self _, single _ _⟩

theorem Streams.bind {first : Cursor β ω ε α} {second : α → Cursor β ω ε γ}
    (streamsFirst : Streams target first) (streamsSecond : ∀ a, Streams target (second a)) :
    Streams target (first >>= second) := by
  intro pos input more
  cases run : first pos input with
  | mk writes outcome =>
      cases outcome with
      | error e =>
          rw [bind_of_error run]
          intro w member
          have found := streamsFirst.targets pos input more w (by rw [run]; exact member)
          obtain ⟨again, asked, same⟩ := List.mem_map.mp found
          exact List.mem_map.mpr ⟨again, mem_bind_of_first asked, same⟩
      | ok result =>
          obtain ⟨a, pos', rest⟩ := result
          rw [bind_of_ok run, bind_of_ok (streamsFirst.of_ok run more)]
          have next := streamsSecond a pos' rest more
          revert next
          cases tail : second a pos' rest with
          | mk tailWrites tailOutcome =>
              cases tailOutcome with
              | error e =>
                  intro next w member
                  rw [List.map_append]
                  rcases List.mem_append.mp member with early | late
                  · exact List.mem_append_left _ (List.mem_map_of_mem early)
                  · exact List.mem_append_right _ (next w late)
              | ok result =>
                  intro next
                  simp only at next
                  simp only [next]

theorem streams_repeatFrom {turn : Nat → α → Cursor β ω ε α}
    (streams : ∀ index gathered, Streams target (turn index gathered)) :
    ∀ count index gathered, Streams target (repeatFrom turn count index gathered)
  | 0, _, _ => streams_pure ()
  | count + 1, index, gathered =>
      (streams index gathered).bind fun gathered' =>
        streams_repeatFrom streams count (index + 1) gathered'

end Streaming

/-! ## Soundness for a grammar -/

/-- Every success consumes a phrase of the grammar. -/
def Sound (parser : Cursor β ω ε α) (grammar : List β → α → Prop) : Prop :=
  ∀ pos input writes a pos' rest, parser pos input = ⟨writes, .ok (a, pos', rest)⟩ →
    ∃ phrase, input = phrase ++ rest ∧ pos' = pos + phrase.length ∧ grammar phrase a

theorem sound_pure (a : α) :
    Sound (pure a : Cursor β ω ε α) (fun phrase value => phrase = [] ∧ value = a) := by
  intro pos input writes value pos' rest run
  cases run
  exact ⟨[], rfl, rfl, rfl, rfl⟩

theorem sound_failIf (condition : Bool) (e : ε) :
    Sound (failIf condition e : Cursor β ω ε Unit)
      (fun phrase _ => phrase = [] ∧ condition = false) := by
  intro pos input writes value pos' rest run
  cases condition with
  | true => cases run
  | false =>
      cases run
      exact ⟨[], rfl, rfl, rfl, rfl⟩

theorem sound_write (w : ω) :
    Sound (write w : Cursor β ω ε Unit) (fun phrase _ => phrase = []) := by
  intro pos input writes value pos' rest run
  cases run
  exact ⟨[], rfl, rfl, rfl⟩

theorem sound_writeAll (ws : List ω) :
    Sound (writeAll ws : Cursor β ω ε Unit) (fun phrase _ => phrase = []) := by
  intro pos input writes value pos' rest run
  cases run
  exact ⟨[], rfl, rfl, rfl⟩

theorem sound_position : Sound (position : Cursor β ω ε Nat) (fun phrase _ => phrase = []) := by
  intro pos input writes value pos' rest run
  cases run
  exact ⟨[], rfl, rfl, rfl⟩

theorem sound_takeAs (count : Nat) (decode : List β → γ) (e : ε) :
    Sound (takeAs count decode e : Cursor β ω ε γ)
      (fun phrase value => phrase.length = count ∧ value = decode phrase) := by
  intro pos input writes value pos' rest run
  by_cases fits : count ≤ input.length
  · rw [takeAs, if_pos fits] at run
    cases run
    have size : (input.take count).length = count := by
      rw [List.length_take, Nat.min_eq_left fits]
    exact ⟨input.take count, (List.take_append_drop count input).symm, by rw [size], size, rfl⟩
  · rw [takeAs, if_neg fits] at run
    cases run

theorem sound_take (count : Nat) (e : ε) :
    Sound (take count e : Cursor β ω ε _)
      (fun phrase value => phrase.length = count ∧ value = phrase) :=
  sound_takeAs count id e

theorem sound_takeInto (count : Nat) (decode : List β → γ) (zero : γ) (into : γ → ω) (e : ε) :
    Sound (takeInto count decode zero into e)
      (fun phrase value => phrase.length = count ∧ value = decode phrase) := by
  intro pos input writes value pos' rest run
  by_cases fits : count ≤ input.length
  · rw [takeInto, if_pos fits] at run
    cases run
    have size : (input.take count).length = count := by
      rw [List.length_take, Nat.min_eq_left fits]
    exact ⟨input.take count, (List.take_append_drop count input).symm, by rw [size], size, rfl⟩
  · rw [takeInto, if_neg fits] at run
    cases run

/-- A sequence succeeds through its two parts. -/
theorem ok_of_bind {first : Cursor β ω ε α} {second : α → Cursor β ω ε γ} {pos : Nat}
    {input : List β} {writes : List ω} {result : γ × Nat × List β}
    (run : (first >>= second) pos input = ⟨writes, .ok result⟩) :
    ∃ firstWrites a middle middleRest secondWrites,
      first pos input = ⟨firstWrites, .ok (a, middle, middleRest)⟩ ∧
      second a middle middleRest = ⟨secondWrites, .ok result⟩ ∧
      writes = firstWrites ++ secondWrites := by
  cases start : first pos input with
  | mk firstWrites outcome =>
      cases outcome with
      | error e =>
          rw [bind_of_error start] at run
          cases run
      | ok found =>
          obtain ⟨a, middle, middleRest⟩ := found
          rw [bind_of_ok start, Reading.mk.injEq] at run
          obtain ⟨rfl, ended⟩ := run
          refine ⟨firstWrites, a, middle, middleRest, _, rfl, ?_, rfl⟩
          rw [← ended]

/-- A sequence fails in its first part, or in its second one. -/
theorem error_of_bind {first : Cursor β ω ε α} {second : α → Cursor β ω ε γ} {pos : Nat}
    {input : List β} {writes : List ω} {e : ε}
    (run : (first >>= second) pos input = ⟨writes, .error e⟩) :
    first pos input = ⟨writes, .error e⟩ ∨ ∃ firstWrites a middle middleRest secondWrites,
      first pos input = ⟨firstWrites, .ok (a, middle, middleRest)⟩ ∧
      second a middle middleRest = ⟨secondWrites, .error e⟩ ∧
      writes = firstWrites ++ secondWrites := by
  cases start : first pos input with
  | mk firstWrites outcome =>
      cases outcome with
      | error e' =>
          rw [bind_of_error start] at run
          cases run
          exact .inl rfl
      | ok found =>
          obtain ⟨a, middle, middleRest⟩ := found
          rw [bind_of_ok start, Reading.mk.injEq] at run
          obtain ⟨rfl, failed⟩ := run
          refine .inr ⟨firstWrites, a, middle, middleRest, _, rfl, ?_, rfl⟩
          rw [← failed]

theorem Sound.bind {first : Cursor β ω ε α} {second : α → Cursor β ω ε γ}
    {firstGrammar : List β → α → Prop} {secondGrammar : α → List β → γ → Prop}
    (soundFirst : Sound first firstGrammar)
    (soundSecond : ∀ a, Sound (second a) (secondGrammar a)) :
    Sound (first >>= second) (fun phrase value => ∃ front back a,
      phrase = front ++ back ∧ firstGrammar front a ∧ secondGrammar a back value) := by
  intro pos input writes value pos' rest run
  obtain ⟨_, a, _, _, _, start, tail, _⟩ := ok_of_bind run
  obtain ⟨front, rfl, rfl, inFirst⟩ := soundFirst _ _ _ _ _ _ start
  obtain ⟨back, rfl, rfl, inSecond⟩ := soundSecond a _ _ _ _ _ _ tail
  refine ⟨front ++ back, (List.append_assoc _ _ _).symm, ?_, front, back, a, rfl, inFirst,
    inSecond⟩
  rw [List.length_append, Nat.add_assoc]

theorem Sound.mono {parser : Cursor β ω ε α} {grammar wider : List β → α → Prop}
    (sound : Sound parser grammar) (sub : ∀ phrase a, grammar phrase a → wider phrase a) :
    Sound parser wider := by
  intro pos input writes a pos' rest run
  obtain ⟨phrase, split, moved, member⟩ := sound _ _ _ _ _ _ run
  exact ⟨phrase, split, moved, sub _ _ member⟩

/-- What follows a check only has to be sound when the check passes. -/
theorem sound_failIf_bind {condition : Bool} {e : ε} {parser : Cursor β ω ε α}
    {grammar : List β → α → Prop} (sound : condition = false → Sound parser grammar) :
    Sound (failIf condition e >>= fun _ => parser) grammar := by
  cases condition with
  | true =>
      intro pos input writes value pos' rest run
      cases run
  | false => exact sound rfl

/-! ## Writes -/

/-- All writes the parser asks for have a property. -/
def WritesWithin (holds : ω → Prop) (parser : Cursor β ω ε α) : Prop :=
  ∀ pos input, ∀ w ∈ (parser pos input).writes, holds w

section Writing

variable {holds : ω → Prop}

theorem WritesWithin.of_run {parser : Cursor β ω ε α} (within : WritesWithin holds parser)
    {pos : Nat} {input : List β} {writes : List ω} {outcome : Except ε (α × Nat × List β)}
    (run : parser pos input = ⟨writes, outcome⟩) : ∀ w ∈ writes, holds w := by
  have every := within pos input
  rw [run] at every
  exact every

theorem writesWithin_pure (a : α) : WritesWithin holds (pure a : Cursor β ω ε α) :=
  fun _ _ _ member => nomatch member

theorem writesWithin_failIf (condition : Bool) (e : ε) :
    WritesWithin holds (failIf condition e : Cursor β ω ε Unit) := by
  intro pos input w member
  cases condition <;> cases member

theorem writesWithin_write {w : ω} (valid : holds w) :
    WritesWithin holds (write w : Cursor β ω ε Unit) := by
  intro pos input w' member
  rw [List.mem_singleton.mp member]
  exact valid

theorem writesWithin_writeAll {ws : List ω} (valid : ∀ w ∈ ws, holds w) :
    WritesWithin holds (writeAll ws : Cursor β ω ε Unit) := fun _ _ => valid

theorem writesWithin_position : WritesWithin holds (position : Cursor β ω ε Nat) :=
  fun _ _ _ member => nomatch member

theorem writesWithin_takeAs (count : Nat) (decode : List β → γ) (e : ε) :
    WritesWithin holds (takeAs count decode e : Cursor β ω ε γ) := by
  intro pos input w member
  rw [takeAs] at member
  split at member <;> cases member

theorem writesWithin_take (count : Nat) (e : ε) :
    WritesWithin holds (take count e : Cursor β ω ε _) := writesWithin_takeAs count id e

theorem writesWithin_takeInto (count : Nat) (decode : List β → γ) (zero : γ) {into : γ → ω}
    (valid : ∀ a, holds (into a)) (e : ε) :
    WritesWithin holds (takeInto count decode zero into e) := by
  intro pos input w member
  rw [takeInto] at member
  split at member
  · rw [List.mem_singleton.mp member]
    exact valid _
  · rw [List.mem_singleton.mp member]
    exact valid _

theorem writesWithin_atEnd (e : ε) : WritesWithin holds (atEnd e : Cursor β ω ε Unit) := by
  intro pos input w member
  rw [atEnd] at member
  split at member <;> cases member

theorem WritesWithin.bind {first : Cursor β ω ε α} {second : α → Cursor β ω ε γ}
    (withinFirst : WritesWithin holds first) (withinSecond : ∀ a, WritesWithin holds (second a)) :
    WritesWithin holds (first >>= second) := by
  intro pos input w member
  cases run : first pos input with
  | mk writes outcome =>
      cases outcome with
      | error e =>
          rw [bind_of_error run] at member
          exact withinFirst.of_run run w member
      | ok result =>
          obtain ⟨a, pos', rest⟩ := result
          rw [bind_of_ok run] at member
          rcases List.mem_append.mp member with early | late
          · exact withinFirst.of_run run w early
          · exact withinSecond a pos' rest w late

theorem writesWithin_repeatFrom {turn : Nat → α → Cursor β ω ε α}
    (within : ∀ index gathered, WritesWithin holds (turn index gathered)) :
    ∀ count index gathered, WritesWithin holds (repeatFrom turn count index gathered)
  | 0, _, _ => writesWithin_pure ()
  | count + 1, index, gathered =>
      (within index gathered).bind fun gathered' =>
        writesWithin_repeatFrom within count (index + 1) gathered'

theorem WritesWithin.mono {wider : ω → Prop} {parser : Cursor β ω ε α}
    (within : WritesWithin holds parser) (sub : ∀ w, holds w → wider w) :
    WritesWithin wider parser := fun pos input w member => sub w (within pos input w member)

end Writing

/-! ## Errors -/

/-- Every error the parser ends with has a property. -/
def FailsWithin (holds : ε → Prop) (parser : Cursor β ω ε α) : Prop :=
  ∀ pos input writes e, parser pos input = ⟨writes, .error e⟩ → holds e

section Failing

variable {holds : ε → Prop}

theorem failsWithin_pure (a : α) : FailsWithin holds (pure a : Cursor β ω ε α) :=
  fun _ _ _ _ run => nomatch run

theorem failsWithin_failIf (condition : Bool) {e : ε} (valid : holds e) :
    FailsWithin holds (failIf condition e : Cursor β ω ε Unit) := by
  intro pos input writes e' run
  cases condition with
  | true =>
      cases run
      exact valid
  | false => cases run

theorem failsWithin_write (w : ω) : FailsWithin holds (write w : Cursor β ω ε Unit) :=
  fun _ _ _ _ run => nomatch run

theorem failsWithin_writeAll (ws : List ω) :
    FailsWithin holds (writeAll ws : Cursor β ω ε Unit) := fun _ _ _ _ run => nomatch run

theorem failsWithin_position : FailsWithin holds (position : Cursor β ω ε Nat) :=
  fun _ _ _ _ run => nomatch run

theorem failsWithin_takeAs (count : Nat) (decode : List β → γ) {e : ε} (valid : holds e) :
    FailsWithin holds (takeAs count decode e : Cursor β ω ε γ) := by
  intro pos input writes e' run
  rw [takeAs] at run
  split at run
  · cases run
  · cases run
    exact valid

theorem failsWithin_take (count : Nat) {e : ε} (valid : holds e) :
    FailsWithin holds (take count e : Cursor β ω ε _) := failsWithin_takeAs count id valid

theorem failsWithin_takeInto (count : Nat) (decode : List β → γ) (zero : γ) (into : γ → ω) {e : ε}
    (valid : holds e) : FailsWithin holds (takeInto count decode zero into e) := by
  intro pos input writes e' run
  rw [takeInto] at run
  split at run
  · cases run
  · cases run
    exact valid

theorem FailsWithin.bind {first : Cursor β ω ε α} {second : α → Cursor β ω ε γ}
    (withinFirst : FailsWithin holds first) (withinSecond : ∀ a, FailsWithin holds (second a)) :
    FailsWithin holds (first >>= second) := by
  intro pos input writes e run
  rcases error_of_bind run with early | ⟨_, a, pos', rest, later, _, failed, _⟩
  · exact withinFirst _ _ _ _ early
  · exact withinSecond a pos' rest later e failed

theorem failsWithin_repeatFrom {turn : Nat → α → Cursor β ω ε α}
    (within : ∀ index gathered, FailsWithin holds (turn index gathered)) :
    ∀ count index gathered, FailsWithin holds (repeatFrom turn count index gathered)
  | 0, _, _ => failsWithin_pure ()
  | count + 1, index, gathered =>
      (within index gathered).bind fun gathered' =>
        failsWithin_repeatFrom within count (index + 1) gathered'

end Failing

/-- Every assignment of the parser before it ends with an error has a property. -/
def WritesBeforeError (holds : ω → Prop) (parser : Cursor β ω ε α) : Prop :=
  ∀ pos input writes e, parser pos input = ⟨writes, .error e⟩ → ∀ w ∈ writes, holds w

section BeforeError

variable {holds : ω → Prop}

theorem WritesWithin.beforeError {parser : Cursor β ω ε α} (within : WritesWithin holds parser) :
    WritesBeforeError holds parser := fun _ _ _ _ run => within.of_run run

/-- A parser that never ends with an error. -/
theorem FailsWithin.beforeError {parser : Cursor β ω ε α}
    (never : FailsWithin (fun _ => False) parser) : WritesBeforeError holds parser :=
  fun pos input writes e run => (never pos input writes e run).elim

theorem WritesBeforeError.bind {first : Cursor β ω ε α} {second : α → Cursor β ω ε γ}
    (within : WritesWithin holds first) (before : ∀ a, WritesBeforeError holds (second a)) :
    WritesBeforeError holds (first >>= second) := by
  intro pos input writes e run w member
  rcases error_of_bind run with failed | ⟨firstWrites, a, pos', rest, later, start, failed, rfl⟩
  · exact within.of_run failed w member
  · rcases List.mem_append.mp member with early | late
    · exact within.of_run start w early
    · exact before a pos' rest later e failed w late

end BeforeError

/-! ## Accepting a phrase -/

/-- The parser consumes the phrase, whatever follows, with the given value and,
from each position, the given writes. -/
def Accepts (parser : Cursor β ω ε α) (phrase : List β) (value : α) (log : Nat → List ω) : Prop :=
  ∀ pos rest, parser pos (phrase ++ rest) = ⟨log pos, .ok (value, pos + phrase.length, rest)⟩

theorem accepts_pure (a : α) : Accepts (pure a : Cursor β ω ε α) [] a (fun _ => []) :=
  fun _ _ => rfl

theorem accepts_failIf {condition : Bool} (passes : condition = false) (e : ε) :
    Accepts (failIf condition e : Cursor β ω ε Unit) [] () (fun _ => []) := by
  subst passes
  exact fun _ _ => rfl

theorem accepts_write (w : ω) : Accepts (write w : Cursor β ω ε Unit) [] () (fun _ => [w]) :=
  fun _ _ => rfl

theorem accepts_takeAs {phrase : List β} {count : Nat} (size : phrase.length = count)
    (decode : List β → γ) (e : ε) :
    Accepts (takeAs count decode e : Cursor β ω ε γ) phrase (decode phrase) (fun _ => []) := by
  subst size
  intro pos rest
  have fits : phrase.length ≤ (phrase ++ rest).length := by
    rw [List.length_append]
    exact Nat.le_add_right _ _
  rw [takeAs, if_pos fits, List.take_left, List.drop_left]

theorem accepts_take {phrase : List β} {count : Nat} (size : phrase.length = count) (e : ε) :
    Accepts (take count e : Cursor β ω ε _) phrase phrase (fun _ => []) :=
  accepts_takeAs size id e

theorem accepts_takeInto {phrase : List β} {count : Nat} (size : phrase.length = count)
    (decode : List β → γ) (zero : γ) (into : γ → ω) (e : ε) :
    Accepts (takeInto count decode zero into e) phrase (decode phrase)
      (fun _ => [into (decode phrase)]) := by
  subst size
  intro pos rest
  have fits : phrase.length ≤ (phrase ++ rest).length := by
    rw [List.length_append]
    exact Nat.le_add_right _ _
  rw [takeInto, if_pos fits, List.take_left, List.drop_left]

theorem Accepts.bind {first : Cursor β ω ε α} {second : α → Cursor β ω ε γ}
    {front back : List β} {a : α} {value : γ} {firstLog secondLog : Nat → List ω}
    (acceptsFirst : Accepts first front a firstLog)
    (acceptsSecond : Accepts (second a) back value secondLog) :
    Accepts (first >>= second) (front ++ back) value
      (fun pos => firstLog pos ++ secondLog (pos + front.length)) := by
  intro pos rest
  rw [List.append_assoc, bind_of_ok (acceptsFirst pos (back ++ rest)), acceptsSecond,
    List.length_append, Nat.add_assoc]

/-- A phrase that is accepted, and then an error. -/
theorem Accepts.bind_error {first : Cursor β ω ε α} {second : α → Cursor β ω ε γ}
    {front back : List β} {a : α} {firstLog : Nat → List ω} {pos : Nat} {writes : List ω} {e : ε}
    (accepts : Accepts first front a firstLog)
    (failed : second a (pos + front.length) back = ⟨writes, .error e⟩) :
    (first >>= second) pos (front ++ back) = ⟨firstLog pos ++ writes, .error e⟩ := by
  rw [bind_of_ok (accepts pos back), failed]

theorem accepts_writeAll (ws : List ω) :
    Accepts (writeAll ws : Cursor β ω ε Unit) [] () (fun _ => ws) := fun _ _ => rfl

/-- Another spelling of the phrase and of the log. -/
theorem Accepts.of_eq {parser : Cursor β ω ε α} {phrase phrase' : List β} {value : α}
    {log log' : Nat → List ω} (accepts : Accepts parser phrase' value log')
    (samePhrase : phrase = phrase') (sameLog : ∀ pos, log pos = log' pos) :
    Accepts parser phrase value log := by
  intro pos rest
  rw [samePhrase, sameLog, accepts pos rest]

/-- A parser that asks for the position goes on with the position it has. -/
theorem accepts_position_bind {second : Nat → Cursor β ω ε γ} {phrase : List β} {value : γ}
    {log : Nat → Nat → List ω} (accepts : ∀ here, Accepts (second here) phrase value (log here)) :
    Accepts (position >>= second) phrase value (fun pos => log pos pos) := by
  intro pos rest
  rw [bind_of_ok (position_run pos (phrase ++ rest)), accepts pos pos rest]
  rfl

/-! ## Repetitions of a phrase -/

section Repetition

variable {ι : Type} (phrase : ι → List β)

/-- The log of a repetition: each item is logged at the position where its
phrase begins. -/
def repeatLog (log : Nat → ι → Nat → List ω) : Nat → List ι → Nat → List ω
  | _, [], _ => []
  | index, item :: items, pos =>
      log index item pos ++ repeatLog log (index + 1) items (pos + (phrase item).length)

/-- A repetition accepts the phrases of a list of items, when each turn accepts
the phrase of the next item. -/
theorem accepts_repeatFrom {turn : Nat → α → Cursor β ω ε α} {log : Nat → ι → Nat → List ω}
    {next : Nat → α → ι → α} {holds : Nat → α → List ι → Prop}
    (turns : ∀ index gathered item items, holds index gathered (item :: items) →
      Accepts (turn index gathered) (phrase item) (next index gathered item) (log index item) ∧
        holds (index + 1) (next index gathered item) items) :
    ∀ (items : List ι) (index : Nat) (gathered : α), holds index gathered items →
      Accepts (repeatFrom turn items.length index gathered) (items.flatMap phrase) ()
        (repeatLog phrase log index items)
  | [], _, _, _ => accepts_pure ()
  | item :: items, index, gathered, start => by
      obtain ⟨accepted, follows⟩ := turns index gathered item items start
      exact Accepts.of_eq (Accepts.bind accepted
        (accepts_repeatFrom turns items (index + 1) (next index gathered item) follows))
        List.flatMap_cons (fun _ => rfl)

/-- A repetition consumes the phrases of as many items as it has turns, when each
turn consumes the phrase of an item. -/
theorem sound_repeatFrom {turn : Nat → α → Cursor β ω ε α} {next : Nat → α → ι → α}
    {passes : Nat → α → ι → Prop} {valid : Nat → α → List ι → Prop}
    (turns : ∀ index gathered, Sound (turn index gathered) (fun front gathered' =>
      ∃ item, front = phrase item ∧ gathered' = next index gathered item ∧
        passes index gathered item))
    (empty : ∀ index gathered, valid index gathered [])
    (longer : ∀ index gathered item items, passes index gathered item →
      valid (index + 1) (next index gathered item) items → valid index gathered (item :: items)) :
    ∀ (count index : Nat) (gathered : α), Sound (repeatFrom turn count index gathered)
      (fun whole _ => ∃ items : List ι, items.length = count ∧ whole = items.flatMap phrase ∧
        valid index gathered items)
  | 0, index, gathered => by
      refine (sound_pure ()).mono ?_
      rintro _ _ ⟨rfl, _⟩
      exact ⟨[], rfl, rfl, empty index gathered⟩
  | count + 1, index, gathered => by
      refine ((turns index gathered).bind fun gathered' =>
        sound_repeatFrom turns empty longer count (index + 1) gathered').mono ?_
      rintro _ _ ⟨_, _, _, rfl, ⟨item, rfl, rfl, passed⟩, items, size, rfl, rest⟩
      exact ⟨item :: items, congrArg (· + 1) size, List.flatMap_cons.symm,
        longer _ _ _ _ passed rest⟩

/-- The log of a repetition is made of the logs of its items, each where the
phrases before the item end. -/
theorem mem_repeatLog_iff {log : Nat → ι → Nat → List ω} {w : ω} :
    ∀ {items : List ι} {index pos : Nat}, w ∈ repeatLog phrase log index items pos ↔
      ∃ k item, items[k]? = some item ∧
        w ∈ log (index + k) item (pos + ((items.take k).flatMap phrase).length)
  | [], _, _ => by
      refine iff_of_false List.not_mem_nil ?_
      rintro ⟨_, _, found, _⟩
      cases found
  | head :: items, index, pos => by
      rw [repeatLog, List.mem_append, mem_repeatLog_iff]
      constructor
      · rintro (first | ⟨k, item, found, member⟩)
        · exact ⟨0, head, rfl, first⟩
        · have turn : index + 1 + k = index + (k + 1) := by omega
          refine ⟨k + 1, item, found, ?_⟩
          rw [List.take_succ_cons, List.flatMap_cons, List.length_append, ← turn, ← Nat.add_assoc pos]
          exact member
      · rintro ⟨k, item, found, member⟩
        cases k with
        | zero =>
            cases found
            exact .inl member
        | succ k =>
            have turn : index + 1 + k = index + (k + 1) := by omega
            rw [List.take_succ_cons, List.flatMap_cons, List.length_append, ← turn,
              ← Nat.add_assoc pos] at member
            exact .inr ⟨k, item, found, member⟩

end Repetition

end Cursor

/-! ## Refinement by bodies of C functions -/

open CBody

/-- What a state shows: the position and the rest of the input, the part that
never changes, and the store the writes act on. -/
structure View (σ β κ τ : Type) where
  position : σ → Nat
  rest : σ → List β
  fixed : σ → κ
  store : σ → τ

variable {σ κ τ : Type}

/-- From the state `s` the body ends as the parser does, and its store has
received the parser's writes. -/
def Refines (view : View σ β κ τ) (act : τ → ω → τ) (s : σ) (body : Body σ ε α)
    (parser : Cursor β ω ε α) : Prop :=
  match parser (view.position s) (view.rest s) with
  | ⟨writes, .ok (a, pos, rest)⟩ =>
      ∃ s', body s = .next a s' ∧ view.position s' = pos ∧ view.rest s' = rest ∧
        view.fixed s' = view.fixed s ∧ view.store s' = writes.foldl act (view.store s)
  | ⟨writes, .error e⟩ =>
      ∃ s', body s = .ret e s' ∧ view.store s' = writes.foldl act (view.store s)

namespace Refines

variable {view : View σ β κ τ} {act : τ → ω → τ} {s : σ}

theorem of_ok {body : Body σ ε α} {parser : Cursor β ω ε α} {s' : σ} {a : α} {writes : List ω}
    (went : body s = .next a s')
    (read : parser (view.position s) (view.rest s) =
      ⟨writes, .ok (a, view.position s', view.rest s')⟩)
    (same : view.fixed s' = view.fixed s)
    (stored : view.store s' = writes.foldl act (view.store s)) :
    Refines view act s body parser := by
  rw [Refines, read]
  exact ⟨s', went, rfl, rfl, same, stored⟩

theorem of_error {body : Body σ ε α} {parser : Cursor β ω ε α} {s' : σ} {e : ε} {writes : List ω}
    (ended : body s = .ret e s') (read : parser (view.position s) (view.rest s) = ⟨writes, .error e⟩)
    (stored : view.store s' = writes.foldl act (view.store s)) :
    Refines view act s body parser := by
  rw [Refines, read]
  exact ⟨s', ended, stored⟩

theorem pure (a : α) : Refines view act s (Pure.pure a : Body σ ε α) (Pure.pure a) :=
  ⟨s, rfl, rfl, rfl, rfl, rfl⟩

theorem returnIf (condition : Bool) (e : ε) :
    Refines view act s (Body.returnIf condition e) (Cursor.failIf condition e) := by
  cases condition with
  | true => exact ⟨s, rfl, rfl⟩
  | false => exact ⟨s, rfl, rfl, rfl, rfl, rfl⟩

theorem write {w : ω} {body : Body σ ε Unit} {s' : σ} (went : body s = .next () s')
    (position : view.position s' = view.position s) (rest : view.rest s' = view.rest s)
    (same : view.fixed s' = view.fixed s) (stored : view.store s' = act (view.store s) w) :
    Refines view act s body (Cursor.write w) :=
  ⟨s', went, position, rest, same, stored⟩

/-- What follows a body that goes on, compared from the state that it leaves. -/
theorem of_next {δ : Type} {first : Body σ ε α} {firstParser : Cursor β ω ε δ}
    {second : α → Body σ ε γ} {secondParser : δ → Cursor β ω ε γ} {a : α} {b : δ} {s' : σ}
    {writes : List ω} (went : first s = .next a s')
    (read : firstParser (view.position s) (view.rest s) =
      ⟨writes, .ok (b, view.position s', view.rest s')⟩)
    (same : view.fixed s' = view.fixed s)
    (stored : view.store s' = writes.foldl act (view.store s))
    (next : Refines view act s' (second a) (secondParser b)) :
    Refines view act s (first >>= second) (firstParser >>= secondParser) := by
  rw [Refines, Cursor.bind_of_ok read]
  unfold Refines at next
  cases tail : secondParser b (view.position s') (view.rest s') with
  | mk tailWrites tailOutcome =>
      rw [tail] at next
      cases tailOutcome with
      | error e =>
          obtain ⟨s'', ended, tailStored⟩ := next
          exact ⟨s'', (Body.bind_of_next went _).trans ended, by
            rw [tailStored, stored, List.foldl_append]⟩
      | ok result =>
          obtain ⟨c, pos, rest⟩ := result
          obtain ⟨s'', went', atPos, atRest, same', tailStored⟩ := next
          exact ⟨s'', (Body.bind_of_next went _).trans went', atPos, atRest, same'.trans same, by
            rw [tailStored, stored, List.foldl_append]⟩

/-- **Sequencing.** What follows is compared from the state that the first body
leaves, whose store has received the first parser's writes. -/
theorem bind {first : Body σ ε α} {firstParser : Cursor β ω ε α} {second : α → Body σ ε γ}
    {secondParser : α → Cursor β ω ε γ} (refines : Refines view act s first firstParser)
    (continues : ∀ a s' writes,
      firstParser (view.position s) (view.rest s) =
        ⟨writes, .ok (a, view.position s', view.rest s')⟩ →
      view.fixed s' = view.fixed s → view.store s' = writes.foldl act (view.store s) →
      Refines view act s' (second a) (secondParser a)) :
    Refines view act s (first >>= second) (firstParser >>= secondParser) := by
  unfold Refines at refines
  cases run : firstParser (view.position s) (view.rest s) with
  | mk writes outcome =>
      rw [run] at refines
      cases outcome with
      | error e =>
          obtain ⟨s', ended, stored⟩ := refines
          rw [Refines, Cursor.bind_of_error run]
          exact ⟨s', Body.bind_of_ret ended _, stored⟩
      | ok result =>
          obtain ⟨a, pos, rest⟩ := result
          obtain ⟨s', went, rfl, rfl, same, stored⟩ := refines
          exact of_next went run same stored (continues a s' writes run same stored)

/-- A body that returns nothing can follow a parser that gathers a value for
what comes next. -/
theorem bind_gathering {first : Body σ ε Unit} {firstParser : Cursor β ω ε α}
    {second : Body σ ε γ} {secondParser : α → Cursor β ω ε γ}
    (refines : Refines view act s first (firstParser >>= fun _ => Pure.pure ()))
    (continues : ∀ a s' writes,
      firstParser (view.position s) (view.rest s) =
        ⟨writes, .ok (a, view.position s', view.rest s')⟩ →
      view.fixed s' = view.fixed s → view.store s' = writes.foldl act (view.store s) →
      Refines view act s' second (secondParser a)) :
    Refines view act s (first >>= fun _ => second) (firstParser >>= secondParser) := by
  cases run : firstParser (view.position s) (view.rest s) with
  | mk writes outcome =>
      cases outcome with
      | error e =>
          rw [Refines, Cursor.bind_of_error run] at refines
          obtain ⟨s', ended, stored⟩ := refines
          rw [Refines, Cursor.bind_of_error run]
          exact ⟨s', Body.bind_of_ret ended _, stored⟩
      | ok result =>
          obtain ⟨a, pos, rest⟩ := result
          rw [Refines, Cursor.bind_of_ok run] at refines
          simp only [Cursor.pure_run, List.append_nil] at refines
          obtain ⟨s', went, rfl, rfl, same, stored⟩ := refines
          exact of_next went run same stored (continues a s' writes run same stored)

/-- **Loops.** Turns that follow the turns of a repetition, under an invariant of
what is gathered and the state, follow the repetition. -/
theorem loop (inv : Nat → γ → σ → Prop) {limit : Nat} {turn : Nat → Body σ ε Unit}
    {turnParser : Nat → γ → Cursor β ω ε γ}
    (turns : ∀ index gathered s, index < limit → inv index gathered s →
      Refines view act s (turn index) (turnParser index gathered >>= fun _ => Pure.pure ()))
    (keeps : ∀ index gathered s gathered' s' writes, index < limit → inv index gathered s →
      turnParser index gathered (view.position s) (view.rest s) =
        ⟨writes, .ok (gathered', view.position s', view.rest s')⟩ →
      view.fixed s' = view.fixed s → view.store s' = writes.foldl act (view.store s) →
      inv (index + 1) gathered' s') :
    ∀ (count index : Nat) (gathered : γ) (s : σ), index + count ≤ limit → inv index gathered s →
      Refines view act s (Body.loop turn count index)
        (Cursor.repeatFrom turnParser count index gathered)
  | 0, _, _, _, _, _ => pure ()
  | count + 1, index, gathered, s, bound, holds => by
      refine bind_gathering (turns index gathered s (by omega) holds)
        fun gathered' s' writes run same stored => ?_
      exact loop inv turns keeps count (index + 1) gathered' s' (by omega)
        (keeps index gathered s gathered' s' writes (by omega) holds run same stored)

end Refines

end CursorParsing
