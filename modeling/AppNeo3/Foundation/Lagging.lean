import AppNeo3.Foundation.Cursor

/-!
# Parsers that fail more often

One cursor parser *lags* behind another when it reads the same, or fails where the
other may go on, having asked for nothing that the other does not ask for
(`Lags`). What the two have gathered need not be equal: it is related, so that a
parser can lag because of the state it was started with.
-/

set_option autoImplicit false

namespace CursorParsing

variable {β ω ε α γ : Type}

namespace Cursor

/-- When the first parser succeeds, the second does with the same writes and a
related value; when the first fails, the second asks for all its writes. -/
def Lags (related : α → α → Prop) (first second : Cursor β ω ε α) : Prop :=
  ∀ pos input,
    match first pos input with
    | ⟨writes, .ok (a, pos', rest)⟩ =>
        ∃ a', second pos input = ⟨writes, .ok (a', pos', rest)⟩ ∧ related a a'
    | ⟨writes, .error _⟩ => ∀ w ∈ writes, w ∈ (second pos input).writes

variable {related : α → α → Prop} {first second : Cursor β ω ε α}

theorem Lags.of_ok (lags : Lags related first second) {pos pos' : Nat} {input rest : List β}
    {writes : List ω} {a : α} (run : first pos input = ⟨writes, .ok (a, pos', rest)⟩) :
    ∃ a', second pos input = ⟨writes, .ok (a', pos', rest)⟩ ∧ related a a' := by
  have step := lags pos input
  rw [run] at step
  exact step

/-- **A lagging parser asks for nothing else.** -/
theorem Lags.writes_subset (lags : Lags related first second) (pos : Nat) (input : List β) :
    ∀ w ∈ (first pos input).writes, w ∈ (second pos input).writes := by
  have step := lags pos input
  cases run : first pos input with
  | mk writes outcome =>
      rw [run] at step
      cases outcome with
      | error e => exact step
      | ok result =>
          obtain ⟨a, pos', rest⟩ := result
          obtain ⟨a', same, _⟩ := step
          intro w member
          rw [same]
          exact member

theorem lags_refl (reflexive : ∀ a, related a a) (parser : Cursor β ω ε α) :
    Lags related parser parser := by
  intro pos input
  cases parser pos input with
  | mk writes outcome =>
      cases outcome with
      | error e => exact fun _ member => member
      | ok result =>
          obtain ⟨a, pos', rest⟩ := result
          exact ⟨a, rfl, reflexive a⟩

theorem lags_pure {a a' : α} (values : related a a') :
    Lags related (pure a : Cursor β ω ε α) (pure a') := by
  intro pos input
  exact ⟨a', rfl, values⟩

/-- A failing parser lags behind every parser. -/
theorem lags_fail (e : ε) (parser : Cursor β ω ε α) :
    Lags related (fail e : Cursor β ω ε α) parser := by
  intro pos input w member
  cases member

/-- A check that fails more often. -/
theorem lags_failIf {condition condition' : Bool} (e : ε)
    (sub : condition' = true → condition = true) :
    Lags Eq (failIf condition e : Cursor β ω ε Unit) (failIf condition' e) := by
  cases condition with
  | true => exact lags_fail e _
  | false =>
      cases condition' with
      | true => exact absurd (sub rfl) Bool.false_ne_true
      | false => exact lags_refl (fun _ => rfl) _

/-- **Sequencing.** What follows may differ by the related values. -/
theorem Lags.bind {relatedAfter : γ → γ → Prop} {next next' : α → Cursor β ω ε γ}
    (lags : Lags related first second)
    (follows : ∀ a a', related a a' → Lags relatedAfter (next a) (next' a')) :
    Lags relatedAfter (first >>= next) (second >>= next') := by
  intro pos input
  cases run : first pos input with
  | mk writes outcome =>
      cases outcome with
      | error e =>
          rw [bind_of_error run]
          intro w member
          exact mem_bind_of_first (lags.writes_subset pos input w (by rw [run]; exact member))
      | ok result =>
          obtain ⟨a, pos', rest⟩ := result
          obtain ⟨a', other, values⟩ := lags.of_ok run
          rw [bind_of_ok run, bind_of_ok other]
          have step := follows a a' values pos' rest
          revert step
          cases next a pos' rest with
          | mk tailWrites tailOutcome =>
              cases tailOutcome with
              | error e =>
                  intro step w member
                  rcases List.mem_append.mp member with early | late
                  · exact List.mem_append_left _ early
                  · exact List.mem_append_right _ (step w late)
              | ok result =>
                  rintro ⟨c', tail, after⟩
                  exact ⟨c', by rw [tail], after⟩

/-- Turns that lag make a repetition that lags, from related starts. -/
theorem lags_repeatFrom {turn turn' : Nat → α → Cursor β ω ε α}
    (turns : ∀ index a a', related a a' → Lags related (turn index a) (turn' index a')) :
    ∀ (count index : Nat) {a a' : α}, related a a' →
      Lags Eq (repeatFrom turn count index a) (repeatFrom turn' count index a')
  | 0, _, _, _, _ => lags_pure rfl
  | count + 1, index, a, a', start =>
      (turns index a a' start).bind fun _ _ values =>
        lags_repeatFrom turns count (index + 1) values

end Cursor

end CursorParsing
