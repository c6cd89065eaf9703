import Mathlib.Data.List.Forall2
import Mathlib.Logic.Relation
import AppNeo3.Foundation.Runs

/-!
# Reading a line of texts page by page

A reader sees one page of one text at a time. The texts stand in a line. Turning
ahead leads to the next page and from the last page to the first page of the next
text; turning back leads to the page before and from the first page to some page of
the text before. The text at a place may be another one at each visit.

Whoever stands at a place has been shown a whole text at every place before it
(`Seen.read_below`), and turning ahead often enough reaches every place
(`reaches_later`). A machine whose steps turn pages is a reader (`Reader`), and in each of
its runs the line has been read up to the place that is seen (`Reader.shown_before`).
-/

set_option autoImplicit false

namespace Pages

variable {τ σ : Type}

/-- What the reader sees. -/
structure View (τ : Type) where
  place : Nat
  text : τ
  page : Nat

inductive Way where
  | ahead
  | back
deriving DecidableEq

/-- A turn between the places 0 and `last`. -/
inductive Turn (size : τ → Nat) (last : Nat) (reopened : Nat → τ → Nat) :
    Way → View τ → View τ → Prop
  | nextPage {place page : Nat} {text : τ} (more : page + 1 < size text) :
      Turn size last reopened .ahead ⟨place, text, page⟩ ⟨place, text, page + 1⟩
  | onward {place page : Nat} {text text' : τ} (read : size text ≤ page + 1)
      (inside : place < last) :
      Turn size last reopened .ahead ⟨place, text, page⟩ ⟨place + 1, text', 0⟩
  | stop {page : Nat} {text : τ} (read : size text ≤ page + 1) :
      Turn size last reopened .ahead ⟨last, text, page⟩ ⟨last, text, page⟩
  | pageBefore {place page : Nat} {text : τ} :
      Turn size last reopened .back ⟨place, text, page + 1⟩ ⟨place, text, page⟩
  | backward {place : Nat} {text text' : τ} :
      Turn size last reopened .back ⟨place + 1, text, 0⟩ ⟨place, text', reopened place text'⟩
  | halt {text : τ} : Turn size last reopened .back ⟨0, text, 0⟩ ⟨0, text, 0⟩

/-- What a reader has seen who has turned some ways, the newest first. -/
inductive Seen (size : τ → Nat) (last : Nat) (reopened : Nat → τ → Nat) :
    List Way → List (View τ) → Prop
  | start (text : τ) : Seen size last reopened [] [⟨0, text, 0⟩]
  | turn {ways : List Way} {older : List (View τ)} {view view' : View τ} {way : Way}
      (seen : Seen size last reopened ways (view :: older))
      (turned : Turn size last reopened way view view') :
      Seen size last reopened (way :: ways) (view' :: view :: older)

/-- All pages of a text have been shown at a place. -/
def Read (size : τ → Nat) (views : List (View τ)) (place : Nat) : Prop :=
  ∃ text, ∀ page < size text, ⟨place, text, page⟩ ∈ views

variable {size : τ → Nat} {last : Nat} {reopened : Nat → τ → Nat} {views : List (View τ)}
  {ways : List Way}

theorem Read.cons {place : Nat} (read : Read size views place) (view : View τ) :
    Read size (view :: views) place := by
  obtain ⟨text, pages⟩ := read
  exact ⟨text, fun page inside => .tail _ (pages page inside)⟩

/-- Every place before the one of the newest view has been read, and so has that place
itself, or its text has been shown up to the page that is seen. -/
def Progress (size : τ → Nat) : List (View τ) → Prop
  | [] => True
  | view :: older =>
      (∀ place < view.place, Read size (view :: older) place) ∧
        (Read size (view :: older) view.place ∨
          ∀ page ≤ view.page, ⟨view.place, view.text, page⟩ ∈ view :: older)

/-- **Every turn keeps the progress.** -/
theorem Progress.turn {way : Way} {view view' : View τ}
    (turned : Turn size last reopened way view view') (progress : Progress size (view :: views)) :
    Progress size (view' :: view :: views) := by
  obtain ⟨below, here⟩ := progress
  cases turned with
  | nextPage more =>
      refine ⟨fun place inside => (below place inside).cons _, here.imp (·.cons _) ?_⟩
      intro shown page inside
      rcases Nat.le_succ_iff.mp inside with earlier | rfl
      · exact .tail _ (shown page earlier)
      · exact .head _
  | @onward place page text text' read inside =>
      -- the text that is left has been shown up to its last page
      have complete : Read size (⟨place, text, page⟩ :: views) place :=
        here.elim id fun shown => ⟨text, fun page inside =>
          shown page (Nat.le_of_lt_succ (Nat.lt_of_lt_of_le inside read))⟩
      constructor
      · intro earlier inside
        rcases Nat.lt_succ_iff_lt_or_eq.mp inside with before | rfl
        · exact (below earlier before).cons _
        · exact complete.cons _
      · right
        intro page first
        cases Nat.le_zero.mp first
        exact .head _
  | stop read =>
      refine ⟨fun place inside => (below place inside).cons _, here.imp (·.cons _) ?_⟩
      intro shown page inside
      exact .tail _ (shown page inside)
  | pageBefore =>
      refine ⟨fun place inside => (below place inside).cons _, here.imp (·.cons _) ?_⟩
      intro shown page inside
      exact .tail _ (shown page (Nat.le_succ_of_le inside))
  | @backward place text text' =>
      refine ⟨fun earlier inside => (below earlier (Nat.lt_succ_of_lt inside)).cons _, .inl ?_⟩
      exact (below place (Nat.lt_succ_self place)).cons _
  | halt =>
      refine ⟨fun place inside => (below place inside).cons _, here.imp (·.cons _) ?_⟩
      intro shown page inside
      exact .tail _ (shown page inside)

theorem Seen.progress (seen : Seen size last reopened ways views) : Progress size views := by
  induction seen with
  | start text =>
      refine ⟨fun place before => absurd before (Nat.not_lt_zero place), .inr ?_⟩
      intro page first
      cases Nat.le_zero.mp first
      exact .head _
  | turn _ turned ih => exact ih.turn turned

/-- **Whoever stands at a place has read every place before it.** -/
theorem Seen.read_below {view : View τ} (seen : Seen size last reopened ways (view :: views)) :
    ∀ place < view.place, Read size (view :: views) place :=
  seen.progress.1

/-! ## Turning ahead -/

variable {step : σ → σ → Prop} {sees : σ → View τ → Prop}

/-- The last page of the text that is seen can be reached. -/
theorem reaches_lastPage
    (ahead : ∀ s view, sees s view → ∃ s' view', step s s' ∧ sees s' view' ∧
      Turn size last reopened .ahead view view') {place : Nat} {text : τ} :
    ∀ (left : Nat) {s : σ} {page : Nat}, size text ≤ page + 1 + left → sees s ⟨place, text, page⟩ →
      ∃ s' page', Relation.ReflTransGen step s s' ∧ sees s' ⟨place, text, page'⟩ ∧
        size text ≤ page' + 1
  | 0, s, page, near, seen => ⟨s, page, .refl, seen, near⟩
  | left + 1, s, page, near, seen => by
      by_cases read : size text ≤ page + 1
      · exact ⟨s, page, .refl, seen, read⟩
      · obtain ⟨s', view', moved, seen', turned⟩ := ahead s _ seen
        cases turned with
        | nextPage more =>
            obtain ⟨s'', page', moves, seen'', read'⟩ :=
              reaches_lastPage ahead left (by omega) seen'
            exact ⟨s'', page', .head moved moves, seen'', read'⟩
        | onward read' => exact absurd read' read
        | stop read' => exact absurd read' read

/-- **Turning ahead reaches every later place.** -/
theorem reaches_later
    (ahead : ∀ s view, sees s view → ∃ s' view', step s s' ∧ sees s' view' ∧
      Turn size last reopened .ahead view view') :
    ∀ (distance : Nat) {s : σ} {view : View τ}, sees s view → view.place + distance ≤ last →
      ∃ s' view', Relation.ReflTransGen step s s' ∧ sees s' view' ∧
        view'.place = view.place + distance
  | 0, s, view, seen, _ => ⟨s, view, .refl, seen, rfl⟩
  | distance + 1, s, ⟨place, text, page⟩, seen, inside => by
      obtain ⟨s', page', moves, seen', read⟩ :=
        reaches_lastPage ahead (size text) (by omega) seen
      obtain ⟨s'', view', moved, seen'', turned⟩ := ahead s' _ seen'
      simp only at inside
      cases turned with
      | nextPage more => exact absurd read (Nat.not_le.mpr more)
      | stop _ => omega
      | onward _ _ =>
          obtain ⟨s₃, view₃, moves', seen₃, there⟩ :=
            reaches_later ahead distance seen'' (by simp only; omega)
          refine ⟨s₃, view₃, (moves.tail moved).trans moves', seen₃, ?_⟩
          simp only at there ⊢
          omega

/-- **Turning back reaches every earlier place.** -/
theorem reaches_earlier
    (back : ∀ s view, sees s view → ∃ s' view', step s s' ∧ sees s' view' ∧
      Turn size last reopened .back view view') :
    ∀ (distance page : Nat) {s : σ} {place : Nat} {text : τ},
      sees s ⟨place + distance, text, page⟩ →
      ∃ s' view', Relation.ReflTransGen step s s' ∧ sees s' view' ∧ view'.place = place
  | 0, page, s, place, text, seen => ⟨s, _, .refl, seen, rfl⟩
  | distance + 1, 0, s, place, text, seen => by
      obtain ⟨s', view', moved, seen', turned⟩ := back s _ seen
      cases turned with
      | backward =>
          obtain ⟨s'', view'', moves, seen'', there⟩ := reaches_earlier back distance _ seen'
          exact ⟨s'', view'', .head moved moves, seen'', there⟩
  | distance + 1, page + 1, s, place, text, seen => by
      obtain ⟨s', view', moved, seen', turned⟩ := back s _ seen
      cases turned with
      | pageBefore =>
          obtain ⟨s'', view'', moves, seen'', there⟩ :=
            reaches_earlier back (distance + 1) page seen'
          exact ⟨s'', view'', .head moved moves, seen'', there⟩

/-- Whatever is on the right of two related lists is related to something on the left. -/
theorem mem_left_of_forall₂ {α β : Type} {related : α → β → Prop} {left : List α} {right : List β}
    (all : List.Forall₂ related left right) {item : β} (member : item ∈ right) :
    ∃ other ∈ left, related other item := by
  induction all with
  | nil => cases member
  | cons here _ ih =>
      rcases List.mem_cons.mp member with rfl | later
      · exact ⟨_, .head _, here⟩
      · obtain ⟨other, inside, found⟩ := ih later
        exact ⟨other, .tail _ inside, found⟩

/-! ## Machines that are readers -/

section Reader

open Runs

variable {ε ω : Type}

/-- The states of a machine see the line from its first place on, and every event turns a
page its way. -/
structure Reader (machine : Machine σ ε ω) (size : τ → Nat) (last : Nat) (reopened : Nat → τ → Nat)
    (sees : σ → View τ → Prop) (way : ε → Way) : Prop where
  starts : ∀ s, machine.starts s → ∃ text, sees s ⟨0, text, 0⟩
  turns : ∀ s view event s' output, sees s view → machine.step s event = some (s', output) →
    ∃ view', sees s' view' ∧ Turn size last reopened (way event) view view'

variable {machine : Machine σ ε ω} {trace : List (Entry σ ε ω)} {s : σ} {way : ε → Way}

/-- Steps of a machine lead on from a run. -/
theorem exists_run_of_steps {s' : σ}
    (steps : ∀ s s', step s s' → ∃ event output, machine.step s event = some (s', output))
    (run : Run machine trace s) (moves : Relation.ReflTransGen step s s') :
    ∃ trace', Run machine trace' s' := by
  induction moves with
  | refl => exact ⟨trace, run⟩
  | tail _ stepped ih =>
      obtain ⟨trace', run⟩ := ih
      obtain ⟨event, output, moved⟩ := steps _ _ stepped
      exact ⟨_, run.step moved⟩

/-- **Every run of a reader reads the line**, turning the ways of its events. -/
theorem Reader.seen (reader : Reader machine size last reopened sees way)
    (run : Run machine trace s) : ∃ view older,
      Seen size last reopened (trace.map fun entry => way entry.event) (view :: older) ∧
      List.Forall₂ sees (visited trace s) (view :: older) := by
  induction run with
  | start starts =>
      obtain ⟨text, first⟩ := reader.starts _ starts
      exact ⟨_, [], .start text, .cons first .nil⟩
  | step _ moved ih =>
      obtain ⟨view, older, seen, views⟩ := ih
      cases views with
      | cons here earlier =>
          obtain ⟨view', sees', turned⟩ := reader.turns _ _ _ _ _ here moved
          exact ⟨view', view :: older, .turn seen turned, .cons sees' (.cons here earlier)⟩

/-- **Every place before the one that is seen has been shown whole.** -/
theorem shown_before {view : View τ} {older : List (View τ)}
    (seen : Seen size last reopened ways (view :: older))
    (views : List.Forall₂ sees (visited trace s) (view :: older)) {k : Nat}
    (before : k < view.place) :
    ∃ text, ∀ page < size text, ∃ s' ∈ visited trace s, sees s' ⟨k, text, page⟩ := by
  obtain ⟨text, pages⟩ := seen.read_below k before
  exact ⟨text, fun page inside => mem_left_of_forall₂ views (pages page inside)⟩

end Reader

end Pages
