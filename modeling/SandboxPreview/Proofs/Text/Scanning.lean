/-
# Searching by positions

What the search for all matches meets, said by positions. The search looks for the first position at
which the pattern matches, goes on behind that match, and stops when no match is left. A position at
which the pattern fails is passed over, so a match may start inside of what another try has read.

## Main definitions

* `Meets`: the matches that a search meets from a position on;
* `Located`: the matches of a pattern in a text are those that stand at certain positions;
* `outside`: the characters of a text whose positions lie in none of several parts.

## Main results

* `Meets.unique`, `Located.exists_meets`: a search has exactly one outcome;
* `Meets.exists_mem`: a match that is not met itself starts inside one that is;
* `Located.findAll_eq`: the search with the pattern finds the matches that are met;
* `Located.removeAll_eq`: taking out the matches leaves what lies outside of those that are met.
-/
import Mathlib.Data.Nat.Find
import SandboxPreview.Proofs.Text.Replacement

namespace SandboxPreview.Pattern

open Text

variable {α σ : Type} {Stands : σ → Prop} {start stop : σ → Nat} {place : Nat} {s : σ}
  {met met' : List σ}

/-- The matches that a search meets from a position on, each the first from where the last one
ended. -/
inductive Meets (Stands : σ → Prop) (start stop : σ → Nat) : Nat → List σ → Prop
  | done {place : Nat} (none : ∀ s, place ≤ start s → ¬ Stands s) : Meets Stands start stop place []
  | next {place : Nat} {s : σ} {met : List σ} (le : place ≤ start s) (stands : Stands s)
      (first : ∀ other, place ≤ start other → start other < start s → ¬ Stands other)
      (more : Meets Stands start stop (stop s) met) : Meets Stands start stop place (s :: met)

theorem Meets.unique (same : ∀ s s', Stands s → Stands s' → start s = start s' → s = s')
    (h : Meets Stands start stop place met) (h' : Meets Stands start stop place met') :
    met = met' := by
  induction h generalizing met' with
  | done none =>
    cases h' with
    | done => rfl
    | next le stands => exact absurd stands (none _ le)
  | @next place s met le stands first more ih =>
    cases h' with
    | done none => exact absurd stands (none _ le)
    | @next _ s' met' le' stands' first' more' =>
      -- Whichever match starts first was missed by the other search.
      have begins : start s = start s' := by
        rcases Nat.lt_trichotomy (start s) (start s') with less | equal | more
        · exact absurd stands (first' s le less)
        · exact equal
        · exact absurd stands' (first s' le' more)
      obtain rfl := same s s' stands stands' begins
      rw [ih more']

theorem Meets.stands_of_mem (meets : Meets Stands start stop place met) (member : s ∈ met) :
    Stands s := by
  induction meets with
  | done => simp at member
  | next _ stands _ _ ih =>
    rcases List.mem_cons.mp member with rfl | later
    · exact stands
    · exact ih later

theorem Meets.le_start_of_mem (meets : Meets Stands start stop place met)
    (after : ∀ s, Stands s → start s ≤ stop s) (member : s ∈ met) : place ≤ start s := by
  induction meets with
  | done => simp at member
  | @next place first met le stands _ _ ih =>
    rcases List.mem_cons.mp member with rfl | later
    · exact le
    · exact (le.trans (after first stands)).trans (ih later)

/-- What stands behind the position is met, or it starts inside something that is. -/
theorem Meets.exists_mem (meets : Meets Stands start stop place met) (le : place ≤ start s)
    (stands : Stands s) : ∃ s' ∈ met, start s' ≤ start s ∧ start s < stop s' := by
  induction meets with
  | done none => exact absurd stands (none s le)
  | @next place found met _ _ first _ ih =>
    by_cases inside : start s < stop found
    · refine ⟨found, List.mem_cons_self, ?_, inside⟩
      by_contra before
      exact first s le (Nat.lt_of_not_le before) stands
    · obtain ⟨s', member, around⟩ := ih (Nat.le_of_not_lt inside)
      exact ⟨s', List.mem_cons_of_mem _ member, around⟩

/-! ## What lies outside -/

/-- The characters of a text that lie in none of the parts, when the text starts at a position. -/
def outside (start stop : σ → Nat) (parts : List σ) (place : Nat) (text : Text) : Text :=
  ((text.zipIdx place).filter fun c => parts.all fun s => c.2 < start s || stop s ≤ c.2).map
    Prod.fst

section Outside

variable {text : Text} {parts : List σ}

theorem outside_append (start stop : σ → Nat) (parts : List σ) (place : Nat) (text rest : Text) :
    outside start stop parts place (text ++ rest) =
      outside start stop parts place text ++
        outside start stop parts (place + text.length) rest := by
  rw [outside, List.zipIdx_append, List.filter_append, List.map_append, outside, outside]

/-- The parts lie before the text or behind it. -/
theorem outside_eq_self
    (apart : ∀ s ∈ parts, stop s ≤ place ∨ place + text.length ≤ start s) :
    outside start stop parts place text = text := by
  rw [outside, List.filter_eq_self.mpr, List.zipIdx_map_fst]
  rintro ⟨c, i⟩ member
  obtain ⟨le, less, -⟩ := List.mem_zipIdx member
  refine List.all_eq_true.mpr fun s inParts => ?_
  rcases apart s inParts with before | behind
  · simp [before.trans le]
  · simp [less.trans_le behind]

/-- One part holds all of the text. -/
theorem outside_eq_nil (member : s ∈ parts) (le : start s ≤ place)
    (le' : place + text.length ≤ stop s) : outside start stop parts place text = [] := by
  rw [outside, List.map_eq_nil_iff, List.filter_eq_nil_iff]
  rintro ⟨c, i⟩ inText kept
  obtain ⟨after, before, -⟩ := List.mem_zipIdx inText
  have apart := List.all_eq_true.mp kept s member
  simp only [Bool.or_eq_true, decide_eq_true_eq] at apart
  omega

/-- A part before the text takes nothing from it. -/
theorem outside_cons_of_le (le : stop s ≤ place) :
    outside start stop (s :: parts) place text = outside start stop parts place text := by
  rw [outside, outside]
  congr 1
  refine List.filter_congr fun c member => ?_
  simp [le.trans (List.mem_zipIdx member).1]

theorem outside_drop (start stop : σ → Nat) (parts : List σ) (text : Text) {place last : Nat}
    (le : place ≤ last) :
    outside start stop parts place (text.drop place) =
      outside start stop parts place (slice text place last) ++
        outside start stop parts last (text.drop last) := by
  rw [← slice_append_drop text le, outside_append]
  rcases Nat.le_total last text.length with inside | beyond
  · rw [slice, List.length_drop, List.length_take, Nat.min_eq_left inside, Nat.add_sub_cancel' le]
  · rw [List.drop_eq_nil_of_le beyond]
    rfl

end Outside

/-! ## Searching with a pattern -/

/-- The pattern matches in the text where something stands, and makes its value of that. -/
def Located (pattern : Reader α) (text : Text) (Stands : σ → Prop) (start stop : σ → Nat)
    (value : σ → α) : Prop :=
  ∀ place a rest, pattern (text.drop place) = some (a, rest) ↔
    ∃ s, start s = place ∧ Stands s ∧ a = value s ∧ rest = text.drop (stop s)

namespace Located

variable {pattern : Reader α} {text : Text} {value : σ → α}

theorem found (located : Located pattern text Stands start stop value) (stands : Stands s) :
    pattern (text.drop (start s)) = some (value s, text.drop (stop s)) :=
  (located _ _ _).mpr ⟨s, rfl, stands, rfl, rfl⟩

/-- A match ends behind its start, and starts inside the text. -/
theorem start_lt (located : Located pattern text Stands start stop value)
    (consuming : Consuming pattern) (stands : Stands s) :
    start s < stop s ∧ start s < text.length := by
  have shorter := consuming _ _ _ (located.found stands)
  rw [List.length_drop, List.length_drop] at shorter
  omega

theorem exists_meets (located : Located pattern text Stands start stop value)
    (consuming : Consuming pattern) (place : Nat) : ∃ met, Meets Stands start stop place met := by
  -- On what is left behind the position, which gets shorter with every match.
  induction size : text.length - place using Nat.strong_induction_on generalizing place with
  | _ size ih =>
    by_cases some : ∃ begin, ∃ s, start s = begin ∧ place ≤ start s ∧ Stands s
    · classical
      obtain ⟨s, begins, le, stands⟩ := Nat.find_spec some
      obtain ⟨after, inside⟩ := located.start_lt consuming stands
      obtain ⟨met, more⟩ := ih (text.length - stop s) (by omega) (stop s) rfl
      refine ⟨s :: met, .next le stands ?_ more⟩
      intro other le' less stands'
      exact Nat.find_min some (begins ▸ less) ⟨other, rfl, le', stands'⟩
    · exact ⟨[], .done fun s le stands => some ⟨start s, s, rfl, le, stands⟩⟩

/-- The pattern matches nowhere in a slice when nothing that stands starts there. -/
theorem eq_none_of_suffix_slice (located : Located pattern text Stands start stop value)
    {last : Nat} (le : place ≤ last) (none : ∀ s, place ≤ start s → start s < last → ¬ Stands s)
    (tail : Text) (nonempty : tail ≠ []) (isTail : tail <:+ slice text place last) :
    pattern (tail ++ text.drop last) = .none := by
  obtain ⟨other, after, before, position⟩ := exists_drop_of_suffix_slice le nonempty isTail
  rw [position, Option.eq_none_iff_forall_ne_some]
  rintro ⟨a, rest⟩ found
  obtain ⟨s, rfl, stands, -, -⟩ := (located _ _ _).mp found
  exact none s after before stands

/-- The search with the pattern finds what is met. -/
theorem findAll_eq (located : Located pattern text Stands start stop value)
    (consuming : Consuming pattern) (meets : Meets Stands start stop place met) :
    findAll pattern (text.drop place) = met.map value := by
  induction meets with
  | @done place none =>
    rcases Nat.le_total place text.length with inside | outside
    · have split := slice_append_drop text inside
      rw [← split, findAll_append_of_none, List.drop_length]
      · rfl
      · exact located.eq_none_of_suffix_slice inside fun s le _ => none s le
    · rw [List.drop_eq_nil_of_le outside]
      rfl
  | @next place s met le stands first more ih =>
    rw [← slice_append_drop _ le, findAll_append_of_none,
      findAll_of_some consuming (located.found stands), ih]
    · rfl
    · exact located.eq_none_of_suffix_slice le first

/-- What is left without the matches lies outside of everything that is met. -/
theorem removeAll_eq (located : Located pattern text Stands start stop value)
    (consuming : Consuming pattern) (meets : Meets Stands start stop place met) :
    removeAll pattern (text.drop place) = outside start stop met place (text.drop place) := by
  have after (s : σ) (stands : Stands s) : start s ≤ stop s :=
    (located.start_lt consuming stands).1.le
  rw [removeAll]
  induction meets with
  | @done place none =>
    rw [outside_eq_self (by simp)]
    refine replaceAll_eq_self fun tail nonempty isTail => ?_
    obtain ⟨front, split⟩ := isTail
    have begins := drop_of_drop_eq split.symm
    rw [← begins, Option.eq_none_iff_forall_ne_some]
    rintro ⟨a, rest⟩ found
    obtain ⟨s, begin, stands, -, -⟩ := (located _ _ _).mp found
    exact none s (by omega) stands
  | @next place s met le stands first more ih =>
    -- Up to the match nothing is taken, the match is taken whole, and behind it the search goes on.
    have before : outside start stop (s :: met) place (slice text place (start s)) =
        slice text place (start s) := by
      refine outside_eq_self fun other member => Or.inr ?_
      have bound : start s ≤ start other := by
        rcases List.mem_cons.mp member with rfl | later
        · exact le_rfl
        · exact (after s stands).trans (more.le_start_of_mem after later)
      rw [slice, List.length_drop, List.length_take]
      omega
    have taken : outside start stop (s :: met) (start s) (slice text (start s) (stop s)) = [] := by
      refine outside_eq_nil List.mem_cons_self le_rfl ?_
      have := after s stands
      rw [slice, List.length_drop, List.length_take]
      omega
    rw [outside_drop _ _ _ _ le, outside_drop _ _ _ _ (after s stands), before, taken,
      outside_cons_of_le le_rfl, ← ih, ← slice_append_drop text le,
      replaceAll_append_of_none (located.eq_none_of_suffix_slice le first),
      replaceAll_of_some consuming (located.found stands)]

end Located

end SandboxPreview.Pattern
