/-
# Occurrences of words

Where a word stands in a text. `cut?` reads the text from its start and stops at the first place
where the word stands; this module says so in terms of what precedes and follows the word, and in
terms of positions.

## Main definitions

* `slice`: the part of a text between two positions;
* `FirstFrom`: the first position at which a word stands, from a given one on.

## Main results

* `cut?_eq_some_iff`, `cut?_eq_none_iff`: what cutting a text around a word finds;
* `cut?_drop_eq_some_iff`: the same by positions.
-/
import Mathlib.Data.List.Infix
import SandboxPreview.Text.Basic

namespace SandboxPreview.Text

variable {word text before rest : Text}

theorem after?_eq_some_iff : after? word text = some rest ↔ text = word ++ rest := by
  fun_induction after? word text with
  | case1 text => simp [eq_comm]
  | case2 w word => simp
  | case3 word c text ih => simpa using ih
  | case4 w word c text different => simp [Ne.symm different]

theorem after?_eq_none_iff : after? word text = none ↔ ¬ word <+: text := by
  rw [Option.eq_none_iff_forall_ne_some]
  constructor
  · rintro missing ⟨rest, rfl⟩
    exact missing rest (after?_eq_some_iff.mpr rfl)
  · intro missing rest found
    exact missing ⟨rest, (after?_eq_some_iff.mp found).symm⟩

@[simp] theorem after?_append : after? word (word ++ rest) = some rest :=
  after?_eq_some_iff.mpr rfl

theorem contains_iff : contains word text = true ↔ word <:+: text := by
  induction text with
  | nil => simp [contains, List.infix_nil, List.isEmpty_iff]
  | cons c text ih => simp [contains, ih, List.infix_cons_iff]

/-- A word that does not hold a character stands before it or not at all. -/
theorem prefix_append_cons_iff {c : Char} (absent : c ∉ word) :
    word <+: before ++ c :: rest ↔ word <+: before := by
  constructor
  · intro stands
    rcases List.prefix_or_prefix_of_prefix stands (List.prefix_append before (c :: rest)) with
      short | long
    · exact short
    · obtain ⟨more, rfl⟩ := long
      cases more with
      | nil => simp
      | cons d more =>
        rw [List.prefix_append_right_inj, List.cons_prefix_cons] at stands
        exact absurd (by simp [stands.1]) absent
  · exact fun stands => stands.trans (List.prefix_append _ _)

/-- A word that does not hold a character ends behind it or not at all. -/
theorem suffix_append_cons_iff {c : Char} (absent : c ∉ word) :
    word <:+ before ++ c :: rest ↔ word <:+ rest := by
  rw [← List.reverse_prefix, ← List.reverse_prefix, List.reverse_append, List.reverse_cons,
    List.append_assoc, List.singleton_append, prefix_append_cons_iff (by simpa using absent)]

/-- What follows a word that does not hold a character goes on over it. -/
theorem after?_append_cons {c : Char} (absent : c ∉ word) (text rest : Text) :
    after? word (text ++ c :: rest) = (after? word text).map (· ++ c :: rest) := by
  cases found : after? word text with
  | some behind =>
    rw [after?_eq_some_iff.mp found, List.append_assoc, after?_append]
    rfl
  | none =>
    rw [after?_eq_none_iff.mpr]
    · rfl
    · rw [prefix_append_cons_iff absent]
      exact after?_eq_none_iff.mp found

theorem dropEnding_append (word text : Text) : dropEnding word (text ++ word) = text := by
  simp [dropEnding]

theorem dropEnding_isPrefix (word text : Text) : dropEnding word text <+: text := by
  rw [dropEnding]
  split
  case h_1 before found =>
    rw [after?_eq_some_iff] at found
    rw [← List.reverse_suffix, List.reverse_reverse, found]
    exact List.suffix_append _ _
  case h_2 => exact List.prefix_rfl

/-- A word that does not hold a character stands before it or after it. -/
theorem infix_append_cons_iff {c : Char} (absent : c ∉ word) :
    word <:+: before ++ c :: rest ↔ word <:+: before ∨ word <:+: rest := by
  induction before with
  | nil =>
    rw [List.nil_append, List.infix_cons_iff, ← List.nil_append (c :: rest),
      prefix_append_cons_iff absent]
    simp only [List.prefix_nil, List.infix_nil]
  | cons d before ih =>
    rw [List.cons_append, List.infix_cons_iff, ih, ← List.cons_append,
      prefix_append_cons_iff absent, List.infix_cons_iff, or_assoc]

/-- A word that does not hold a character and starts before it at the latest stands in the text
before it. -/
theorem infix_of_prefix_suffix_append {c : Char} {tail : Text} (absent : c ∉ word)
    (nonempty : tail ≠ []) (isTail : tail <:+ before ++ [c]) (stands : word <+: tail ++ rest) :
    word <:+: before := by
  obtain ⟨front, hfront⟩ := isTail
  obtain ⟨init, last, rfl⟩ := (List.eq_nil_or_concat tail).resolve_left nonempty
  rw [List.concat_eq_append, ← List.append_assoc] at hfront
  obtain ⟨hinit, hlast⟩ := List.append_inj' hfront rfl
  obtain rfl : last = c := by simpa using hlast
  rw [List.concat_eq_append, List.append_assoc, List.singleton_append,
    prefix_append_cons_iff absent] at stands
  exact stands.isInfix.trans ⟨front, [], by simpa using hinit⟩

/-- A word stands behind a text that does not hold its first character. -/
theorem infix_of_infix_append {c : Char} (absent : c ∉ before)
    (stands : c :: word <:+: before ++ text) : c :: word <:+: text := by
  induction before with
  | nil => exact stands
  | cons d before ih =>
    obtain ⟨different, absent'⟩ : c ≠ d ∧ c ∉ before := by simpa using absent
    rw [List.cons_append, List.infix_cons_iff] at stands
    rcases stands with here | later
    · exact absurd (List.cons_prefix_cons.mp here).1 different
    · exact ih absent' later

/-- A word stands before a text that does not hold its last character. -/
theorem infix_of_infix_append_last {c : Char} {back : Text} (absent : c ∉ back)
    (stands : word ++ [c] <:+: text ++ back) : word ++ [c] <:+: text := by
  rw [← List.reverse_infix, List.reverse_append] at stands ⊢
  rw [List.reverse_append] at stands
  exact infix_of_infix_append (by simpa using absent) stands

/-- An end of a joined text is an end of the second part, or it starts inside the first. -/
theorem suffix_append_cases {first second tail : Text} (isTail : tail <:+ first ++ second) :
    tail <:+ second ∨ ∃ start, start ≠ [] ∧ start <:+ first ∧ tail = start ++ second := by
  obtain ⟨front, same⟩ := isTail
  rcases List.append_eq_append_iff.mp same with ⟨start, rfl, rfl⟩ | ⟨more, -, rfl⟩
  · rcases eq_or_ne start [] with rfl | nonempty
    · exact Or.inl (by simp)
    · exact Or.inr ⟨start, nonempty, List.suffix_append _ _, rfl⟩
  · exact Or.inl (List.suffix_append _ _)

/-- A word in a joined text starts inside the first part, or it stands in the second. -/
theorem infix_append_cases {first second : Text} (stands : word <:+: first ++ second) :
    word <:+: second ∨ ∃ start, start ≠ [] ∧ start <:+ first ∧ word <+: start ++ second := by
  obtain ⟨tail, starts, isTail⟩ := List.infix_iff_prefix_suffix.mp stands
  rcases suffix_append_cases isTail with behind | ⟨start, nonempty, inside, rfl⟩
  · exact Or.inl (starts.isInfix.trans behind.isInfix)
  · exact Or.inr ⟨start, nonempty, inside, starts⟩

/-- A word in a text that is put together from parts starts inside one of them. -/
theorem exists_of_infix_flatMap {σ : Type} {parts : List σ} {source : σ → Text}
    (nonempty : word ≠ []) (stands : word <:+: parts.flatMap source) :
    ∃ part ∈ parts, ∃ tail rest, tail ≠ [] ∧ tail <:+ source part ∧ word <+: tail ++ rest := by
  induction parts with
  | nil => exact absurd (List.infix_nil.mp stands) nonempty
  | cons part parts ih =>
    rw [List.flatMap_cons] at stands
    rcases infix_append_cases stands with later | ⟨tail, someTail, isTail, here⟩
    · obtain ⟨other, member, starts⟩ := ih later
      exact ⟨other, List.mem_cons_of_mem part member, starts⟩
    · exact ⟨part, List.mem_cons_self, tail, _, someTail, isTail, here⟩

/-- What stands before a character and behind it, when it is the first of its kind. -/
theorem append_cons_inj {c : Char} {before' rest' : Text} (absent : c ∉ before)
    (absent' : c ∉ before') (same : before ++ c :: rest = before' ++ c :: rest') :
    before = before' ∧ rest = rest' := by
  rcases List.append_eq_append_iff.mp same with ⟨more, rfl, behind⟩ | ⟨more, rfl, behind⟩
  · cases more with
    | nil => exact ⟨by simp, (List.cons.inj behind).2⟩
    | cons d more => exact absurd (by simp [(List.cons.inj behind).1]) absent'
  · cases more with
    | nil => exact ⟨by simp, (List.cons.inj behind).2.symm⟩
    | cons d more => exact absurd (by simp [(List.cons.inj behind).1]) absent

/-- A word before a mark ends what stands before the first mark, or it stands before a later one. -/
theorem infix_mark_append_cons_iff {mark : Char} (absent : mark ∉ word) (absent' : mark ∉ before) :
    word ++ [mark] <:+: before ++ mark :: rest ↔ word <:+ before ∨ word ++ [mark] <:+: rest := by
  constructor
  · rintro ⟨front, back, same⟩
    have split : (front ++ word) ++ mark :: back = before ++ mark :: rest := by simpa using same
    by_cases later : mark ∈ front
    · obtain ⟨first, front, rfl, absent''⟩ := List.eq_append_cons_of_mem later
      have whole : first ++ mark :: (front ++ (word ++ [mark]) ++ back) =
          before ++ mark :: rest := by simpa using split
      obtain ⟨-, rfl⟩ := append_cons_inj absent'' absent' whole
      exact Or.inr (List.infix_append _ _ _)
    · obtain ⟨rfl, -⟩ := append_cons_inj (by simp [later, absent]) absent' split
      exact Or.inl (List.suffix_append _ _)
  · rintro (⟨front, rfl⟩ | stands)
    · exact ⟨front, rest, by simp⟩
    · exact stands.trans ((List.suffix_cons _ _).trans (List.suffix_append _ _)).isInfix

/-- A word that holds a character at its end only does not reach over it. -/
theorem prefix_of_append_eq {last : Char} {front back : Text}
    (same : word ++ rest = front ++ [last] ++ back) (ends : last ∉ word.dropLast) :
    word <+: front ++ [last] := by
  rcases List.append_eq_append_iff.mp same with ⟨more, inside, -⟩ | ⟨more, rfl, -⟩
  · exact ⟨more, inside.symm⟩
  · rcases List.eq_nil_or_concat more with rfl | ⟨init, d, rfl⟩
    · simp
    · refine absurd ?_ ends
      rw [List.concat_eq_append, ← List.append_assoc, List.dropLast_concat]
      simp

/-- Two parts of a text stand one before the other when neither holds the other and neither ends
inside the other: the first character of the one stands in the other at its start only, and the
last one at its end only. -/
theorem apart_of_append_eq {first last : Char} {middle front back : Text}
    (same : front ++ (first :: middle ++ [last] ++ back) = before ++ (word ++ rest))
    (starts : first ∉ word.tail) (ends : last ∉ word.dropLast)
    (absent : ¬ word <:+: first :: middle ++ [last]) :
    (∃ more, front = before ++ word ++ more) ∨
      ∃ more, before = front ++ (first :: middle ++ [last]) ++ more := by
  rcases List.append_eq_append_iff.mp same with ⟨gap, rfl, inner⟩ | ⟨gap, rfl, inner⟩
  · rcases List.append_eq_append_iff.mp inner with ⟨more, rfl, -⟩ | ⟨more, part, behind⟩
    · exact Or.inr ⟨more, by simp⟩
    · rcases List.eq_nil_or_concat more with rfl | ⟨init, d, rfl⟩
      · exact Or.inr ⟨[], by simp [part]⟩
      · -- The word starts inside the part, so it ends there too.
        rw [List.concat_eq_append] at part behind
        rw [← List.append_assoc] at part
        obtain ⟨-, hlast⟩ := List.append_inj' part rfl
        obtain rfl : last = d := by simpa using hlast
        have inside := prefix_of_append_eq behind ends
        rw [part, List.append_assoc] at absent
        exact absurd (inside.isInfix.trans (List.suffix_append gap _).isInfix) absent
  · rcases List.append_eq_append_iff.mp inner with ⟨more, rfl, -⟩ | ⟨more, rfl, part⟩
    · exact Or.inl ⟨more, by simp⟩
    · cases more with
      | nil => exact Or.inl ⟨[], by simp⟩
      | cons d more =>
        obtain rfl : first = d := (List.cons.inj part).1
        cases gap with
        | nil =>
          -- The word and the part start together.
          have inside : first :: more <+: first :: middle ++ [last] :=
            prefix_of_append_eq part.symm ends
          exact absurd inside.isInfix absent
        | cons d gap => exact absurd (by simp) starts

/-! ## Cutting a text around a word -/

/-- The cut is around an occurrence, and the word stands nowhere earlier. -/
theorem cut?_eq_some_iff :
    cut? word text = some (before, rest) ↔
      text = before ++ word ++ rest ∧
        ∀ tail, tail ≠ [] → tail <:+ before → ¬ word <+: tail ++ (word ++ rest) := by
  induction text generalizing before with
  | nil =>
    rw [cut?]
    constructor
    · intro found
      obtain ⟨rest', hrest, same⟩ := Option.map_eq_some_iff.mp found
      obtain ⟨rfl, rfl⟩ := Prod.mk.inj same
      refine ⟨by simpa using after?_eq_some_iff.mp hrest, ?_⟩
      rintro tail nonempty isTail
      exact absurd (List.suffix_nil.mp isTail) nonempty
    · rintro ⟨empty, -⟩
      obtain ⟨rfl, rfl, rfl⟩ : before = [] ∧ word = [] ∧ rest = [] := by simpa using empty.symm
      rfl
  | cons c text ih =>
    rw [cut?]
    cases here : after? word (c :: text) with
    | some rest' =>
      have whole := after?_eq_some_iff.mp here
      simp only [Option.some.injEq, Prod.mk.injEq]
      constructor
      · rintro ⟨rfl, rfl⟩
        refine ⟨by simpa using whole, ?_⟩
        rintro tail nonempty isTail
        exact absurd (List.suffix_nil.mp isTail) nonempty
      · rintro ⟨split, first⟩
        rcases List.eq_nil_or_concat before with rfl | ⟨init, last, rfl⟩
        · refine ⟨rfl, ?_⟩
          rw [whole, List.nil_append] at split
          exact List.append_cancel_left split
        · refine absurd ?_ (first _ (by simp) List.suffix_rfl)
          rw [← List.append_assoc, ← split, whole]
          exact List.prefix_append _ _
    | none =>
      -- The word does not stand here, so a suffix that starts with it lies further on.
      have missing := after?_eq_none_iff.mp here
      simp only [Option.map_eq_some_iff, Prod.mk.injEq, Prod.exists]
      constructor
      · rintro ⟨before', rest', found, rfl, rfl⟩
        obtain ⟨split, first⟩ := ih.mp found
        refine ⟨by simp [split], ?_⟩
        intro tail nonempty isTail stands
        rcases List.suffix_cons_iff.mp isTail with rfl | inner
        · exact missing (by simpa [split] using stands)
        · exact first tail nonempty inner stands
      · rintro ⟨split, first⟩
        cases before with
        | nil => exact absurd ⟨rest, by simpa using split.symm⟩ missing
        | cons d before =>
          obtain ⟨rfl, inner⟩ : c = d ∧ text = before ++ word ++ rest := by simpa using split
          refine ⟨before, rest, ih.mpr ⟨inner, ?_⟩, rfl, rfl⟩
          exact fun tail nonempty isTail =>
            first tail nonempty (isTail.trans (List.suffix_cons _ _))

theorem cut?_eq_none_iff : cut? word text = none ↔ ¬ word <:+: text := by
  induction text with
  | nil => simp [cut?, after?_eq_none_iff, List.infix_nil]
  | cons c text ih =>
    rw [cut?]
    cases here : after? word (c :: text) with
    | some rest =>
      have stands : word <+: c :: text := ⟨rest, (after?_eq_some_iff.mp here).symm⟩
      simp [List.infix_cons_iff, stands]
    | none => simp [List.infix_cons_iff, after?_eq_none_iff.mp here, ih]

theorem eq_append_of_cut? (found : cut? word text = some (before, rest)) :
    text = before ++ word ++ rest :=
  (cut?_eq_some_iff.mp found).1

/-- No other occurrence is further left. -/
theorem length_le_of_cut? (found : cut? word text = some (before, rest)) {before' rest' : Text}
    (other : text = before' ++ word ++ rest') : before.length ≤ before'.length := by
  obtain ⟨split, first⟩ := cut?_eq_some_iff.mp found
  by_contra longer
  have same : before' ++ (word ++ rest') = before ++ (word ++ rest) := by
    rw [← List.append_assoc, ← other, split, List.append_assoc]
  -- The part before the cut would go on behind the other occurrence, so the word would stand in it.
  obtain ⟨tail, rfl, remaining⟩ : ∃ tail, before = before' ++ tail ∧
      word ++ rest' = tail ++ (word ++ rest) := by
    rcases List.append_eq_append_iff.mp same with ⟨tail, rfl, h⟩ | ⟨tail, rfl, h⟩
    · exact ⟨tail, rfl, h⟩
    · simp at longer
  refine first tail ?_ (List.suffix_append _ _) (remaining ▸ List.prefix_append _ _)
  rintro rfl
  simp at longer

/-- The part before the cut is where every other part before an occurrence starts. -/
theorem prefix_of_cut? (found : cut? word text = some (before, rest)) {before' rest' : Text}
    (other : text = before' ++ word ++ rest') : before <+: before' := by
  have inText : before <+: text := by
    rw [eq_append_of_cut? found, List.append_assoc]
    exact List.prefix_append _ _
  have inText' : before' <+: text := by
    rw [other, List.append_assoc]
    exact List.prefix_append _ _
  exact List.prefix_of_prefix_length_le inText inText' (length_le_of_cut? found other)

/-- The part behind the cut is where every other part behind an occurrence ends. -/
theorem suffix_of_cut? (found : cut? word text = some (before, rest)) {before' rest' : Text}
    (other : text = before' ++ word ++ rest') : rest' <:+ rest := by
  have inText : rest <:+ text := ⟨before ++ word, (eq_append_of_cut? found).symm⟩
  have inText' : rest' <:+ text := ⟨before' ++ word, other.symm⟩
  refine List.suffix_of_suffix_length_le inText' inText ?_
  have shorter := length_le_of_cut? found other
  have lengths := congrArg List.length ((eq_append_of_cut? found).symm.trans other)
  simp only [List.length_append] at lengths
  omega

/-- The part before the cut does not hold the word. -/
theorem not_infix_of_cut? (found : cut? word text = some (before, rest)) (nonempty : word ≠ []) :
    ¬ word <:+: before := by
  rintro ⟨s, t, rfl⟩
  obtain ⟨-, first⟩ := cut?_eq_some_iff.mp found
  refine first (word ++ t) (by simp [nonempty]) ⟨s, by simp⟩ ⟨t ++ (word ++ rest), by simp⟩

/-- The first occurrence does not depend on what follows it. -/
theorem cut?_append (found : cut? word text = some (before, rest)) (more : Text) :
    cut? word (text ++ more) = some (before, rest ++ more) := by
  obtain ⟨split, first⟩ := cut?_eq_some_iff.mp found
  refine cut?_eq_some_iff.mpr ⟨by simp [split], fun tail nonempty isTail stands => ?_⟩
  refine first tail nonempty isTail (List.prefix_of_prefix_length_le stands ⟨more, ?_⟩ ?_)
  · simp
  · simp only [List.length_append]
    omega

/-- A text in which no occurrence starts belongs to the part before the cut. -/
theorem cut?_append_of_missing
    (missing : ∀ tail, tail ≠ [] → tail <:+ before → ¬ word <+: tail ++ rest) :
    cut? word (before ++ rest) = (cut? word rest).map fun cut => (before ++ cut.1, cut.2) := by
  induction before with
  | nil => simp
  | cons c before ih =>
    have here : after? word (c :: (before ++ rest)) = none :=
      after?_eq_none_iff.mpr (missing (c :: before) (by simp) List.suffix_rfl)
    have later := ih fun tail nonempty isTail =>
      missing tail nonempty (isTail.trans (List.suffix_cons c before))
    rw [List.cons_append, cut?, here, later]
    simp [Function.comp_def]

/-- Behind a character that the word does not hold, the first occurrence is the next one. -/
theorem cut?_append_cons {c : Char} (absent : c ∉ word) (missing : ¬ word <:+: before) :
    cut? word (before ++ c :: (word ++ rest)) = some (before ++ [c], rest) := by
  refine cut?_eq_some_iff.mpr ⟨by simp, ?_⟩
  intro tail nonempty isTail stands
  exact missing (infix_of_prefix_suffix_append absent nonempty isTail stands)

/-! ## Positions -/

/-- The part of a text from a position up to another. -/
def slice (text : Text) (start stop : Nat) : Text := (text.take stop).drop start

/-- From a position on, the word stands first at another. -/
structure FirstFrom (word text : Text) (start place : Nat) : Prop where
  le : start ≤ place
  stands : word <+: text.drop place
  earlier : ∀ other, start ≤ other → other < place → ¬ word <+: text.drop other

instance (word text : Text) (start place : Nat) : Decidable (FirstFrom word text start place) :=
  decidable_of_iff
    (start ≤ place ∧ word <+: text.drop place ∧
      ∀ other < place, start ≤ other → ¬ word <+: text.drop other)
    ⟨fun ⟨le, stands, earlier⟩ =>
        ⟨le, stands, fun other behind before => earlier other before behind⟩,
      fun first =>
        ⟨first.le, first.stands, fun other before behind => first.earlier other behind before⟩⟩

theorem slice_append_drop (text : Text) {start stop : Nat} (le : start ≤ stop) :
    slice text start stop ++ text.drop stop = text.drop start := by
  have parts : text.drop start = (text.take stop ++ text.drop stop).drop start := by
    rw [List.take_append_drop]
  rcases Nat.le_total stop text.length with inside | outside
  · rw [parts, List.drop_append_of_le_length (by simp; omega), slice]
  · rw [slice, List.take_of_length_le outside, List.drop_eq_nil_of_le outside, List.append_nil]

theorem slice_append_slice (text : Text) {start middle stop : Nat} (le : start ≤ middle)
    (le' : middle ≤ stop) :
    slice text start middle ++ slice text middle stop = slice text start stop := by
  have whole : slice text start middle ++ slice text middle stop ++ text.drop stop =
      slice text start stop ++ text.drop stop := by
    rw [List.append_assoc, slice_append_drop _ le', slice_append_drop _ le,
      slice_append_drop _ (le.trans le')]
  exact List.append_cancel_right whole

theorem between_drop (text : Text) (place : Nat) :
    between text (text.drop place) = text.take place := by
  rw [between, List.length_drop, List.take_eq_take_iff]
  omega

theorem drop_of_drop_eq {start : Nat} (split : text.drop start = before ++ rest) :
    text.drop (start + before.length) = rest := by
  rw [← List.drop_drop, split, List.drop_left]

theorem slice_of_drop_eq {start : Nat} (split : text.drop start = before ++ rest) :
    slice text start (start + before.length) = before := by
  have whole := slice_append_drop text (Nat.le_add_right start before.length)
  rw [drop_of_drop_eq split, split] at whole
  exact List.append_cancel_right whole

theorem getElem?_of_prefix_drop {start i : Nat} (stands : word <+: text.drop start)
    (inside : i < word.length) : text[start + i]? = word[i]? := by
  obtain ⟨rest, split⟩ := stands
  rw [← List.getElem?_drop, ← split, List.getElem?_append_left inside]

theorem drop_eq_cons_iff {c : Char} {place : Nat} :
    text.drop place = c :: text.drop (place + 1) ↔ text[place]? = some c := by
  constructor
  · intro split
    have head : (text.drop place)[0]? = text[place + 0]? := List.getElem?_drop
    rw [split] at head
    simpa using head.symm
  · intro found
    obtain ⟨inside, rfl⟩ := List.getElem?_eq_some_iff.mp found
    exact List.drop_eq_getElem_cons inside

theorem mem_slice {c : Char} {start stop place : Nat} (le : start ≤ place) (less : place < stop)
    (found : text[place]? = some c) : c ∈ slice text start stop := by
  refine List.mem_of_getElem? (i := place - start) ?_
  rw [slice, List.getElem?_drop, Nat.add_sub_cancel' le, List.getElem?_take_of_lt less, found]

/-- An end of a slice starts at a position inside it. -/
theorem exists_drop_of_suffix_slice {start stop : Nat} (le : start ≤ stop) {tail : Text}
    (nonempty : tail ≠ []) (isTail : tail <:+ slice text start stop) :
    ∃ place, start ≤ place ∧ place < stop ∧ tail ++ text.drop stop = text.drop place := by
  obtain ⟨front, hfront⟩ := isTail
  have size := congrArg List.length hfront
  have positive := List.length_pos_iff.mpr nonempty
  simp only [slice, List.length_append, List.length_drop, List.length_take] at size
  refine ⟨start + front.length, Nat.le_add_right _ _, by omega, ?_⟩
  rw [← List.drop_drop, ← slice_append_drop _ le, ← hfront]
  simp

theorem FirstFrom.unique {start place place' : Nat} (h : FirstFrom word text start place)
    (h' : FirstFrom word text start place') : place = place' := by
  rcases Nat.lt_trichotomy place place' with less | same | more
  · exact absurd h.stands (h'.earlier place h.le less)
  · exact same
  · exact absurd h'.stands (h.earlier place' h'.le more)

/-- Cutting what follows a position finds the first occurrence from there on. -/
theorem cut?_drop_eq_some_iff {start : Nat} (nonempty : word ≠ []) :
    cut? word (text.drop start) = some (before, rest) ↔
      ∃ place, FirstFrom word text start place ∧ before = slice text start place ∧
        rest = text.drop (place + word.length) := by
  constructor
  · intro found
    obtain ⟨split, first⟩ := cut?_eq_some_iff.mp found
    have before_eq : before = slice text start (start + before.length) := by
      rw [slice, List.drop_take, Nat.add_sub_cancel_left, split]
      simp
    have at_place : text.drop (start + before.length) = word ++ rest := by
      rw [← List.drop_drop, split]
      simp
    refine ⟨start + before.length, ⟨Nat.le_add_right _ _, ?_, ?_⟩, before_eq, ?_⟩
    · rw [at_place]
      exact List.prefix_append _ _
    · intro other le less stands
      -- An earlier occurrence would start a suffix of the part before the cut.
      refine first (slice text other (start + before.length)) ?_ ?_ ?_
      · intro empty
        have whole := slice_append_drop text less.le
        have shorter := congrArg List.length whole
        have bound := congrArg List.length at_place
        have positive := List.length_pos_iff.mpr nonempty
        simp only [empty, List.nil_append, List.length_drop, List.length_append] at shorter bound
        omega
      · exact ⟨slice text start other, (slice_append_slice text le less.le).trans before_eq.symm⟩
      · rw [← at_place, slice_append_drop _ less.le]
        exact stands
    · rw [← List.drop_drop, at_place]
      simp
  · rintro ⟨place, first, rfl, rfl⟩
    obtain ⟨rest, hrest⟩ := first.stands
    have after_word : text.drop (place + word.length) = rest := by
      rw [← List.drop_drop, ← hrest]
      simp
    refine cut?_eq_some_iff.mpr ⟨?_, ?_⟩
    · rw [after_word, List.append_assoc, hrest, slice_append_drop _ first.le]
    · intro tail nonempty' isTail stands
      obtain ⟨other, le, less, position⟩ := exists_drop_of_suffix_slice first.le nonempty' isTail
      rw [after_word, hrest, position] at stands
      exact first.earlier other le less stands

/-- A word that stands behind a position has a first place from there on. -/
theorem exists_firstFrom {start last : Nat} (nonempty : word ≠ []) (le : start ≤ last)
    (stands : word <+: text.drop last) : ∃ place, FirstFrom word text start place := by
  cases found : cut? word (text.drop start) with
  | some cut =>
    obtain ⟨place, first, -⟩ := (cut?_drop_eq_some_iff nonempty).mp found
    exact ⟨place, first⟩
  | none =>
    refine absurd (stands.isInfix.trans ?_) (cut?_eq_none_iff.mp found)
    exact (List.drop_suffix_drop_left text le).isInfix

end SandboxPreview.Text
