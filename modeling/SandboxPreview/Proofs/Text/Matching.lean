/-
# Matching

What the building blocks of patterns find. A pattern that may stop at several places is followed
here by what it offers first: a run of a class goes on as far as it can, or ends where what follows
first matches. The search for all matches goes from one match to the next, over characters at
which none starts.

## Main definitions

* `Consuming`: a pattern whose matches are not empty;
* `StartsWith`: a pattern whose matches start with a word.

## Main results

* `lazily_literal`: the shortest way to a word is the cut around its first occurrence;
* `segments_append_of_none`, `segments_of_some`: how a search goes on.
-/
import Mathlib.Data.List.Forall2
import SandboxPreview.Proofs.Text.Occurrence
import SandboxPreview.Text.Pattern

namespace SandboxPreview.Pattern

variable {α β : Type} {p : Char → Bool} {next : Text → Option β} {word text run rest : Text}
  {result : β}

theorem literal_eq (word : Text) (next : Text → Option β) (text : Text) :
    literal word next text = (Text.after? word text).bind next := by
  fun_induction literal word next text with
  | case1 next text => rfl
  | case2 w word next => rfl
  | case3 word next c text ih => simpa [Text.after?] using ih
  | case4 w word next c text different => simp [Text.after?, different]

theorem literal_append : literal word next (word ++ rest) = next rest := by
  simp [literal_eq]

theorem literal_eq_some_iff :
    literal word next text = some result ↔
      ∃ rest, text = word ++ rest ∧ next rest = some result := by
  simp [literal_eq, Option.bind_eq_some_iff, Text.after?_eq_some_iff]

theorem literal_eq_none (missing : ¬ word <+: text) : literal word next text = none := by
  rw [literal_eq, Text.after?_eq_none_iff.mpr missing]
  rfl

theorem orElse_eq_some_iff {a b : Option β} :
    (a <|> b) = some result ↔ a = some result ∨ a = none ∧ b = some result := by
  simp

theorem exists_of_greedy (found : greedy p next text = some result) :
    ∃ run rest, text = run ++ rest ∧ (∀ c ∈ run, p c = true) ∧ next rest = some result := by
  induction text with
  | nil => exact ⟨[], [], rfl, by simp, found⟩
  | cons c text ih =>
    rw [greedy] at found
    split at found
    case isTrue member =>
      rcases orElse_eq_some_iff.mp found with longer | ⟨-, here⟩
      · obtain ⟨run, rest, rfl, all, found⟩ := ih longer
        exact ⟨c :: run, rest, rfl, List.forall_mem_cons.mpr ⟨member, all⟩, found⟩
      · exact ⟨[], c :: text, rfl, by simp, here⟩
    case isFalse => exact ⟨[], c :: text, rfl, by simp, found⟩

theorem exists_of_one (found : one p next text = some result) :
    ∃ c rest, text = c :: rest ∧ p c = true ∧ next rest = some result := by
  cases text with
  | nil => simp [one] at found
  | cons c rest =>
    rw [one] at found
    split at found
    case isTrue member => exact ⟨c, rest, rfl, member, found⟩
    case isFalse => exact absurd found (by simp)

theorem exists_of_greedy₁ (found : greedy₁ p next text = some result) :
    ∃ run rest, text = run ++ rest ∧ run ≠ [] ∧ (∀ c ∈ run, p c = true) ∧
      next rest = some result := by
  obtain ⟨c, _, rfl, member, more⟩ := exists_of_one found
  obtain ⟨run, rest, rfl, all, last⟩ := exists_of_greedy more
  exact ⟨c :: run, rest, rfl, by simp, List.forall_mem_cons.mpr ⟨member, all⟩, last⟩

theorem exists_of_each {classes : List (Char → Bool)}
    (found : each classes next text = some result) :
    ∃ run rest, text = run ++ rest ∧ List.Forall₂ (fun p c => p c = true) classes run ∧
      next rest = some result := by
  induction classes generalizing text with
  | nil => exact ⟨[], text, rfl, .nil, found⟩
  | cons p classes ih =>
    obtain ⟨c, _, rfl, member, more⟩ := exists_of_one found
    obtain ⟨run, rest, rfl, all, last⟩ := ih more
    exact ⟨c :: run, rest, rfl, .cons member all, last⟩

theorem each_append {classes : List (Char → Bool)} {run : Text}
    (all : List.Forall₂ (fun p c => p c = true) classes run) (rest : Text) :
    each classes next (run ++ rest) = next rest := by
  induction all with
  | nil => rfl
  | cons member _ ih => rw [each, List.cons_append, one, if_pos member, ih]

/-- The whole run is taken when what follows accepts the rest. -/
theorem greedy_of_dropWhile (found : next (text.dropWhile p) = some result) :
    greedy p next text = some result := by
  induction text with
  | nil => exact found
  | cons c text ih =>
    rw [greedy]
    split
    case isTrue member =>
      rw [List.dropWhile_cons_of_pos member] at found
      simp [ih found]
    case isFalse outside => rwa [List.dropWhile_cons_of_neg outside] at found

/-- A run up to another character is taken as a whole when what follows accepts the rest. -/
theorem greedy_append (all : ∀ c ∈ run, p c = true) (stops : ∀ c, rest.head? = some c → p c = false)
    (found : next rest = some result) : greedy p next (run ++ rest) = some result := by
  have whole : (run ++ rest).dropWhile p = rest := by
    rw [List.dropWhile_append_of_pos all]
    cases rest with
    | nil => rfl
    | cons c rest => exact List.dropWhile_cons_of_neg (by simp [stops c rfl])
  exact greedy_of_dropWhile (by rwa [whole])

theorem greedy₁_append (nonempty : run ≠ []) (all : ∀ c ∈ run, p c = true)
    (stops : ∀ c, rest.head? = some c → p c = false) (found : next rest = some result) :
    greedy₁ p next (run ++ rest) = some result := by
  obtain ⟨c, run, rfl⟩ := List.exists_cons_of_ne_nil nonempty
  rw [List.forall_mem_cons] at all
  rw [greedy₁, List.cons_append, one, if_pos all.1]
  exact greedy_append all.2 stops found

/-- The whole run is taken when what follows accepts none of its characters. -/
theorem greedy_eq_dropWhile (stuck : ∀ c text, p c = true → next (c :: text) = none) :
    greedy p next text = next (text.dropWhile p) := by
  induction text with
  | nil => rfl
  | cons c text ih =>
    rw [greedy]
    split
    case isTrue member => simp [ih, stuck c text member, List.dropWhile_cons_of_pos member]
    case isFalse outside => rw [List.dropWhile_cons_of_neg outside]

theorem exists_of_lazily (found : lazily p next text = some result) :
    ∃ run rest, text = run ++ rest ∧ (∀ c ∈ run, p c = true) ∧ next rest = some result := by
  induction text with
  | nil => exact ⟨[], [], rfl, by simp, found⟩
  | cons c text ih =>
    rw [lazily] at found
    rcases orElse_eq_some_iff.mp found with here | ⟨-, longer⟩
    · exact ⟨[], c :: text, rfl, by simp, here⟩
    · split at longer
      case isTrue member =>
        obtain ⟨run, rest, rfl, all, found⟩ := ih longer
        exact ⟨c :: run, rest, rfl, List.forall_mem_cons.mpr ⟨member, all⟩, found⟩
      case isFalse => exact absurd longer (by simp)

/-- The run ends where what follows first matches. -/
theorem lazily_of_some (all : ∀ c ∈ run, p c = true) (found : next rest = some result)
    (earlier : ∀ tail, tail ≠ [] → tail <:+ run → next (tail ++ rest) = none) :
    lazily p next (run ++ rest) = some result := by
  induction run with
  | nil =>
    cases rest with
    | nil => exact found
    | cons c rest => simp [lazily, found]
  | cons c run ih =>
    have here : next (c :: (run ++ rest)) = none := earlier (c :: run) (by simp) List.suffix_rfl
    have inner := ih (fun d member => all d (by simp [member])) fun tail nonempty isTail =>
      earlier tail nonempty (isTail.trans (List.suffix_cons _ _))
    simp [lazily, here, all c (by simp), inner]

theorem isSome_literal_iff :
    (literal word next text).isSome = true ↔
      ∃ rest, text = word ++ rest ∧ (next rest).isSome = true := by
  simp only [Option.isSome_iff_exists, literal_eq_some_iff]
  exact ⟨fun ⟨result, rest, split, found⟩ => ⟨rest, split, result, found⟩,
    fun ⟨rest, split, result, found⟩ => ⟨result, rest, split, found⟩⟩

theorem isSome_oneOf_iff {choices : List ((Text → Option β) → Text → Option β)} :
    (oneOf choices next text).isSome = true ↔
      ∃ choice ∈ choices, (choice next text).isSome = true := by
  rw [oneOf, List.findSome?_isSome_iff]

theorem isSome_optionally_iff :
    (optionally p next text).isSome = true ↔
      (one p next text).isSome = true ∨ (next text).isSome = true := by
  rw [optionally]
  cases one p next text <;> simp

theorem isSome_one {c : Char} (member : p c = true) (found : (next rest).isSome) :
    (one p next (c :: rest)).isSome := by
  rwa [one, if_pos member]

/-- The longest run or a shorter one leads on. -/
theorem isSome_greedy (all : ∀ c ∈ run, p c = true) (found : (next rest).isSome) :
    (greedy p next (run ++ rest)).isSome := by
  induction run with
  | nil =>
    cases rest with
    | nil => exact found
    | cons c rest =>
      rw [List.nil_append, greedy]
      split
      case isTrue => simp [found]
      case isFalse => exact found
  | cons c run ih =>
    rw [List.cons_append, greedy, if_pos (all c (by simp))]
    simp [ih fun d member => all d (by simp [member])]

/-- The run may be empty. -/
theorem isSome_greedy_of_next (found : (next rest).isSome) : (greedy p next rest).isSome := by
  have whole := isSome_greedy (List.forall_mem_nil fun c => p c = true) found
  rwa [List.nil_append] at whole

/-- The shortest run or a longer one leads on. -/
theorem isSome_lazily (all : ∀ c ∈ run, p c = true) (found : (next rest).isSome) :
    (lazily p next (run ++ rest)).isSome := by
  induction run with
  | nil =>
    cases rest with
    | nil => exact found
    | cons c rest => simp [lazily, found]
  | cons c run ih =>
    rw [List.cons_append, lazily, if_pos (all c (by simp))]
    simp [ih fun d member => all d (by simp [member])]

theorem isSome_greedy₁ (nonempty : run ≠ []) (all : ∀ c ∈ run, p c = true)
    (found : (next rest).isSome) : (greedy₁ p next (run ++ rest)).isSome := by
  obtain ⟨c, run, rfl⟩ := List.exists_cons_of_ne_nil nonempty
  rw [List.forall_mem_cons] at all
  exact isSome_one all.1 (isSome_greedy all.2 found)

theorem isSome_lazily₁ (nonempty : run ≠ []) (all : ∀ c ∈ run, p c = true)
    (found : (next rest).isSome) : (lazily₁ p next (run ++ rest)).isSome := by
  obtain ⟨c, run, rfl⟩ := List.exists_cons_of_ne_nil nonempty
  rw [List.forall_mem_cons] at all
  exact isSome_one all.1 (isSome_lazily all.2 found)

theorem isSome_greedy_iff :
    (greedy p next text).isSome = true ↔
      ∃ run rest, text = run ++ rest ∧ (∀ c ∈ run, p c = true) ∧ (next rest).isSome = true := by
  constructor
  · intro found
    obtain ⟨result, found⟩ := Option.isSome_iff_exists.mp found
    obtain ⟨run, rest, split, all, found⟩ := exists_of_greedy found
    exact ⟨run, rest, split, all, by simp [found]⟩
  · rintro ⟨run, rest, rfl, all, found⟩
    exact isSome_greedy all found

theorem isSome_greedy₁_iff :
    (greedy₁ p next text).isSome = true ↔
      ∃ run rest, text = run ++ rest ∧ run ≠ [] ∧ (∀ c ∈ run, p c = true) ∧
        (next rest).isSome = true := by
  constructor
  · intro found
    obtain ⟨result, found⟩ := Option.isSome_iff_exists.mp found
    obtain ⟨run, rest, split, nonempty, all, found⟩ := exists_of_greedy₁ found
    exact ⟨run, rest, split, nonempty, all, by simp [found]⟩
  · rintro ⟨run, rest, rfl, nonempty, all, found⟩
    exact isSome_greedy₁ nonempty all found

theorem isSome_lazily_iff :
    (lazily p next text).isSome = true ↔
      ∃ run rest, text = run ++ rest ∧ (∀ c ∈ run, p c = true) ∧ (next rest).isSome = true := by
  constructor
  · intro found
    obtain ⟨result, found⟩ := Option.isSome_iff_exists.mp found
    obtain ⟨run, rest, split, all, found⟩ := exists_of_lazily found
    exact ⟨run, rest, split, all, by simp [found]⟩
  · rintro ⟨run, rest, rfl, all, found⟩
    exact isSome_lazily all found

theorem exists_of_lazily₁ (found : lazily₁ p next text = some result) :
    ∃ run rest, text = run ++ rest ∧ run ≠ [] ∧ (∀ c ∈ run, p c = true) ∧
      next rest = some result := by
  obtain ⟨c, _, rfl, member, more⟩ := exists_of_one found
  obtain ⟨run, rest, rfl, all, last⟩ := exists_of_lazily more
  exact ⟨c :: run, rest, rfl, by simp, List.forall_mem_cons.mpr ⟨member, all⟩, last⟩

/-- The shortest way to a word ends at its first occurrence. -/
theorem lazily_literal (word text : Text) (make : Text → Text → β) :
    lazily anyChar (mark fun stop => literal word fun rest => some (make stop rest)) text =
      (Text.cut? word text).map fun cut => make (word ++ cut.2) cut.2 := by
  induction text with
  | nil =>
    rw [lazily, mark, literal_eq, Text.cut?]
    cases here : Text.after? word [] with
    | none => rfl
    | some rest =>
      have whole := Text.after?_eq_some_iff.mp here
      simp [← whole]
  | cons c text ih =>
    rw [lazily, mark, literal_eq, Text.cut?, ih]
    cases here : Text.after? word (c :: text) with
    | none => simp [anyChar, Function.comp_def]
    | some rest =>
      have whole := Text.after?_eq_some_iff.mp here
      simp [← whole]

/-- What is read up to a word is the part before its first occurrence. -/
theorem lazily_literal_between (word text : Text) (make : Text → α) :
    (mark fun start => lazily anyChar <| mark fun stop => literal word fun rest =>
      some (make (Text.between start stop), rest)) text =
        (Text.cut? word text).map fun cut => (make cut.1, cut.2) := by
  rw [mark, lazily_literal word text fun stop rest => (make (Text.between text stop), rest)]
  refine Option.map_congr fun cut found => ?_
  rw [Text.eq_append_of_cut? found, List.append_assoc, Text.between_append]

/-! ## Searching -/

/-- The leftmost match stands behind a text at no character of which another one starts. -/
theorem first?_eq_some_iff {pattern : Reader α} {before : Text} {a : α} :
    first? pattern text = some (before, a, rest) ↔
      ∃ tail, text = before ++ tail ∧ pattern tail = some (a, rest) ∧
        ∀ more, more ≠ [] → more <:+ before → pattern (more ++ tail) = none := by
  induction text generalizing before with
  | nil =>
    rw [first?, Option.map_eq_some_iff]
    constructor
    · rintro ⟨⟨a, rest⟩, here, same⟩
      obtain ⟨rfl, rfl, rfl⟩ : [] = before ∧ a = _ ∧ rest = _ := by simpa using same
      exact ⟨[], rfl, here, fun more nonempty isTail => absurd (List.suffix_nil.mp isTail) nonempty⟩
    · rintro ⟨tail, split, here, -⟩
      obtain ⟨rfl, rfl⟩ := List.append_eq_nil_iff.mp split.symm
      exact ⟨(a, rest), here, rfl⟩
  | cons c text ih =>
    rw [first?]
    constructor
    · intro found
      split at found
      case h_1 a rest here =>
        obtain ⟨rfl, rfl, rfl⟩ : [] = before ∧ a = _ ∧ rest = _ := by simpa using found
        exact ⟨c :: text, rfl, here, fun more nonempty isTail =>
          absurd (List.suffix_nil.mp isTail) nonempty⟩
      case h_2 missing =>
        obtain ⟨⟨before', a, rest⟩, inner, same⟩ := Option.map_eq_some_iff.mp found
        obtain ⟨rfl, rfl, rfl⟩ : c :: before' = before ∧ a = _ ∧ rest = _ := by simpa using same
        obtain ⟨tail, rfl, here, earlier⟩ := ih.mp inner
        refine ⟨tail, rfl, here, fun more nonempty isTail => ?_⟩
        rcases List.suffix_cons_iff.mp isTail with rfl | inside
        · exact missing
        · exact earlier more nonempty inside
    · rintro ⟨tail, split, here, earlier⟩
      cases before with
      | nil =>
        obtain rfl : c :: text = tail := split
        rw [here]
      | cons d before =>
        obtain ⟨rfl, rfl⟩ : c = d ∧ text = before ++ tail := by simpa using split
        have missing : pattern (c :: (before ++ tail)) = none :=
          earlier (c :: before) (by simp) List.suffix_rfl
        have inner := ih.mpr ⟨tail, rfl, here, fun more nonempty isTail =>
          earlier more nonempty (isTail.trans (List.suffix_cons _ _))⟩
        rw [missing]
        exact Option.map_eq_some_iff.mpr ⟨_, inner, rfl⟩

/-- The leftmost match stands behind the text before it. -/
theorem exists_of_first? {pattern : Reader α} {before : Text} {a : α}
    (found : first? pattern text = some (before, a, rest)) :
    ∃ tail, text = before ++ tail ∧ pattern tail = some (a, rest) := by
  obtain ⟨tail, split, here, -⟩ := first?_eq_some_iff.mp found
  exact ⟨tail, split, here⟩

/-- There is no leftmost match when the pattern matches at no place. -/
theorem first?_eq_none_iff {pattern : Reader α} :
    first? pattern text = none ↔ ∀ tail, tail <:+ text → pattern tail = none := by
  induction text with
  | nil => simp [first?, List.suffix_nil]
  | cons c text ih =>
    rw [first?]
    constructor
    · intro missing tail isTail
      split at missing
      case h_1 => exact absurd missing (by simp)
      case h_2 here =>
        rcases List.suffix_cons_iff.mp isTail with rfl | inner
        · exact here
        · exact ih.mp (Option.map_eq_none_iff.mp missing) tail inner
    · intro missing
      rw [missing (c :: text) List.suffix_rfl]
      exact Option.map_eq_none_iff.mpr
        (ih.mpr fun tail isTail => missing tail (isTail.trans (List.suffix_cons _ _)))

theorem occurs_iff {pattern : Reader α} :
    occurs pattern text = true ↔ ∃ tail, tail <:+ text ∧ (pattern tail).isSome = true := by
  rw [occurs, ← not_iff_not, Bool.not_eq_true, Option.isSome_eq_false_iff, Option.isNone_iff_eq_none,
    first?_eq_none_iff]
  simp

/-- What a pattern matches at the start of a text it matches somewhere in it. -/
theorem occurs_iff_exists {pattern : Reader α} {spelled : Text → Prop}
    (spells : ∀ text, (pattern text).isSome = true ↔ ∃ word, spelled word ∧ word <+: text) :
    occurs pattern text = true ↔ ∃ word, spelled word ∧ word <:+: text := by
  rw [occurs_iff]
  constructor
  · rintro ⟨tail, isTail, found⟩
    obtain ⟨word, here, stands⟩ := (spells tail).mp found
    exact ⟨word, here, stands.isInfix.trans isTail.isInfix⟩
  · rintro ⟨word, here, stands⟩
    obtain ⟨tail, starts, isTail⟩ := List.infix_iff_prefix_suffix.mp stands
    exact ⟨tail, isTail, (spells tail).mpr ⟨word, here, starts⟩⟩

theorem occurs_literal_iff : occurs (literal word done) text = true ↔ word <:+: text := by
  have spells (text : Text) :
      (literal word done text).isSome = true ↔ ∃ w, w = word ∧ w <+: text := by
    rw [isSome_literal_iff, exists_eq_left]
    exact ⟨fun ⟨rest, split, _⟩ => ⟨rest, split.symm⟩, fun ⟨rest, split⟩ => ⟨rest, split.symm, rfl⟩⟩
  rw [occurs_iff_exists spells, exists_eq_left]

/-- The matches start with the word. -/
def StartsWith (word : Text) (pattern : Reader α) : Prop :=
  ∀ text found, pattern text = some found → word <+: text

theorem startsWith_literal (word : Text) (next : Reader α) :
    StartsWith word (literal word next) := by
  intro text found matched
  obtain ⟨rest, rfl, -⟩ := literal_eq_some_iff.mp matched
  exact List.prefix_append _ _

theorem StartsWith.eq_none {pattern : Reader α} (starts : StartsWith word pattern)
    (missing : ¬ word <+: text) : pattern text = none :=
  Option.eq_none_iff_forall_ne_some.mpr fun found matched => missing (starts text found matched)

/-- A match takes at least one character. -/
def Consuming (pattern : Reader α) : Prop :=
  ∀ text a rest, pattern text = some (a, rest) → rest.length < text.length

variable {pattern : Reader α}

theorem Consuming.eq_none (consuming : Consuming pattern) : pattern [] = none := by
  rw [Option.eq_none_iff_forall_ne_some]
  rintro ⟨a, rest⟩ found
  exact absurd (consuming [] a rest found) (by simp)

/-- More steps than characters make no difference. -/
theorem segmentsWithin_eq (consuming : Consuming pattern) {steps : Nat}
    (enough : text.length ≤ steps) : segmentsWithin pattern steps text = segments pattern text := by
  -- A match may take many characters at once, so the induction is on a bound of the length.
  have agree (size : Nat) : ∀ (text : Text) (first second : Nat), text.length ≤ size →
      text.length ≤ first → text.length ≤ second →
      segmentsWithin pattern first text = segmentsWithin pattern second text := by
    induction size with
    | zero =>
      intro text first second small _ _
      obtain rfl := List.eq_nil_of_length_eq_zero (Nat.le_zero.mp small)
      cases first <;> cases second <;> rfl
    | succ size ih =>
      intro text first second small hfirst hsecond
      match text, first, second with
      | [], first, second => cases first <;> cases second <;> rfl
      | c :: text, 0, _ => simp at hfirst
      | c :: text, _, 0 => simp at hsecond
      | c :: text, first + 1, second + 1 =>
        simp only [List.length_cons, Nat.add_le_add_iff_right] at small hfirst hsecond
        rw [segmentsWithin, segmentsWithin]
        cases here : pattern (c :: text) with
        | none => rw [ih text first second small hfirst hsecond]
        | some found =>
          have shorter := consuming _ _ _ here
          rw [List.length_cons] at shorter
          exact congrArg _ (ih found.2 first second (by omega) (by omega) (by omega))
  exact agree text.length text _ _ le_rfl enough le_rfl

@[simp] theorem segments_nil : segments pattern [] = [] := rfl

theorem segments_of_some (consuming : Consuming pattern) {a : α}
    (found : pattern text = some (a, rest)) :
    segments pattern text = .found a :: segments pattern rest := by
  have shorter := consuming _ _ _ found
  cases text with
  | nil => simp at shorter
  | cons c text =>
    rw [List.length_cons] at shorter
    rw [segments, List.length_cons, segmentsWithin, found]
    simp only [segmentsWithin_eq consuming (show rest.length ≤ text.length by omega)]

theorem segments_cons_of_none {c : Char} (missing : pattern (c :: text) = none) :
    segments pattern (c :: text) = .plain c :: segments pattern text := by
  rw [segments, List.length_cons, segmentsWithin, missing, segments]

/-- Characters at which no match starts are passed over. -/
theorem segments_append_of_none {before : Text}
    (missing : ∀ tail, tail ≠ [] → tail <:+ before → pattern (tail ++ rest) = none) :
    segments pattern (before ++ rest) = before.map .plain ++ segments pattern rest := by
  induction before with
  | nil => rfl
  | cons c before ih =>
    have here : pattern (c :: (before ++ rest)) = none :=
      missing (c :: before) (by simp) List.suffix_rfl
    rw [List.cons_append, segments_cons_of_none here, List.map_cons, List.cons_append,
      ih fun tail nonempty isTail => missing tail nonempty (isTail.trans (List.suffix_cons _ _))]

theorem findAll_of_some (consuming : Consuming pattern) {a : α}
    (found : pattern text = some (a, rest)) : findAll pattern text = a :: findAll pattern rest := by
  rw [findAll, segments_of_some consuming found]
  rfl

/-- What is found is a match at some place. -/
theorem exists_of_mem_findAll {a : α} (member : a ∈ findAll pattern text) :
    ∃ tail rest, pattern tail = some (a, rest) := by
  obtain ⟨segment, inSegments, found⟩ := List.mem_filterMap.mp member
  obtain rfl : segment = .found a := by
    cases segment with
    | plain c => simp [Segment.match?] at found
    | found b => exact congrArg _ (Option.some.inj found)
  clear member found
  rw [segments] at inSegments
  generalize text.length = steps at inSegments
  induction steps generalizing text with
  | zero => simp [segmentsWithin] at inSegments
  | succ steps ih =>
    cases text with
    | nil => simp [segmentsWithin] at inSegments
    | cons c text =>
      rw [segmentsWithin] at inSegments
      split at inSegments
      case h_1 b rest here =>
        rcases List.mem_cons.mp inSegments with same | later
        · obtain rfl : a = b := by simpa using same
          exact ⟨c :: text, rest, here⟩
        · exact ih later
      case h_2 =>
        exact ih ((List.mem_cons.mp inSegments).resolve_left (by simp))

@[simp] theorem filterMap_match?_plain (text : Text) :
    (text.map (.plain : Char → Segment α)).filterMap Segment.match? = [] := by
  simp [List.filterMap_map, Segment.match?, Function.comp_def]

@[simp] theorem flatMap_render_plain (f : α → Text) (text : Text) :
    (text.map .plain).flatMap (Segment.render f) = text := by
  simp [List.flatMap_map, Segment.render]

theorem findAll_append_of_none {before : Text}
    (missing : ∀ tail, tail ≠ [] → tail <:+ before → pattern (tail ++ rest) = none) :
    findAll pattern (before ++ rest) = findAll pattern rest := by
  rw [findAll, segments_append_of_none missing, List.filterMap_append, filterMap_match?_plain,
    List.nil_append, findAll]

end SandboxPreview.Pattern
