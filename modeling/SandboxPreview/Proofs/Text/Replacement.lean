/-
# Replacing words

A text is read from its start: where a word stands, the new word takes its place and reading goes on
behind it; every other character is passed on. Characters that the word does not hold cut a text
into parts that are read apart. Several words are replaced at once when a place where one of them
stands gets the new text of that word, and reading goes on behind the place.

## Main definitions

* `Ignores`, `StopsAt`: a pattern whose matches do not go on into a text, or over a character;
* `replaceWords`: several words replaced at once.

## Main results

* `induction_on_matches`, `induction_on_word`: the cases of this reading;
* `replaceWord_append`, `replaceWord_cons_of_missing`: what each case does;
* `replaceAll_append_cons`, `replaceWord_append_cons`: a character that no match holds;
* `join_splitWord`: the pieces between the occurrences of a word;
* `mem_of_mem_replaceWord`, `not_mem_replaceWord_singleton`: the characters that are left;
* `count_lt_count_replaceWord`: a word that is replaced leaves traces.
-/
import SandboxPreview.Proofs.Text.Matching

namespace SandboxPreview.Pattern

variable {α : Type} {pattern : Reader α} {f : α → Text} {word new text rest : Text} {c : Char}

/-! ## Replacing all matches -/

@[simp] theorem replaceAll_nil : replaceAll pattern f [] = [] := rfl

theorem replaceAll_of_some (consuming : Consuming pattern) {a : α}
    (found : pattern text = some (a, rest)) :
    replaceAll pattern f text = f a ++ replaceAll pattern f rest := by
  rw [replaceAll, segments_of_some consuming found]
  rfl

theorem replaceAll_cons_of_none (missing : pattern (c :: text) = none) :
    replaceAll pattern f (c :: text) = c :: replaceAll pattern f text := by
  rw [replaceAll, segments_cons_of_none missing]
  rfl

theorem replaceAll_append_of_none {before : Text}
    (missing : ∀ tail, tail ≠ [] → tail <:+ before → pattern (tail ++ rest) = none) :
    replaceAll pattern f (before ++ rest) = before ++ replaceAll pattern f rest := by
  rw [replaceAll, segments_append_of_none missing, List.flatMap_append, flatMap_render_plain,
    replaceAll]

/-- A text in which nothing matches stays as it is. -/
theorem replaceAll_eq_self
    (missing : ∀ tail, tail ≠ [] → tail <:+ text → pattern tail = none) :
    replaceAll pattern f text = text := by
  have whole : replaceAll pattern f (text ++ []) = text ++ [] :=
    replaceAll_append_of_none fun tail nonempty isTail => by
      rw [List.append_nil]
      exact missing tail nonempty isTail
  simpa using whole

theorem replaceAll_of_not_occurs (missing : occurs pattern text = false) :
    replaceAll pattern f text = text := by
  refine replaceAll_eq_self fun tail _ isTail => ?_
  by_contra found
  have here := occurs_iff.mpr ⟨tail, isTail, Option.isSome_iff_ne_none.mpr found⟩
  simp [missing] at here

/-- A text is read from its start, over a match where there is one and over one character
elsewhere. -/
@[elab_as_elim]
theorem induction_on_matches {motive : Text → Prop} (consuming : Consuming pattern)
    (nil : motive [])
    (found : ∀ text a rest, pattern text = some (a, rest) → motive rest → motive text)
    (plain : ∀ c rest, pattern (c :: rest) = none → motive rest → motive (c :: rest))
    (text : Text) : motive text := by
  -- A match may take many characters at once, so the induction is on the length.
  induction size : text.length using Nat.strongRecOn generalizing text with
  | ind size ih =>
    cases here : pattern text with
    | some parts =>
      obtain ⟨a, rest⟩ := parts
      have shorter := consuming text a rest here
      exact found text a rest here (ih rest.length (by omega) rest rfl)
    | none =>
      cases text with
      | nil => exact nil
      | cons c rest =>
        rw [List.length_cons] at size
        exact plain c rest here (ih rest.length (by omega) rest rfl)

/-- A character of every new text stands where something was replaced. -/
theorem mem_replaceAll_of_occurs (consuming : Consuming pattern) (member : ∀ a, c ∈ f a)
    (found : occurs pattern text = true) : c ∈ replaceAll pattern f text := by
  induction text using induction_on_matches consuming with
  | nil => simp [occurs, first?, consuming.eq_none] at found
  | found text a rest here =>
    rw [replaceAll_of_some consuming here]
    exact List.mem_append_left _ (member a)
  | plain d rest missing ih =>
    have later : occurs pattern rest = true := by simpa [occurs, first?, missing] using found
    rw [replaceAll_cons_of_none missing]
    exact List.mem_cons_of_mem d (ih later)

/-- The pattern does the same with a text whether or not the other text stands behind it. -/
def Ignores (behind : Text) (pattern : Reader α) : Prop :=
  ∀ text, pattern (text ++ behind) = (pattern text).map fun found => (found.1, found.2 ++ behind)

/-- Matches are replaced in a text as they are without the text behind it. -/
theorem replaceAll_append_of_ignores (consuming : Consuming pattern) {behind : Text}
    (ignores : Ignores behind pattern) (text : Text) :
    replaceAll pattern f (text ++ behind) =
      replaceAll pattern f text ++ replaceAll pattern f behind := by
  induction text using induction_on_matches consuming with
  | nil => rfl
  | found text a rest here ih =>
    have here' : pattern (text ++ behind) = some (a, rest ++ behind) := by
      rw [ignores, here]
      rfl
    rw [replaceAll_of_some consuming here', ih, replaceAll_of_some consuming here,
      List.append_assoc]
  | plain d text missing ih =>
    have missing' : pattern (d :: text ++ behind) = none := by
      rw [ignores, missing]
      rfl
    rw [List.cons_append] at missing' ⊢
    rw [replaceAll_cons_of_none missing', ih, replaceAll_cons_of_none missing, List.cons_append]

/-- A match that starts before the character ends before it, whatever follows. -/
def StopsAt (c : Char) (pattern : Reader α) : Prop :=
  ∀ text rest, pattern (text ++ c :: rest) =
    (pattern text).map fun found => (found.1, found.2 ++ c :: rest)

theorem StopsAt.ignores (stops : StopsAt c pattern) (rest : Text) : Ignores (c :: rest) pattern :=
  fun text => stops text rest

theorem stopsAt_literal (absent : c ∉ word) (a : α) :
    StopsAt c (literal word fun rest => some (a, rest)) := by
  intro text rest
  rw [literal_eq, literal_eq, Text.after?_append_cons absent]
  cases Text.after? word text <;> rfl

/-- On both sides of a character at which matches stop, they are replaced apart. -/
theorem replaceAll_append_cons (consuming : Consuming pattern) (stops : StopsAt c pattern)
    (text rest : Text) :
    replaceAll pattern f (text ++ c :: rest) =
      replaceAll pattern f text ++ c :: replaceAll pattern f rest := by
  have missing : pattern ([] ++ c :: rest) = none := by
    rw [stops, consuming.eq_none]
    rfl
  rw [replaceAll_append_of_ignores consuming (stops.ignores rest), replaceAll_cons_of_none missing]

/-! ## Replacing a word -/

theorem consuming_literal (nonempty : word ≠ []) : Consuming (literal word done) := by
  intro text a rest found
  obtain ⟨behind, rfl, same⟩ := literal_eq_some_iff.mp found
  obtain rfl : behind = rest := by simpa [done] using same
  simpa using List.length_pos_iff.mpr nonempty

theorem replaceWord_append (nonempty : word ≠ []) (new rest : Text) :
    replaceWord word new (word ++ rest) = new ++ replaceWord word new rest :=
  replaceAll_of_some (consuming_literal nonempty) literal_append

theorem replaceWord_self (nonempty : word ≠ []) (new : Text) : replaceWord word new word = new := by
  have whole := replaceWord_append nonempty new []
  rw [List.append_nil] at whole
  exact whole.trans (List.append_nil new)

theorem replaceWord_cons_of_missing (new : Text) (missing : ¬ word <+: c :: text) :
    replaceWord word new (c :: text) = c :: replaceWord word new text :=
  replaceAll_cons_of_none (literal_eq_none missing)

theorem replaceWord_eq_self (new : Text) (missing : ¬ word <:+: text) :
    replaceWord word new text = text :=
  replaceAll_eq_self fun _ _ isTail =>
    literal_eq_none fun stands => missing (stands.isInfix.trans isTail.isInfix)

/-- A text is read from its start, over the word where it stands and over one character
elsewhere. -/
@[elab_as_elim]
theorem induction_on_word {motive : Text → Prop} (nonempty : word ≠ []) (nil : motive [])
    (found : ∀ rest, motive rest → motive (word ++ rest))
    (plain : ∀ c rest, ¬ word <+: c :: rest → motive rest → motive (c :: rest))
    (text : Text) : motive text := by
  induction text using induction_on_matches (consuming_literal nonempty) with
  | nil => exact nil
  | found text result rest here ih =>
    obtain ⟨behind, rfl, same⟩ := literal_eq_some_iff.mp here
    obtain rfl : behind = rest := by simpa [done] using same
    exact found behind ih
  | plain c rest missing ih =>
    refine plain c rest (fun stands => ?_) ih
    obtain ⟨behind, same⟩ := stands
    rw [← same, literal_append] at missing
    exact absurd missing (Option.some_ne_none _)

/-- On both sides of a character that the word does not hold, the word is replaced apart. -/
theorem replaceWord_append_cons (nonempty : word ≠ []) (new : Text) (absent : c ∉ word)
    (text rest : Text) :
    replaceWord word new (text ++ c :: rest) =
      replaceWord word new text ++ c :: replaceWord word new rest :=
  replaceAll_append_cons (consuming_literal nonempty) (stopsAt_literal absent ()) text rest

theorem mem_of_mem_replaceWord (nonempty : word ≠ [])
    (member : c ∈ replaceWord word new text) : c ∈ new ∨ c ∈ text := by
  induction text using induction_on_word nonempty with
  | nil => simp [replaceWord] at member
  | found text ih =>
    rw [replaceWord_append nonempty, List.mem_append] at member
    rcases member with inNew | later
    · exact Or.inl inNew
    · exact (ih later).imp_right (List.mem_append_right word)
  | plain d text missing ih =>
    rw [replaceWord_cons_of_missing new missing, List.mem_cons] at member
    rcases member with rfl | later
    · exact Or.inr List.mem_cons_self
    · exact (ih later).imp_right (List.mem_cons_of_mem d)

/-- A character that is replaced everywhere is gone. -/
theorem not_mem_replaceWord_singleton (absent : c ∉ new) (text : Text) :
    c ∉ replaceWord [c] new text := by
  induction text with
  | nil => simp [replaceWord]
  | cons d text ih =>
    by_cases same : c = d
    · subst same
      have stands := replaceWord_append (List.cons_ne_nil c []) new text
      rw [List.singleton_append] at stands
      rw [stands, List.mem_append]
      exact fun member => member.elim absent ih
    · have missing : ¬ [c] <+: d :: text := by simpa using same
      rw [replaceWord_cons_of_missing new missing, List.mem_cons]
      exact fun member => member.elim same ih

/-- A character that the word does not hold is not lost. -/
theorem count_le_count_replaceWord (nonempty : word ≠ []) (absent : c ∉ word) (new text : Text) :
    text.count c ≤ (replaceWord word new text).count c := by
  induction text using induction_on_word nonempty with
  | nil => exact Nat.le_refl _
  | found rest ih =>
    rw [replaceWord_append nonempty, List.count_append, List.count_append,
      List.count_eq_zero_of_not_mem absent]
    omega
  | plain d rest missing ih =>
    rw [replaceWord_cons_of_missing new missing, List.count_cons, List.count_cons]
    omega

/-- A character that the new text has and the word has not becomes more frequent where the word
stands. -/
theorem count_lt_count_replaceWord (nonempty : word ≠ []) (absent : c ∉ word) (member : c ∈ new)
    (stands : word <:+: text) : text.count c < (replaceWord word new text).count c := by
  induction text using induction_on_word nonempty with
  | nil => exact absurd (List.infix_nil.mp stands) nonempty
  | found rest =>
    have more := List.count_pos_iff.mpr member
    have kept := count_le_count_replaceWord nonempty absent new rest
    rw [replaceWord_append nonempty, List.count_append, List.count_append,
      List.count_eq_zero_of_not_mem absent]
    omega
  | plain d rest missing ih =>
    rcases List.infix_cons_iff.mp stands with here | later
    · exact absurd here missing
    · have more := ih later
      rw [replaceWord_cons_of_missing new missing, List.count_cons, List.count_cons]
      omega

/-! ## Splitting at a word -/

theorem splitWord_append (nonempty : word ≠ []) (rest : Text) :
    splitWord word (word ++ rest) = [] :: splitWord word rest := by
  rw [splitWord, segments_of_some (consuming_literal nonempty) literal_append, List.foldr_cons]
  rfl

theorem splitWord_cons_of_missing {piece : Text} {pieces : List Text}
    (missing : ¬ word <+: c :: text) (split : splitWord word text = piece :: pieces) :
    splitWord word (c :: text) = (c :: piece) :: pieces := by
  rw [splitWord, segments_cons_of_none (literal_eq_none missing), List.foldr_cons, ← splitWord,
    split]

/-- There is a piece before the first occurrence. -/
theorem splitWord_ne_nil (nonempty : word ≠ []) (text : Text) : splitWord word text ≠ [] := by
  induction text using induction_on_word nonempty with
  | nil => simp [splitWord]
  | found rest ih => simp [splitWord_append nonempty]
  | plain c rest missing ih =>
    obtain ⟨piece, pieces, split⟩ := List.exists_cons_of_ne_nil ih
    simp [splitWord_cons_of_missing missing split]

theorem splitWord_of_not_infix (missing : ¬ word <:+: text) : splitWord word text = [text] := by
  induction text with
  | nil => rfl
  | cons c text ih =>
    rw [List.infix_cons_iff, not_or] at missing
    exact splitWord_cons_of_missing missing.1 (ih missing.2)

/-- The pieces with the word between them are the text. -/
theorem join_splitWord (nonempty : word ≠ []) (text : Text) :
    Text.join word (splitWord word text) = text := by
  induction text using induction_on_word nonempty with
  | nil => rfl
  | found rest ih =>
    obtain ⟨piece, pieces, split⟩ := List.exists_cons_of_ne_nil (splitWord_ne_nil nonempty rest)
    rw [splitWord_append nonempty, split, Text.join, List.intercalate_cons_cons, ← split,
      ← Text.join, ih, List.nil_append]
  | plain c rest missing ih =>
    obtain ⟨piece, pieces, split⟩ := List.exists_cons_of_ne_nil (splitWord_ne_nil nonempty rest)
    rw [split] at ih
    rw [splitWord_cons_of_missing missing split, ← ih]
    cases pieces with
    | nil => simp [Text.join]
    | cons next pieces => simp [Text.join, List.intercalate_cons_cons]

theorem one_lt_length_splitWord (nonempty : word ≠ []) (stands : word <:+: text) :
    1 < (splitWord word text).length := by
  induction text using induction_on_word nonempty with
  | nil => exact absurd (List.infix_nil.mp stands) nonempty
  | found rest =>
    have positive := List.length_pos_iff.mpr (splitWord_ne_nil nonempty rest)
    rw [splitWord_append nonempty, List.length_cons]
    omega
  | plain c rest missing ih =>
    obtain ⟨piece, pieces, split⟩ := List.exists_cons_of_ne_nil (splitWord_ne_nil nonempty rest)
    have more := ih ((List.infix_cons_iff.mp stands).resolve_left missing)
    rwa [splitWord_cons_of_missing missing split, List.length_cons, ← List.length_cons, ← split]

/-! ## Replacing several words at once -/

/-- The first word of a list that the text starts with, read as its new text. -/
def anyWord : (words : List (Text × Text)) → Reader Text
  | [], _ => none
  | (word, new) :: words, text =>
    match Text.after? word text with
    | some rest => some (new, rest)
    | none => anyWord words text

/-- The text with each of the words replaced by its own new text, from left to right. -/
def replaceWords (words : List (Text × Text)) (text : Text) : Text :=
  replaceAll (anyWord words) id text

variable {words : List (Text × Text)}

theorem exists_of_anyWord (found : anyWord words text = some (new, rest)) :
    ∃ word, (word, new) ∈ words ∧ text = word ++ rest := by
  induction words with
  | nil => simp [anyWord] at found
  | cons w words ih =>
    rw [anyWord] at found
    split at found
    case h_1 behind here =>
      obtain ⟨rfl, rfl⟩ : w.2 = new ∧ behind = rest := by simpa using found
      exact ⟨w.1, List.mem_cons_self, Text.after?_eq_some_iff.mp here⟩
    case h_2 =>
      obtain ⟨word, member, split⟩ := ih found
      exact ⟨word, List.mem_cons_of_mem w member, split⟩

theorem anyWord_eq_none (missing : ∀ w ∈ words, ¬ w.1 <+: text) : anyWord words text = none := by
  rw [Option.eq_none_iff_forall_ne_some]
  rintro ⟨new, rest⟩ found
  obtain ⟨word, member, rfl⟩ := exists_of_anyWord found
  exact missing _ member (List.prefix_append _ _)

theorem consuming_anyWord (nonempty : ∀ w ∈ words, w.1 ≠ []) : Consuming (anyWord words) := by
  intro text new rest found
  obtain ⟨word, member, rfl⟩ := exists_of_anyWord found
  have positive : 0 < word.length := List.length_pos_iff.mpr (nonempty _ member)
  rw [List.length_append]
  omega

theorem stopsAt_anyWord (absent : ∀ w ∈ words, c ∉ w.1) : StopsAt c (anyWord words) := by
  intro text rest
  induction words with
  | nil => rfl
  | cons w words ih =>
    obtain ⟨here, later⟩ := List.forall_mem_cons.mp absent
    rw [anyWord, anyWord, Text.after?_append_cons here]
    cases Text.after? w.1 text with
    | some behind => rfl
    | none => exact ih later

theorem replaceWords_of_some (nonempty : ∀ w ∈ words, w.1 ≠ [])
    (found : anyWord words text = some (new, rest)) :
    replaceWords words text = new ++ replaceWords words rest :=
  replaceAll_of_some (consuming_anyWord nonempty) found

theorem replaceWords_eq_self (missing : ∀ w ∈ words, ¬ w.1 <:+: text) :
    replaceWords words text = text :=
  replaceAll_eq_self fun _ _ isTail =>
    anyWord_eq_none fun w member stands =>
      missing w member (stands.isInfix.trans isTail.isInfix)

end SandboxPreview.Pattern
