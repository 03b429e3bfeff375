/-
# Reading outputs

Four rules look for outputs. Each starts at two braces, so at an output and at no other piece, and
reads to the first closing brace, so to the end of the same output. What a rule makes of an output
depends on its expression alone, because the blanks around it belong to no word of the rules.

## Main definitions

* `OutputRule`: a rule for outputs, by what it makes of an expression;
* `Token.settle`: a piece after a rule.

## Main results

* `outputRule_sectionImage`, `outputRule_filteredImage`, `outputRule_sectionSetting`,
  `outputRule_output`: what each rule makes of an output;
* `OutputRule.replaceAll_flatMap`: a rule for outputs, run over pieces without blocks.
-/
import SandboxPreview.Proofs.Template.Token
import SandboxPreview.Proofs.Text.Reading

namespace SandboxPreview.Template

open Text Pattern

variable {α : Type} {word text body rest tail lead expression trail name : Text} {token : Token}
  {tokens : List Token}

/-! ## Words between blanks -/

/-- The word holds no blanks. -/
def Solid (word : Text) : Prop := ∀ c ∈ word, isBlank c = false

instance (word : Text) : Decidable (Solid word) :=
  List.decidableBAll (fun c => isBlank c = false) word

theorem Solid.not_mem {c : Char} (solid : Solid word) (blank : isBlank c = true) : c ∉ word :=
  fun member => by simp [solid c member] at blank

/-- Blanks are passed over before a word without blanks. -/
theorem greedy_isBlank_literal (solid : Solid word) (nonempty : word ≠ [])
    (next : Text → Option α) (text : Text) :
    greedy isBlank (literal word next) text = literal word next (trimStart text) := by
  refine greedy_eq_dropWhile fun c behind blank => literal_eq_none fun stands => ?_
  cases word with
  | nil => exact nonempty rfl
  | cons w word =>
    obtain rfl : w = c := (List.cons_prefix_cons.mp stands).1
    exact solid.not_mem blank List.mem_cons_self

/-- A word without blanks and braces ends before the blanks and braces behind a text. -/
theorem prefix_append_closing_iff (solid : Solid word) (closing : '\x7d' ∉ word)
    (blank : Blank trail) :
    word <+: text ++ (trail ++ '\x7d' :: rest) ↔ word <+: text := by
  cases trail with
  | nil => exact prefix_append_cons_iff closing
  | cons c trail =>
    rw [List.cons_append, prefix_append_cons_iff (solid.not_mem (blank c List.mem_cons_self))]

theorem infix_append_blanks_iff (solid : Solid word) (nonempty : word ≠ []) (blank : Blank trail) :
    word <:+: text ++ trail ↔ word <:+: text := by
  refine ⟨fun stands => ?_, fun stands => stands.trans (List.prefix_append _ _).isInfix⟩
  cases trail with
  | nil => simpa using stands
  | cons c trail =>
    have absent : c ∉ word := solid.not_mem (blank c List.mem_cons_self)
    refine ((infix_append_cons_iff absent).mp stands).resolve_right fun inBlanks => ?_
    obtain ⟨w, member⟩ := List.exists_mem_of_ne_nil word nonempty
    exact solid.not_mem (blank w (List.mem_cons_of_mem c (inBlanks.subset member))) member

/-! ## Up to the closing braces -/

/-- Whatever run a class offers, the outcome is the same. -/
theorem greedy_of_constant {p : Char → Bool} {next : Text → Option α} {outcome : Option α}
    {run : Text} (stop : greedy p next rest = outcome)
    (constant : ∀ tail, tail <:+ run → next (tail ++ rest) = outcome) :
    greedy p next (run ++ rest) = outcome := by
  induction run with
  | nil => exact stop
  | cons c run ih =>
    have later := ih fun tail isTail => constant tail (isTail.trans (List.suffix_cons c run))
    have here : next (c :: (run ++ rest)) = outcome := constant (c :: run) List.suffix_rfl
    rw [List.cons_append, greedy, later, here]
    cases outcome <;> simp

/-- A search that stays in an output is a test of what stands before the closing braces. -/
theorem greedy_inOutput {next : Reader Unit} (test : Text → Bool) (closing : '\x7d' ∉ body)
    (tests : ∀ tail, tail <:+ body →
      next (tail ++ '\x7d' :: '\x7d' :: rest) = if test tail then some ((), rest) else none) :
    greedy inOutput next (body ++ '\x7d' :: '\x7d' :: rest) =
      if body.tails.any test then some ((), rest) else none := by
  induction body with
  | nil =>
    have stop : inOutput '\x7d' = false := by decide
    simpa [greedy, stop] using tests [] List.suffix_rfl
  | cons c body ih =>
    obtain ⟨different, closing⟩ : '\x7d' ≠ c ∧ '\x7d' ∉ body := by simpa using closing
    have inside : inOutput c = true := by simpa [inOutput, except] using different.symm
    have later := ih closing fun tail isTail => tests tail (isTail.trans (List.suffix_cons c body))
    have here := tests (c :: body) List.suffix_rfl
    rw [List.cons_append] at here
    rw [List.cons_append, greedy, if_pos inside, later, here, List.tails_cons, List.any_cons]
    cases test (c :: body) <;> cases body.tails.any test <;> simp

/-- The braces before an output, by their characters. -/
theorem openingBraces : "\x7b\x7b".toList = ['\x7b', '\x7b'] := by decide

/-- The braces behind an output, by their characters. -/
theorem closingBraces : "\x7d\x7d".toList = ['\x7d', '\x7d'] := by decide

theorem contains_eq_any_tails (word text : Text) :
    contains word text = text.tails.any word.isPrefixOf := by
  induction text with
  | nil => cases word <;> rfl
  | cons c text ih => rw [contains, List.tails_cons, List.any_cons, ih]

theorem greedy_inOutput_closing (closing : '\x7d' ∉ body) (rest : Text) :
    greedy inOutput (literal "\x7d\x7d" done) (body ++ '\x7d' :: '\x7d' :: rest) =
      some ((), rest) := by
  have ends : body.tails.any List.isEmpty = true := List.any_eq_true.mpr ⟨[], by simp, rfl⟩
  rw [greedy_inOutput List.isEmpty closing, ends, if_pos rfl]
  intro tail isTail
  rw [closingBraces]
  cases tail with
  | nil => simp [literal, done]
  | cons c tail =>
    have member : c ∈ body := isTail.subset List.mem_cons_self
    have different : '\x7d' ≠ c := fun same => closing (same ▸ member)
    simp [literal, different]

/-- The name of the image filter, and anything up to the closing braces. -/
theorem literal_imageWord (closing : '\x7d' ∉ text) (rest : Text) :
    literal "img_url" (greedy inOutput <| literal "\x7d\x7d" done)
        (text ++ '\x7d' :: '\x7d' :: rest) =
      if "img_url".toList.isPrefixOf text then some ((), rest) else none := by
  by_cases stands : "img_url".toList <+: text
  · rw [if_pos (List.isPrefixOf_iff_prefix.mpr stands)]
    obtain ⟨more, rfl⟩ := stands
    rw [List.append_assoc, literal_append]
    exact greedy_inOutput_closing (fun member => closing (List.mem_append_right _ member)) rest
  · rw [if_neg fun starts => stands (List.isPrefixOf_iff_prefix.mp starts)]
    have absent : '\x7d' ∉ "img_url".toList := by decide
    exact literal_eq_none fun starts => stands ((prefix_append_cons_iff absent).mp starts)

/-- An image filter, and anything up to the closing braces. -/
theorem literal_imageFilter (closing : '\x7d' ∉ text) (rest : Text) :
    literal "|" (greedy isBlank <| literal "img_url" <| greedy inOutput <|
        literal "\x7d\x7d" done) (text ++ '\x7d' :: '\x7d' :: rest) =
      if startsImageFilter text then some ((), rest) else none := by
  have bar : "|".toList = ['|'] := by decide
  have solid : Solid "img_url".toList := by decide
  have brace : isBlank '\x7d' = false := by decide
  rw [bar]
  cases text with
  | nil => simp [literal, startsImageFilter]
  | cons c behind =>
    by_cases same : '|' = c
    · subst same
      have inside : '\x7d' ∉ trimStart behind := fun member =>
        closing (List.mem_cons_of_mem _ ((List.dropWhile_suffix _).subset member))
      rw [List.cons_append, literal, if_pos rfl, literal,
        greedy_isBlank_literal solid (by decide), trimStart_append_cons brace,
        literal_imageWord inside, startsImageFilter, beq_self_eq_true, Bool.true_and]
    · simp [literal, startsImageFilter, same, Ne.symm same]

/-! ## What the rules make of an output -/

section

variable {next : Reader α}

theorem openOutput_source (next : Reader α) (lead expression trail rest : Text) :
    openOutput next ((Token.output lead expression trail).source ++ rest) =
      greedy isBlank next (lead ++ (expression ++ (trail ++ '\x7d' :: '\x7d' :: rest))) := by
  rw [openOutput, openingBraces]
  simp [literal, Token.source]

theorem IsExpression.trimStart_append (named : IsExpression expression) (rest : Text) :
    trimStart (expression ++ rest) = expression ++ rest := by
  cases expression with
  | nil => exact absurd rfl named.nonempty
  | cons c expression =>
    have solid := head_trim_not_blank named.trimmed
    simp [trimStart, solid]

theorem IsExpression.greedy_isBlank (named : IsExpression expression) (next : Reader α)
    (rest : Text) : greedy isBlank next (expression ++ rest) = next (expression ++ rest) := by
  cases expression with
  | nil => exact absurd rfl named.nonempty
  | cons c expression =>
    have solid := head_trim_not_blank named.trimmed
    rw [List.cons_append, greedy, if_neg (by simp [solid])]

end

theorem solid_settingWords : Solid settingWords := by decide

theorem sectionImage_source (named : IsExpression expression) (blankLead : Blank lead)
    (blankTrail : Blank trail) (rest : Text) :
    sectionImage ((Token.output lead expression trail).source ++ rest) =
      (if isSectionImage expression then some () else none).map fun a => (a, rest) := by
  rw [sectionImage, openOutput_source, greedy_isBlank_literal solid_settingWords (by decide),
    trimStart_blanks_append _ blankLead, named.trimStart_append]
  cases found : after? settingWords expression with
  | none =>
    have missing := after?_eq_none_iff.mp found
    rw [literal_eq_none fun stands => missing
      ((prefix_append_closing_iff solid_settingWords (by decide) blankTrail).mp stands)]
    have test : isSectionImage expression = false := by rw [isSectionImage, found]
    rw [test]
    rfl
  | some name =>
    obtain rfl := after?_eq_some_iff.mp found
    have inside : '\x7d' ∉ name ++ trail := by
      have whole := (named.braces blankLead blankTrail).2
      simp only [List.mem_append, not_or] at whole ⊢
      exact ⟨whole.1.2.2, whole.2⟩
    have image : contains "img_url" (name ++ trail) = contains "img_url" name := by
      rw [Bool.eq_iff_iff, contains_iff, contains_iff,
        infix_append_blanks_iff (by decide) (by decide) blankTrail]
    rw [List.append_assoc, literal_append, ← List.append_assoc,
      greedy_inOutput _ inside fun tail isTail =>
        literal_imageWord (fun member => inside (isTail.subset member)) rest,
      ← contains_eq_any_tails, image]
    have test : isSectionImage (settingWords ++ name) = contains "img_url" name := by
      rw [isSectionImage, after?_append]
    rw [test]
    cases contains "img_url" name <;> rfl

/-! ### Image filters between blanks -/

theorem isFilteredImage_cons (c : Char) (text : Text) :
    isFilteredImage (c :: text) = (startsImageFilter (c :: text) || isFilteredImage text) := by
  rw [isFilteredImage, List.tails_cons, List.any_cons, isFilteredImage]

theorem isFilteredImage_blanks_append (blank : Blank lead) (text : Text) :
    isFilteredImage (lead ++ text) = isFilteredImage text := by
  induction lead with
  | nil => rfl
  | cons c lead ih =>
    obtain ⟨here, later⟩ := List.forall_mem_cons.mp blank
    have other : c ≠ '|' := by
      rintro rfl
      exact absurd here (by decide)
    rw [List.cons_append, isFilteredImage_cons, ih later]
    simp [startsImageFilter, other]

theorem isPrefixOf_trimStart_append (solid : Solid word) (blank : Blank trail) (text : Text) :
    word.isPrefixOf (trimStart (text ++ trail)) = word.isPrefixOf (trimStart text) := by
  by_cases allBlank : Blank text
  · rw [trimStart_blanks_append _ allBlank, trimStart_eq_nil blank, trimStart_eq_nil allBlank]
  · rw [trimStart_append_of_not_blank _ allBlank, Bool.eq_iff_iff, List.isPrefixOf_iff_prefix,
      List.isPrefixOf_iff_prefix]
    cases trail with
    | nil => rw [List.append_nil]
    | cons c trail =>
      exact prefix_append_cons_iff (solid.not_mem (blank c List.mem_cons_self))

theorem isFilteredImage_append_blanks (blank : Blank trail) (text : Text) :
    isFilteredImage (text ++ trail) = isFilteredImage text := by
  induction text with
  | nil => simpa using isFilteredImage_blanks_append blank []
  | cons c text ih =>
    rw [List.cons_append, isFilteredImage_cons, isFilteredImage_cons, ih, startsImageFilter,
      startsImageFilter, isPrefixOf_trimStart_append (by decide) blank]

theorem filteredImage_source (named : IsExpression expression) (blankLead : Blank lead)
    (blankTrail : Blank trail) (rest : Text) :
    filteredImage ((Token.output lead expression trail).source ++ rest) =
      (if isFilteredImage expression then some () else none).map fun a => (a, rest) := by
  have outcome (blanks : Text) (blank : Blank blanks) :
      greedy inOutput (literal "|" <| greedy isBlank <| literal "img_url" <| greedy inOutput <|
          literal "\x7d\x7d" done)
        (blanks ++ (expression ++ (trail ++ '\x7d' :: '\x7d' :: rest))) =
      (if isFilteredImage expression then some () else none).map fun a => (a, rest) := by
    have inside := (named.braces blank blankTrail).2
    have whole := greedy_inOutput startsImageFilter inside fun tail isTail =>
      literal_imageFilter (fun member => inside (isTail.subset member)) rest
    rw [← isFilteredImage, isFilteredImage_append_blanks blankTrail,
      isFilteredImage_blanks_append blank, List.append_assoc, List.append_assoc] at whole
    rw [whole]
    cases isFilteredImage expression <;> rfl
  rw [filteredImage, openOutput_source]
  refine greedy_of_constant ?_ fun tail isTail =>
    outcome tail fun c member => blankLead c (isTail.subset member)
  rw [named.greedy_isBlank]
  exact outcome [] blank_nil

/-! ### Expressions up to blanks -/

/-- Before the last solid character of a text, the blanks end inside the text. -/
theorem outputText_append (nonempty : name ≠ []) (closing : '\x7d' ∉ name)
    (solid : ∀ init c, name = init ++ [c] → isBlank c = false) (blank : Blank trail)
    (rest : Text) :
    outputText (name ++ (trail ++ '\x7d' :: '\x7d' :: rest)) = some (name, rest) := by
  have solidBraces : Solid "\x7d\x7d".toList := by decide
  have brace : isBlank '\x7d' = false := by decide
  cases name with
  | nil => exact absurd rfl nonempty
  | cons c name =>
    obtain ⟨different, closing⟩ : '\x7d' ≠ c ∧ '\x7d' ∉ name := by simpa using closing
    have inside : inOutput c = true := by simpa [inOutput, except] using different.symm
    rw [outputText, mark, lazily₁, List.cons_append, one, if_pos inside]
    refine lazily_of_some ?_ ?_ ?_
    · intro d member
      have other : d ≠ '\x7d' := fun same => closing (same ▸ member)
      simpa [inOutput, except] using other
    · have start : trimStart ('\x7d' :: '\x7d' :: rest) = '\x7d' :: '\x7d' :: rest := by
        simp [trimStart, brace]
      have expression := between_append (c :: name) (trail ++ '\x7d' :: '\x7d' :: rest)
      rw [List.cons_append] at expression
      rw [mark, greedy_isBlank_literal solidBraces (by decide), trimStart_blanks_append _ blank,
        start, expression, closingBraces]
      simp [literal]
    · intro tail someTail isTail
      have notBlank : ¬ Blank tail := by
        obtain ⟨init, d, rfl⟩ := (List.eq_nil_or_concat tail).resolve_left someTail
        rw [List.concat_eq_append] at isTail ⊢
        obtain ⟨front, whole⟩ := isTail
        have last := solid (c :: front ++ init) d (by rw [← whole]; simp)
        exact fun allBlank => by simp [allBlank d (by simp)] at last
      -- The first solid character here is one of the expression, so no brace.
      obtain ⟨front, d, more, -, -, same, start⟩ :=
        (blank_or_trimStart_eq_cons tail).resolve_left notBlank
      have member : d ∈ name := isTail.subset (by simp [same])
      have other : '\x7d' ≠ d := fun brace => closing (brace ▸ member)
      rw [mark, greedy_isBlank_literal solidBraces (by decide),
        trimStart_append_of_not_blank _ notBlank, start, closingBraces]
      simp [literal, other]

theorem IsExpression.last_not_blank (named : IsExpression expression) {init : Text} {c : Char}
    (split : expression = init ++ [c]) : isBlank c = false :=
  last_trim_not_blank (named.trimmed.trans split)

theorem sectionSetting_source (named : IsExpression expression) (blankLead : Blank lead)
    (blankTrail : Blank trail) (rest : Text) :
    sectionSetting ((Token.output lead expression trail).source ++ rest) =
      (after? settingWords expression).map fun name => (name, rest) := by
  rw [sectionSetting, openOutput_source, greedy_isBlank_literal solid_settingWords (by decide),
    trimStart_blanks_append _ blankLead, named.trimStart_append]
  cases found : after? settingWords expression with
  | none =>
    have missing := after?_eq_none_iff.mp found
    exact literal_eq_none fun stands => missing
      ((prefix_append_closing_iff solid_settingWords (by decide) blankTrail).mp stands)
  | some name =>
    obtain rfl := after?_eq_some_iff.mp found
    have someName : name ≠ [] := by
      rintro rfl
      exact named.named (List.append_nil _)
    have closing : '\x7d' ∉ name := fun member =>
      named.closing (List.mem_append_right _ member)
    rw [List.append_assoc, literal_append]
    refine outputText_append someName closing ?_ blankTrail rest
    rintro init c rfl
    exact named.last_not_blank (List.append_assoc _ _ _).symm

theorem output_source (named : IsExpression expression) (blankLead : Blank lead)
    (blankTrail : Blank trail) (rest : Text) :
    output ((Token.output lead expression trail).source ++ rest) = some (expression, rest) := by
  have found := outputText_append named.nonempty named.closing
    (fun init c => named.last_not_blank) blankTrail rest
  rw [output, openOutput_source]
  refine greedy_of_dropWhile ?_
  rw [← trimStart, trimStart_blanks_append _ blankLead, named.trimStart_append]
  exact found

/-! ## Rules for outputs -/

/-- What a rule finds in a piece, which is nothing unless the piece is an output. -/
def Token.expression? (result : Text → Option α) : Token → Option α
  | .output _ expression _ => result expression
  | _ => none

/-- A piece after a rule: an output that the rule replaces is text. -/
def Token.settle (new : Text → Option Text) : Token → Token
  | .output lead expression trail =>
    match new expression with
    | some body => .text body
    | none => .output lead expression trail
  | token => token

/-- A rule for outputs: it starts at two braces, and its result is that of the expression. -/
structure OutputRule (pattern : Reader α) (result : Text → Option α) : Prop where
  consuming : Consuming pattern
  starts : ∀ text, ¬ ['\x7b', '\x7b'] <+: text → pattern text = none
  reads : ∀ {lead expression trail : Text}, IsExpression expression → Blank lead → Blank trail →
    ∀ rest, pattern ((Token.output lead expression trail).source ++ rest) =
      (result expression).map fun a => (a, rest)

section

variable {next : Reader α} {pattern : Reader α} {result : Text → Option α}

theorem outputRule_openOutput (advancing : Advancing next)
    (reads : ∀ {lead expression trail : Text}, IsExpression expression → Blank lead →
      Blank trail → ∀ rest, openOutput next ((Token.output lead expression trail).source ++ rest) =
        (result expression).map fun a => (a, rest)) :
    OutputRule (openOutput next) result where
  consuming := (advancing.greedy isBlank).consuming (by decide)
  starts text missing := by
    rw [← openingBraces] at missing
    exact literal_eq_none missing
  reads := reads

theorem OutputRule.reads_token (rule : OutputRule pattern result) (bare : token.Bare)
    (rest : Text) : Reads pattern token.source rest (token.expression? result) := by
  cases found : token.expression? result with
  | some a =>
    cases token with
    | output lead expression trail =>
      obtain ⟨blankLead, named, blankTrail⟩ := bare.formed
      have here : result expression = some a := found
      change pattern _ = _
      rw [rule.reads named blankLead blankTrail, here]
      rfl
    | _ => cases found
  | none =>
    intro tail nonempty isTail
    by_cases stands : ['\x7b', '\x7b'] <+: tail ++ rest
    · obtain ⟨⟨lead, expression, trail, rfl⟩, rfl⟩ :=
        output_of_braces_isPrefix bare nonempty isTail stands
      obtain ⟨blankLead, named, blankTrail⟩ := bare.formed
      have here : result expression = none := found
      rw [rule.reads named blankLead blankTrail, here]
      rfl
    · exact rule.starts _ stands

theorem OutputRule.replaceAll_flatMap (rule : OutputRule pattern result)
    (bare : ∀ token ∈ tokens, token.Bare) (new : α → Text) :
    replaceAll pattern new (tokens.flatMap Token.source) =
      (tokens.map (Token.settle fun expression => (result expression).map new)).flatMap
        Token.source := by
  rw [Pattern.replaceAll_flatMap rule.consuming fun token later isTail =>
    rule.reads_token (bare token (isTail.subset List.mem_cons_self)) _, List.flatMap_map]
  congr 1
  funext token
  cases token with
  | output lead expression trail =>
    cases found : result expression with
    | none => simp [Token.expression?, Token.settle, found]
    | some a => simp [Token.expression?, Token.settle, Token.source, found]
  | _ => rfl

end

theorem Token.Bare.settle {new : Text → Option Text} (bare : token.Bare)
    (clean : ∀ expression body, IsExpression expression → new expression = some body →
      '\x7b' ∉ body) : (token.settle new).Bare := by
  cases token with
  | output lead expression trail =>
    rw [Token.settle]
    split
    case h_1 body found =>
      exact ⟨clean expression body bare.formed.2.1 found, fun _ _ same => by cases same⟩
    case h_2 => exact bare
  | _ => exact bare

theorem bare_map_settle (result : Text → Option α) (new : α → Text)
    (clean : ∀ expression a, IsExpression expression → result expression = some a →
      '\x7b' ∉ new a) (bare : ∀ token ∈ tokens, token.Bare) :
    ∀ token ∈ tokens.map (Token.settle fun expression => (result expression).map new),
      token.Bare := by
  intro token member
  obtain ⟨before, inTokens, rfl⟩ := List.mem_map.mp member
  refine (bare before inTokens).settle fun expression body named replaced => ?_
  obtain ⟨a, found, rfl⟩ := Option.map_eq_some_iff.mp replaced
  exact clean expression a named found

/-! ## The four rules -/

theorem outputRule_sectionImage :
    OutputRule sectionImage fun expression => if isSectionImage expression then some () else none :=
  outputRule_openOutput
    (((((advancing_some _).literal _).greedy _).literal _).greedy _ |>.literal _)
    sectionImage_source

theorem outputRule_filteredImage :
    OutputRule filteredImage fun expression =>
      if isFilteredImage expression then some () else none :=
  outputRule_openOutput
    ((((((advancing_some _).literal _).greedy _).literal _).greedy _ |>.literal _).greedy _)
    filteredImage_source

theorem advancing_outputText : Advancing outputText :=
  Advancing.mark fun _ => (Advancing.mark fun _ =>
    ((advancing_some _).literal _).greedy _).lazily₁ _

theorem outputRule_sectionSetting : OutputRule sectionSetting (after? settingWords) :=
  outputRule_openOutput (advancing_outputText.literal _) sectionSetting_source

theorem outputRule_output : OutputRule output some :=
  outputRule_openOutput advancing_outputText output_source

end SandboxPreview.Template
