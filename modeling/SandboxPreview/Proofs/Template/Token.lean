/-
# Pieces of a template

A template as a list of pieces, each of one form: plain text, an output, a logic tag or a block.
The source of a piece is what stands in the template, the markup what it becomes on its own.

A tag stands between a brace with a percent sign and a percent sign with a brace. Where the source
of the pieces holds a tag, one of the pieces spells it: tags do not come about where pieces meet.

## Main definitions

* `Token`, `Token.source`, `Token.markup`: pieces, how they are written and what becomes of them;
* `Token.WellFormed`: what each form may hold;
* `Token.Spells`: the tags in the source of a piece.

## Main results

* `Token.spells_of_isPrefix`, `exists_spells_of_infix`: tags stand inside pieces.
-/
import SandboxPreview.Proofs.Text.Trim
import SandboxPreview.Proofs.Text.Occurrence
import SandboxPreview.Template.Liquid

namespace SandboxPreview.Template

open Text

/-! ## Tags -/

/-- A tag with its words. -/
def tag (words : Text) : Text := '\x7b' :: '%' :: words ++ ['%', '\x7d']

/-- The blocks that are taken out of a template. -/
inductive Block where
  | schema
  | stylesheet
  | javascript
  deriving DecidableEq

namespace Block

def name : Block → Text
  | schema => "schema"
  | stylesheet => "stylesheet"
  | javascript => "javascript"

/-- The words of the opening tag. -/
def opening (kind : Block) : Text := ' ' :: kind.name ++ [' ']

/-- The words of the closing tag. -/
def closing (kind : Block) : Text := " end".toList ++ kind.name ++ [' ']

theorem openTag_name (kind : Block) : openTag kind.name = tag kind.opening := by
  cases kind <;> decide

theorem closeTag_name (kind : Block) : closeTag kind.name = tag kind.closing := by
  cases kind <;> decide

theorem opening_injective {kind other : Block} (same : kind.opening = other.opening) :
    kind = other := by
  cases kind <;> cases other <;> first | rfl | exact absurd same (by decide)

theorem opening_ne_closing (kind other : Block) : kind.opening ≠ other.closing := by
  cases kind <;> cases other <;> decide

end Block

/-! ## Pieces -/

/-- An output expression names something. -/
structure IsExpression (expression : Text) : Prop where
  nonempty : expression ≠ []
  trimmed : trim expression = expression
  opening : '\x7b' ∉ expression
  closing : '\x7d' ∉ expression
  named : expression ≠ settingWords

/-- The words of a logic tag hold nothing that belongs to the tag itself. -/
structure IsWords (words : Text) : Prop where
  percent : '%' ∉ words
  opening : '\x7b' ∉ words
  closing : '\x7d' ∉ words

/-- A piece of a template. -/
inductive Token where
  | text (body : Text)
  /-- An expression between blanks. -/
  | output (lead expression trail : Text)
  | logic (words : Text)
  | block (kind : Block) (body : Text)
  deriving DecidableEq

namespace Token

/-- What stands in the template. -/
def source : Token → Text
  | text body => body
  | output lead expression trail =>
    '\x7b' :: '\x7b' :: (lead ++ expression ++ trail) ++ ['\x7d', '\x7d']
  | logic words => tag words
  | block kind body => openTag kind.name ++ body ++ closeTag kind.name

/-- What a piece may hold. A schema may hold anything but its end, the other blocks no tags. -/
def WellFormed : Token → Prop
  | text body => '\x7b' ∉ body
  | output lead expression trail => Blank lead ∧ IsExpression expression ∧ Blank trail
  | logic words => IsWords words ∧ ∀ kind : Block, words ≠ kind.opening
  | block .schema body => ¬ closeTag Block.schema.name <:+: body
  | block _ body => ¬ ['\x7b', '%'] <:+: body

/-- An output whose source holds the opening tag of a block. -/
def opener (kind : Block) : Token := output [] ('%' :: kind.opening ++ ['%']) []

/-- The tag stands in the source of the piece, by its form. -/
def Spells (words : Text) : Token → Prop
  | text _ => False
  | output lead expression trail => lead = [] ∧ expression = '%' :: words ++ ['%'] ∧ trail = []
  | logic words' => words' = words
  | block kind _ => words = kind.opening ∨ words = kind.closing

/-- The body of a block of this kind. -/
def body? (kind : Block) : Token → Option Text
  | block other body => if other = kind then some body else none
  | _ => none

end Token

instance (expression : Text) : Decidable (IsExpression expression) :=
  decidable_of_iff (expression ≠ [] ∧ trim expression = expression ∧ '\x7b' ∉ expression ∧
    '\x7d' ∉ expression ∧ expression ≠ settingWords)
    ⟨fun ⟨h₁, h₂, h₃, h₄, h₅⟩ => ⟨h₁, h₂, h₃, h₄, h₅⟩, fun ⟨h₁, h₂, h₃, h₄, h₅⟩ =>
      ⟨h₁, h₂, h₃, h₄, h₅⟩⟩

instance (words : Text) : Decidable (IsWords words) :=
  decidable_of_iff ('%' ∉ words ∧ '\x7b' ∉ words ∧ '\x7d' ∉ words)
    ⟨fun ⟨h₁, h₂, h₃⟩ => ⟨h₁, h₂, h₃⟩, fun ⟨h₁, h₂, h₃⟩ => ⟨h₁, h₂, h₃⟩⟩

instance (words : Text) : Decidable (∀ kind : Block, words ≠ kind.opening) :=
  decidable_of_iff (words ≠ Block.schema.opening ∧ words ≠ Block.stylesheet.opening ∧
    words ≠ Block.javascript.opening)
    ⟨fun ⟨h₁, h₂, h₃⟩ kind => match kind with
      | .schema => h₁
      | .stylesheet => h₂
      | .javascript => h₃, fun h => ⟨h .schema, h .stylesheet, h .javascript⟩⟩

instance (text : Text) : Decidable (Blank text) :=
  List.decidableBAll (fun c => isBlank c = true) text

instance : DecidablePred Token.WellFormed
  | .text _ => inferInstanceAs (Decidable (_ ∉ _))
  | .output _ _ _ => inferInstanceAs (Decidable (_ ∧ _ ∧ _))
  | .logic _ => inferInstanceAs (Decidable (_ ∧ _))
  | .block .schema _ => inferInstanceAs (Decidable (¬ _))
  | .block .stylesheet _ => inferInstanceAs (Decidable (¬ _))
  | .block .javascript _ => inferInstanceAs (Decidable (¬ _))

instance (words : Text) : DecidablePred (Token.Spells words)
  | .text _ => inferInstanceAs (Decidable False)
  | .output _ _ _ => inferInstanceAs (Decidable (_ ∧ _ ∧ _))
  | .logic _ => inferInstanceAs (Decidable (_ = _))
  | .block _ _ => inferInstanceAs (Decidable (_ ∨ _))

/-! ## What becomes of pieces -/

/-- The expression is an image of a section setting. -/
def isSectionImage (expression : Text) : Bool :=
  match after? settingWords expression with
  | some behind => contains "img_url" behind
  | none => false

/-- An image filter stands at the start of the text. -/
def startsImageFilter : Text → Bool
  | [] => false
  | c :: behind => c == '|' && "img_url".toList.isPrefixOf (trimStart behind)

/-- An image filter stands in the expression. -/
def isFilteredImage (expression : Text) : Bool := expression.tails.any startsImageFilter

/-- What an output expression becomes. -/
def shown (expression : Text) : Text :=
  if isSectionImage expression then sectionImagePlaceholder
  else if isFilteredImage expression then imagePlaceholder
  else
    match after? settingWords expression with
    | some name => settingLabel name
    | none => outputComment expression

/-- What a piece becomes. -/
def Token.markup : Token → Text
  | text body => body
  | output _ expression _ => shown expression
  | logic _ => []
  | block _ _ => []

/-- The body of the first block of a kind. -/
def firstBody (kind : Block) (tokens : List Token) : Option Text :=
  tokens.findSome? (Token.body? kind)

/-- The style of the first stylesheet, under a heading. -/
def style (tokens : List Token) : Text :=
  match firstBody .stylesheet tokens with
  | none => []
  | some body => "\n/* Liquid Stylesheet */\n".toList ++ body

/-- The script of the first script block. -/
def script (tokens : List Token) : Text := (firstBody .javascript tokens).getD []

theorem Token.eq_block_of_body? {kind : Block} {token : Token} {body : Text}
    (found : token.body? kind = some body) : token = .block kind body := by
  cases token with
  | block other body' =>
    rw [Token.body?] at found
    split at found
    case isTrue same => rw [same, Option.some.inj found]
    case isFalse => cases found
  | _ => cases found

/-! ## Tags stand inside pieces -/

variable {words words' lead expression trail body tail rest : Text} {kind : Block} {token : Token}
  {tokens : List Token}

theorem Block.isWords_opening (kind : Block) : IsWords kind.opening := by
  cases kind <;> exact ⟨by decide, by decide, by decide⟩

theorem Block.isWords_closing (kind : Block) : IsWords kind.closing := by
  cases kind <;> exact ⟨by decide, by decide, by decide⟩

theorem tag_append (words rest : Text) :
    tag words ++ rest = '\x7b' :: '%' :: (words ++ '%' :: '\x7d' :: rest) := by
  simp [tag]

/-- A tag is read off its words up to the closing brace. -/
theorem eq_of_tag_isPrefix (closing : '\x7d' ∉ words) (closing' : '\x7d' ∉ words')
    (stands : tag words <+: tag words' ++ rest) : words = words' := by
  obtain ⟨more, same⟩ := stands
  have behind : words ++ ['%'] ++ '\x7d' :: more = words' ++ ['%'] ++ '\x7d' :: rest := by
    simpa [tag] using same
  have absent : '\x7d' ∉ words ++ ['%'] := by simp [closing]
  have absent' : '\x7d' ∉ words' ++ ['%'] := by simp [closing']
  exact List.append_cancel_right (append_cons_inj absent absent' behind).1

/-- A tag that starts before a brace ends before it. -/
theorem tag_prefix_of_append_cons (clean : IsWords words) (nonempty : tail ≠ [])
    (stands : tag words <+: tail ++ '\x7b' :: rest) : tag words <+: tail := by
  cases tail with
  | nil => exact absurd rfl nonempty
  | cons c tail =>
    have inner : '\x7b' ∉ '%' :: words ++ ['%', '\x7d'] := by simp [clean.opening]
    obtain ⟨rfl, behind⟩ := List.cons_prefix_cons.mp stands
    exact List.cons_prefix_cons.mpr ⟨rfl, (prefix_append_cons_iff inner).mp behind⟩

/-- Nothing that starts with a brace starts where there is none. -/
theorem not_brace_isPrefix {word : Text} (absent : '\x7b' ∉ body) (nonempty : tail ≠ [])
    (isTail : tail <:+ body) : ¬ '\x7b' :: word <+: tail ++ rest := by
  cases tail with
  | nil => exact absurd rfl nonempty
  | cons c tail =>
    intro stands
    obtain ⟨rfl, -⟩ := List.cons_prefix_cons.mp stands
    exact absent (isTail.subset List.mem_cons_self)

/-- The braces of an output do not stand inside it. -/
theorem IsExpression.braces (named : IsExpression expression) (blankLead : Blank lead)
    (blankTrail : Blank trail) :
    '\x7b' ∉ lead ++ expression ++ trail ∧ '\x7d' ∉ lead ++ expression ++ trail := by
  have absent (c : Char) (solid : isBlank c = false) (outside : c ∉ expression) :
      c ∉ lead ++ expression ++ trail := by
    simp [not_mem_of_blank solid blankLead, not_mem_of_blank solid blankTrail, outside]
  exact ⟨absent _ (by decide) named.opening, absent _ (by decide) named.closing⟩

/-- Percent signs are not blank, so blanks around a text between them are missing. -/
theorem eq_of_blanks_append (blankLead : Blank lead) (blankTrail : Blank trail)
    (same : '%' :: words ++ ['%'] = lead ++ expression ++ trail) :
    lead = [] ∧ expression = '%' :: words ++ ['%'] ∧ trail = [] := by
  have solid : isBlank '%' = false := by decide
  have noLead : lead = [] := by
    cases lead with
    | nil => rfl
    | cons c lead =>
      obtain rfl : '%' = c := (List.cons.inj same).1
      exact absurd List.mem_cons_self (not_mem_of_blank solid blankLead)
  have noTrail : trail = [] := by
    rcases List.eq_nil_or_concat trail with rfl | ⟨init, c, rfl⟩
    · rfl
    · rw [List.concat_eq_append, ← List.append_assoc] at same
      obtain rfl : '%' = c := by simpa using (List.append_inj' same rfl).2
      exact absurd (by simp) (not_mem_of_blank solid blankTrail)
  subst noLead noTrail
  exact ⟨rfl, by simpa using same.symm, rfl⟩

/-- A tag between the braces of an output is all of it but the outer braces. -/
theorem tag_isPrefix_braces {inner : Text} (opening : '\x7b' ∉ inner) (closing : '\x7d' ∉ inner)
    (closing' : '\x7d' ∉ words) (nonempty : tail ≠ [])
    (isTail : tail <:+ '\x7b' :: '\x7b' :: inner ++ ['\x7d', '\x7d'])
    (stands : tag words <+: tail ++ rest) :
    '%' :: words ++ ['%'] = inner ∧ tail = tag words ++ ['\x7d'] := by
  rw [List.cons_append, List.cons_append] at isTail
  rcases List.suffix_cons_iff.mp isTail with rfl | isTail
  · -- Two braces stand here, and a tag has only one.
    simp [tag] at stands
  rcases List.suffix_cons_iff.mp isTail with rfl | isTail
  · obtain ⟨more, same⟩ := stands
    have absent : '\x7d' ∉ '%' :: words ++ ['%'] := by simp [closing']
    have whole : '%' :: words ++ ['%'] ++ '\x7d' :: more = inner ++ '\x7d' :: '\x7d' :: rest := by
      simpa [tag] using same
    obtain ⟨rfl, -⟩ := append_cons_inj absent closing whole
    exact ⟨rfl, by simp [tag]⟩
  · have outside : '\x7b' ∉ inner ++ ['\x7d', '\x7d'] := by simpa using opening
    exact absurd stands (not_brace_isPrefix outside nonempty isTail)

theorem output_of_tag_isPrefix (formed : (Token.output lead expression trail).WellFormed)
    (clean : IsWords words) (nonempty : tail ≠ [])
    (isTail : tail <:+ (Token.output lead expression trail).source)
    (stands : tag words <+: tail ++ rest) :
    (Token.output lead expression trail).Spells words ∧ tail = tag words ++ ['\x7d'] := by
  obtain ⟨blankLead, named, blankTrail⟩ := formed
  obtain ⟨opening, closing⟩ := named.braces blankLead blankTrail
  obtain ⟨same, whole⟩ :=
    tag_isPrefix_braces opening closing clean.closing nonempty isTail stands
  exact ⟨eq_of_blanks_append blankLead blankTrail same, whole⟩

/-- A tag in a logic tag is all of it. -/
theorem logic_of_tag_isPrefix (closing : '\x7d' ∉ words) (opening' : '\x7b' ∉ words')
    (closing' : '\x7d' ∉ words') (nonempty : tail ≠ []) (isTail : tail <:+ tag words')
    (stands : tag words <+: tail ++ rest) : words' = words ∧ tail = tag words' := by
  rcases List.suffix_cons_iff.mp isTail with rfl | isTail
  · exact ⟨(eq_of_tag_isPrefix closing closing' stands).symm, rfl⟩
  · have outside : '\x7b' ∉ '%' :: words' ++ ['%', '\x7d'] := by simp [opening']
    exact absurd stands (not_brace_isPrefix outside nonempty isTail)

theorem Token.WellFormed.not_infix (formed : (Token.block kind body).WellFormed)
    (other : kind ≠ .schema) : ¬ ['\x7b', '%'] <:+: body := by
  cases kind with
  | schema => exact absurd rfl other
  | stylesheet => exact formed
  | javascript => exact formed

/-- In a block without other tags only its own tags stand. -/
theorem block_of_tag_isPrefix (clean : IsWords words) (noTags : ¬ ['\x7b', '%'] <:+: body)
    (nonempty : tail ≠ []) (isTail : tail <:+ (Token.block kind body).source)
    (stands : tag words <+: tail ++ rest) : words = kind.opening ∨ words = kind.closing := by
  rw [Token.source, kind.openTag_name, kind.closeTag_name, List.append_assoc] at isTail
  rcases suffix_append_cases isTail with isTail | ⟨start, someStart, inside, rfl⟩
  · rcases suffix_append_cases isTail with isTail | ⟨start, someStart, inside, rfl⟩
    · exact Or.inr (logic_of_tag_isPrefix clean.closing kind.isWords_closing.opening
        kind.isWords_closing.closing nonempty isTail stands).1.symm
    · rw [List.append_assoc, tag_append] at stands
      have inBody := tag_prefix_of_append_cons clean someStart stands
      have two : ['\x7b', '%'] <+: tag words := ⟨words ++ ['%', '\x7d'], by simp [tag]⟩
      exact absurd ((two.trans inBody).isInfix.trans inside.isInfix) noTags
  · rw [List.append_assoc] at stands
    exact Or.inl (logic_of_tag_isPrefix clean.closing kind.isWords_opening.opening
      kind.isWords_opening.closing someStart inside stands).1.symm

/-- A tag that starts in a piece is one that the piece spells. -/
theorem Token.spells_of_isPrefix (formed : token.WellFormed)
    (noSchema : ∀ body, token ≠ .block .schema body) (clean : IsWords words) (nonempty : tail ≠ [])
    (isTail : tail <:+ token.source) (stands : tag words <+: tail ++ rest) :
    token.Spells words := by
  cases token with
  | text body => exact absurd stands (not_brace_isPrefix formed nonempty isTail)
  | output lead expression trail =>
    exact (output_of_tag_isPrefix formed clean nonempty isTail stands).1
  | logic words' =>
    exact (logic_of_tag_isPrefix clean.closing formed.1.opening formed.1.closing nonempty isTail
      stands).1
  | block kind body =>
    have other : kind ≠ .schema := fun same => noSchema body (by rw [same])
    exact block_of_tag_isPrefix clean (formed.not_infix other) nonempty isTail stands

/-- A tag in the source of all pieces is spelled by one of them. -/
theorem exists_spells_of_infix (formed : ∀ token ∈ tokens, token.WellFormed)
    (noSchema : ∀ token ∈ tokens, ∀ body, token ≠ .block .schema body) (clean : IsWords words)
    (stands : tag words <:+: tokens.flatMap Token.source) :
    ∃ token ∈ tokens, token.Spells words := by
  obtain ⟨token, member, tail, rest, nonempty, isTail, here⟩ :=
    exists_of_infix_flatMap (by simp [tag]) stands
  exact ⟨token, member, token.spells_of_isPrefix (formed token member) (noSchema token member)
    clean nonempty isTail here⟩

/-- A piece that is left when all blocks are taken out. -/
structure Token.Bare (token : Token) : Prop where
  formed : token.WellFormed
  noBlock : ∀ kind body, token ≠ .block kind body

/-- Two braces stand at the start of an output only. -/
theorem braces_isPrefix_braces {inner : Text} (opening : '\x7b' ∉ inner) (nonempty : tail ≠ [])
    (isTail : tail <:+ '\x7b' :: '\x7b' :: inner ++ ['\x7d', '\x7d'])
    (stands : ['\x7b', '\x7b'] <+: tail ++ rest) :
    tail = '\x7b' :: '\x7b' :: inner ++ ['\x7d', '\x7d'] := by
  have outside : '\x7b' ∉ inner ++ ['\x7d', '\x7d'] := by simpa using opening
  rw [List.cons_append, List.cons_append] at isTail
  rcases List.suffix_cons_iff.mp isTail with rfl | isTail
  · rfl
  rcases List.suffix_cons_iff.mp isTail with rfl | isTail
  · have behind := (List.cons_prefix_cons.mp stands).2
    exact absurd behind (not_brace_isPrefix outside (by simp) List.suffix_rfl)
  · exact absurd stands (not_brace_isPrefix outside nonempty isTail)

/-- Two braces do not stand in a logic tag. -/
theorem not_braces_isPrefix_tag (opening : '\x7b' ∉ words) (nonempty : tail ≠ [])
    (isTail : tail <:+ tag words) : ¬ ['\x7b', '\x7b'] <+: tail ++ rest := by
  rcases List.suffix_cons_iff.mp isTail with rfl | isTail
  · simp
  · have outside : '\x7b' ∉ '%' :: words ++ ['%', '\x7d'] := by simp [opening]
    exact not_brace_isPrefix outside nonempty isTail

/-- Two braces start an output. -/
theorem output_of_braces_isPrefix (bare : token.Bare) (nonempty : tail ≠ [])
    (isTail : tail <:+ token.source) (stands : ['\x7b', '\x7b'] <+: tail ++ rest) :
    (∃ lead expression trail, token = .output lead expression trail) ∧ tail = token.source := by
  cases token with
  | text body => exact absurd stands (not_brace_isPrefix bare.formed nonempty isTail)
  | output lead expression trail =>
    refine ⟨⟨lead, expression, trail, rfl⟩, ?_⟩
    obtain ⟨blankLead, named, blankTrail⟩ := bare.formed
    exact braces_isPrefix_braces (named.braces blankLead blankTrail).1 nonempty isTail stands
  | logic words =>
    exact absurd stands (not_braces_isPrefix_tag bare.formed.1.opening nonempty isTail)
  | block kind body => exact absurd rfl (bare.noBlock kind body)

end SandboxPreview.Template
