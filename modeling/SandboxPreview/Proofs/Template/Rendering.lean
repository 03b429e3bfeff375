/-
# Rendering piece by piece

The rules of the renderer run over the whole template one after another. On a template that is put
together from pieces they do what a rendering of each piece on its own does: rules for blocks take
their pieces out, rules for outputs put text in the place of theirs, and the rule for logic tags
drops what is left of the braces.

## Main results

* `replaceOutputs_flatMap`: the four rules for outputs together;
* `stripLogic_flatMap`: the rule for logic tags;
* `render_tokens`: the whole renderer;
* `render_takes_output_for_block`: an output that spells the opening tag of a block.
-/
import SandboxPreview.Proofs.Template.Blocks
import SandboxPreview.Proofs.Template.Outputs

namespace SandboxPreview.Template

open Text Pattern

variable {rest expression body : Text} {kind other : Block} {token : Token} {tokens : List Token}

/-! ## Outputs -/

/-- A piece with its output shown. -/
def Token.display : Token → Token
  | .output _ expression _ => .text (shown expression)
  | token => token

theorem brace_not_mem_settingLabel {name : Text} (clean : '\x7b' ∉ name) :
    '\x7b' ∉ settingLabel name := by
  intro member
  rcases List.mem_append.mp member with member | behind
  · rcases List.mem_append.mp member with member | again
    · rcases List.mem_append.mp member with member | between
      · rcases List.mem_append.mp member with front | first
        · exact absurd front (by decide)
        · exact clean first
      · exact absurd between (by decide)
    · exact clean again
  · exact absurd behind (by decide)

theorem brace_not_mem_outputComment (clean : '\x7b' ∉ expression) :
    '\x7b' ∉ outputComment expression := by
  intro member
  rcases List.mem_append.mp member with member | behind
  · rcases List.mem_append.mp member with front | inside
    · exact absurd front (by decide)
    · exact clean inside
  · exact absurd behind (by decide)

theorem brace_not_mem_name {name : Text} (named : IsExpression expression)
    (found : after? settingWords expression = some name) : '\x7b' ∉ name := by
  rw [after?_eq_some_iff.mp found] at named
  exact fun member => named.opening (List.mem_append_right _ member)

/-- What the four rules make of a piece, one after another. -/
theorem settle_eq_display (token : Token) :
    (((token.settle fun expression => (if isSectionImage expression then some () else none).map
      fun _ => sectionImagePlaceholder).settle fun expression =>
        (if isFilteredImage expression then some () else none).map fun _ => imagePlaceholder).settle
          fun expression => (after? settingWords expression).map settingLabel).settle
            (fun expression => (some expression).map outputComment) = token.display := by
  cases token with
  | output lead expression trail =>
    by_cases image : isSectionImage expression = true
    · simp [Token.settle, Token.display, shown, image]
    by_cases filtered : isFilteredImage expression = true
    · simp [Token.settle, Token.display, shown, image, filtered]
    cases setting : after? settingWords expression with
    | none => simp [Token.settle, Token.display, shown, image, filtered, setting]
    | some name => simp [Token.settle, Token.display, shown, image, filtered, setting]
  | _ => rfl

/-- The rules for outputs run from the special ones to the general one. -/
theorem replaceOutputs_flatMap (bare : ∀ token ∈ tokens, token.Bare) :
    commentOutputs (replaceSettings (replaceImages (tokens.flatMap Token.source))) =
      (tokens.map Token.display).flatMap Token.source := by
  have bare₁ := bare_map_settle (fun expression => if isSectionImage expression then some () else
    none) (fun _ => sectionImagePlaceholder) (fun _ _ _ _ => by decide) bare
  have bare₂ := bare_map_settle (fun expression => if isFilteredImage expression then some () else
    none) (fun _ => imagePlaceholder) (fun _ _ _ _ => by decide) bare₁
  have bare₃ := bare_map_settle (after? settingWords) settingLabel
    (fun _ _ named found => brace_not_mem_settingLabel (brace_not_mem_name named found)) bare₂
  rw [replaceImages, outputRule_sectionImage.replaceAll_flatMap bare,
    outputRule_filteredImage.replaceAll_flatMap bare₁, replaceSettings,
    outputRule_sectionSetting.replaceAll_flatMap bare₂, commentOutputs,
    outputRule_output.replaceAll_flatMap bare₃, List.map_map, List.map_map, List.map_map]
  exact congrArg (List.flatMap Token.source) (List.map_congr_left fun token _ =>
    settle_eq_display token)

/-! ## Logic tags -/

theorem consuming_logicTag : Consuming logicTag :=
  (((advancing_some _).literal _).greedy _).consuming (by decide)

/-- A logic tag is read up to its first percent sign. -/
theorem logicTag_eq_literal (words rest : Text) :
    logicTag (tag words ++ rest) =
      literal ['%', '\x7d'] done ((words ++ '%' :: '\x7d' :: rest).dropWhile (except '%')) := by
  have opening : "\x7b%".toList = ['\x7b', '%'] := by decide
  have closing : "%\x7d".toList = ['%', '\x7d'] := by decide
  have stuck (c : Char) (text : Text) (other : except '%' c = true) :
      literal ['%', '\x7d'] done (c :: text) = none := by
    have different : '%' ≠ c := by
      rintro rfl
      exact absurd other (by decide)
    simp [literal, different]
  rw [logicTag, opening, closing, tag_append, literal, if_pos rfl, literal, if_pos rfl, literal,
    greedy_eq_dropWhile stuck]

theorem dropWhile_except_append_cons {c : Char} {front : Text} (absent : c ∉ front)
    (behind : Text) : (front ++ c :: behind).dropWhile (except c) = c :: behind := by
  have all : ∀ d ∈ front, except c d = true := by
    intro d member
    have different : d ≠ c := fun same => absent (same ▸ member)
    simpa [except] using different
  rw [List.dropWhile_append_of_pos all]
  simp [except]

/-- A logic tag without percent signs among its words is read as a whole. -/
theorem logicTag_tag_append {words : Text} (percent : '%' ∉ words) (rest : Text) :
    logicTag (tag words ++ rest) = some ((), rest) := by
  rw [logicTag_eq_literal, dropWhile_except_append_cons percent]
  simp [literal, done]

/-- The logic tag that a piece is. -/
def Token.logic? : Token → Option Unit
  | .logic _ => some ()
  | _ => none

theorem brace_not_mem_shown (named : IsExpression expression) : '\x7b' ∉ shown expression := by
  rw [shown]
  split
  case isTrue => decide
  case isFalse =>
    split
    case isTrue => decide
    case isFalse =>
      split
      case h_1 name found => exact brace_not_mem_settingLabel (brace_not_mem_name named found)
      case h_2 => exact brace_not_mem_outputComment named.opening

theorem reads_logicTag_text (clean : '\x7b' ∉ body) (rest : Text) :
    Reads logicTag body rest none := by
  have opening : "\x7b%".toList = ['\x7b', '%'] := by decide
  intro tail nonempty isTail
  rw [logicTag, opening]
  exact literal_eq_none (not_brace_isPrefix clean nonempty isTail)

theorem reads_logicTag (bare : token.Bare) (rest : Text) :
    Reads logicTag token.display.source rest token.logic? := by
  cases token with
  | text body => exact reads_logicTag_text bare.formed rest
  | output lead expression trail =>
    exact reads_logicTag_text (brace_not_mem_shown bare.formed.2.1) rest
  | logic words => exact logicTag_tag_append bare.formed.1.percent rest
  | block kind body => exact absurd rfl (bare.noBlock kind body)

theorem stripLogic_flatMap (bare : ∀ token ∈ tokens, token.Bare) :
    stripLogic ((tokens.map Token.display).flatMap Token.source) = tokens.flatMap Token.markup := by
  rw [stripLogic, removeAll, List.flatMap_map,
    replaceAll_flatMap consuming_logicTag fun token later isTail =>
      reads_logicTag (bare token (isTail.subset List.mem_cons_self)) _]
  refine List.flatMap_congr fun token member => ?_
  cases token with
  | block kind body => exact absurd rfl ((bare _ member).noBlock kind body)
  | _ => rfl

/-! ## Blocks -/

theorem firstBody_cons (kind : Block) (token : Token) (tokens : List Token) :
    firstBody kind (token :: tokens) = (token.body? kind).or (firstBody kind tokens) := by
  rw [firstBody, List.findSome?_cons]
  cases token.body? kind <;> rfl

theorem firstBody_without (different : kind ≠ other) :
    firstBody kind (without other tokens) = firstBody kind tokens := by
  induction tokens with
  | nil => rfl
  | cons token tokens ih =>
    rw [firstBody_cons, ← ih, without, List.filter_cons]
    cases found : token.body? other with
    | none => exact firstBody_cons kind token _
    | some body =>
      have noBody : token.body? kind = none := by
        rw [Token.eq_block_of_body? found, Token.body?, if_neg different.symm]
      rw [noBody]
      rfl

theorem flatMap_markup_without (kind : Block) (tokens : List Token) :
    (without kind tokens).flatMap Token.markup = tokens.flatMap Token.markup := by
  induction tokens with
  | nil => rfl
  | cons token tokens ih =>
    rw [List.flatMap_cons, ← ih, without, List.filter_cons]
    cases found : token.body? kind with
    | none => rfl
    | some body => rw [Token.eq_block_of_body? found]; rfl

theorem without_subset (kind : Block) (tokens : List Token) : without kind tokens ⊆ tokens :=
  fun _ member => (List.mem_filter.mp member).1

theorem not_mem_without (kind : Block) (body : Text) (tokens : List Token) :
    .block kind body ∉ without kind tokens := by
  intro member
  have gone := (List.mem_filter.mp member).2
  simp [Token.body?] at gone

theorem extractStylesheet_flatMap (formed : ∀ token ∈ tokens, token.WellFormed)
    (taken : SchemasTaken .stylesheet tokens) (apart : BlocksApart .stylesheet tokens) :
    extractStylesheet (tokens.flatMap Token.source) =
      ((without .stylesheet tokens).flatMap Token.source, style tokens) := by
  have blocks : takeBlocks "stylesheet" (tokens.flatMap Token.source) = _ :=
    takeBlocks_flatMap formed taken apart
  rw [extractStylesheet, blocks, style]
  cases firstBody .stylesheet tokens <;> rfl

theorem extractScript_flatMap (formed : ∀ token ∈ tokens, token.WellFormed)
    (taken : SchemasTaken .javascript tokens) (apart : BlocksApart .javascript tokens) :
    extractScript (tokens.flatMap Token.source) =
      ((without .javascript tokens).flatMap Token.source, script tokens) := by
  have blocks : takeBlocks "javascript" (tokens.flatMap Token.source) = _ :=
    takeBlocks_flatMap formed taken apart
  rw [extractScript, blocks, script]
  cases firstBody .javascript tokens <;> rfl

/-- The template is rendered as its pieces are, one after another. -/
theorem render_tokens (tokens : List Token) (formed : ∀ token ∈ tokens, token.WellFormed)
    (apart : ∀ kind, BlocksApart kind tokens) :
    render (tokens.flatMap Token.source) =
      ⟨document (tokens.flatMap Token.markup) (script tokens), style tokens, script tokens⟩ := by
  have noSchemas : removeSchema (tokens.flatMap Token.source) = _ :=
    removeAll_namedBlock formed (fun other => absurd rfl other) (apart .schema)
  -- Each rule leaves fewer pieces, which are still apart.
  have left₁ := without_subset .schema tokens
  have left₂ := without_subset .stylesheet (without .schema tokens)
  have left₃ := without_subset .javascript (without .stylesheet (without .schema tokens))
  have taken (kind : Block) (others : List Token) (left : others ⊆ without .schema tokens) :
      SchemasTaken kind others := by
    rintro - token member body rfl
    exact not_mem_without .schema body tokens (left member)
  have styles := extractStylesheet_flatMap (fun token member => formed token (left₁ member))
    (taken .stylesheet _ (List.Subset.refl _)) ((apart .stylesheet).filter _)
  have scripts := extractScript_flatMap (fun token member => formed token (left₁ (left₂ member)))
    (taken .javascript _ left₂) (((apart .javascript).filter _).filter _)
  have bare : ∀ token ∈ without .javascript (without .stylesheet (without .schema tokens)),
      token.Bare := by
    intro token member
    refine ⟨formed token (left₁ (left₂ (left₃ member))), ?_⟩
    rintro kind body rfl
    cases kind with
    | schema => exact not_mem_without _ body _ (left₂ (left₃ member))
    | stylesheet => exact not_mem_without _ body _ (left₃ member)
    | javascript => exact not_mem_without _ body _ member
  have sameStyle : style (without .schema tokens) = style tokens := by
    rw [style, style, firstBody_without (by decide)]
  have sameScript : script (without .stylesheet (without .schema tokens)) = script tokens := by
    rw [script, script, firstBody_without (by decide), firstBody_without (by decide)]
  simp only [render, noSchemas, styles, scripts, sameStyle, sameScript]
  rw [replaceOutputs_flatMap bare, stripLogic_flatMap bare, flatMap_markup_without,
    flatMap_markup_without, flatMap_markup_without]

/-- Pieces of all forms, the last of which spells an opening tag that nothing closes. -/
theorem render_tokens_of_all_forms :
    let tokens : List Token := [.text "<h1>", .output " " "section.settings.title" " ",
      .output [] "section.settings.image | img_url: '600x'" [], .output [] "a |  img_url" "\n",
      .logic " if x ", .output [] "product" " ",
      .block .schema "\x7b% stylesheet %\x7d\x7b\x7b x \x7d",
      .block .stylesheet "h1 \x7b color: red \x7d", .block .javascript "run();", .text "</h1>",
      .output [] "% schema %" []]
    (∀ token ∈ tokens, token.WellFormed) ∧ (∀ kind, BlocksApart kind tokens) ∧
      render (tokens.flatMap Token.source) =
        ⟨document (tokens.flatMap Token.markup) "run();",
          "\n/* Liquid Stylesheet */\nh1 \x7b color: red \x7d", "run();"⟩ := by
  intro tokens
  have formed : ∀ token ∈ tokens, token.WellFormed := by decide +kernel
  have apart : ∀ kind, BlocksApart kind tokens := by
    intro kind
    cases kind <;> decide +kernel
  have styled : style tokens = "\n/* Liquid Stylesheet */\nh1 \x7b color: red \x7d".toList := by
    decide +kernel
  have scripted : script tokens = "run();".toList := by decide +kernel
  rw [← styled, ← scripted]
  exact ⟨formed, apart, render_tokens tokens formed apart⟩

theorem document_injective (js : Text) : Function.Injective fun markup => document markup js := by
  intro markup markup' same
  have behind := List.append_cancel_right (List.append_cancel_right (List.append_cancel_right same))
  exact List.append_cancel_left behind

/-- An output that spells the opening tag of a schema goes away with the next schema, except for its
first brace. -/
theorem render_takes_output_for_block :
    let tokens : List Token := [.output [] "% schema %" [], .block .schema []]
    (∀ token ∈ tokens, token.WellFormed) ∧
      tokens.flatMap Token.source =
        "\x7b\x7b% schema %\x7d\x7d\x7b% schema %\x7d\x7b% endschema %\x7d".toList ∧
      (render (tokens.flatMap Token.source)).markup = document ['\x7b'] [] ∧
      tokens.flatMap Token.markup = "<!-- % schema % -->".toList ∧
      (render (tokens.flatMap Token.source)).markup ≠
        document (tokens.flatMap Token.markup) (script tokens) := by
  intro tokens
  have rendered : (render (tokens.flatMap Token.source)).markup = document ['\x7b'] [] := by
    have left : extractStylesheet (removeSchema (tokens.flatMap Token.source)) =
        (['\x7b'], []) := by decide +kernel
    have scripts : extractScript ['\x7b'] = (['\x7b'], []) := by decide +kernel
    have outputs : stripLogic (commentOutputs (replaceSettings (replaceImages ['\x7b']))) =
        ['\x7b'] := by decide +kernel
    simp only [render, left, scripts, outputs]
  have expected : tokens.flatMap Token.markup = "<!-- % schema % -->".toList := by decide +kernel
  have noScript : script tokens = [] := by decide +kernel
  refine ⟨by decide +kernel, by decide +kernel, rendered, expected, ?_⟩
  rw [rendered, expected, noScript]
  intro same
  exact absurd (document_injective [] same) (by decide)

end SandboxPreview.Template
