/-
# Tags that are left

Which tags of a template can still be read in the rendered document. Every rule for outputs reads
from two braces to the first closing brace, so it takes a whole output or none, and what it puts
there opens nothing; the last of them takes every output. The rule for logic tags reads to the
first percent sign and wants the closing brace behind it. A tag with a percent sign among its words
is therefore passed over, and it stays. Scripts are taken over as they are.

## Main definitions

* `Closing`: a reader that goes up to the first closing brace, where there are two;
* `Shows`: a rule that puts text in the place of outputs;
* `Settles`: the pieces after a rule, with the same logic tags;
* `Piece.stays`: the pieces that the rule for logic tags passes over.

## Main results

* `Shows.exists_pieces`, `exists_replaceOutputs`: one rule for outputs, and all four;
* `stripLogic_pieces`: the rule for logic tags;
* `render_leaves_tags_iff`: which tags are left in the document.
-/
import SandboxPreview.Proofs.Template.Pieces
import SandboxPreview.Proofs.Template.Rendering
import SandboxPreview.Proofs.Text.Lines

namespace SandboxPreview.Template

open Text Pattern

variable {α : Type} {p : Char → Bool} {next pattern : Reader α} {new : α → Text}
variable {word words text inner tail rest : Text} {piece : Piece} {pieces left : List Piece}

/-! ## Up to the closing braces -/

/-- The reader goes up to two closing braces, the first of which is the first one there is. What is
put in the place of its result has an opening brace only when the text that was read has one. -/
def Closing (new : α → Text) (next : Reader α) : Prop :=
  ∀ text a rest, next text = some (a, rest) →
    ∃ inner, text = inner ++ '\x7d' :: '\x7d' :: rest ∧ '\x7d' ∉ inner ∧
      ('\x7b' ∉ inner → '\x7b' ∉ new a)

theorem Closing.append_left {run behind : Text} (closing : Closing new next)
    (absent : '\x7d' ∉ run) {a : α} (found : next behind = some (a, rest)) :
    ∃ inner, run ++ behind = inner ++ '\x7d' :: '\x7d' :: rest ∧ '\x7d' ∉ inner ∧
      ('\x7b' ∉ inner → '\x7b' ∉ new a) := by
  obtain ⟨inner, rfl, absent', clean⟩ := closing _ _ _ found
  refine ⟨run ++ inner, (List.append_assoc _ _ _).symm, ?_, fun opening => ?_⟩
  · exact fun member => (List.mem_append.mp member).elim absent absent'
  · exact clean fun member => opening (List.mem_append_right run member)

theorem not_mem_of_class {run : Text} (stops : p '\x7d' = false) (all : ∀ c ∈ run, p c = true) :
    '\x7d' ∉ run :=
  fun member => by simp [all _ member] at stops

theorem Closing.greedy (closing : Closing new next) (stops : p '\x7d' = false) :
    Closing new (greedy p next) := by
  intro text a rest found
  obtain ⟨run, behind, rfl, all, more⟩ := exists_of_greedy found
  exact closing.append_left (not_mem_of_class stops all) more

theorem Closing.literal (closing : Closing new next) (absent : '\x7d' ∉ word) :
    Closing new (literal word next) := by
  intro text a rest found
  obtain ⟨behind, rfl, more⟩ := literal_eq_some_iff.mp found
  exact closing.append_left absent more

theorem closing_done {new : Unit → Text} (clean : '\x7b' ∉ new ()) :
    Closing new (literal "\x7d\x7d" done) := by
  intro text a rest found
  obtain ⟨behind, rfl, same⟩ := literal_eq_some_iff.mp found
  obtain rfl : behind = rest := congrArg Prod.snd (Option.some.inj same)
  exact ⟨[], by rw [closingBraces]; rfl, List.not_mem_nil, fun _ => clean⟩

theorem closing_outputText {new : Text → Text} (clean : ∀ name, '\x7b' ∉ name → '\x7b' ∉ new name) :
    Closing new outputText := by
  intro text a rest found
  obtain ⟨run, behind, rfl, -, all, more⟩ := exists_of_lazily₁ found
  obtain ⟨blanks, stop, rfl, blank, last⟩ := exists_of_greedy more
  obtain ⟨behind, rfl, same⟩ := literal_eq_some_iff.mp last
  obtain ⟨rfl, rfl⟩ : between (run ++ _) _ = a ∧ behind = rest := by simpa using same
  have inRun : '\x7d' ∉ run := not_mem_of_class (by decide) all
  have inBlanks : '\x7d' ∉ blanks := not_mem_of_class (by decide) blank
  refine ⟨run ++ blanks, by simp [closingBraces], by simp [inRun, inBlanks], fun opening => ?_⟩
  rw [between_append]
  exact clean run fun member => opening (List.mem_append_left blanks member)

/-! ## A rule for outputs -/

/-- A rule that takes whole outputs and puts text without opening braces in their place. -/
structure Shows (pattern : Reader α) (new : α → Text) : Prop where
  consuming : Consuming pattern
  starts : ∀ text, ¬ ['\x7b', '\x7b'] <+: text → pattern text = none
  closes : ∀ inner rest a behind, '\x7b' ∉ inner → '\x7d' ∉ inner →
    pattern ((Piece.output inner).source ++ rest) = some (a, behind) →
      behind = rest ∧ '\x7b' ∉ new a

theorem openOutput_output (next : Reader α) (inner rest : Text) :
    openOutput next ((Piece.output inner).source ++ rest) =
      greedy isBlank next (inner ++ '\x7d' :: '\x7d' :: rest) := by
  rw [openOutput, openingBraces]
  simp [literal, Piece.source]

theorem shows_openOutput {result : Text → Option α} (rule : OutputRule (openOutput next) result)
    (closing : Closing new next) : Shows (openOutput next) new where
  consuming := rule.consuming
  starts := rule.starts
  closes inner rest a behind opening absent found := by
    rw [openOutput_output] at found
    obtain ⟨inner', same, absent', clean⟩ := closing.greedy (by decide) _ _ _ found
    -- Both texts end at the first closing brace.
    obtain ⟨rfl, ends⟩ := append_cons_inj absent absent' same
    exact ⟨(List.cons.inj ends).2.symm, clean opening⟩

/-- The pieces after a rule for outputs: the logic tags are the same. -/
structure Settles (pieces left : List Piece) : Prop where
  formed : ∀ piece ∈ left, piece.WellFormed
  logic : ∀ words, .logic words ∈ left ↔ .logic words ∈ pieces

theorem Settles.trans {between : List Piece} (first : Settles pieces between)
    (second : Settles between left) : Settles pieces left :=
  ⟨second.formed, fun words => (second.logic words).trans (first.logic words)⟩

theorem Settles.cons (settles : Settles pieces left) (formed : piece.WellFormed) :
    Settles (piece :: pieces) (piece :: left) :=
  ⟨List.forall_mem_cons.mpr ⟨formed, settles.formed⟩, fun words => by
    rw [List.mem_cons, List.mem_cons, settles.logic]⟩

theorem Settles.cons_output {body : Text} (settles : Settles pieces left) (clean : '\x7b' ∉ body)
    (inner : Text) : Settles (.output inner :: pieces) (.text body :: left) :=
  ⟨List.forall_mem_cons.mpr ⟨clean, settles.formed⟩, fun words => by
    simp [settles.logic]⟩

/-- Two braces stand at the start of an output only. -/
theorem Piece.braces_isPrefix (formed : piece.WellFormed) (nonempty : tail ≠ [])
    (isTail : tail <:+ piece.source) (stands : ['\x7b', '\x7b'] <+: tail ++ rest) :
    (∃ inner, piece = .output inner) ∧ tail = piece.source := by
  cases piece with
  | text body => exact absurd stands (not_brace_isPrefix formed nonempty isTail)
  | logic words => exact absurd stands (not_braces_isPrefix_tag formed.1 nonempty isTail)
  | output inner =>
    exact ⟨⟨inner, rfl⟩, braces_isPrefix_braces formed.2.1 nonempty isTail stands⟩

theorem Shows.eq_none (shows : Shows pattern new) (formed : piece.WellFormed)
    (missing : pattern (piece.source ++ rest) = none ∨ ∀ inner, piece ≠ .output inner)
    (nonempty : tail ≠ []) (isTail : tail <:+ piece.source) : pattern (tail ++ rest) = none := by
  by_cases stands : ['\x7b', '\x7b'] <+: tail ++ rest
  · obtain ⟨⟨inner, same⟩, rfl⟩ := piece.braces_isPrefix formed nonempty isTail stands
    exact missing.resolve_right fun other => other inner same
  · exact shows.starts _ stands

/-- A rule for outputs leaves pieces with the same logic tags, and no outputs when it takes every
one. -/
theorem Shows.exists_pieces (shows : Shows pattern new)
    (formed : ∀ piece ∈ pieces, piece.WellFormed) :
    ∃ left, replaceAll pattern new (pieces.flatMap Piece.source) = left.flatMap Piece.source ∧
      Settles pieces left ∧
      ((∀ inner rest, (Piece.output inner).WellFormed →
        (pattern ((Piece.output inner).source ++ rest)).isSome) →
          ∀ inner, .output inner ∉ left) := by
  induction pieces with
  | nil => exact ⟨[], rfl, ⟨formed, fun _ => Iff.rfl⟩, fun _ _ => List.not_mem_nil⟩
  | cons piece later ih =>
    obtain ⟨here, others⟩ := List.forall_mem_cons.mp formed
    obtain ⟨left, ends, settles, taken⟩ := ih others
    rw [List.flatMap_cons]
    have kept (missing : pattern (piece.source ++ later.flatMap Piece.source) = none ∨
        ∀ inner, piece ≠ .output inner) :
        replaceAll pattern new (piece.source ++ later.flatMap Piece.source) =
          (piece :: left).flatMap Piece.source := by
      rw [replaceAll_append_of_none fun tail => shows.eq_none here missing, ends,
        List.flatMap_cons]
    cases piece with
    | text body =>
      refine ⟨_, kept (Or.inr fun _ => Piece.noConfusion), settles.cons here, fun total inner => ?_⟩
      simpa using taken total inner
    | logic words =>
      refine ⟨_, kept (Or.inr fun _ => Piece.noConfusion), settles.cons here, fun total inner => ?_⟩
      simpa using taken total inner
    | output inner =>
      cases found : pattern ((Piece.output inner).source ++ later.flatMap Piece.source) with
      | none =>
        refine ⟨_, kept (Or.inl found), settles.cons here, fun total => ?_⟩
        have matched := total inner (later.flatMap Piece.source) here
        rw [found] at matched
        cases matched
      | some match' =>
        obtain ⟨a, behind⟩ := match'
        obtain ⟨rfl, clean⟩ := shows.closes _ _ _ _ here.2.1 here.2.2 found
        refine ⟨.text (new a) :: left, ?_, settles.cons_output clean inner, fun total other => ?_⟩
        · rw [replaceAll_of_some shows.consuming found, ends, List.flatMap_cons, Piece.source]
        · simpa using taken total other

/-! ## The four rules -/

theorem shows_sectionImage : Shows sectionImage fun _ => sectionImagePlaceholder :=
  shows_openOutput outputRule_sectionImage
    (((((closing_done (by decide)).greedy (by decide)).literal (by decide)).greedy
      (by decide)).literal (by decide))

theorem shows_filteredImage : Shows filteredImage fun _ => imagePlaceholder :=
  shows_openOutput outputRule_filteredImage
    ((((((closing_done (by decide)).greedy (by decide)).literal (by decide)).greedy
      (by decide)).literal (by decide)).greedy (by decide))

theorem shows_sectionSetting : Shows sectionSetting settingLabel :=
  shows_openOutput outputRule_sectionSetting
    ((closing_outputText fun _ => brace_not_mem_settingLabel).literal (by decide))

theorem shows_output : Shows output outputComment :=
  shows_openOutput outputRule_output (closing_outputText fun _ => brace_not_mem_outputComment)

/-- The last rule takes every output that holds something, even blanks alone. -/
theorem isSome_output (formed : (Piece.output inner).WellFormed) (rest : Text) :
    (output ((Piece.output inner).source ++ rest)).isSome := by
  obtain ⟨nonempty, -, closing⟩ := formed
  have all : ∀ c ∈ inner, inOutput c = true := by
    intro c member
    have different : c ≠ '\x7d' := fun same => closing (same ▸ member)
    simpa [inOutput, except] using different
  rw [output, openOutput_output]
  refine isSome_greedy_of_next ?_
  refine isSome_lazily₁ nonempty all ?_
  refine isSome_greedy_of_next ?_
  rw [closingBraces]
  simp [literal]

theorem exists_replaceOutputs (formed : ∀ piece ∈ pieces, piece.WellFormed) :
    ∃ left, commentOutputs (replaceSettings (replaceImages (pieces.flatMap Piece.source))) =
        left.flatMap Piece.source ∧ Settles pieces left ∧ ∀ inner, .output inner ∉ left := by
  obtain ⟨left₁, ends₁, settles₁, -⟩ := shows_sectionImage.exists_pieces formed
  obtain ⟨left₂, ends₂, settles₂, -⟩ := shows_filteredImage.exists_pieces settles₁.formed
  obtain ⟨left₃, ends₃, settles₃, -⟩ := shows_sectionSetting.exists_pieces settles₂.formed
  obtain ⟨left₄, ends₄, settles₄, taken⟩ := shows_output.exists_pieces settles₃.formed
  refine ⟨left₄, ?_, ((settles₁.trans settles₂).trans settles₃).trans settles₄,
    taken fun inner rest formed => isSome_output formed rest⟩
  rw [replaceImages, ends₁, ends₂, replaceSettings, ends₃, commentOutputs, ends₄]

/-! ## The rule for logic tags -/

/-- The rule for logic tags passes over the piece. -/
def Piece.stays : Piece → Bool
  | .logic words => words.elem '%'
  | _ => true

/-- A tag ends at its first percent sign or not at all. -/
theorem logicTag_eq_none (closing : '\x7d' ∉ words) (member : '%' ∈ words) (rest : Text) :
    logicTag (tag words ++ rest) = none := by
  obtain ⟨front, behind, rfl, absent⟩ := List.eq_append_cons_of_mem member
  rw [logicTag_eq_literal, List.append_assoc, List.cons_append,
    dropWhile_except_append_cons absent]
  -- Behind the percent sign is another word or the percent sign of the tag.
  refine literal_eq_none fun stands => ?_
  cases behind with
  | nil => simp at stands
  | cons c behind =>
    obtain rfl : '\x7d' = c := by simpa using stands
    exact closing (by simp)

/-- What the rule for logic tags finds in a piece. -/
def Piece.stripped? (piece : Piece) : Option Unit := if piece.stays then none else some ()

theorem Piece.reads_logicTag (formed : piece.WellFormed) (noOutput : ∀ inner, piece ≠ .output inner)
    (rest : Text) : Reads logicTag piece.source rest piece.stripped? := by
  cases piece with
  | text body => exact reads_logicTag_text formed rest
  | output inner => exact absurd rfl (noOutput inner)
  | logic words =>
    by_cases member : '%' ∈ words
    · have stays : (Piece.logic words).stripped? = none := if_pos (List.elem_eq_true_of_mem member)
      rw [stays]
      intro tail nonempty isTail
      rcases List.suffix_cons_iff.mp isTail with rfl | inner
      · exact logicTag_eq_none formed.2 member rest
      · have outside : '\x7b' ∉ '%' :: words ++ ['%', '\x7d'] := by simp [formed.1]
        exact reads_logicTag_text outside rest tail nonempty inner
    · have gone : (Piece.logic words).stripped? = some () := by
        simp [stripped?, stays, member]
      rw [gone]
      exact logicTag_tag_append member rest

theorem stripLogic_pieces (formed : ∀ piece ∈ pieces, piece.WellFormed)
    (noOutput : ∀ inner, .output inner ∉ pieces) :
    stripLogic (pieces.flatMap Piece.source) =
      (pieces.filter Piece.stays).flatMap Piece.source := by
  have reads (piece : Piece) (later : List Piece) (isTail : piece :: later <:+ pieces) :
      Reads logicTag piece.source (later.flatMap Piece.source) piece.stripped? := by
    have member : piece ∈ pieces := isTail.subset List.mem_cons_self
    refine piece.reads_logicTag (formed piece member) ?_ _
    rintro inner rfl
    exact noOutput inner member
  rw [stripLogic, removeAll, replaceAll_flatMap consuming_logicTag reads]
  clear formed noOutput reads
  induction pieces with
  | nil => rfl
  | cons piece later ih =>
    rw [List.flatMap_cons, ih, List.filter_cons, Piece.stripped?]
    cases piece.stays <;> simp

/-! ## Looking for tags -/

theorem opening_infix_iff (formed : ∀ piece ∈ pieces, piece.WellFormed)
    (noOutput : ∀ inner, .output inner ∉ pieces) :
    ['\x7b', '%'] <:+: pieces.flatMap Piece.source ↔ ∃ words, .logic words ∈ pieces := by
  constructor
  · intro stands
    obtain ⟨piece, member, tail, rest, nonempty, isTail, here⟩ :=
      exists_of_infix_flatMap (by simp) stands
    cases piece with
    | text body => exact absurd here (not_brace_isPrefix (formed _ member) nonempty isTail)
    | logic words => exact ⟨words, member⟩
    | output inner => exact absurd member (noOutput inner)
  · rintro ⟨words, member⟩
    obtain ⟨before, behind, rfl⟩ := List.append_of_mem member
    exact ⟨before.flatMap Piece.source, words ++ ['%', '\x7d'] ++ behind.flatMap Piece.source, by
      simp [Piece.source, tag]⟩

theorem not_infix_braces (formed : ∀ piece ∈ pieces, piece.WellFormed)
    (noOutput : ∀ inner, .output inner ∉ pieces) :
    ¬ ['\x7b', '\x7b'] <:+: pieces.flatMap Piece.source := by
  intro stands
  obtain ⟨piece, member, tail, rest, nonempty, isTail, here⟩ :=
    exists_of_infix_flatMap (by simp) stands
  obtain ⟨⟨inner, rfl⟩, -⟩ := piece.braces_isPrefix (formed piece member) nonempty isTail here
  exact noOutput inner member

theorem infix_document (markup js : Text) : markup <:+: document markup js :=
  ⟨documentStart, "\n  <script>".toList ++ js ++ "</script>\n</body>\n</html>".toList, by
    simp only [document, List.append_assoc]⟩

theorem not_infix_documentStart {c : Char} (known : c = '%' ∨ c = '\x7b') :
    ¬ ['\x7b', c] <:+: documentStart := by
  rcases known with rfl | rfl
  all_goals
    refine not_infix_ofLines (by decide) (by decide) ?_
    repeat refine List.forall_mem_cons.mpr ⟨contains_ofList (by decide +kernel), ?_⟩
    exact List.forall_mem_nil _

/-- The start of a tag stands in a document where it stands in its markup or its script. -/
theorem infix_document_iff {c : Char} (known : c = '%' ∨ c = '\x7b') (markup js : Text) :
    ['\x7b', c] <:+: document markup js ↔ ['\x7b', c] <:+: markup ∨ ['\x7b', c] <:+: js := by
  have absent : ∀ d ∈ [' ', '\n', '<', '>'], d ∉ ['\x7b', c] := by
    rcases known with rfl | rfl <;> simp
  obtain ⟨front, start⟩ : "  ".toList <:+ documentStart := suffix_ofLines rfl
  have isStart : front <+: documentStart := ⟨_, start⟩
  have inStart : ¬ ['\x7b', c] <:+: front := fun stands =>
    not_infix_documentStart known (stands.trans isStart.isInfix)
  have parts : document markup js = front ++ ' ' :: ([] ++ ' ' :: (markup ++ '\n' ::
      ("  <script".toList ++ '>' :: (js ++ '<' :: "/script>\n</body>\n</html>".toList)))) := by
    rw [document, ← start]
    simp
  have noBrace {text : Text} (clean : '\x7b' ∉ text) : ¬ ['\x7b', c] <:+: text :=
    fun stands => clean (stands.subset List.mem_cons_self)
  have before : ¬ ['\x7b', c] <:+: "  <script".toList := noBrace (by decide)
  have behind : ¬ ['\x7b', c] <:+: "/script>\n</body>\n</html>".toList := noBrace (by decide)
  rw [parts, infix_append_cons_iff (absent ' ' (by decide)),
    infix_append_cons_iff (absent ' ' (by decide)), infix_append_cons_iff (absent '\n' (by decide)),
    infix_append_cons_iff (absent '>' (by decide)), infix_append_cons_iff (absent '<' (by decide))]
  simp only [inStart, before, behind, noBrace List.not_mem_nil, false_or, or_false]

/-! ## All together -/

theorem render_pieces (unnested : Unnested pieces) :
    let bare := outside .stylesheet false (outside .schema false pieces)
    let left := outside .javascript false bare
    let script := (firstBlock .javascript bare).getD []
    (render (pieces.flatMap Piece.source)).markup =
      document (stripLogic (commentOutputs (replaceSettings (replaceImages
        (left.flatMap Piece.source))))) script := by
  intro bare left script
  have noSchemas : removeSchema (pieces.flatMap Piece.source) = _ :=
    removeAll_namedBlock_pieces .schema unnested
  have noStyles :
      takeBlocks "stylesheet" ((outside .schema false pieces).flatMap Piece.source) = _ :=
    takeBlocks_pieces .stylesheet (unnested.outside .schema false)
  have noScripts : takeBlocks "javascript" (bare.flatMap Piece.source) = _ :=
    takeBlocks_pieces .javascript ((unnested.outside .schema false).outside .stylesheet false)
  have styles : (extractStylesheet (removeSchema (pieces.flatMap Piece.source))).1 =
      bare.flatMap Piece.source := by
    rw [noSchemas, extractStylesheet, noStyles]
    cases firstBlock .stylesheet (outside .schema false pieces) <;> rfl
  have scripts : extractScript (bare.flatMap Piece.source) =
      (left.flatMap Piece.source, script) := by
    rw [extractScript, noScripts]
    cases found : firstBlock .javascript bare <;> simp [left, script, found]
  simp only [render, styles, scripts]

/-- A document holds the start of a logic tag only when a tag with a percent sign among its words
stands outside all blocks, or in its script; it holds the start of an output only in its script. -/
theorem render_leaves_tags_iff (pieces : List Piece) (unnested : Unnested pieces) :
    let bare := outside .stylesheet false (outside .schema false pieces)
    let left := outside .javascript false bare
    let script := (firstBlock .javascript bare).getD []
    let markup := (render (pieces.flatMap Piece.source)).markup
    (['\x7b', '%'] <:+: markup ↔
      (∃ words, .logic words ∈ left ∧ '%' ∈ words) ∨ ['\x7b', '%'] <:+: script) ∧
    (['\x7b', '\x7b'] <:+: markup ↔ ['\x7b', '\x7b'] <:+: script) ∧
    ∀ words, .logic words ∈ left → .logic words ∈ pieces := by
  intro bare left script markup
  have formed : ∀ piece ∈ left, piece.WellFormed :=
    (((unnested.outside .schema false).outside .stylesheet false).outside .javascript false).formed
  obtain ⟨shown, outputs, settles, noOutput⟩ := exists_replaceOutputs formed
  have whole : markup = document ((shown.filter Piece.stays).flatMap Piece.source) script := by
    rw [← stripLogic_pieces settles.formed noOutput, ← outputs]
    exact render_pieces unnested
  have formed' : ∀ piece ∈ shown.filter Piece.stays, piece.WellFormed :=
    fun piece member => settles.formed piece (List.mem_filter.mp member).1
  have noOutput' : ∀ inner, .output inner ∉ shown.filter Piece.stays :=
    fun inner member => noOutput inner (List.mem_filter.mp member).1
  rw [whole, infix_document_iff (Or.inl rfl), infix_document_iff (Or.inr rfl),
    opening_infix_iff formed' noOutput']
  refine ⟨or_congr_left ?_, or_iff_right (not_infix_braces formed' noOutput'), ?_⟩
  · simp only [List.mem_filter, settles.logic, Piece.stays, List.elem_iff]
  · exact fun words member => logic_mem_of_outside (logic_mem_of_outside
      (logic_mem_of_outside member))

/-- Tags in a schema are gone, a comparison is stripped, and an output in a script stays. -/
theorem render_leaves_tags_iff_of_all_forms :
    let pieces : List Piece := [.text "<h1>", .logic " if a > 'b' ", .output " a | upcase ",
      .logic " schema ", .logic " x = '50%' ", .logic " endschema ", .output "% schema %",
      .logic " javascript ", .text "show(", .output " id ", .text ")", .logic " endjavascript ",
      .text "</h1>"]
    let markup := (render (pieces.flatMap Piece.source)).markup
    Unnested pieces ∧ ¬ ['\x7b', '%'] <:+: markup ∧ ['\x7b', '\x7b'] <:+: markup := by
  intro pieces markup
  have apart : ∀ kind, Apart kind pieces := by
    intro kind
    cases kind <;> decide +kernel
  have unnested : Unnested pieces := ⟨by decide +kernel, apart⟩
  obtain ⟨logic, output, -⟩ := render_leaves_tags_iff pieces unnested
  have script : (firstBlock .javascript (outside .stylesheet false
      (outside .schema false pieces))).getD [] = "show(\x7b\x7b id \x7d\x7d)".toList := by
    decide +kernel
  have left : outside .javascript false (outside .stylesheet false (outside .schema false pieces)) =
      [.text "<h1>", .logic " if a > 'b' ", .output " a | upcase ", .output "% schema %",
        .text "</h1>"] := by
    decide +kernel
  rw [script] at logic output
  rw [left] at logic
  refine ⟨unnested, fun stands => ?_, output.mpr (by decide +kernel)⟩
  rcases logic.mp stands with ⟨words, member, percent⟩ | inScript
  · obtain rfl : words = " if a > 'b' ".toList := by simpa using member
    exact absurd percent (by decide)
  · exact absurd inScript (by decide +kernel)

/-- A tag with a percent sign in one of its words is still there. An output that is taken for the
start of a schema leaves a brace, and the text behind the schema can make a tag of it. -/
theorem render_leaves_tag_openings :
    let percent : List Piece := [.logic " assign width = '50%' ", .text "<p>Hi</p>"]
    let nested : List Piece := [.output "% schema %", .logic " endschema ", .text "% off"]
    (∀ piece ∈ percent ++ nested, piece.WellFormed) ∧
      percent.flatMap Piece.source = "\x7b% assign width = '50%' %\x7d<p>Hi</p>".toList ∧
      "\x7b% assign width = '50%' %\x7d".toList <:+:
        (render (percent.flatMap Piece.source)).markup ∧
      ¬ Apart .schema nested ∧
      ['\x7b', '%'] <:+: (render (nested.flatMap Piece.source)).markup := by
  intro percent nested
  have written : percent.flatMap Piece.source =
      "\x7b% assign width = '50%' %\x7d<p>Hi</p>".toList := by decide +kernel
  -- What the rules for blocks leave is passed on by all others.
  have passed {source left : Text} (blocks : (extractStylesheet (removeSchema source)).1 = left)
      (scripts : extractScript left = (left, []))
      (outputs : stripLogic (commentOutputs (replaceSettings (replaceImages left))) = left) :
      left <:+: (render source).markup := by
    simp only [render, blocks, scripts, outputs]
    exact infix_document left []
  refine ⟨by decide +kernel, written, ?_, by decide +kernel, ?_⟩
  · have inSource : "\x7b% assign width = '50%' %\x7d".toList <+:
        "\x7b% assign width = '50%' %\x7d<p>Hi</p>".toList := by decide +kernel
    rw [written]
    exact inSource.isInfix.trans
      (passed (by decide +kernel) (by decide +kernel) (by decide +kernel))
  · have start : ['\x7b', '%'] <+: "\x7b% off".toList := by decide +kernel
    exact start.isInfix.trans
      (passed (by decide +kernel) (by decide +kernel) (by decide +kernel))

end SandboxPreview.Template
