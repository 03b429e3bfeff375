/-
# Labelled blocks

Fenced blocks, some of them with a name on the line before the fence, come back as files under
these names. The name is read from the last line of everything before the fence, and all earlier
blocks stand there too, with their contents, labels and closing fences. It is the blank line in
front of each block that keeps them apart: without a label of its own a fence has a closing fence
before it, or nothing, and neither gives a name.

## Main definitions

* `Labelled`: a fenced block with the label that it is written under;
* `Labelled.artifact`: its file, from nothing but the block and its place.

## Main results

* `lineHint?_write`: the name of a label is read back, in each form of labels;
* `extract_labelled`: written blocks come back as their files.
-/
import SandboxPreview.Proofs.Reply.Block
import SandboxPreview.Proofs.Reply.FencedScan
import SandboxPreview.Proofs.Text.Lines

namespace SandboxPreview.Reply

open Pattern Text

variable {front text line name blanks rest : Text}

/-! ## Written blocks -/

/-- The ways to give a name on a line of its own. -/
inductive Form where
  | filename
  | file
  /-- Without a word, the colon comes last. -/
  | bare
  deriving DecidableEq

/-- The line that gives a name. -/
def Form.write : Form → (name : Text) → Text
  | .filename, name => "filename".toList ++ (": ".toList ++ name)
  | .file, name => "file".toList ++ (": ".toList ++ name)
  | .bare, name => name ++ [':']

theorem Form.write_filename (name : Text) :
    filename.write name = "filename".toList ++ (": ".toList ++ name) := rfl

theorem Form.write_file (name : Text) :
    file.write name = "file".toList ++ (": ".toList ++ name) := rfl

theorem Form.write_bare (name : Text) : bare.write name = name ++ [':'] := rfl

/-- A fenced block and the label before it, if any. -/
structure Labelled where
  label : Option (Form × Text)
  tag : Text
  content : Text
  deriving DecidableEq

namespace Labelled

/-- What stands before the fence: a line feed, and the line of the label. -/
def lead (b : Labelled) : Text :=
  '\n' :: b.label.elim [] fun (form, name) => form.write name ++ ['\n']

/-- The block as it stands in a reply. -/
def write (b : Labelled) : Text :=
  b.lead ++ "```".toList ++ b.tag ++ "\n".toList ++ b.content ++ "\n```\n".toList

/-- The file of the block, at its place among all of them. -/
def artifact (b : Labelled) (place : Nat) : Artifact where
  name := (b.label.map Prod.snd).getD (numberedName place b.tag)
  language := if b.tag = [] then "text" else b.tag
  content := b.content

/-- The label can be read, and the content neither ends the block nor starts a delimited one. -/
structure WellFormed (b : Labelled) : Prop where
  label : ∀ given ∈ b.label, given.2 ≠ [] ∧ ∀ c ∈ given.2, isNameChar c = true
  tag : ∀ c ∈ b.tag, isTagChar c = true
  content_trim : trim b.content = b.content
  content_fence : ¬ ticks 3 <:+: b.content
  content_marker : ¬ startMarker <:+: b.content

end Labelled

variable {b : Labelled} {blocks : List Labelled}

/-! ## Names on a line -/

/-- The name that a line gives to the fence after it. -/
def lineHint? (line : Text) : Option Text :=
  match first? label line with
  | some (_, name, _) => some name
  | none => bareName? line

theorem nameHint?_eq (text : Text) :
    nameHint? text = lineHint? ((lines (trim text)).getLast?.getD []) := rfl

theorem lineHint?_of_label (found : label line = some (name, rest)) :
    lineHint? line = some name := by
  have leftmost : first? label line = some ([], name, rest) :=
    first?_eq_some_iff.mpr ⟨line, rfl, found, fun more nonempty isTail =>
      absurd (List.suffix_nil.mp isTail) nonempty⟩
  rw [lineHint?, leftmost]

/-! ## Labels are read back -/

/-- A word without capitals is read as it stands. -/
theorem letters_append {β : Type} {next : Text → Option β} {word : Text}
    (small : word.all (fun c => sameLetter c c) = true) (rest : Text) :
    letters word next (word ++ rest) = next rest := by
  rw [letters]
  refine each_append ?_ rest
  rw [List.forall₂_map_left_iff, List.forall₂_same]
  exact List.all_eq_true.mp small

/-- A name and a colon are no label, whatever the name ends in: nothing stands behind the colon. -/
theorem first?_label_eq_none (all : ∀ c ∈ name, isNameChar c = true) :
    first? label (name ++ [':']) = none := by
  rw [first?_eq_none_iff]
  rintro tail ⟨before, split⟩
  rw [Option.eq_none_iff_forall_ne_some]
  rintro ⟨given, rest⟩ found
  obtain ⟨word, blanks, rfl, isName⟩ := exists_of_label found
  have behind : blanks ++ (given ++ rest) ≠ [] := by simp [isName.1]
  obtain ⟨init, last, more⟩ := (List.eq_nil_or_concat _).resolve_left behind
  rw [more] at split
  have whole : (before ++ (word ++ ':' :: init)) ++ [last] = name ++ [':'] := by simpa using split
  have inName := (List.append_inj' whole rfl).1
  exact absurd (all ':' (by simp [← inName])) (by decide)

section

variable (nonempty : name ≠ []) (all : ∀ c ∈ name, isNameChar c = true)

include nonempty all

/-- A name is read to its end behind a colon and a space. -/
theorem afterWord_append : afterWord (": ".toList ++ name) = some (name, []) := by
  have letters (c : Char) (member : c ∈ name) : isNameLetter c = true :=
    isNameLetter_of_isNameChar (all c member)
  rw [show ": ".toList ++ name = ":".toList ++ ([' '] ++ name) from rfl, afterWord,
    literal_append]
  refine greedy_append blank_space (fun c head => ?_) ?_
  · exact isBlank_of_isNameLetter (letters c (List.mem_of_head? head))
  · rw [mark]
    conv_lhs => rw [← List.append_nil name]
    refine greedy₁_append nonempty letters (by simp) ?_
    rw [between_append]

theorem bareName?_append_colon : bareName? (name ++ [':']) = some name := by
  rw [bareName?, mark]
  refine greedy₁_append nonempty all (fun c head => ?_) ?_
  · obtain rfl : ':' = c := by simpa using head
    decide
  · rw [mark, between_append]
    rfl

theorem label_file : label ("file".toList ++ (": ".toList ++ name)) = some (name, []) := by
  rw [label_eq, letters_append (by decide), afterWord_append nonempty all]
  rfl

theorem label_filename :
    label ("filename".toList ++ (": ".toList ++ name)) = some (name, []) := by
  -- The shorter word is tried first; no colon stands behind it.
  have missed : letters "file" afterWord ("filename".toList ++ (": ".toList ++ name)) = none := by
    rw [show "filename".toList = "file".toList ++ "name".toList by decide, List.append_assoc,
      letters_append (by decide)]
    refine literal_eq_none fun stands => ?_
    exact absurd (List.cons_prefix_cons.mp stands).1 (by decide)
  rw [label_eq, missed, letters_append (by decide), afterWord_append nonempty all]
  rfl

/-- The name of a label is read back. -/
theorem lineHint?_write (form : Form) : lineHint? (form.write name) = some name := by
  cases form with
  | filename =>
    rw [Form.write_filename]
    exact lineHint?_of_label (label_filename nonempty all)
  | file =>
    rw [Form.write_file]
    exact lineHint?_of_label (label_file nonempty all)
  | bare =>
    rw [Form.write_bare, lineHint?, first?_label_eq_none all]
    exact bareName?_append_colon nonempty all

theorem trim_write (form : Form) : trim (form.write name) = form.write name := by
  have solid (c : Char) (member : c ∈ name) : isBlank c = false :=
    isBlank_of_isNameLetter (isNameLetter_of_isNameChar (all c member))
  have notBlank : ¬ Blank name := fun blank => by
    obtain ⟨c, member⟩ := List.exists_mem_of_ne_nil name nonempty
    exact not_mem_of_blank (solid c member) blank member
  -- One end of the line is that of the name, the other one that of the word or the colon.
  have word {lead : Text} (inLead : 'f' ∈ lead) (whole : trimStart lead = lead) :
      trim (lead ++ (": ".toList ++ name)) = lead ++ (": ".toList ++ name) := by
    have solidLead : ¬ Blank lead := fun blank => not_mem_of_blank (by decide) blank inLead
    rw [← List.append_assoc, trim_append_append _ solidLead notBlank, whole, trimEnd_eq_self solid]
  cases form with
  | filename =>
    rw [Form.write_filename]
    exact word (by decide) (by decide)
  | file =>
    rw [Form.write_file]
    exact word (by decide) (by decide)
  | bare =>
    have colon : ¬ Blank [':'] := fun blank =>
      not_mem_of_blank (by decide) blank (List.mem_singleton_self ':')
    have kept := trim_append_append [] notBlank colon
    rw [List.append_nil, trimStart_eq_self solid, List.append_nil] at kept
    rw [Form.write_bare, kept]
    rfl

end

/-- Besides the name a label holds letters, a colon and a space. -/
theorem not_mem_write {c : Char} (all : ∀ c ∈ name, isNameChar c = true)
    (outside : isNameChar c = false) (colon : c ≠ ':') (space : c ≠ ' ') (form : Form) :
    c ∉ form.write name := by
  have inName : c ∉ name := fun member => by simp [all c member] at outside
  have inWord {word : Text} (letters : word.all isNameChar = true) : c ∉ word := fun member => by
    simp [List.all_eq_true.mp letters c member] at outside
  have inSigns : c ∉ ": ".toList := by simp [colon, space]
  cases form with
  | filename =>
    rw [Form.write_filename]
    simp only [List.mem_append, not_or]
    exact ⟨inWord (by decide), inSigns, inName⟩
  | file =>
    rw [Form.write_file]
    simp only [List.mem_append, not_or]
    exact ⟨inWord (by decide), inSigns, inName⟩
  | bare => simp [Form.write_bare, inName, colon]

theorem write_ne_nil (form : Form) (name : Text) : form.write name ≠ [] := by
  cases form with
  | filename => simp [Form.write_filename]
  | file => simp [Form.write_file]
  | bare => simp [Form.write_bare]

/-! ## The last line -/

theorem nameHint?_append_blanks (blank : Blank blanks) (text : Text) :
    nameHint? (text ++ blanks) = nameHint? text := by
  have trimmed := trim_append_blanks text blank_nil blank
  rw [nameHint?_eq, nameHint?_eq, ← trimmed, List.nil_append]

/-- A name is given by the line behind the last line feed, whatever stands before that. -/
theorem nameHint?_append_line (nonempty : line ≠ []) (trimmed : trim line = line)
    (absent : '\n' ∉ line) (front : Text) : nameHint? (front ++ '\n' :: line) = lineHint? line := by
  have solid : ¬ Blank line := fun blank => nonempty <| by
    rw [← trimmed, trim, trimStart_eq_nil blank]
    rfl
  rw [nameHint?_eq]
  by_cases blank : Blank front
  · -- Then the line feed goes away too, and the line is all that is left.
    have lead : Blank (front ++ ['\n']) := by
      intro c member
      rcases List.mem_append.mp member with inside | last
      · exact blank c inside
      · rw [List.mem_singleton.mp last, isBlank_lineFeed]
    have whole := trim_append_blanks line lead blank_nil
    rw [List.append_nil, List.append_assoc, trimmed] at whole
    rw [← List.singleton_append, whole, lines_of_not_mem absent]
    rfl
  · have kept := trim_append_append ['\n'] blank solid
    rw [List.append_assoc, List.singleton_append, trimEnd_of_trim trimmed, List.append_assoc,
      List.singleton_append] at kept
    rw [kept, getLast?_lines_append_cons absent]
    rfl

namespace Labelled

theorem WellFormed.not_mem_lead (wellFormed : b.WellFormed) {c : Char}
    (outside : isNameChar c = false) (colon : c ≠ ':') (space : c ≠ ' ') (lineFeed : c ≠ '\n') :
    c ∉ b.lead := by
  rw [lead]
  cases label : b.label with
  | none => simpa using lineFeed
  | some given =>
    have all := (wellFormed.label _ label).2
    simp [lineFeed, not_mem_write all outside colon space given.1]

/-- A closing fence gives no name. -/
theorem nameHint?_append_write (front : Text) (b : Labelled) :
    nameHint? (front ++ b.write) = none := by
  have whole : front ++ b.write =
      (front ++ (b.lead ++ "```".toList ++ b.tag ++ "\n".toList ++ b.content)) ++
        '\n' :: ticks 3 ++ ['\n'] := by
    rw [write]
    simp [ticks]
  rw [whole, nameHint?_append_blanks blank_lineFeed,
    nameHint?_append_line (by decide) (by decide) (by decide)]
  decide

/-- A fence has the name of its own label, or none. -/
theorem nameHint?_append_lead (wellFormed : b.WellFormed) (unnamed : nameHint? front = none) :
    nameHint? (front ++ b.lead) = b.label.map Prod.snd := by
  rw [lead]
  cases label : b.label with
  | none => exact (nameHint?_append_blanks blank_lineFeed front).trans unnamed
  | some given =>
    obtain ⟨form, name⟩ := given
    obtain ⟨nonempty, all⟩ := wellFormed.label _ label
    have absent : '\n' ∉ form.write name :=
      not_mem_write all (by decide) (by decide) (by decide) form
    calc nameHint? (front ++ '\n' :: (form.write name ++ ['\n']))
        = nameHint? (front ++ '\n' :: form.write name ++ ['\n']) := by
          rw [List.append_assoc, List.cons_append]
      _ = nameHint? (front ++ '\n' :: form.write name) := nameHint?_append_blanks blank_lineFeed _
      _ = lineHint? (form.write name) :=
          nameHint?_append_line (write_ne_nil form name) (trim_write nonempty all form) absent front
      _ = some name := lineHint?_write nonempty all form

/-! ## No block is delimited -/

/-- The text that stands between the labels and the contents holds no start marker, nor do they. -/
theorem not_infix_flatMap_write (wellFormed : ∀ b ∈ blocks, b.WellFormed) :
    ¬ startMarker <:+: blocks.flatMap write := by
  have head : startMarker = '*' :: startMarker.tail := by decide
  have lineFeed : '\n' ∉ startMarker := by decide
  induction blocks with
  | nil => exact fun stands => absurd (List.infix_nil.mp stands) (by decide)
  | cons b blocks ih =>
    obtain ⟨here, later⟩ := List.forall_mem_cons.mp wellFormed
    have whole : (b :: blocks).flatMap write = (b.lead ++ "```".toList ++ b.tag ++ "\n".toList) ++
        (b.content ++ '\n' :: ("```\n".toList ++ blocks.flatMap write)) := by
      rw [List.flatMap_cons, write]
      simp
    have opening : '*' ∉ b.lead ++ "```".toList ++ b.tag ++ "\n".toList := by
      have inLead : '*' ∉ b.lead :=
        here.not_mem_lead (by decide) (by decide) (by decide) (by decide)
      have inTag : '*' ∉ b.tag := fun member => absurd (here.tag _ member) (by decide)
      simp [inLead, inTag]
    intro stands
    rw [whole, head] at stands
    have behind := infix_of_infix_append opening stands
    rw [← head, infix_append_cons_iff lineFeed] at behind
    rcases behind with inContent | inRest
    · exact here.content_marker inContent
    · rw [head] at inRest
      exact ih later (head ▸ infix_of_infix_append (by decide) inRest)

end Labelled

/-- Every delimited block starts with the marker. -/
theorem delimited_eq_nil (missing : ¬ startMarker <:+: text) : delimited text = [] := by
  have none (tail : Text) (_ : tail ≠ []) (isTail : tail <:+ text) :
      block (tail ++ []) = .none := by
    rw [block_eq_literal, List.append_nil]
    exact literal_eq_none fun stands => missing (stands.isInfix.trans isTail.isInfix)
  have found : blocks text = [] := by
    have skipped := findAll_append_of_none none
    rw [List.append_nil] at skipped
    exact skipped
  rw [delimited, found]
  rfl

/-! ## The scan for fences -/

theorem fence_cons_eq_none {c : Char} (outside : isTick c = false) (text : Text) :
    fence (c :: text) = none := by
  rw [fence_eq, each, one, if_neg (by simp [outside])]

/-- No block starts where no backtick stands. -/
theorem findAll_fence_append (outside : '\x60' ∉ front) (text : Text) :
    findAll fence (front ++ text) = findAll fence text := by
  refine findAll_append_of_none fun tail nonempty isTail => ?_
  obtain ⟨c, tail, rfl⟩ := List.exists_cons_of_ne_nil nonempty
  refine fence_cons_eq_none ?_ _
  have member : c ∈ front := isTail.subset (by simp)
  simp [isTick, ne_of_mem_of_not_mem member outside]

theorem numberedName_language (place : Nat) (tag : Text) :
    numberedName place (if tag = [] then "text" else tag) = numberedName place tag := by
  delta numberedName
  rw [extensionOf_language]

namespace Labelled

/-- The block from its fence on, before the text behind it. -/
def fenced (b : Labelled) (later : Text) : Text :=
  ticks 3 ++ (b.tag ++ '\n' :: (b.content ++ '\n' :: (ticks 3 ++ '\n' :: later)))

theorem write_append (b : Labelled) (later : Text) :
    b.write ++ later = b.lead ++ b.fenced later := by
  rw [write, fenced]
  simp [ticks]

theorem findAll_fence_write (wellFormed : b.WellFormed) (later : Text) :
    findAll fence (b.write ++ later) =
      ⟨b.fenced later, b.tag, b.content ++ ['\n']⟩ :: findAll fence later := by
  have found : fence (b.fenced later) =
      some (⟨b.fenced later, b.tag, b.content ++ ['\n']⟩, '\n' :: later) :=
    fence_eq_some_iff.mpr ⟨3, _, Nat.le_refl 3, rfl, wellFormed.tag, rfl,
      cut?_append_cons (by decide) wellFormed.content_fence⟩
  have clean : '\x60' ∉ b.lead :=
    wellFormed.not_mem_lead (by decide) (by decide) (by decide) (by decide)
  have behind : findAll fence (['\n'] ++ later) = findAll fence later :=
    findAll_fence_append (by decide) later
  rw [write_append, findAll_fence_append clean, findAll_of_some consuming_fence found, ← behind,
    List.singleton_append]

theorem artifact_fenced (wellFormed : b.WellFormed) (unnamed : nameHint? front = none)
    (place : Nat) (later : Text) :
    (⟨b.fenced later, b.tag, b.content ++ ['\n']⟩ : Fence).artifact
      (front ++ (b.write ++ later)) place = b.artifact place := by
  have content := trim_append_blanks b.content blank_nil blank_lineFeed
  rw [List.nil_append, wellFormed.content_trim] at content
  rw [Fence.artifact, artifact, write_append, ← List.append_assoc, between_append,
    nameHint?_append_lead wellFormed unnamed, content]
  dsimp only
  rw [numberedName_language]
  cases b.label.map Prod.snd <;> rfl

/-- Behind a text that gives no name to a fence, written blocks come back as their files. -/
theorem mapIdx_findAll_flatMap_write (wellFormed : ∀ b ∈ blocks, b.WellFormed)
    (unnamed : nameHint? front = none) (place : Nat) :
    ((findAll fence (blocks.flatMap write)).mapIdx fun i f =>
      f.artifact (front ++ blocks.flatMap write) (i + place)) =
      blocks.mapIdx fun i b => b.artifact (i + place) := by
  induction blocks generalizing front place with
  | nil => rfl
  | cons b blocks ih =>
    obtain ⟨here, later⟩ := List.forall_mem_cons.mp wellFormed
    have behind := ih later (nameHint?_append_write front b) (place + 1)
    rw [List.flatMap_cons, findAll_fence_write here, List.mapIdx_cons, List.mapIdx_cons,
      artifact_fenced here unnamed]
    simpa [Nat.add_assoc, Nat.add_comm 1, List.append_assoc] using behind

end Labelled

/-- Blocks that are written one after another, each under its label or under none, come back in
order: each with the name of its own label or with a number, its tag and its content, and with
nothing of another block. -/
theorem extract_labelled (wellFormed : ∀ b ∈ blocks, b.WellFormed) :
    extract (blocks.flatMap Labelled.write) = blocks.mapIdx fun i b => b.artifact (i + 1) := by
  have undelimited := delimited_eq_nil (Labelled.not_infix_flatMap_write wellFormed)
  have files : extract (blocks.flatMap Labelled.write) =
      fenced (blocks.flatMap Labelled.write) := by
    rw [extract, undelimited]
  have unnamed : nameHint? [] = none := by decide
  rw [files, fenced, fences]
  exact Labelled.mapIdx_findAll_flatMap_write wellFormed unnamed 1

/-- A label may end in the word of another form, and contents may end in lines like labels. -/
theorem extract_labelled_like_labels :
    let rules : Labelled := ⟨some (.bare, "Makefile"), [], "all:\n\techo file: other.py"⟩
    let next : Labelled := ⟨none, "ts", "src/b.ts:"⟩
    let last : Labelled := ⟨some (.filename, "file"), "py", []⟩
    extract ([rules, next, last].flatMap Labelled.write) =
      [⟨"Makefile", "text", rules.content⟩, ⟨"file_2.ts", "ts", next.content⟩,
        ⟨"file", "py", []⟩] := by
  intro rules next last
  have makefile : ∀ c ∈ "Makefile".toList, isNameChar c = true := List.all_eq_true.mp (by decide)
  have file : ∀ c ∈ "file".toList, isNameChar c = true := List.all_eq_true.mp (by decide)
  have wellFormed : ∀ b ∈ [rules, next, last], b.WellFormed := by
    simp only [List.mem_cons, List.not_mem_nil, or_false, forall_eq_or_imp, forall_eq]
    refine ⟨⟨by simpa [rules] using makefile, ?_, ?_, ?_, ?_⟩, ⟨by simp [next], ?_, ?_, ?_, ?_⟩,
      ⟨by simpa [last] using file, ?_, ?_, ?_, ?_⟩⟩
    -- Left are the tags, and what is asked of the contents.
    all_goals first | exact List.all_eq_true.mp (by decide) | decide
  rw [extract_labelled wellFormed]
  decide

end SandboxPreview.Reply
