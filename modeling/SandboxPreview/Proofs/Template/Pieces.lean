/-
# Loose tags

A template read without pairing its tags: texts, logic tags and outputs one after another, with
any characters but braces between the braces of each. The rules for blocks pair the tags. A block
goes from a logic tag with its opening words to the first piece that spells its closing words, and
whatever pieces lie between go with it. When this piece is an output, its outer closing brace is
left behind as text.

## Main definitions

* `Piece`, `Piece.source`, `Piece.WellFormed`: loose pieces and how they are written;
* `cutAt?`: pieces cut at the first one that spells some words;
* `outside`, `firstBlock`: the pieces outside the blocks of a kind, and the body of the first one;
* `Apart`: no output opens a block that a later piece closes;
* `Unnested`: the templates in which no output is taken for a block.

## Main results

* `cut?_flatMap_source`: cutting the template is cutting the pieces;
* `removeAll_namedBlock_pieces`, `takeBlocks_pieces`: what the rule for a block leaves and finds;
* `Unnested.outside`: what is left is a template of loose tags again.
-/
import SandboxPreview.Proofs.Template.Blocks

namespace SandboxPreview.Template

open Text Pattern

/-! ## Pieces -/

/-- A piece of a template in which tags are not paired. -/
inductive Piece where
  | text (body : Text)
  | logic (words : Text)
  | output (inner : Text)
  deriving DecidableEq

namespace Piece

/-- What stands in the template. -/
def source : Piece → Text
  | text body => body
  | logic words => tag words
  | output inner => '\x7b' :: '\x7b' :: inner ++ ['\x7d', '\x7d']

/-- No tag holds a brace, an output holds something, and no text starts a tag. -/
def WellFormed : Piece → Prop
  | text body => '\x7b' ∉ body
  | logic words => '\x7b' ∉ words ∧ '\x7d' ∉ words
  | output inner => inner ≠ [] ∧ '\x7b' ∉ inner ∧ '\x7d' ∉ inner

/-- The output whose inner braces make a logic tag. -/
def spelling (words : Text) : Piece := output ('%' :: words ++ ['%'])

/-- A piece cut around the tag that it spells: the text before it and the pieces behind it. -/
def cut? (words : Text) : Piece → Option (Text × List Piece)
  | text _ => none
  | logic words' => if words' = words then some ([], []) else none
  | output inner =>
    if inner = '%' :: words ++ ['%'] then some (['\x7b'], [text ['\x7d']]) else none

end Piece

instance : DecidablePred Piece.WellFormed
  | .text _ => inferInstanceAs (Decidable (_ ∉ _))
  | .logic _ => inferInstanceAs (Decidable (_ ∧ _))
  | .output _ => inferInstanceAs (Decidable (_ ∧ _ ∧ _))

/-- The pieces cut around the first tag with these words: the source before it and the pieces behind
it. -/
def cutAt? (words : Text) : List Piece → Option (Text × List Piece)
  | [] => none
  | piece :: later =>
    match piece.cut? words with
    | some (front, behind) => some (front, behind ++ later)
    | none => (cutAt? words later).map fun cut => (piece.source ++ cut.1, cut.2)

/-- The block of a kind that starts with a piece: its body and the pieces behind it. -/
def blockAt? (kind : Block) (piece : Piece) (later : List Piece) : Option (Text × List Piece) :=
  if piece = .logic kind.opening then cutAt? kind.closing later else none

/-- The pieces outside the blocks of a kind. The flag says that the pieces start in a block. -/
def outside (kind : Block) : (inBlock : Bool) → List Piece → List Piece
  | _, [] => []
  | true, piece :: later =>
    match piece.cut? kind.closing with
    | some (_, behind) => behind ++ outside kind false later
    | none => outside kind true later
  | false, piece :: later =>
    match blockAt? kind piece later with
    | some _ => outside kind true later
    | none => piece :: outside kind false later

/-- The body of the first block of a kind. -/
def firstBlock (kind : Block) : List Piece → Option Text
  | [] => none
  | piece :: later =>
    match blockAt? kind piece later with
    | some (body, _) => some body
    | none => firstBlock kind later

/-- No output that spells the opening tag of a block stands before a closing tag. -/
def Apart (kind : Block) (pieces : List Piece) : Prop :=
  pieces.Pairwise fun earlier later =>
    earlier = .spelling kind.opening → later.cut? kind.closing = none

instance (kind : Block) (pieces : List Piece) : Decidable (Apart kind pieces) :=
  inferInstanceAs (Decidable (pieces.Pairwise _))

/-- Each piece is well formed, and no tag inside an output is taken for the start of a block. -/
structure Unnested (pieces : List Piece) : Prop where
  formed : ∀ piece ∈ pieces, piece.WellFormed
  apart : ∀ kind, Apart kind pieces

variable {words tail rest body : Text} {kind : Block} {inBlock : Bool}
  {piece : Piece} {pieces later left : List Piece}

/-! ## Where tags start -/

/-- A tag that starts in a piece is the whole of a logic tag, or all of an output but its outer
braces. -/
theorem Piece.tag_isPrefix (formed : piece.WellFormed) (closing : '\x7d' ∉ words)
    (nonempty : tail ≠ []) (isTail : tail <:+ piece.source) (stands : tag words <+: tail ++ rest) :
    piece = .logic words ∧ tail = tag words ∨
      piece = .spelling words ∧ tail = tag words ++ ['\x7d'] := by
  cases piece with
  | text body => exact absurd stands (not_brace_isPrefix formed nonempty isTail)
  | logic words' =>
    obtain ⟨rfl, whole⟩ :=
      logic_of_tag_isPrefix closing formed.1 formed.2 nonempty isTail stands
    exact Or.inl ⟨rfl, whole⟩
  | output inner =>
    obtain ⟨rfl, whole⟩ :=
      tag_isPrefix_braces formed.2.1 formed.2.2 closing nonempty isTail stands
    exact Or.inr ⟨rfl, whole⟩

theorem Piece.cut?_logic (words : Text) : (Piece.logic words).cut? words = some ([], []) :=
  if_pos rfl

theorem Piece.cut?_spelling (words : Text) :
    (Piece.spelling words).cut? words = some (['\x7b'], [.text ['\x7d']]) :=
  if_pos rfl

theorem Piece.cut?_eq_some {front : Text} {behind : List Piece}
    (found : piece.cut? words = some (front, behind)) :
    piece = .logic words ∧ front = [] ∧ behind = [] ∨
      piece = .spelling words ∧ front = ['\x7b'] ∧ behind = [.text ['\x7d']] := by
  cases piece with
  | text body => simp [cut?] at found
  | logic words' =>
    rw [cut?] at found
    split at found
    case isTrue same =>
      obtain ⟨rfl, rfl⟩ : [] = front ∧ [] = behind := by simpa using found
      exact Or.inl ⟨congrArg _ same, rfl, rfl⟩
    case isFalse => cases found
  | output inner =>
    rw [cut?] at found
    split at found
    case isTrue same =>
      obtain ⟨rfl, rfl⟩ : ['\x7b'] = front ∧ [.text ['\x7d']] = behind := by simpa using found
      exact Or.inr ⟨congrArg _ same, rfl, rfl⟩
    case isFalse => cases found

/-- No tag with these words starts in a piece that does not spell it. -/
theorem Piece.not_tag_isPrefix (formed : piece.WellFormed) (closing : '\x7d' ∉ words)
    (missing : piece.cut? words = none) (nonempty : tail ≠ []) (isTail : tail <:+ piece.source) :
    ¬ tag words <+: tail ++ rest := by
  intro stands
  rcases piece.tag_isPrefix formed closing nonempty isTail stands with ⟨rfl, -⟩ | ⟨rfl, -⟩
  · rw [Piece.cut?_logic] at missing
    cases missing
  · rw [Piece.cut?_spelling] at missing
    cases missing

/-- The first tag of the template is where the pieces are cut. -/
theorem cut?_flatMap_source (formed : ∀ piece ∈ pieces, piece.WellFormed)
    (closing : '\x7d' ∉ words) :
    cut? (tag words) (pieces.flatMap Piece.source) =
      (cutAt? words pieces).map fun cut => (cut.1, cut.2.flatMap Piece.source) := by
  induction pieces with
  | nil => rfl
  | cons piece later ih =>
    obtain ⟨here, others⟩ := List.forall_mem_cons.mp formed
    rw [List.flatMap_cons, cutAt?]
    cases found : piece.cut? words with
    | none =>
      rw [cut?_append_of_missing fun tail => piece.not_tag_isPrefix here closing found, ih others]
      cases cutAt? words later <;> rfl
    | some parts =>
      obtain ⟨front, behind⟩ := parts
      rcases Piece.cut?_eq_some found with ⟨rfl, rfl, rfl⟩ | ⟨rfl, rfl, rfl⟩
      · refine cut?_eq_some_iff.mpr ⟨rfl, fun tail nonempty isTail => ?_⟩
        exact absurd (List.suffix_nil.mp isTail) nonempty
      · refine cut?_eq_some_iff.mpr ⟨by simp [Piece.source, Piece.spelling, tag], ?_⟩
        -- Only the outer brace of the output is before the tag.
        intro tail nonempty isTail stands
        obtain rfl | inner := List.suffix_cons_iff.mp isTail
        · simp [tag] at stands
        · exact nonempty (List.suffix_nil.mp inner)

/-! ## One block -/

theorem cutAt?_eq_none (unclosed : ∀ piece ∈ pieces, piece.cut? words = none) :
    cutAt? words pieces = none := by
  induction pieces with
  | nil => rfl
  | cons piece later ih =>
    obtain ⟨here, others⟩ := List.forall_mem_cons.mp unclosed
    rw [cutAt?, here, ih others]
    rfl

theorem namedBlock_eq_cut? (kind : Block) (text : Text) :
    namedBlock kind.name (tag kind.opening ++ text) = cut? (tag kind.closing) text := by
  rw [namedBlock_eq, kind.openTag_name, kind.closeTag_name, after?_append, Option.bind_some]
  cases found : cut? (tag kind.closing) text with
  | none => rfl
  | some cut =>
    obtain ⟨body, rest⟩ := cut
    have whole := eq_append_of_cut? found
    rw [List.append_assoc] at whole
    rw [Option.map_some, whole, between_append]

/-- A block is found where the pieces have one. -/
theorem namedBlock_of_blockAt? (formed : ∀ other ∈ later, other.WellFormed)
    (found : blockAt? kind piece later = some (body, left)) :
    namedBlock kind.name (piece.source ++ later.flatMap Piece.source) =
      some (body, left.flatMap Piece.source) := by
  rw [blockAt?] at found
  split at found
  case isTrue same =>
    rw [same, Piece.source, namedBlock_eq_cut?,
      cut?_flatMap_source formed kind.isWords_closing.closing, found]
    rfl
  case isFalse => cases found

/-- Nothing is found in a piece with which no block starts. -/
theorem namedBlock_of_blockAt?_eq_none (formed : ∀ other ∈ piece :: later, other.WellFormed)
    (apart : Apart kind (piece :: later)) (missing : blockAt? kind piece later = none)
    (nonempty : tail ≠ []) (isTail : tail <:+ piece.source) :
    namedBlock kind.name (tail ++ later.flatMap Piece.source) = none := by
  obtain ⟨here, others⟩ := List.forall_mem_cons.mp formed
  by_cases stands : tag kind.opening <+: tail ++ later.flatMap Piece.source
  · have noClosing (unclosed : cutAt? kind.closing later = none) :
        cut? (tag kind.closing) (later.flatMap Piece.source) = none := by
      rw [cut?_flatMap_source others kind.isWords_closing.closing, unclosed]
      rfl
    rcases piece.tag_isPrefix here kind.isWords_opening.closing nonempty isTail stands with
      ⟨rfl, rfl⟩ | ⟨rfl, rfl⟩
    · -- The opening tag is there, and no piece behind it closes the block.
      have unclosed : cutAt? kind.closing later = none := by rwa [blockAt?, if_pos rfl] at missing
      rw [namedBlock_eq_cut?]
      exact noClosing unclosed
    · have unclosed : cutAt? kind.closing later = none :=
        cutAt?_eq_none fun other member => (List.pairwise_cons.mp apart).1 other member rfl
      have brace : ¬ tag kind.closing <:+: '\x7d' :: later.flatMap Piece.source := by
        intro closed
        rcases List.infix_cons_iff.mp closed with start | behind
        · simp [tag] at start
        · exact cut?_eq_none_iff.mp (noClosing unclosed) behind
      rw [List.append_assoc, namedBlock_eq_cut?, List.singleton_append]
      exact cut?_eq_none_iff.mpr brace
  · rw [namedBlock_eq, kind.openTag_name, after?_eq_none_iff.mpr stands]
    rfl

/-! ## What a rule leaves -/

theorem Unnested.of_suffix (unnested : Unnested pieces) (isTail : later <:+ pieces) :
    Unnested later :=
  ⟨fun piece member => unnested.formed piece (isTail.subset member),
    fun kind => (unnested.apart kind).sublist isTail.sublist⟩

theorem Unnested.text_cons (unnested : Unnested pieces) (clean : '\x7b' ∉ body) :
    Unnested (.text body :: pieces) :=
  ⟨List.forall_mem_cons.mpr ⟨clean, unnested.formed⟩,
    fun kind => List.pairwise_cons.mpr ⟨fun _ _ same => (nomatch same), unnested.apart kind⟩⟩

/-- Behind the cut are pieces of the template, after the brace of an output at most. -/
theorem left_of_cutAt? (found : cutAt? words pieces = some (body, left)) :
    ∃ behind later, left = behind ++ later ∧ later <:+ pieces ∧ later.length < pieces.length ∧
      (behind = [] ∨ behind = [.text ['\x7d']]) := by
  induction pieces generalizing body with
  | nil => cases found
  | cons piece later ih =>
    rw [cutAt?] at found
    split at found
    case h_1 front behind here =>
      obtain ⟨-, rfl⟩ : front = body ∧ behind ++ later = left := by simpa using found
      exact ⟨behind, later, rfl, List.suffix_cons piece later, Nat.lt_succ_self _,
        (Piece.cut?_eq_some here).imp (·.2.2) (·.2.2)⟩
    case h_2 =>
      obtain ⟨⟨body', left'⟩, inner, same⟩ := Option.map_eq_some_iff.mp found
      obtain rfl : left' = left := (Prod.mk.inj same).2
      obtain ⟨behind, others, split, isTail, shorter, brace⟩ := ih inner
      exact ⟨behind, others, split, isTail.trans (List.suffix_cons piece later),
        shorter.trans (Nat.lt_succ_self _), brace⟩

theorem Unnested.of_cutAt? (unnested : Unnested pieces)
    (found : cutAt? words pieces = some (body, left)) : Unnested left := by
  obtain ⟨behind, later, rfl, isTail, -, rfl | rfl⟩ := left_of_cutAt? found
  · exact unnested.of_suffix isTail
  · exact (unnested.of_suffix isTail).text_cons (by decide)

theorem length_le_of_cutAt? (found : cutAt? words pieces = some (body, left)) :
    left.length ≤ pieces.length := by
  obtain ⟨behind, later, rfl, -, shorter, rfl | rfl⟩ := left_of_cutAt? found
  · exact shorter.le
  · exact Nat.succ_le_of_lt shorter

/-- In a block, the pieces go on behind its end. -/
theorem outside_inBlock (found : cutAt? kind.closing pieces = some (body, left)) :
    outside kind true pieces = outside kind false left := by
  induction pieces generalizing body with
  | nil => cases found
  | cons piece later ih =>
    rw [cutAt?] at found
    rw [outside]
    cases here : piece.cut? kind.closing with
    | some parts =>
      obtain ⟨front, behind⟩ := parts
      simp only [here, Option.some.injEq, Prod.mk.injEq] at found
      obtain ⟨-, rfl⟩ := found
      rcases Piece.cut?_eq_some here with ⟨-, -, rfl⟩ | ⟨-, -, rfl⟩ <;> rfl
    | none =>
      simp only [here] at found
      obtain ⟨⟨body', left'⟩, inner, same⟩ := Option.map_eq_some_iff.mp found
      obtain rfl : left' = left := (Prod.mk.inj same).2
      exact ih inner

theorem cutAt?_of_blockAt? (found : blockAt? kind piece later = some (body, left)) :
    cutAt? kind.closing later = some (body, left) := by
  rw [blockAt?] at found
  split at found
  case isTrue => exact found
  case isFalse => cases found

/-- The rule for a block leaves the pieces outside. -/
theorem removeAll_namedBlock_pieces (kind : Block) (unnested : Unnested pieces) :
    removeAll (namedBlock kind.name) (pieces.flatMap Piece.source) =
      (outside kind false pieces).flatMap Piece.source := by
  -- A block may take many pieces at once, so the induction is on their number.
  induction size : pieces.length using Nat.strongRecOn generalizing pieces with
  | ind size ih =>
    cases pieces with
    | nil => rfl
    | cons piece later =>
      have behind : Unnested later := unnested.of_suffix (List.suffix_cons piece later)
      rw [List.length_cons] at size
      rw [List.flatMap_cons, outside]
      cases found : blockAt? kind piece later with
      | some cut =>
        obtain ⟨body, left⟩ := cut
        have closed := cutAt?_of_blockAt? found
        have shorter := length_le_of_cutAt? closed
        rw [removeAll, replaceAll_of_some (consuming_namedBlock kind)
          (namedBlock_of_blockAt? behind.formed found), List.nil_append, ← removeAll,
          ih left.length (by omega) (behind.of_cutAt? closed) rfl, ← outside_inBlock closed]
      | none =>
        rw [removeAll, replaceAll_append_of_none fun tail =>
          namedBlock_of_blockAt?_eq_none unnested.formed (unnested.apart kind) found, ← removeAll,
          ih later.length (by omega) behind rfl, List.flatMap_cons]

/-- The rule for a block finds the bodies of the blocks, the first of them first. -/
theorem head?_findAll_namedBlock (kind : Block) (unnested : Unnested pieces) :
    (findAll (namedBlock kind.name) (pieces.flatMap Piece.source)).head? =
      firstBlock kind pieces := by
  induction pieces with
  | nil => rfl
  | cons piece later ih =>
    have behind : Unnested later := unnested.of_suffix (List.suffix_cons piece later)
    rw [List.flatMap_cons, firstBlock]
    cases found : blockAt? kind piece later with
    | some cut =>
      rw [findAll_of_some (consuming_namedBlock kind)
        (namedBlock_of_blockAt? behind.formed found)]
      rfl
    | none =>
      rw [findAll_append_of_none fun tail =>
        namedBlock_of_blockAt?_eq_none unnested.formed (unnested.apart kind) found, ih behind]

theorem takeBlocks_pieces (kind : Block) (unnested : Unnested pieces) :
    takeBlocks kind.name (pieces.flatMap Piece.source) =
      ((outside kind false pieces).flatMap Piece.source, firstBlock kind pieces) := by
  rw [takeBlocks_eq, removeAll_namedBlock_pieces kind unnested,
    first?_eq_head? (consuming_namedBlock kind), head?_findAll_namedBlock kind unnested]

theorem mem_outside (member : piece ∈ outside kind inBlock pieces) :
    piece ∈ pieces ∨ piece = .text ['\x7d'] := by
  induction pieces generalizing inBlock with
  | nil => cases inBlock <;> cases member
  | cons first later ih =>
    cases inBlock with
    | true =>
      rw [outside] at member
      split at member
      case h_1 front behind here =>
        rcases List.mem_append.mp member with brace | others
        · rcases Piece.cut?_eq_some here with ⟨-, -, rfl⟩ | ⟨-, -, rfl⟩
          · cases brace
          · exact Or.inr (List.mem_singleton.mp brace)
        · exact (ih others).imp_left (List.mem_cons_of_mem first)
      case h_2 => exact (ih member).imp_left (List.mem_cons_of_mem first)
    | false =>
      rw [outside] at member
      split at member
      case h_1 => exact (ih member).imp_left (List.mem_cons_of_mem first)
      case h_2 =>
        rcases List.mem_cons.mp member with rfl | others
        · exact Or.inl List.mem_cons_self
        · exact (ih others).imp_left (List.mem_cons_of_mem first)

theorem logic_mem_of_outside (member : .logic words ∈ outside kind inBlock pieces) :
    .logic words ∈ pieces :=
  (mem_outside member).resolve_right Piece.noConfusion

/-- What is left is a template of loose tags again. -/
theorem Unnested.outside (unnested : Unnested pieces) (kind : Block) (inBlock : Bool) :
    Unnested (outside kind inBlock pieces) := by
  induction pieces generalizing inBlock with
  | nil => cases inBlock <;> exact unnested
  | cons first later ih =>
    have others := ih (unnested.of_suffix (List.suffix_cons first later))
    cases inBlock with
    | true =>
      rw [Template.outside]
      split
      case h_1 front behind here =>
        rcases Piece.cut?_eq_some here with ⟨-, -, rfl⟩ | ⟨-, -, rfl⟩
        · exact others false
        · exact (others false).text_cons (by decide)
      case h_2 => exact others true
    | false =>
      rw [Template.outside]
      split
      case h_1 => exact others true
      case h_2 =>
        refine ⟨List.forall_mem_cons.mpr ⟨unnested.formed _ List.mem_cons_self,
          (others false).formed⟩, fun other => List.pairwise_cons.mpr
            ⟨?_, (others false).apart other⟩⟩
        intro piece member opens
        rcases mem_outside member with inLater | rfl
        · exact (List.pairwise_cons.mp (unnested.apart other)).1 piece inLater opens
        · rfl

end SandboxPreview.Template
