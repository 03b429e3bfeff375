/-
# Writing and reading back

Artifacts that are written as blocks between pieces of prose are read back as they were, and the
prose is what is left without the blocks.

## Main definitions

* `weave`: artifacts as blocks between pieces of prose.

## Main results

* `segments_weave`: where a pattern that starts with the marker matches in a woven text;
* `extract_weave`: reading back, the prose around the blocks, and the converse.
-/
import SandboxPreview.Proofs.Reply.Writable

namespace SandboxPreview.Reply

open Pattern Text

variable {α : Type} {prose : Text} {pieces : List (Artifact × Text)}

/-- Artifacts as blocks, with a piece of prose before the first and after each. -/
def weave (prose : Text) (pieces : List (Artifact × Text)) : Text :=
  prose ++ pieces.flatMap fun piece => serialize [piece.1] ++ piece.2

theorem weave_cons (piece : Artifact × Text) :
    weave prose (piece :: pieces) =
      prose ++ '\n' :: (core piece.1 ++ weave ('\n' :: piece.2) pieces) := by
  simp [weave, serialize_singleton]

/-! ## Reading a woven text -/

/-- A pattern that starts with the marker matches at the written blocks only. -/
theorem segments_weave {pattern : Reader α} (consuming : Consuming pattern)
    (marked : ∀ text found, pattern text = some found → regionMarker <+: text)
    (result : Artifact → α)
    (reads : ∀ piece ∈ pieces, ∀ rest, pattern (core piece.1 ++ rest) = some (result piece.1, rest))
    (clean : ¬ regionMarker <:+: prose)
    (cleanPieces : ∀ piece ∈ pieces, ¬ regionMarker <:+: piece.2) :
    segments pattern (weave prose pieces) = prose.map .plain ++ pieces.flatMap fun piece =>
      .plain '\n' :: .found (result piece.1) :: .plain '\n' :: piece.2.map .plain := by
  induction pieces generalizing prose with
  | nil =>
    have none (tail : Text) (_ : tail ≠ []) (isTail : tail <:+ prose) :
        pattern (tail ++ []) = .none := by
      rw [Option.eq_none_iff_forall_ne_some, List.append_nil]
      exact fun found here => clean ((marked _ _ here).isInfix.trans isTail.isInfix)
    simpa [weave] using segments_append_of_none none
  | cons piece pieces ih =>
    have none (tail : Text) (nonempty : tail ≠ []) (isTail : tail <:+ prose ++ ['\n']) :
        pattern (tail ++ (core piece.1 ++ weave ('\n' :: piece.2) pieces)) = .none := by
      rw [Option.eq_none_iff_forall_ne_some]
      intro found here
      -- The marker holds no line feed, so the one before the block keeps it inside the prose.
      exact clean (infix_of_prefix_suffix_append lineFeed_not_mem_regionMarker nonempty isTail
        (marked _ _ here))
    -- What stands behind the block is prose again, with the line feed of the block in front.
    have cleanNext : ¬ regionMarker <:+: '\n' :: piece.2 :=
      not_infix_lineFeed_cons lineFeed_not_mem_regionMarker regionMarker_ne_nil
        (cleanPieces piece (by simp))
    have inner := ih (fun other member => reads other (by simp [member])) cleanNext
      (fun other member => cleanPieces other (by simp [member]))
    rw [weave_cons, ← List.singleton_append, ← List.append_assoc, segments_append_of_none none,
      segments_of_some consuming (reads piece (by simp) _), inner]
    simp

theorem delimited_weave (writable : ∀ piece ∈ pieces, Writable piece.1)
    (clean : ¬ regionMarker <:+: prose)
    (cleanPieces : ∀ piece ∈ pieces, ¬ regionMarker <:+: piece.2) :
    delimited (weave prose pieces) = pieces.map Prod.fst := by
  have found : blocks (weave prose pieces) =
      pieces.map fun piece => ⟨piece.1.name, '\n' :: piece.1.content ++ ['\n']⟩ := by
    rw [blocks, findAll, segments_weave consuming_block
      (fun _ _ => regionMarker_prefix_of_block) (fun a => ⟨a.name, '\n' :: a.content ++ ['\n']⟩)
      (fun piece member =>
        block_core (writable piece member).legible (writable piece member).name_end) clean cleanPieces]
    rw [List.filterMap_append, filterMap_match?_plain, List.nil_append, List.filterMap_flatMap,
      List.map_eq_flatMap]
    exact congrArg (pieces.flatMap ·) (funext fun piece => by
      simp [List.filterMap_cons, Segment.match?])
  rw [delimited, found, List.filterMap_map]
  calc
    _ = pieces.filterMap (fun piece => some piece.1) :=
      List.filterMap_congr fun piece member => artifact?_of_writable (writable piece member)
    _ = pieces.map Prod.fst := by simp

theorem explanation_weave (writable : ∀ piece ∈ pieces, Writable piece.1)
    (clean : ¬ regionMarker <:+: prose)
    (cleanPieces : ∀ piece ∈ pieces, ¬ regionMarker <:+: piece.2) :
    explanation (weave prose pieces) =
      trim (prose ++ pieces.flatMap fun piece => "\n\n".toList ++ piece.2) := by
  have segments_eq := segments_weave consuming_region
      (fun _ _ => regionMarker_prefix_of_region) (fun _ => ())
      (fun piece member => region_core (writable piece member)) clean cleanPieces
  rw [explanation, removeAll, replaceAll, segments_eq]
  simp [List.flatMap_assoc, Segment.render]

theorem extract_serialize_iff {a : Artifact} : extract (serialize [a]) = [a] ↔ Writable a := by
  refine ⟨writable_of_extract, fun writable => ?_⟩
  have found : delimited (weave [] [(a, [])]) = [a] :=
    delimited_weave (by simpa using writable) (by decide)
      (by simp only [List.mem_singleton, forall_eq]; decide)
  -- A single block is woven without any prose.
  have whole : weave [] [(a, [])] = serialize [a] := by simp [weave]
  rw [whole] at found
  rw [extract, found]

/-- Writable artifacts between pieces of prose are read back in order, and the explanation is the
prose with two line feeds in place of each block. No other artifact is read back from its own
block. -/
theorem extract_weave :
    (∀ (prose : Text) (pieces : List (Artifact × Text)), pieces ≠ [] →
      (∀ piece ∈ pieces, Writable piece.1) → ¬ regionMarker <:+: prose →
      (∀ piece ∈ pieces, ¬ regionMarker <:+: piece.2) →
        extract (weave prose pieces) = pieces.map Prod.fst ∧
          explanation (weave prose pieces) =
            trim (prose ++ pieces.flatMap fun piece => "\n\n".toList ++ piece.2)) ∧
    (∀ a : Artifact, extract (serialize [a]) = [a] ↔ Writable a) ∧
    (∀ content : Text, trim content = content →
      (unfence content = content ↔ ¬ OpensFence content ∧ ¬ ClosesFence content)) := by
  refine ⟨?_, fun a => extract_serialize_iff, fun content => unfence_eq_self_iff⟩
  intro prose pieces nonempty writable clean cleanPieces
  refine ⟨?_, explanation_weave writable clean cleanPieces⟩
  rw [extract, delimited_weave writable clean cleanPieces]
  split
  case h_1 empty => exact absurd (List.map_eq_nil_iff.mp empty) nonempty
  case h_2 => rfl

/-- A content may hold a start marker and a prose an end marker. -/
theorem extract_weave_nested_markers :
    let view : Artifact := ⟨"src/View.jsx", "jsx", "// ***FILE_START: a*** b"⟩
    let rules : Artifact := ⟨"Makefile", "makefile", "all:\n\techo ok"⟩
    let text := weave "Ends in ***FILE_END***.".toList [(view, " Then ***".toList), (rules, [])]
    extract text = [view, rules] ∧
      explanation text = "Ends in ***FILE_END***.\n\n Then ***".toList ∧
      unfence view.content = view.content := by
  intro view rules text
  have writable : ∀ piece ∈ [(view, " Then ***".toList), (rules, [])], Writable piece.1 := by
    simp only [List.mem_cons, List.not_mem_nil, or_false, forall_eq_or_imp, forall_eq]
    constructor <;> constructor <;> decide
  have clean : ∀ piece ∈ [(view, " Then ***".toList), (rules, [])],
      ¬ regionMarker <:+: piece.2 := by decide
  have read :=
    extract_weave.1 "Ends in ***FILE_END***.".toList _ (by simp) writable (by decide) clean
  have whole := extract_weave.2.2 view.content (by decide)
  refine ⟨read.1, read.2.trans (by decide), whole.mpr ⟨?_, by unfold ClosesFence; decide⟩⟩
  rintro ⟨tag, rest, -, split⟩
  exact absurd (congrArg List.head? split) (by simp [view])

end SandboxPreview.Reply
