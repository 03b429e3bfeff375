/-
# Lines

A text is split at a mark as lists are, so pieces that do not hold the mark are read back from the
text that has the mark between them.

## Main results

* `splitOn_join`: pieces are read back;
* `lines_join`: texts on one line each are the lines of their join;
* `infix_join_of_mem`, `infix_join_iff`: a joined text holds its parts, and lines hold what one of
  them holds;
* `beforeLast?_append_cons`: what stands before the last mark;
* `not_infix_ofLines`: words that stand on no line.
-/
import Mathlib.Data.List.TakeWhile
import SandboxPreview.Proofs.Text.Occurrence

namespace SandboxPreview.Text

variable {word text back : Text} {pieces : List Text} {written : List String} {line : String}

theorem splitOn_eq (mark : Char) (text : Text) : splitOn mark text = List.splitOn mark text := by
  induction text with
  | nil => rfl
  | cons c text ih =>
    rw [splitOn, List.splitOn_cons_eq_if_modifyHead, ih]
    by_cases same : c = mark
    · simp [same]
    · rw [if_neg same, if_neg (by simpa using same)]
      cases split : List.splitOn mark text with
      | nil => exact absurd split (List.splitOn_ne_nil _ _)
      | cons piece pieces => rfl

theorem splitOn_join {mark : Char} (clean : ∀ piece ∈ pieces, mark ∉ piece)
    (nonempty : pieces ≠ []) : splitOn mark (join [mark] pieces) = pieces := by
  rw [splitOn_eq]
  exact List.splitOn_intercalate mark clean nonempty

theorem lines_join (clean : ∀ piece ∈ pieces, '\n' ∉ piece) (nonempty : pieces ≠ []) :
    lines (join "\n" pieces) = pieces :=
  splitOn_join clean nonempty

theorem splitOn_of_not_mem {mark : Char} (absent : mark ∉ text) : splitOn mark text = [text] := by
  rw [splitOn_eq, List.splitOn_eq_singleton absent]

/-- The first piece ends at the first mark. -/
theorem splitOn_append_cons {mark : Char} (absent : mark ∉ text) (rest : Text) :
    splitOn mark (text ++ mark :: rest) = text :: splitOn mark rest := by
  rw [splitOn_eq, splitOn_eq, List.splitOn_append_cons_self, List.splitOn_eq_singleton absent,
    List.singleton_append]

theorem splitOn_ne_nil (mark : Char) (text : Text) : splitOn mark text ≠ [] := by
  rw [splitOn_eq]
  exact List.splitOn_ne_nil _ _

/-- Induction over the pieces of a text. -/
theorem induction_on_pieces (mark : Char) {motive : Text → Prop}
    (last : ∀ text, mark ∉ text → motive text)
    (piece : ∀ text rest, mark ∉ text → motive rest → motive (text ++ mark :: rest))
    (text : Text) : motive text := by
  induction size : text.length using Nat.strong_induction_on generalizing text with
  | _ n ih =>
    by_cases member : mark ∈ text
    · obtain ⟨front, rest, rfl, absent⟩ := List.eq_append_cons_of_mem member
      have shorter : rest.length < n := by
        simp only [← size, List.length_append, List.length_cons]
        omega
      exact piece front rest absent (ih rest.length shorter rest rfl)
    · exact last text member

/-- A word without the mark stands before one exactly when it ends a piece, but for the last. -/
theorem infix_mark_iff {mark : Char} (absent : mark ∉ word) (text : Text) :
    word ++ [mark] <:+: text ↔ ∃ piece ∈ (splitOn mark text).dropLast, word <:+ piece := by
  induction text using induction_on_pieces mark with
  | last text clean =>
    rw [splitOn_of_not_mem clean]
    refine iff_of_false (fun stands => clean (stands.subset ?_)) (by simp)
    exact List.mem_append_right word (List.mem_singleton_self mark)
  | piece text rest clean ih =>
    rw [splitOn_append_cons clean, List.dropLast_cons_of_ne_nil (splitOn_ne_nil mark rest),
      infix_mark_append_cons_iff absent clean, ih]
    simp

theorem join_cons_cons (separator first second : Text) (pieces : List Text) :
    join separator (first :: second :: pieces) =
      first ++ (separator ++ join separator (second :: pieces)) := by
  rw [join, List.intercalate_cons_cons, List.append_assoc, join]

theorem join_lineFeed_cons_cons (first second : Text) (pieces : List Text) :
    join "\n" (first :: second :: pieces) = first ++ '\n' :: join "\n" (second :: pieces) :=
  join_cons_cons "\n" first second pieces

/-- A joined text holds its parts. -/
theorem infix_join_of_mem {piece : Text} (member : piece ∈ pieces) (separator : Text) :
    piece <:+: join separator pieces := by
  induction pieces with
  | nil => cases member
  | cons first pieces ih =>
    cases pieces with
    | nil =>
      obtain rfl : piece = first := by simpa using member
      rw [join, List.intercalate_singleton]
    | cons second pieces =>
      rw [join_cons_cons]
      rcases List.mem_cons.mp member with rfl | later
      · exact (List.prefix_append _ _).isInfix
      · exact (ih later).trans ((List.suffix_append _ _).trans (List.suffix_append _ _)).isInfix

/-- Parts that lose characters of a class are joined anew; of each separator those of the new one
come and those of the old one go. -/
theorem countP_join_map_le {p : Char → Bool} {f : Text → Text} (old new : Text)
    (fewer : ∀ piece, (f piece).countP p ≤ piece.countP p) (pieces : List Text) :
    (join new (pieces.map f)).countP p + (pieces.length - 1) * old.countP p ≤
      (join old pieces).countP p + (pieces.length - 1) * new.countP p := by
  induction pieces with
  | nil => simp [join]
  | cons first pieces ih =>
    have here := fewer first
    cases pieces with
    | nil => simpa [join] using here
    | cons second pieces =>
      simp only [List.map_cons, List.length_cons, Nat.add_sub_cancel] at ih ⊢
      rw [join_cons_cons, join_cons_cons]
      simp only [List.countP_append, Nat.add_mul, Nat.one_mul]
      omega

/-- Lines that are changed one by one stay apart. -/
theorem lineFeed_mem_join_lines (member : '\n' ∈ text) (f : Text → Text) :
    '\n' ∈ join "\n" ((lines text).map f) := by
  obtain ⟨front, rest, rfl, absent⟩ := List.eq_append_cons_of_mem member
  obtain ⟨next, others, more⟩ := List.exists_cons_of_ne_nil (splitOn_ne_nil '\n' rest)
  rw [lines, splitOn_append_cons absent, more, List.map_cons, List.map_cons,
    join_lineFeed_cons_cons]
  exact List.mem_append_right _ List.mem_cons_self

/-- A word without line feeds stands on one of the lines that are joined. -/
theorem infix_join_iff (nonempty : word ≠ []) (absent : '\n' ∉ word) :
    word <:+: join "\n" pieces ↔ ∃ piece ∈ pieces, word <:+: piece := by
  induction pieces with
  | nil => simpa [join, List.intercalate] using nonempty
  | cons first pieces ih =>
    cases pieces with
    | nil => simp [join, List.intercalate]
    | cons second pieces =>
      rw [join_lineFeed_cons_cons, infix_append_cons_iff absent, ih]
      simp only [List.mem_cons, exists_eq_or_imp]

/-- What stands behind the last line feed is the last line. -/
theorem getLast?_lines_append_cons (absent : '\n' ∉ back) (front : Text) :
    (lines (front ++ '\n' :: back)).getLast? = some back := by
  rw [lines, splitOn_eq, List.splitOn_append_cons_self, List.splitOn_eq_singleton absent,
    List.getLast?_concat]

theorem lines_of_not_mem (absent : '\n' ∉ text) : lines text = [text] := splitOn_of_not_mem absent

/-! ## The last mark -/

theorem afterLast_of_not_mem {mark : Char} (absent : mark ∉ text) : afterLast mark text = text := by
  have run : text.reverse.takeWhile (· ≠ mark) = text.reverse := by
    rw [List.takeWhile_eq_self_iff]
    intro c member
    exact decide_eq_true (ne_of_mem_of_not_mem (List.mem_reverse.mp member) absent)
  rw [afterLast, run, List.reverse_reverse]

theorem afterLast_append_cons {mark : Char} (front rest : Text) :
    afterLast mark (front ++ mark :: rest) = afterLast mark rest := by
  have run : (front ++ mark :: rest).reverse.takeWhile (· ≠ mark) =
      rest.reverse.takeWhile (· ≠ mark) := by
    rw [List.reverse_append, List.reverse_cons, List.append_assoc, List.takeWhile_append]
    split
    case isTrue whole =>
      rw [List.singleton_append, List.takeWhile_cons, if_neg (by simp), List.append_nil]
      exact ((List.takeWhile_prefix _).eq_of_length whole).symm
    case isFalse => rfl
  rw [afterLast, run, afterLast]

/-- A word without the mark ends the text exactly when it ends its last piece. -/
theorem suffix_afterLast_iff {mark : Char} (absent : mark ∉ word) (text : Text) :
    word <:+ afterLast mark text ↔ word <:+ text := by
  induction text using induction_on_pieces mark with
  | last text clean => rw [afterLast_of_not_mem clean]
  | piece text rest clean ih =>
    rw [afterLast_append_cons, ih, suffix_append_cons_iff absent]

theorem beforeLast?_eq_none {mark : Char} (absent : mark ∉ text) :
    beforeLast? mark text = none := by
  have run : text.reverse.dropWhile (· ≠ mark) = [] := by
    rw [List.dropWhile_eq_nil_iff]
    intro c member
    exact decide_eq_true (ne_of_mem_of_not_mem (List.mem_reverse.mp member) absent)
  rw [beforeLast?, run]

theorem beforeLast?_append_cons {mark : Char} (absent : mark ∉ back) (front : Text) :
    beforeLast? mark (front ++ mark :: back) = some front := by
  have run : (front ++ mark :: back).reverse.dropWhile (· ≠ mark) = mark :: front.reverse := by
    rw [List.reverse_append, List.reverse_cons, List.append_assoc, List.dropWhile_append_of_pos]
    · simp
    · intro c member
      exact decide_eq_true (ne_of_mem_of_not_mem (List.mem_reverse.mp member) absent)
  rw [beforeLast?, run]
  exact congrArg some (List.reverse_reverse front)

theorem getD_beforeLast?_isPrefix (mark : Char) (text : Text) :
    (beforeLast? mark text).getD text <+: text := by
  by_cases member : mark ∈ text
  · obtain ⟨back, front, split, absent⟩ := List.eq_append_cons_of_mem (List.mem_reverse.mpr member)
    have whole : text = front.reverse ++ mark :: back.reverse := by
      rw [← List.reverse_reverse text, split]
      simp
    rw [whole, beforeLast?_append_cons (by simpa using absent)]
    exact List.prefix_append _ _
  · rw [beforeLast?_eq_none member]
    exact List.prefix_rfl

/-! ## Written lines -/

theorem ofLines_singleton (line : String) : ofLines [line] = line.toList := by
  simp [ofLines, join, List.intercalate]

theorem ofLines_cons_cons (line next : String) (written : List String) :
    ofLines (line :: next :: written) = line.toList ++ '\n' :: ofLines (next :: written) :=
  join_lineFeed_cons_cons _ _ _

theorem ofLines_cons (nonempty : written ≠ []) (line : String) :
    ofLines (line :: written) = line.toList ++ '\n' :: ofLines written := by
  obtain ⟨next, others, rfl⟩ := List.exists_cons_of_ne_nil nonempty
  exact ofLines_cons_cons line next others

/-- Written lines are cut where one of them is cut. -/
theorem ofLines_append_cons {c : Char} {front behind : String}
    (cut : line.toList = front.toList ++ c :: behind.toList) (earlier later : List String) :
    ofLines (earlier ++ line :: later) =
      ofLines (earlier ++ [front]) ++ c :: ofLines (behind :: later) := by
  induction earlier with
  | nil =>
    rw [List.nil_append, List.nil_append, ofLines_singleton]
    cases later with
    | nil => rw [ofLines_singleton, ofLines_singleton, cut]
    | cons next later => simp [ofLines_cons_cons, cut]
  | cons head earlier ih =>
    rw [List.cons_append, List.cons_append, ofLines_cons (by simp), ofLines_cons (by simp), ih,
      List.append_assoc, List.cons_append]

theorem infix_ofLines (member : line ∈ written) : line.toList <:+: ofLines written :=
  infix_join_of_mem (List.mem_map_of_mem member) _

theorem prefix_ofLines (first : written.head? = some line) : line.toList <+: ofLines written := by
  match written, first with
  | [_], rfl => rw [ofLines_singleton]
  | _ :: next :: others, rfl => exact ⟨_, (ofLines_cons_cons line next others).symm⟩

theorem suffix_ofLines (last : written.getLast? = some line) : line.toList <:+ ofLines written := by
  induction written with
  | nil => simp at last
  | cons head written ih =>
    cases written with
    | nil =>
      obtain rfl : head = line := by simpa using last
      rw [ofLines_singleton]
    | cons next written =>
      rw [ofLines_cons_cons]
      have behind := ih (by simpa using last)
      exact behind.trans ((List.suffix_cons '\n' _).trans (List.suffix_append head.toList _))

/-- A word without line feeds stands on one of the lines. -/
theorem not_infix_ofLines (nonempty : word ≠ []) (absent : '\n' ∉ word)
    (missing : ∀ line ∈ written, contains word line.toList = false) :
    ¬ word <:+: ofLines written := by
  rw [ofLines, infix_join_iff nonempty absent]
  rintro ⟨piece, member, stands⟩
  obtain ⟨line, inWritten, rfl⟩ := List.mem_map.mp member
  exact absurd (contains_iff.mpr stands) (by simp [missing line inWritten])

/-- A literal is looked through by its characters, not by the bytes that it is stored in. -/
theorem contains_ofList (missing : contains word text = false) :
    contains word (String.ofList text).toList = false := by
  rwa [String.toList_ofList]

/-- A literal is cut by its characters. -/
theorem toList_ofList_append_cons {c : Char} {line front behind : Text}
    (cut : line = front ++ c :: behind) : (String.ofList line).toList =
      (String.ofList front).toList ++ c :: (String.ofList behind).toList := by
  simp only [String.toList_ofList, cut]

end SandboxPreview.Text
