/-
# What injections keep

An injection puts one piece into a page, and the piece holds the fragment. All characters of the
page stay, in their order. An element of the page stays in one piece when no tag ends a body inside
it, even if the page has many such tags: the last injection goes before the first of them.

## Main definitions

* `PutIn`: a page with a piece put in;
* `StylePlace`: the pages in which styles have a place;
* `Element`: a piece between angle brackets.

## Main results

* `putIn_injectHead`, `putIn_injectHeadStart`, `putIn_injectBodyEnd`: fragments go into every page;
* `putIn_injectStyles_iff`, `injectStyles_of_not_stylePlace`: which pages take styles;
* `infix_replaceFirst`, `infix_injectBodyEnd`: elements stay in one piece.
-/
import SandboxPreview.Page.Injection
import SandboxPreview.Proofs.Text.Occurrence

namespace SandboxPreview.Page

open Text

variable {page fragment result css : Text}

/-- The result is the page with one piece put in, which holds the fragment. -/
def PutIn (page fragment result : Text) : Prop :=
  ∃ before lead trail behind, page = before ++ behind ∧
    result = before ++ (lead ++ (fragment ++ (trail ++ behind)))

theorem PutIn.sublist (put : PutIn page fragment result) : page.Sublist result := by
  obtain ⟨before, lead, trail, behind, rfl, rfl⟩ := put
  refine (List.Sublist.refl before).append ?_
  exact (List.sublist_append_right trail behind).trans
    ((List.sublist_append_right fragment _).trans (List.sublist_append_right lead _))

theorem PutIn.isInfix (put : PutIn page fragment result) : fragment <:+: result := by
  obtain ⟨before, lead, trail, behind, -, rfl⟩ := put
  exact ⟨before ++ lead, trail ++ behind, by simp⟩

/-- What stands at the ends of a piece is put in with it. -/
theorem PutIn.of_around {first last : Text} (put : PutIn page (first ++ fragment ++ last) result) :
    PutIn page fragment result := by
  obtain ⟨before, lead, trail, behind, whole, rfl⟩ := put
  exact ⟨before, lead ++ first, last ++ trail, behind, whole, by simp only [List.append_assoc]⟩

theorem PutIn.ne (put : PutIn page fragment result) (nonempty : fragment ≠ []) :
    result ≠ page := by
  obtain ⟨before, lead, trail, behind, rfl, rfl⟩ := put
  intro same
  have lengths := congrArg List.length same
  have positive := List.length_pos_iff.mpr nonempty
  simp only [List.length_append] at lengths
  omega

/-- A word is replaced by itself with a piece inside it or at one of its ends. -/
theorem putIn_replaceFirst (first second lead fragment trail : Text)
    (present : contains (first ++ second) page = true) :
    PutIn page fragment (replaceFirst (first ++ second)
      (first ++ (lead ++ (fragment ++ (trail ++ second)))) page) := by
  cases found : cut? (first ++ second) page with
  | none => exact absurd (contains_iff.mp present) (cut?_eq_none_iff.mp found)
  | some cut =>
    obtain ⟨before, rest⟩ := cut
    refine ⟨before ++ first, lead, trail, second ++ rest, ?_, ?_⟩
    · rw [eq_append_of_cut? found]
      simp
    · simp [replaceFirst, found]

/-! ## Fragments -/

theorem putIn_injectHead (page fragment : Text) :
    PutIn page fragment (injectHead page fragment) := by
  rw [injectHead]
  split
  case isTrue present => exact putIn_replaceFirst [] "</head>" [] fragment ['\n'] present
  case isFalse =>
    exact ⟨[], "<head>", "</head>", page, rfl, by simp only [List.append_assoc, List.nil_append]⟩

theorem putIn_injectHeadStart (page fragment : Text) :
    PutIn page fragment (injectHeadStart page fragment) := by
  rw [injectHeadStart]
  split
  case isTrue present =>
    have put := putIn_replaceFirst "<head>" [] [] fragment [] present
    rw [List.nil_append, List.append_nil, List.append_nil, List.append_nil] at put
    exact put
  case isFalse => exact ⟨[], [], [], page, rfl, rfl⟩

theorem putIn_injectBodyEnd (page fragment : Text) :
    PutIn page fragment (injectBodyEnd page fragment) := by
  rw [injectBodyEnd]
  split
  case isTrue present => exact putIn_replaceFirst [] "</body>" [] fragment ['\n'] present
  case isFalse => exact ⟨page, [], [], [], by simp, by simp⟩

/-! ## Pages that take styles -/

/-- The page ends a head or starts a body, by tags without attributes. -/
def StylePlace (page : Text) : Prop := "</head>".toList <:+: page ∨ "<body>".toList <:+: page

instance : Decidable (StylePlace page) := inferInstanceAs (Decidable (_ ∨ _))

/-- Styles go into a page with a place for them, as one element. -/
theorem putIn_styleElement (nonempty : css ≠ []) (place : StylePlace page) :
    PutIn page (styleElement css) (injectStyles page css) := by
  rw [injectStyles, if_neg nonempty]
  split
  case isTrue present =>
    have put := putIn_replaceFirst [] "</head>" [] (styleElement css) [] present
    simpa only [List.nil_append] using put
  case isFalse missing =>
    have starts : "<body>".toList <:+: page := place.resolve_left (contains_iff.not.mp missing)
    have put := putIn_replaceFirst [] "<body>" "<head>" (styleElement css) "</head>"
      (contains_iff.mpr starts)
    rw [List.append_assoc]
    exact put

theorem putIn_injectStyles (nonempty : css ≠ []) (place : StylePlace page) :
    PutIn page css (injectStyles page css) :=
  (putIn_styleElement nonempty place).of_around

theorem injectStyles_of_not_stylePlace (nowhere : ¬ StylePlace page) (css : Text) :
    injectStyles page css = page := by
  obtain ⟨noHead, noBody⟩ := not_or.mp nowhere
  rw [injectStyles, if_neg (contains_iff.not.mpr noHead), replaceFirst, cut?_eq_none_iff.mpr noBody,
    ite_self]

theorem putIn_injectStyles_iff (nonempty : css ≠ []) :
    PutIn page css (injectStyles page css) ↔ StylePlace page := by
  constructor
  · intro put
    by_contra nowhere
    exact put.ne nonempty (injectStyles_of_not_stylePlace nowhere css)
  · exact putIn_injectStyles nonempty

theorem sublist_injectStyles (page css : Text) : page.Sublist (injectStyles page css) := by
  rcases eq_or_ne css [] with rfl | nonempty
  · rw [injectStyles, if_pos rfl]
  · by_cases place : StylePlace page
    · exact (putIn_injectStyles nonempty place).sublist
    · rw [injectStyles_of_not_stylePlace place]

/-! ## Elements that stay in one piece -/

/-- The piece starts with the bracket of a tag and ends with one. -/
def Element (piece : Text) : Prop := ∃ inner, piece = '<' :: inner ++ ['>']

/-- A tag and an element that does not hold it stand one before the other. -/
theorem Element.apart {tag piece front back before rest : Text} (element : Element piece)
    (starts : '<' ∉ tag.tail) (ends : '>' ∉ tag.dropLast) (absent : ¬ tag <:+: piece)
    (same : front ++ (piece ++ back) = before ++ (tag ++ rest)) :
    (∃ more, front = before ++ tag ++ more) ∨ ∃ more, before = front ++ piece ++ more := by
  obtain ⟨inner, rfl⟩ := element
  exact apart_of_append_eq same starts ends absent

/-- The first tag of a kind is before or behind an element without such a tag. -/
theorem infix_replaceFirst {tag piece : Text} (element : Element piece) (starts : '<' ∉ tag.tail)
    (ends : '>' ∉ tag.dropLast) (absent : ¬ tag <:+: piece) (stands : piece <:+: page)
    (new : Text) : piece <:+: replaceFirst tag new page := by
  cases found : cut? tag page with
  | none => simpa only [replaceFirst, found] using stands
  | some cut =>
    obtain ⟨before, rest⟩ := cut
    obtain ⟨front, back, whole⟩ := stands
    simp only [replaceFirst, found]
    have same : front ++ (piece ++ back) = before ++ (tag ++ rest) := by
      rw [← List.append_assoc, whole, eq_append_of_cut? found, List.append_assoc]
    rcases element.apart starts ends absent same with ⟨more, rfl⟩ | ⟨more, rfl⟩
    · have behind : more ++ piece ++ back = rest := by simpa using same
      exact ⟨before ++ new ++ more, back, by simp only [← behind, List.append_assoc]⟩
    · exact ⟨front, more ++ new ++ rest, by simp only [List.append_assoc]⟩

theorem infix_injectBodyEnd {piece : Text} (element : Element piece)
    (absent : ¬ "</body>".toList <:+: piece) (stands : piece <:+: page) (fragment : Text) :
    piece <:+: injectBodyEnd page fragment := by
  rw [injectBodyEnd]
  split
  case isTrue => exact infix_replaceFirst element (by decide) (by decide) absent stands _
  case isFalse => exact stands.trans (List.prefix_append _ _).isInfix

end SandboxPreview.Page
