/-
# The bridge as an element

Each value of the options is written into the bridge between quotes, where no tag is possible that
the value does not hold itself. The bridge is one script element, whatever the values are; it holds
the end of a body only if a value does.

## Main results

* `element_bridgeScript`: the bridge is one element;
* `infix_of_infix_replaceWord_quote`: tags in a text with a quoted value;
* `not_infix_bridgeScript`: the bridge does not end the body.
-/
import SandboxPreview.Page.Bridge
import SandboxPreview.Proofs.Json.Quote
import SandboxPreview.Proofs.Page.Injection
import SandboxPreview.Proofs.Text.Lines
import SandboxPreview.Proofs.Text.Replacement

namespace SandboxPreview.Page

open Text Pattern

variable {place word value text : Text}

theorem element_of_prefix_of_suffix (opening : ['<'] <+: text) (closing : ['>'] <:+ text) :
    Element text := by
  obtain ⟨behind, rfl⟩ := opening
  obtain ⟨front, same⟩ := closing
  cases front with
  | nil => exact absurd same (by simp)
  | cons c inner =>
    rw [List.cons_append, List.singleton_append, List.cons.injEq] at same
    exact ⟨inner, by rw [List.singleton_append, ← same.2, List.cons_append]⟩

theorem element_bridgeTemplate : Element bridgeTemplate := by
  have opening : "<script>".toList <+: bridgeTemplate := prefix_ofLines rfl
  have closing : "</script>".toList <:+ bridgeTemplate := suffix_ofLines rfl
  have bracket : ['<'] <+: "<script>".toList := by decide
  have bracket' : ['>'] <:+ "</script>".toList := by decide
  exact element_of_prefix_of_suffix (bracket.trans opening) (bracket'.trans closing)

set_option maxRecDepth 2000 in
/-- The bridge has no end of a body of its own. -/
theorem not_infix_bridgeTemplate : ¬ "</body>".toList <:+: bridgeTemplate := by
  refine not_infix_ofLines (by decide) (by decide) ?_
  repeat refine List.forall_mem_cons.mpr ⟨contains_ofList (by decide +kernel), ?_⟩
  exact List.forall_mem_nil _

/-- The brackets of an element stay where they are when a word without brackets is replaced. -/
theorem Element.replaceWord (nonempty : place ≠ []) (opening : '<' ∉ place) (closing : '>' ∉ place)
    (new : Text) (element : Element text) : Element (replaceWord place new text) := by
  obtain ⟨inner, rfl⟩ := element
  refine ⟨Pattern.replaceWord place new inner, ?_⟩
  have first := replaceWord_append_cons nonempty new opening [] (inner ++ ['>'])
  have last := replaceWord_append_cons nonempty new closing inner []
  rw [last] at first
  exact first

theorem element_bridgeScript (sourceTag targetOrigin rootId : Text) :
    Element (bridgeScript sourceTag targetOrigin rootId) := by
  have source := element_bridgeTemplate.replaceWord (by decide : sourcePlace ≠ []) (by decide)
    (by decide) (Json.quote sourceTag)
  have origin := source.replaceWord (by decide : originPlace ≠ []) (by decide) (by decide)
    (Json.quote targetOrigin)
  exact origin.replaceWord (by decide : rootPlace ≠ []) (by decide) (by decide) (Json.quote rootId)

/-- A tag without quotes does not go on into a quoted value. -/
theorem prefix_of_prefix_replaceWord_quote (nonempty : place ≠ []) (plain : '\x22' ∉ word)
    (stands : word <+: replaceWord place (Json.quote value) text) : word <+: text := by
  cases word with
  | nil => exact List.nil_prefix
  | cons w word =>
    induction text using induction_on_word nonempty generalizing w word with
    | nil => exact stands
    | found text =>
      rw [replaceWord_append nonempty, Json.quote, List.cons_append, List.cons_append,
        List.cons_prefix_cons] at stands
      exact absurd (by simp [stands.1]) plain
    | plain c text missing ih =>
      rw [replaceWord_cons_of_missing _ missing, List.cons_prefix_cons] at stands
      obtain ⟨rfl, behind⟩ := stands
      refine List.cons_prefix_cons.mpr ⟨rfl, ?_⟩
      cases word with
      | nil => exact List.nil_prefix
      | cons v word => exact ih v word (fun member => plain (List.mem_cons_of_mem w member)) behind

/-- A tag stands in a text with a quoted value only where it stands in the text or in the value. -/
theorem infix_of_infix_replaceWord_quote (nonempty : place ≠ []) (quote : '\x22' ∉ '<' :: word)
    (backslash : '\\' ∉ '<' :: word)
    (stands : '<' :: word <:+: replaceWord place (Json.quote value) text) :
    '<' :: word <:+: text ∨ '<' :: word <:+: value := by
  induction text using induction_on_word nonempty with
  | nil => exact Or.inl stands
  | found text ih =>
    rw [replaceWord_append nonempty, Json.quote, List.append_assoc, List.singleton_append,
      infix_append_cons_iff quote] at stands
    rcases stands with inValue | later
    · have quoted : '<' :: word <:+: Json.quote value :=
        inValue.trans (List.prefix_append _ _).isInfix
      exact Or.inr (Json.infix_of_infix_quote (by decide) backslash quote quoted)
    · exact (ih later).imp_left fun inText => inText.trans (List.suffix_append _ _).isInfix
  | plain c text missing ih =>
    rw [replaceWord_cons_of_missing _ missing, List.infix_cons_iff] at stands
    rcases stands with here | later
    · have whole : '<' :: word <+: replaceWord place (Json.quote value) (c :: text) := by
        rwa [replaceWord_cons_of_missing _ missing]
      exact Or.inl (prefix_of_prefix_replaceWord_quote nonempty quote whole).isInfix
    · exact (ih later).imp_left fun inText => inText.trans (List.suffix_cons c text).isInfix

/-- The bridge holds the end of a body only if a value of the options does. -/
theorem not_infix_bridgeScript {sourceTag targetOrigin rootId : Text}
    (inSource : ¬ "</body>".toList <:+: sourceTag) (inOrigin : ¬ "</body>".toList <:+: targetOrigin)
    (inRoot : ¬ "</body>".toList <:+: rootId) :
    ¬ "</body>".toList <:+: bridgeScript sourceTag targetOrigin rootId := by
  -- The values are written one after another.
  have written {place value text : Text} (nonempty : place ≠ [])
      (inValue : ¬ "</body>".toList <:+: value) (inText : ¬ "</body>".toList <:+: text) :
      ¬ "</body>".toList <:+: replaceWord place (Json.quote value) text := fun stands =>
    (infix_of_infix_replaceWord_quote nonempty (by decide) (by decide) stands).elim inText inValue
  exact written (by decide) inRoot (written (by decide) inOrigin (written (by decide) inSource
    not_infix_bridgeTemplate))

end SandboxPreview.Page
