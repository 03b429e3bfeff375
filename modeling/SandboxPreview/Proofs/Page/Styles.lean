/-
# Where styles go

Three of the four injections have a place in every page: beside their tag, or at the start or the
end of a page without it. Styles have none in a page that neither ends a head nor starts a body,
so a set whose page is such a fragment loses its styles. Any other set has them in one style
element of its document. The injections that follow put something inside that element only when
the styles hold the tag that they look for, and even then all characters of the styles stay, in
their order.

## Main definitions

* `Styled`: a page with a sheet of styles in one of its style elements;
* `sheet`: the styles of a set.

## Main results

* `enclosed_replaceFirst`, `Styled.replaceFirst`: a style element stays when a tag is replaced;
* `stylePlace_basePage`, `styled_assemble`: the styles of a set;
* `injections_keep_fragments`: what each injection puts in, and what becomes of the styles of a
  set.
-/
import SandboxPreview.Proofs.Page.Assembly
import SandboxPreview.Proofs.Text.Lines

namespace SandboxPreview.Page

open Text

variable {page fragment result css styles block tag new : Text}
variable {artifacts : List Artifact} {o : Options} {c : Classifier}

/-! ## A style element stays -/

/-- The tags that injections after the styles look for. -/
def injectionTags : List Text := ["<head>", "</head>", "</body>"]

/-- A style element of the page holds all characters of the styles in their order, and nothing else
unless one of the tags stands in the styles. -/
def Styled (page styles : Text) : Prop :=
  ∃ block, styleElement block <:+: page ∧ styles.Sublist block ∧
    ((∀ tag ∈ injectionTags, ¬ tag <:+: styles) → block = styles)

theorem Styled.mono (styled : Styled page styles) (part : page <:+: result) :
    Styled result styles := by
  obtain ⟨block, stands, holds, alone⟩ := styled
  exact ⟨block, stands.trans part, holds, alone⟩

/-- A tag is replaced in front of what two elements enclose, inside it or behind it. -/
theorem enclosed_replaceFirst {opening closing : Text} (isOpening : Element opening)
    (isClosing : Element closing) (starts : '<' ∉ tag.tail) (ends : '>' ∉ tag.dropLast)
    (notOpening : ¬ tag <:+: opening) (notClosing : ¬ tag <:+: closing)
    (stands : opening ++ block ++ closing <:+: page) (new : Text) :
    opening ++ block ++ closing <:+: replaceFirst tag new page ∨
      ∃ early late, block = early ++ (tag ++ late) ∧
        opening ++ (early ++ (new ++ late)) ++ closing <:+: replaceFirst tag new page := by
  cases found : cut? tag page with
  | none => exact Or.inl (by simpa only [replaceFirst, found] using stands)
  | some cut =>
    obtain ⟨before, rest⟩ := cut
    obtain ⟨front, back, whole⟩ := stands
    simp only [replaceFirst, found]
    have same : front ++ (opening ++ (block ++ (closing ++ back))) = before ++ (tag ++ rest) := by
      simpa only [List.append_assoc] using whole.trans (eq_append_of_cut? found)
    rcases isOpening.apart starts ends notOpening same with ⟨more, rfl⟩ | ⟨more, rfl⟩
    · -- In front of the opening element.
      have behind : more ++ (opening ++ (block ++ (closing ++ back))) = rest := by simpa using same
      exact Or.inl ⟨before ++ new ++ more, back, by simp only [← behind, List.append_assoc]⟩
    · have inner : block ++ (closing ++ back) = more ++ (tag ++ rest) := by simpa using same
      rcases isClosing.apart starts ends notClosing inner with ⟨late, rfl⟩ | ⟨later, rfl⟩
      · -- Between the elements.
        have behind : late ++ (closing ++ back) = rest := by simpa using inner
        exact Or.inr ⟨more, late, by simp only [List.append_assoc], front, back, by
          simp only [← behind, List.append_assoc]⟩
      · -- Behind the closing element.
        exact Or.inl ⟨front, later ++ new ++ rest, by simp only [List.append_assoc]⟩

theorem Styled.replaceFirst (styled : Styled page styles) (known : tag ∈ injectionTags)
    (kept : tag.Sublist new) : Styled (replaceFirst tag new page) styles := by
  obtain ⟨block, stands, holds, alone⟩ := styled
  have shape : ∀ tag ∈ injectionTags, '<' ∉ tag.tail ∧ '>' ∉ tag.dropLast ∧
      ¬ tag <:+: "<style>".toList ∧ ¬ tag <:+: "</style>".toList := by decide
  obtain ⟨starts, ends, notOpening, notClosing⟩ := shape tag known
  have opening : Element "<style>".toList := ⟨"style".toList, rfl⟩
  have closing : Element "</style>".toList := ⟨"/style".toList, rfl⟩
  rcases enclosed_replaceFirst opening closing starts ends notOpening notClosing stands new with
    stays | ⟨early, late, rfl, grown⟩
  · exact ⟨block, stays, holds, alone⟩
  · refine ⟨_, grown, holds.trans ?_, fun clean => absurd ?_ (clean tag known)⟩
    · exact (List.Sublist.refl early).append (kept.append (List.Sublist.refl late))
    · rw [← alone clean]
      exact ⟨early, late, by simp only [List.append_assoc]⟩

theorem Styled.injectHead (styled : Styled page styles) (fragment : Text) :
    Styled (injectHead page fragment) styles := by
  rw [Page.injectHead]
  split
  case isTrue =>
    have kept : "</head>".toList.Sublist "\n</head>".toList := by decide
    exact styled.replaceFirst (by decide) (kept.trans (List.sublist_append_right fragment _))
  case isFalse => exact styled.mono (List.suffix_append _ _).isInfix

theorem Styled.injectHeadStart (styled : Styled page styles) (fragment : Text) :
    Styled (injectHeadStart page fragment) styles := by
  rw [Page.injectHeadStart]
  split
  case isTrue => exact styled.replaceFirst (by decide) (List.sublist_append_left _ _)
  case isFalse => exact styled.mono (List.suffix_append _ _).isInfix

theorem Styled.injectBodyEnd (styled : Styled page styles) (fragment : Text) :
    Styled (injectBodyEnd page fragment) styles := by
  rw [Page.injectBodyEnd]
  split
  case isTrue =>
    have kept : "</body>".toList.Sublist "\n</body>".toList := by decide
    exact styled.replaceFirst (by decide) (kept.trans (List.sublist_append_right fragment _))
  case isFalse => exact styled.mono (List.prefix_append _ _).isInfix

/-! ## The styles of a set -/

/-- The styles that are put into the page of a set. -/
def sheet (artifacts : List Artifact) (o : Options) (c : Classifier) : Text :=
  styleSheet (Classifier.styles artifacts) ++ (basePage artifacts o c).2

/-- A sheet holds each of its styles under a comment with its name. -/
theorem infix_sheet {a : Artifact} (member : a ∈ Classifier.styles artifacts) :
    "/* ".toList ++ a.name ++ " */\n".toList ++ a.content <:+: sheet artifacts o c := by
  have inStyles : "/* ".toList ++ a.name ++ " */\n".toList ++ a.content <:+:
      styleSheet (Classifier.styles artifacts) := by
    apply infix_join_of_mem
    exact List.mem_map.mpr ⟨a, member, rfl⟩
  exact inStyles.trans (List.prefix_append _ _).isInfix

theorem sheet_ne_nil {a : Artifact} (member : a ∈ Classifier.styles artifacts) :
    sheet artifacts o c ≠ [] := by
  intro empty
  have titled := infix_sheet (o := o) (c := c) member
  rw [empty, List.infix_nil] at titled
  simp at titled

theorem stylePlace_emptyShell (rootId : Text) : StylePlace (emptyShell rootId) := by
  have inMiddle : "</head>".toList <:+: shellMiddle := infix_ofLines (by simp)
  have inShell : shellMiddle <:+: emptyShell rootId :=
    ⟨shellStart ++ rootId, rootId ++ shellEnd, by simp only [emptyShell, List.append_assoc]⟩
  exact Or.inl (inMiddle.trans inShell)

theorem stylePlace_document (markup js : Text) : StylePlace (Template.document markup js) := by
  have inStart : "</head>".toList <:+: Template.documentStart := infix_ofLines (by simp)
  have inDocument : Template.documentStart <+: Template.document markup js := by
    simp only [Template.document, List.append_assoc]
    exact List.prefix_append _ _
  exact Or.inl (inStart.trans inDocument.isInfix)

/-- Only a page of the set may have no place for styles. -/
theorem stylePlace_basePage
    (place : ∀ base, findBase artifacts = some base → StylePlace base.content) :
    StylePlace (basePage artifacts o c).1 := by
  unfold basePage
  split
  case h_1 base found => exact place _ found
  case h_2 =>
    split
    case isTrue => exact stylePlace_emptyShell _
    case isFalse => exact stylePlace_document _ _
  case h_3 => exact stylePlace_emptyShell _

theorem styled_styledPage (nonempty : sheet artifacts o c ≠ [])
    (place : StylePlace (basePage artifacts o c).1) :
    Styled (styledPage artifacts o c) (sheet artifacts o c) :=
  ⟨_, (putIn_styleElement nonempty place).isInfix, List.Sublist.refl _, fun _ => rfl⟩

theorem styled_assemble (notNative : c.classify artifacts ≠ .native)
    (styled : Styled (styledPage artifacts o c) styles) :
    Styled (assemble artifacts o c) styles := by
  rcases native_or_framework_or_plain (c.classify artifacts) with kind | kind | kind
  · exact absurd kind notNative
  · rw [assemble_of_framework kind]
    exact (styled.injectHead _).injectBodyEnd _
  · rw [assemble_of_plain kind, plainPage]
    have inHead := styled.injectHeadStart o.bridge
    split
    case h_1 => exact inHead
    case h_2 => exact inHead.injectBodyEnd _

theorem styledPage_of_not_stylePlace {base : Artifact} (found : findBase artifacts = some base)
    (nowhere : ¬ StylePlace base.content) : styledPage artifacts o c = base.content := by
  have start : basePage artifacts o c = (base.content, []) := by simp only [basePage, found]
  rw [styledPage, start]
  exact injectStyles_of_not_stylePlace nowhere _

/-! ## All together -/

/-- Each injection puts its fragment into every page, styles into the pages with a place for them
and into no others. The document of a set, other than that of a native program, holds all its
styles in one style element, unless the set has a page without a place for them; such a page stays
as it is. -/
theorem injections_keep_fragments (page fragment : Text) (artifacts : List Artifact) (o : Options)
    (c : Classifier) :
    (fragment ≠ [] →
      PutIn page fragment (injectHead page fragment) ∧
      PutIn page fragment (injectHeadStart page fragment) ∧
      PutIn page fragment (injectBodyEnd page fragment) ∧
      (PutIn page fragment (injectStyles page fragment) ↔ StylePlace page) ∧
      (¬ StylePlace page → injectStyles page fragment = page)) ∧
    (c.classify artifacts ≠ .native →
      ((∀ base, findBase artifacts = some base → StylePlace base.content) →
        ∀ a ∈ Classifier.styles artifacts,
          a.content <:+: sheet artifacts o c ∧
          Styled (assemble artifacts o c) (sheet artifacts o c)) ∧
      (∀ base, findBase artifacts = some base → ¬ StylePlace base.content →
        styledPage artifacts o c = base.content)) := by
  refine ⟨fun nonempty => ?_, fun notNative => ⟨?_, ?_⟩⟩
  · exact ⟨putIn_injectHead _ _, putIn_injectHeadStart _ _, putIn_injectBodyEnd _ _,
      putIn_injectStyles_iff nonempty, fun nowhere => injectStyles_of_not_stylePlace nowhere _⟩
  · intro place a member
    refine ⟨(List.suffix_append _ _).isInfix.trans (infix_sheet member), ?_⟩
    exact styled_assemble notNative
      (styled_styledPage (sheet_ne_nil member) (stylePlace_basePage place))
  · exact fun base found nowhere => styledPage_of_not_stylePlace found nowhere

/-- Styles go into a new head between a fragment of markup and the body behind it. -/
theorem injections_keep_fragments_before_body :
    let page : Artifact := ⟨"index.html", "html", "<p>Hi</p><body>"⟩
    let style : Artifact := ⟨"main.css", "css", "p \x7b color: red \x7d"⟩
    PutIn page.content style.content (injectHead page.content style.content) ∧
      "<style>/* main.css */\np \x7b color: red \x7d</style>".toList <:+:
        assemble [page, style] {} {} := by
  intro page style
  obtain ⟨kept, styled⟩ :=
    injections_keep_fragments page.content style.content [page, style] {} {}
  obtain ⟨inHead, -⟩ := kept (by decide)
  obtain ⟨taken, -⟩ := styled (by decide +kernel)
  have base : findBase [page, style] = some page := by decide +kernel
  have place : ∀ base, findBase [page, style] = some base → StylePlace base.content := by
    rintro _ found
    obtain rfl := Option.some.inj (base.symm.trans found)
    decide +kernel
  obtain ⟨-, block, stands, -, alone⟩ := taken place style (by decide +kernel)
  have element : styleElement (sheet [page, style] {} {}) =
      "<style>/* main.css */\np \x7b color: red \x7d</style>".toList := by decide +kernel
  rw [alone (by decide +kernel), element] at stands
  exact ⟨inHead, stands⟩

/-- A fragment of markup without a head and a body loses the styles of its set. -/
theorem styles_lost_in_fragment :
    let page : Artifact := ⟨"index.html", "html", "<p>Hi</p>"⟩
    let style : Artifact := ⟨"main.css", "css", "p\x7bcolor:red\x7d"⟩
    injectStyles page.content style.content = page.content ∧
      ¬ PutIn page.content style.content (injectStyles page.content style.content) ∧
      styledPage [page, style] {} {} = page.content := by
  intro page style
  have nowhere : ¬ StylePlace page.content := by decide
  have base : findBase [page, style] = some page := by decide +kernel
  exact ⟨injectStyles_of_not_stylePlace nowhere _,
    (putIn_injectStyles_iff (by decide)).not.mpr nowhere,
    styledPage_of_not_stylePlace base nowhere⟩

end SandboxPreview.Page
