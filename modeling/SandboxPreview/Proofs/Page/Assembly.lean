/-
# What every document holds

A document is made by injections one after another, each of which looks for its place in what the
earlier ones left. Only the last injection could land inside the bridge, and it does not: it goes
before the end of a body, which the bridge does not hold. Pages only grow on the way, so the page
that a set starts from is still there, in order.

## Main results

* `assemble_of_native`, `assemble_of_framework`, `assemble_of_plain`: the document of each kind;
* `assemble_carries`: what every document holds.
-/
import SandboxPreview.Page.Assembly
import SandboxPreview.Proofs.Page.Bridge

namespace SandboxPreview.Page

variable {artifacts : List Artifact} {o : Options} {c : Classifier} {base : Artifact}

/-! ## The document of each kind -/

theorem native_or_framework_or_plain (kind : ProjectKind) :
    kind = .native ∨ kind = .framework ∨ kind = .plain ∨ kind = .templating := by
  cases kind <;> simp

/-- A set is native only with a program. -/
theorem assemble_of_native (kind : c.classify artifacts = .native) :
    ∃ program, c.findNative artifacts = some program ∧
      ∀ o, assemble artifacts o c = nativeDocument program o := by
  have native : c.isNative artifacts = true := Classifier.classify_eq_native.mp kind
  obtain ⟨program, found⟩ : ∃ program, c.findNative artifacts = some program := by
    rw [Classifier.isNative, Bool.and_eq_true, Option.isSome_iff_exists] at native
    exact native.2
  exact ⟨program, found, fun o => by simp only [assemble, kind, found]⟩

theorem assemble_of_framework (kind : c.classify artifacts = .framework) :
    assemble artifacts o c = frameworkPage artifacts o c := by
  simp only [assemble, kind]

theorem assemble_of_plain
    (kind : c.classify artifacts = .plain ∨ c.classify artifacts = .templating) :
    assemble artifacts o c = plainPage artifacts o c := by
  rcases kind with kind | kind <;> simp only [assemble, kind]

theorem plainPage_of_scripts (nonempty : Classifier.scripts artifacts ≠ []) :
    plainPage artifacts o c = injectBodyEnd (injectHeadStart (styledPage artifacts o c) o.bridge)
      (scriptElement (Classifier.scripts artifacts)) := by
  rw [plainPage]
  split
  case h_1 empty => exact absurd empty nonempty
  case h_2 => rfl

/-! ## The bridge -/

theorem bridge_infix_nativeDocument (program : Artifact) (o : Options) :
    o.bridge <:+: nativeDocument program o :=
  ⟨nativeStart, nativeMiddle ++ keepOpen (Simulator.simulate program) ++ nativeDelay ++
    Text.ofInt o.nativeDelayMs ++ nativeEnd, by simp only [nativeDocument, List.append_assoc]⟩

theorem bridge_infix_frameworkPage (absent : ¬ "</body>".toList <:+: o.bridge) :
    o.bridge <:+: frameworkPage artifacts o c := by
  refine infix_injectBodyEnd (element_bridgeScript _ _ _) absent ?_ _
  rw [List.append_assoc]
  exact (List.prefix_append o.bridge _).isInfix.trans (putIn_injectHead _ _).isInfix

theorem bridge_infix_plainPage (absent : ¬ "</body>".toList <:+: o.bridge) :
    o.bridge <:+: plainPage artifacts o c := by
  have inHead := (putIn_injectHeadStart (styledPage artifacts o c) o.bridge).isInfix
  rw [plainPage]
  split
  case h_1 => exact inHead
  case h_2 => exact infix_injectBodyEnd (element_bridgeScript _ _ _) absent inHead _

theorem bridge_infix_assemble (absent : ¬ "</body>".toList <:+: o.bridge) :
    o.bridge <:+: assemble artifacts o c := by
  rcases native_or_framework_or_plain (c.classify artifacts) with kind | kind | kind
  · obtain ⟨program, -, document⟩ := assemble_of_native kind
    rw [document]
    exact bridge_infix_nativeDocument program o
  · rw [assemble_of_framework kind]
    exact bridge_infix_frameworkPage absent
  · rw [assemble_of_plain kind]
    exact bridge_infix_plainPage absent

/-! ## The page that a set starts from -/

theorem sublist_styledPage (found : findBase artifacts = some base) :
    base.content.Sublist (styledPage artifacts o c) := by
  have start : basePage artifacts o c = (base.content, []) := by simp only [basePage, found]
  rw [styledPage, start]
  exact sublist_injectStyles _ _

theorem sublist_frameworkPage :
    (styledPage artifacts o c).Sublist (frameworkPage artifacts o c) :=
  (putIn_injectHead _ _).sublist.trans (putIn_injectBodyEnd _ _).sublist

theorem sublist_plainPage : (styledPage artifacts o c).Sublist (plainPage artifacts o c) := by
  have inHead := (putIn_injectHeadStart (styledPage artifacts o c) o.bridge).sublist
  rw [plainPage]
  split
  case h_1 => exact inHead
  case h_2 => exact inHead.trans (putIn_injectBodyEnd _ _).sublist

theorem sublist_assemble (notNative : c.classify artifacts ≠ .native)
    (found : findBase artifacts = some base) : base.content.Sublist (assemble artifacts o c) := by
  have start : base.content.Sublist (styledPage artifacts o c) := sublist_styledPage found
  rcases native_or_framework_or_plain (c.classify artifacts) with kind | kind | kind
  · exact absurd kind notNative
  · rw [assemble_of_framework kind]
    exact start.trans sublist_frameworkPage
  · rw [assemble_of_plain kind]
    exact start.trans sublist_plainPage

/-! ## All together -/

/-- Every document holds the bridge in one piece. A document that is made from a page of the set
holds all characters of the page, in their order; and it holds the linked scripts of a framework
project, or the scripts of any other project that a browser shows, in one piece. -/
theorem assemble_carries (artifacts : List Artifact) (o : Options) (c : Classifier)
    (inSource : ¬ "</body>".toList <:+: o.sourceTag)
    (inOrigin : ¬ "</body>".toList <:+: o.targetOrigin)
    (inRoot : ¬ "</body>".toList <:+: o.rootId) :
    bridgeScript o.sourceTag o.targetOrigin o.rootId <:+: assemble artifacts o c ∧
    (∀ base, c.classify artifacts ≠ .native → findBase artifacts = some base →
      base.content.Sublist (assemble artifacts o c)) ∧
    (c.classify artifacts = .framework →
      (bundle (styledPage artifacts o c) artifacts o).body <:+: assemble artifacts o c) ∧
    (c.classify artifacts = .plain ∨ c.classify artifacts = .templating →
      Classifier.scripts artifacts ≠ [] →
      scriptElement (Classifier.scripts artifacts) <:+: assemble artifacts o c) := by
  refine ⟨?_, ?_, ?_, ?_⟩
  · exact bridge_infix_assemble (not_infix_bridgeScript inSource inOrigin inRoot)
  · exact fun base => sublist_assemble
  · intro framework
    rw [assemble_of_framework framework]
    exact (putIn_injectBodyEnd _ _).isInfix
  · intro plain nonempty
    rw [assemble_of_plain plain, plainPage_of_scripts nonempty]
    exact (putIn_injectBodyEnd _ _).isInfix

/-- A page, a style and a script full of tags. -/
theorem assemble_carries_among_tags :
    let page : Artifact := ⟨"index.html", "html", "<p></body></head></p><head>"⟩
    let style : Artifact := ⟨"main.css", "css", "</body> <head> </head>"⟩
    let script : Artifact := ⟨"app.js", "js", "x = '</head></body></script>'"⟩
    let document := assemble [page, style, script] {} {}
    bridgeScript "PREVIEW_CONSOLE" "*" "root" <:+: document ∧ page.content.Sublist document ∧
      "<script>x = '</head></body></script>'</script>".toList <:+: document := by
  intro page style script document
  obtain ⟨bridge, base, -, scripts⟩ := assemble_carries [page, style, script] {} {}
    (by decide) (by decide) (by decide)
  have element : scriptElement (Classifier.scripts [page, style, script]) =
      "<script>x = '</head></body></script>'</script>".toList := by decide +kernel
  rw [← element]
  exact ⟨bridge, base page (by decide +kernel) (by decide +kernel),
    scripts (by decide +kernel) (by decide +kernel)⟩

end SandboxPreview.Page
