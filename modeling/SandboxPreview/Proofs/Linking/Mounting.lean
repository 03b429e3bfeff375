/-
# The warning that an application is mounted

Whether a mounting call has to be added is decided twice. The warning looks at the modules as they
came; linking looks at the parts of its script, where imports and export words are gone and each
module stands under a comment with its name. A name may declare an application in the comment, what
is taken out with an import may read as a declaration, and taking something out may bring such words
together. Both decisions look for mounting calls in the modules as they came, so they agree where
there is one; elsewhere they agree exactly when both find a declaration or neither does.

## Main results

* `declaresApp_part`: a part declares an application by its name or by what is left of the module;
* `mem_warnings_iff`, `mountSynthesized_iff`: the two decisions;
* `mountWarning_agrees_iff`: when the warning is right;
* `mountWarning_without_mount`: a warning of a mount that is not there.
-/
import SandboxPreview.Preview
import SandboxPreview.Proofs.Linking.Arrangement
import SandboxPreview.Proofs.Page.Assembly

namespace SandboxPreview.Linking

open Text

variable {word name source : Text} {a : Artifact} {artifacts scripts : List Artifact}

/-! ## Words under a comment -/

/-- The word does not reach over the ends of a comment around a name. -/
structure Unframed (word : Text) : Prop where
  start : ∃ c rest, word = c :: rest ∧ c ∉ "// --- ".toList
  dash : '-' ∉ word
  lineFeed : '\n' ∉ word
  stop : word.getLast? ≠ some ' '

/-- Such a word stands in the name or in the text under the comment. -/
theorem Unframed.infix_comment_iff (unframed : Unframed word) (name source : Text) :
    word <:+: "// --- ".toList ++ name ++ " ---\n".toList ++ source ↔
      word <:+: name ∨ word <:+: source := by
  obtain ⟨c, rest, rfl, outside⟩ := unframed.start
  have frame : "// --- ".toList ++ name ++ " ---\n".toList ++ source =
      "// --- ".toList ++ (name ++ [' '] ++ '-' :: '-' :: '-' :: '\n' :: source) := by
    simp
  rw [frame]
  constructor
  · intro stands
    have behind := infix_of_infix_append outside stands
    rw [infix_append_cons_iff unframed.dash] at behind
    rcases behind with inName | behind
    · rcases List.infix_concat_iff.mp inName with atEnd | inside
      · rcases List.suffix_concat_iff.mp atEnd with empty | ⟨front, whole, -⟩
        · cases empty
        · exact absurd (whole ▸ List.getLast?_concat) unframed.stop
      · exact Or.inl inside
    · have dashes : c :: rest <:+: ['-', '-'] ++ '\n' :: source := behind
      rcases (infix_append_cons_iff unframed.lineFeed).mp dashes with inDashes | inSource
      · have same : c = '-' := by simpa using inDashes.subset List.mem_cons_self
        exact absurd (same ▸ List.mem_cons_self) unframed.dash
      · exact Or.inr inSource
  · rintro (inName | inSource)
    · exact inName.trans ⟨"// --- ".toList, [' '] ++ '-' :: '-' :: '-' :: '\n' :: source, by simp⟩
    · exact inSource.trans ⟨"// --- ".toList ++ (name ++ " ---\n".toList), [], by simp⟩

theorem unframed_of_mem_appDeclarations (member : word ∈ appDeclarations) : Unframed word := by
  simp only [appDeclarations, List.mem_cons, List.not_mem_nil, or_false] at member
  rcases member with rfl | rfl | rfl <;>
    exact ⟨⟨_, _, rfl, by decide⟩, by decide, by decide, by decide⟩

theorem declaresApp_iff :
    declaresApp source = true ↔ ∃ word ∈ appDeclarations, word <:+: source := by
  simp [declaresApp, List.any_eq_true, contains_iff]

/-- A part declares an application by its name or by what is left of the module. -/
theorem declaresApp_part (a : Artifact) :
    declaresApp (part a) = (declaresApp a.name || declaresApp (stripped a.content)) := by
  rw [Bool.eq_iff_iff, Bool.or_eq_true, declaresApp_iff, declaresApp_iff, declaresApp_iff]
  constructor
  · rintro ⟨word, member, stands⟩
    rcases ((unframed_of_mem_appDeclarations member).infix_comment_iff _ _).mp stands with
      inName | inSource
    · exact Or.inl ⟨word, member, inName⟩
    · exact Or.inr ⟨word, member, inSource⟩
  · rintro (⟨word, member, inName⟩ | ⟨word, member, inSource⟩)
    · exact ⟨word, member,
        ((unframed_of_mem_appDeclarations member).infix_comment_iff _ _).mpr (Or.inl inName)⟩
    · exact ⟨word, member,
        ((unframed_of_mem_appDeclarations member).infix_comment_iff _ _).mpr (Or.inr inSource)⟩

/-! ## The two decisions -/

theorem mountSynthesized_iff (scripts : List Artifact) (rootId : Text) (includeStyles : Bool) :
    (link scripts rootId includeStyles).mountSynthesized = true ↔
      (∀ a ∈ scripts, hasMountCall a.content = false) ∧
        ∃ a ∈ scripts, declaresApp a.name = true ∨ declaresApp (stripped a.content) = true := by
  have needed : (link scripts rootId includeStyles).mountSynthesized =
      (!(scripts.any fun a => hasMountCall a.content) &&
        ((order scripts).map part).any declaresApp) := by
    rw [link, gather_eq]
    rfl
  rw [needed, List.any_map, (arranges_order scripts).perm.any_eq]
  simp [declaresApp_part]

/-- A mounting call that is added stands in the body of the bundle. -/
theorem mountScript_infix_body (rootId : Text) (includeStyles : Bool)
    (added : (link scripts rootId includeStyles).mountSynthesized = true) :
    mountScript rootId <:+: (link scripts rootId includeStyles).body := by
  have needed : (gather scripts).needsMount = true := added
  have inScript : mountScript rootId <:+: (gather scripts).script rootId := by
    rw [Gathered.script, if_pos needed]
    exact ((List.suffix_cons _ _).trans (List.suffix_append _ _)).isInfix
  exact inScript.trans (script_infix_body scripts rootId includeStyles)

end SandboxPreview.Linking

namespace SandboxPreview.Pipeline

open Linking

variable {p : Pipeline} {artifacts : List Artifact}

@[simp] theorem warnings_assemble (p : Pipeline) (artifacts : List Artifact) :
    (p.assemble artifacts).warnings = p.warnings artifacts := rfl

theorem mem_warnings_iff (framework : p.classify artifacts = .framework) :
    mountWarning ∈ (p.assemble artifacts).warnings ↔
      (∀ a ∈ Classifier.scripts artifacts, hasMountCall a.content = false) ∧
        ∃ a ∈ Classifier.scripts artifacts, declaresApp a.content = true := by
  simp [warnings, framework]

/-- In a framework project the warning agrees with the bundle exactly when a module mounts an
application, or the modules as they came and what is left of them under their names declare an
application alike. A mounting call that is added stands in the document. -/
theorem mountWarning_agrees_iff (p : Pipeline) (artifacts : List Artifact)
    (framework : p.classify artifacts = .framework) :
    let scripts := Classifier.scripts artifacts
    let bundle := Page.bundle (Page.styledPage artifacts p.options p.classifier) artifacts p.options
    ((mountWarning ∈ (p.assemble artifacts).warnings ↔ bundle.mountSynthesized = true) ↔
      (∃ a ∈ scripts, hasMountCall a.content = true) ∨
        ((∃ a ∈ scripts, declaresApp a.content = true) ↔
          ∃ a ∈ scripts, declaresApp a.name = true ∨ declaresApp (stripped a.content) = true)) ∧
    (bundle.mountSynthesized = true →
      mountScript p.options.rootId <:+: (p.assemble artifacts).document) := by
  intro scripts bundle
  constructor
  · have added : bundle.mountSynthesized = true ↔ _ := mountSynthesized_iff scripts _ _
    have called : (∃ a ∈ scripts, hasMountCall a.content = true) ↔
        ¬ ∀ a ∈ scripts, hasMountCall a.content = false := by simp
    rw [mem_warnings_iff framework, added, and_congr_right_iff, imp_iff_not_or, called]
  · intro added
    have document : (p.assemble artifacts).document =
        Page.frameworkPage artifacts p.options p.classifier := Page.assemble_of_framework framework
    rw [document]
    exact (mountScript_infix_body _ _ added).trans (Page.putIn_injectBodyEnd _ _).isInfix

/-- An application that is exported in its declaration. -/
theorem mountWarning_agrees_of_export :
    let app : Artifact :=
      ⟨"App.jsx", "jsx", "import React from 'react';\nexport default function App() \x7b\x7d"⟩
    ({} : Pipeline).classify [app] = .framework ∧
      (mountWarning ∈ (({} : Pipeline).assemble [app]).warnings ↔
        (Page.bundle (Page.styledPage [app] {} {}) [app] {}).mountSynthesized = true) ∧
      mountScript "root" <:+: (({} : Pipeline).assemble [app]).document := by
  intro app
  have framework : ({} : Pipeline).classify [app] = .framework := by decide +kernel
  obtain ⟨agrees, carried⟩ := mountWarning_agrees_iff {} [app] framework
  have scripts : Classifier.scripts [app] = [app] := by decide +kernel
  have declared : declaresApp app.content = true := by decide +kernel
  have left : declaresApp (stripped app.content) = true := by decide +kernel
  refine ⟨framework, agrees.mpr (Or.inr ?_), carried (by decide +kernel)⟩
  simp [scripts, declared, left]

/-- Words in a text that read as an import go away with a declaration among them, so nothing is
mounted; the name of a file declares an application in the comment over its part, so something is
mounted without a warning. -/
theorem mountWarning_without_mount :
    let help : Artifact := ⟨"Help.jsx", "jsx",
      "import React from 'react';\nexport const Help = () => <p>import the class App from 'lib'</p>;"⟩
    let named : Artifact := ⟨"the class App.jsx", "jsx", "import React from 'react';"⟩
    ({} : Pipeline).classify [help] = .framework ∧
      mountWarning ∈ (({} : Pipeline).assemble [help]).warnings ∧
      (Page.bundle (Page.styledPage [help] {} {}) [help] {}).mountSynthesized = false ∧
    ({} : Pipeline).classify [named] = .framework ∧
      mountWarning ∉ (({} : Pipeline).assemble [named]).warnings ∧
      (Page.bundle (Page.styledPage [named] {} {}) [named] {}).mountSynthesized = true := by
  intro help named
  have warned : ({} : Pipeline).warnings [help] = [mountWarning] := by decide +kernel
  have silent : ({} : Pipeline).warnings [named] = [] := by decide +kernel
  refine ⟨by decide +kernel, ?_, by decide +kernel, by decide +kernel, ?_, by decide +kernel⟩
  · rw [warnings_assemble, warned]
    exact List.mem_singleton_self mountWarning
  · rw [warnings_assemble, silent]
    exact List.not_mem_nil

end SandboxPreview.Pipeline
