/-
# Taking blocks out

A rule for blocks looks for one opening tag anywhere in the template. It finds the blocks of its
kind and nothing else, unless an output spells the opening tag and the closing tag comes later:
this output is then taken for a block that goes on to there.

## Main definitions

* `without`: the pieces without the blocks of a kind;
* `BlocksApart`: no output opens a block of a kind that is closed later;
* `SchemasTaken`: schemas are gone, unless the rule is for them.

## Main results

* `reads_namedBlock`: what the rule makes of one piece;
* `removeAll_namedBlock`, `takeBlocks_flatMap`: the pieces that are left, and the first body.
-/
import SandboxPreview.Proofs.Template.Token
import SandboxPreview.Proofs.Text.Reading

namespace SandboxPreview.Template

open Text Pattern

variable {body rest tail : Text} {kind : Block} {token : Token} {tokens later : List Token}

/-! ## One block -/

/-- A block goes from its opening tag to the first closing tag. -/
theorem namedBlock_eq (name text : Text) :
    namedBlock name text = (after? (openTag name) text).bind fun behind =>
      (cut? (closeTag name) behind).map fun cut =>
        (between behind (closeTag name ++ cut.2), cut.2) := by
  rw [namedBlock, literal_eq]
  congr 1
  funext behind
  exact lazily_literal (closeTag name) behind fun bodyEnd rest => (between behind bodyEnd, rest)

theorem consuming_namedBlock (kind : Block) : Consuming (namedBlock kind.name) := by
  have close (behind : Text) : Advancing (lazily anyChar <| mark fun bodyEnd =>
      literal (closeTag kind.name) fun rest => some (between behind bodyEnd, rest)) :=
    (Advancing.mark fun bodyEnd => (advancing_some _).literal _).lazily _
  refine (Advancing.mark close).consuming ?_
  rw [kind.openTag_name]
  simp [tag]

/-- A block does not hold its closing tag. -/
theorem not_closeTag_infix (formed : (Token.block kind body).WellFormed) :
    ¬ closeTag kind.name <:+: body := by
  have two : ['\x7b', '%'] <:+: closeTag kind.name := by
    rw [kind.closeTag_name]
    exact ⟨[], kind.closing ++ ['%', '\x7d'], by simp [tag]⟩
  cases kind with
  | schema => exact formed
  | stylesheet => exact fun stands => formed (two.trans stands)
  | javascript => exact fun stands => formed (two.trans stands)

theorem namedBlock_source_append (formed : (Token.block kind body).WellFormed) (rest : Text) :
    namedBlock kind.name ((Token.block kind body).source ++ rest) = some (body, rest) := by
  have close : cut? (closeTag kind.name) (body ++ (closeTag kind.name ++ rest)) =
      some (body, rest) := by
    refine cut?_eq_some_iff.mpr ⟨(List.append_assoc _ _ _).symm, ?_⟩
    intro tail nonempty isTail stands
    refine not_closeTag_infix formed ?_
    rw [kind.closeTag_name] at stands ⊢
    rw [tag_append] at stands
    exact (tag_prefix_of_append_cons kind.isWords_closing nonempty stands).isInfix.trans
      isTail.isInfix
  rw [namedBlock_eq, Token.source, List.append_assoc, List.append_assoc, after?_append]
  simp [close, between_append]

/-! ## All blocks of a kind -/

/-- No output that spells the opening tag of a block stands before a closing tag. -/
def BlocksApart (kind : Block) (tokens : List Token) : Prop :=
  tokens.Pairwise fun earlier later => earlier = .opener kind → ¬ later.Spells kind.closing

instance (kind : Block) (tokens : List Token) : Decidable (BlocksApart kind tokens) :=
  inferInstanceAs (Decidable (tokens.Pairwise _))

/-- Schemas are taken out first: only they may hold tags. -/
def SchemasTaken (kind : Block) (tokens : List Token) : Prop :=
  kind ≠ .schema → ∀ token ∈ tokens, ∀ body, token ≠ .block .schema body

/-- Only an output spells the opening tag of a block that it is not. -/
theorem eq_opener_of_tag_isPrefix (formed : token.WellFormed)
    (taken : kind ≠ .schema → ∀ body, token ≠ .block .schema body)
    (noBlock : token.body? kind = none) (nonempty : tail ≠ []) (isTail : tail <:+ token.source)
    (stands : tag kind.opening <+: tail ++ rest) :
    token = .opener kind ∧ tail = tag kind.opening ++ ['\x7d'] := by
  cases token with
  | text body => exact absurd stands (not_brace_isPrefix formed nonempty isTail)
  | output lead expression trail =>
    obtain ⟨⟨rfl, rfl, rfl⟩, whole⟩ :=
      output_of_tag_isPrefix formed kind.isWords_opening nonempty isTail stands
    exact ⟨rfl, whole⟩
  | logic words =>
    obtain ⟨same, -⟩ := logic_of_tag_isPrefix kind.isWords_opening.closing formed.1.opening
      formed.1.closing nonempty isTail stands
    exact absurd same (formed.2 kind)
  | block other body =>
    have different : other ≠ kind := by
      rintro rfl
      simp [Token.body?] at noBlock
    have notSchema : other ≠ .schema := by
      rintro rfl
      exact taken different.symm body rfl
    rcases block_of_tag_isPrefix kind.isWords_opening (formed.not_infix notSchema) nonempty isTail
      stands with same | same
    · exact absurd (Block.opening_injective same).symm different
    · exact absurd same (Block.opening_ne_closing kind other)

/-- The pieces without the blocks of a kind. -/
def without (kind : Block) (tokens : List Token) : List Token :=
  tokens.filter fun token => (token.body? kind).isNone

/-- Nothing is found in a piece that is no block of the kind. -/
theorem namedBlock_eq_none (formed : ∀ other ∈ token :: later, other.WellFormed)
    (taken : SchemasTaken kind (token :: later)) (apart : BlocksApart kind (token :: later))
    (noBlock : token.body? kind = none) (nonempty : tail ≠ []) (isTail : tail <:+ token.source) :
    namedBlock kind.name (tail ++ later.flatMap Token.source) = none := by
  obtain ⟨formedHere, formedLater⟩ := List.forall_mem_cons.mp formed
  rw [namedBlock_eq]
  by_cases stands : openTag kind.name <+: tail ++ later.flatMap Token.source
  · rw [kind.openTag_name] at stands
    obtain ⟨rfl, rfl⟩ := eq_opener_of_tag_isPrefix formedHere
      (fun other => taken other token List.mem_cons_self) noBlock nonempty isTail stands
    -- The opening tag is there, and no piece behind it has the closing tag.
    have unclosed : ∀ other ∈ later, ¬ other.Spells kind.closing := fun other member =>
      (List.pairwise_cons.mp apart).1 other member rfl
    have noSchema : ∀ other ∈ later, ∀ body, other ≠ .block .schema body := by
      rintro other member body rfl
      by_cases schema : kind = .schema
      · exact unclosed _ member (Or.inr (by rw [schema]))
      · exact taken schema _ (List.mem_cons_of_mem _ member) body rfl
    have missing : ¬ tag kind.closing <:+: '\x7d' :: later.flatMap Token.source := by
      intro closed
      rcases List.infix_cons_iff.mp closed with here | behind
      · simp [tag] at here
      · obtain ⟨other, member, spells⟩ :=
          exists_spells_of_infix formedLater noSchema kind.isWords_closing behind
        exact unclosed other member spells
    rw [kind.openTag_name, kind.closeTag_name, List.append_assoc, after?_append,
      List.singleton_append]
    simp [cut?_eq_none_iff.mpr missing]
  · rw [after?_eq_none_iff.mpr stands]
    rfl

theorem reads_namedBlock (formed : ∀ other ∈ token :: later, other.WellFormed)
    (taken : SchemasTaken kind (token :: later)) (apart : BlocksApart kind (token :: later)) :
    Reads (namedBlock kind.name) token.source (later.flatMap Token.source) (token.body? kind) := by
  cases found : token.body? kind with
  | none => exact fun tail => namedBlock_eq_none formed taken apart found
  | some body =>
    obtain rfl := Token.eq_block_of_body? found
    exact namedBlock_source_append (formed _ List.mem_cons_self) _

/-- Without a first block there is none to take out. -/
theorem takeBlocks_eq (name source : Text) :
    takeBlocks name source = (removeAll (namedBlock name) source,
      (first? (namedBlock name) source).map fun found => found.2.1) := by
  rw [takeBlocks]
  cases found : first? (namedBlock name) source with
  | some first => rfl
  | none =>
    have missing : ∀ tail, tail ≠ [] → tail <:+ source → namedBlock name (tail ++ []) = none := by
      intro tail _ isTail
      rw [List.append_nil]
      exact first?_eq_none_iff.mp found tail isTail
    have same : removeAll (namedBlock name) (source ++ []) = source ++ [] :=
      replaceAll_append_of_none missing
    rw [List.append_nil] at same
    rw [same]
    rfl

variable (formed : ∀ token ∈ tokens, token.WellFormed) (taken : SchemasTaken kind tokens)
  (apart : BlocksApart kind tokens)

include formed taken apart

theorem reads_namedBlock_of_suffix (token : Token) (later : List Token)
    (isTail : token :: later <:+ tokens) :
    Reads (namedBlock kind.name) token.source (later.flatMap Token.source) (token.body? kind) :=
  reads_namedBlock (fun other member => formed other (isTail.subset member))
    (fun other token member => taken other token (isTail.subset member))
    (apart.sublist isTail.sublist)

theorem removeAll_namedBlock :
    removeAll (namedBlock kind.name) (tokens.flatMap Token.source) =
      (without kind tokens).flatMap Token.source := by
  rw [removeAll, replaceAll_flatMap (consuming_namedBlock kind)
    (reads_namedBlock_of_suffix formed taken apart)]
  clear formed taken apart
  induction tokens with
  | nil => rfl
  | cons token tokens ih =>
    rw [List.flatMap_cons, ih, without, without, List.filter_cons]
    cases found : token.body? kind <;> simp

theorem takeBlocks_flatMap :
    takeBlocks kind.name (tokens.flatMap Token.source) =
      ((without kind tokens).flatMap Token.source, firstBody kind tokens) := by
  rw [takeBlocks_eq, removeAll_namedBlock formed taken apart,
    first?_eq_head? (consuming_namedBlock kind), findAll_flatMap (consuming_namedBlock kind)
      (reads_namedBlock_of_suffix formed taken apart), List.head?_filterMap, firstBody]

end SandboxPreview.Template
