/-
# The body of `main`

The body of `main` starts behind the opening brace of the first head in the source and goes up to
the closing brace that balances it. The depth of the scan is one more than what the text read so far
opens and does not close, so the scan ends at the first prefix that closes one brace more than it
opens. Without such a prefix the body goes up to the last closing brace, and without any it is all
that follows the head.

## Main definitions

* `IsHead`, `FirstHead`: the head of `main`, and the first one in a source;
* `Balances`: a text goes up to the brace that closes the open ones.

## Main results

* `untilBalanced_eq_some_iff`, `untilBalanced_eq_none_iff`: what the scan finds;
* `mainBody_isolated`: the body of every source.
-/
import SandboxPreview.Proofs.Text.Lines
import SandboxPreview.Proofs.Text.Matching
import SandboxPreview.Proofs.Text.Trim
import SandboxPreview.Simulator.Cpp

namespace SandboxPreview.Simulator.Cpp

open Pattern Text

variable {source before head text rest inner body body' : Text} {depth : Nat} {c : Char}

/-! ## Braces -/

/-- The number of opening braces. -/
def opened (text : Text) : Nat := text.count '\x7b'

/-- The number of closing braces. -/
def closed (text : Text) : Nat := text.count '\x7d'

@[simp] theorem opened_nil : opened [] = 0 := rfl

@[simp] theorem closed_nil : closed [] = 0 := rfl

@[simp] theorem opened_append (front back : Text) :
    opened (front ++ back) = opened front + opened back := List.count_append

@[simp] theorem closed_append (front back : Text) :
    closed (front ++ back) = closed front + closed back := List.count_append

@[simp] theorem opened_openingBrace (text : Text) : opened ('\x7b' :: text) = opened text + 1 :=
  List.count_cons_self

@[simp] theorem closed_openingBrace (text : Text) : closed ('\x7b' :: text) = closed text :=
  List.count_cons_of_ne (by decide)

@[simp] theorem opened_closingBrace (text : Text) : opened ('\x7d' :: text) = opened text :=
  List.count_cons_of_ne (by decide)

@[simp] theorem closed_closingBrace (text : Text) : closed ('\x7d' :: text) = closed text + 1 :=
  List.count_cons_self

theorem opened_cons_of_ne (other : c ≠ '\x7b') (text : Text) : opened (c :: text) = opened text :=
  List.count_cons_of_ne other

theorem closed_cons_of_ne (other : c ≠ '\x7d') (text : Text) : closed (c :: text) = closed text :=
  List.count_cons_of_ne other

/-- No prefix closes all the open braces. -/
def StaysOpen (depth : Nat) (text : Text) : Prop :=
  ∀ front, front <+: text → closed front < opened front + depth

/-- The body goes up to the closing brace that ends the open ones. -/
structure Balances (depth : Nat) (text body : Text) : Prop where
  brace : ∃ rest, text = body ++ '\x7d' :: rest
  last : opened body + depth = closed body + 1
  earlier : StaysOpen depth body

theorem staysOpen_nil (positive : 0 < depth) : StaysOpen depth [] := by
  intro front isFront
  obtain rfl := List.prefix_nil.mp isFront
  simpa using positive

/-- One character changes how many braces are open. -/
theorem staysOpen_cons_iff {depth' : Nat} (positive : 0 < depth)
    (change : opened [c] + depth = closed [c] + depth') :
    StaysOpen depth (c :: text) ↔ StaysOpen depth' text := by
  have moved (front : Text) :
      closed (c :: front) < opened (c :: front) + depth ↔ closed front < opened front + depth' := by
    rw [← List.singleton_append, closed_append, opened_append]
    omega
  constructor
  · intro stays front isFront
    exact (moved front).mp (stays (c :: front) (List.cons_prefix_cons.mpr ⟨rfl, isFront⟩))
  · intro stays front isFront
    rcases List.prefix_cons_iff.mp isFront with rfl | ⟨front, rfl, inside⟩
    · simpa using positive
    · exact (moved front).mpr (stays front inside)

theorem balances_cons {depth' : Nat} (positive : 0 < depth)
    (change : opened [c] + depth = closed [c] + depth') (balances : Balances depth' text body) :
    Balances depth (c :: text) (c :: body) := by
  obtain ⟨⟨rest, rfl⟩, last, earlier⟩ := balances
  refine ⟨⟨rest, rfl⟩, ?_, (staysOpen_cons_iff positive change).mpr earlier⟩
  rw [← List.singleton_append, opened_append, closed_append]
  omega

/-- Of two bodies the shorter one would be followed by the last brace inside of the other. -/
theorem Balances.length_le (h : Balances depth text body) (h' : Balances depth text body') :
    body'.length ≤ body.length := by
  obtain ⟨rest, split⟩ := h.brace
  obtain ⟨rest', split'⟩ := h'.brace
  by_contra longer
  have within : body ++ ['\x7d'] <+: body' := by
    have inText : body ++ ['\x7d'] <+: text := ⟨rest, by simp [split]⟩
    refine List.prefix_of_prefix_length_le inText ⟨_, split'.symm⟩ ?_
    rw [List.length_append, List.length_singleton]
    omega
  have few := h'.earlier _ within
  have last := h.last
  simp only [closed_append, opened_append, closed_closingBrace, opened_closingBrace, closed_nil,
    opened_nil] at few
  omega

theorem Balances.unique (h : Balances depth text body) (h' : Balances depth text body') :
    body = body' := by
  obtain ⟨rest, split⟩ := h.brace
  obtain ⟨rest', split'⟩ := h'.brace
  exact (List.append_inj (split.symm.trans split')
    (Nat.le_antisymm (h'.length_le h) (h.length_le h'))).1

/-- The scan ends at the brace that closes the open ones, or it never closes them all. -/
theorem untilBalanced_cases (positive : 0 < depth) (text : Text) :
    (∃ body, untilBalanced depth text = some body ∧ Balances depth text body) ∨
      untilBalanced depth text = none ∧ StaysOpen depth text := by
  -- On the text; the depth before it is what the characters read so far have left open.
  induction text generalizing depth with
  | nil => exact Or.inr ⟨rfl, staysOpen_nil positive⟩
  | cons c text ih =>
    have step (depth' : Nat) (positive' : 0 < depth')
        (change : opened [c] + depth = closed [c] + depth')
        (read : untilBalanced depth (c :: text) = (untilBalanced depth' text).map (c :: ·)) :
        (∃ body, untilBalanced depth (c :: text) = some body ∧ Balances depth (c :: text) body) ∨
          untilBalanced depth (c :: text) = none ∧ StaysOpen depth (c :: text) := by
      rw [read]
      rcases ih positive' with ⟨body, found, balances⟩ | ⟨missing, stays⟩
      · exact Or.inl ⟨c :: body, by rw [found]; rfl, balances_cons positive change balances⟩
      · exact Or.inr ⟨by rw [missing]; rfl, (staysOpen_cons_iff positive change).mpr stays⟩
    by_cases opening : c = '\x7b'
    · subst opening
      exact step (depth + 1) (by omega) (by simp; omega) rfl
    · by_cases closing : c = '\x7d'
      · subst closing
        by_cases last : depth ≤ 1
        · refine Or.inl ⟨[], by simp [untilBalanced, last], ⟨text, rfl⟩, ?_,
            staysOpen_nil positive⟩
          simp only [opened_nil, closed_nil]
          omega
        · exact step (depth - 1) (by omega) (by simp; omega)
            (by simp [untilBalanced, last])
      · refine step depth positive ?_ (by simp [untilBalanced, opening, closing])
        rw [opened_cons_of_ne opening, closed_cons_of_ne closing]
        simp

theorem not_staysOpen_of_balances (balances : Balances depth text body) :
    ¬ StaysOpen depth text := by
  intro stays
  obtain ⟨⟨rest, rfl⟩, last, -⟩ := balances
  have few := stays (body ++ ['\x7d']) ⟨rest, by simp⟩
  simp only [closed_append, opened_append, closed_closingBrace, opened_closingBrace, closed_nil,
    opened_nil] at few
  omega

theorem untilBalanced_eq_some_iff (positive : 0 < depth) :
    untilBalanced depth text = some body ↔ Balances depth text body := by
  rcases untilBalanced_cases positive text with ⟨found, read, balances⟩ | ⟨missing, stays⟩
  · rw [read, Option.some.injEq]
    exact ⟨fun same => same ▸ balances, fun other => balances.unique other⟩
  · rw [missing]
    exact iff_of_false (by simp) fun other => not_staysOpen_of_balances other stays

theorem untilBalanced_eq_none_iff (positive : 0 < depth) :
    untilBalanced depth text = none ↔ StaysOpen depth text := by
  rcases untilBalanced_cases positive text with ⟨found, read, balances⟩ | ⟨missing, stays⟩
  · rw [read]
    exact iff_of_false (by simp) (not_staysOpen_of_balances balances)
  · exact iff_of_true missing stays

/-! ## The head -/

/-- A head of `main`, from its type to its opening brace; nothing is asked of the parameters but
that they hold no closing parenthesis. -/
def IsHead (head : Text) : Prop :=
  ∃ gap space parameters space', gap ≠ [] ∧ Blank gap ∧ Blank space ∧ ')' ∉ parameters ∧
    Blank space' ∧ head = "int".toList ++ gap ++ "main".toList ++ space ++ "(".toList ++
      parameters ++ ")".toList ++ space' ++ "\x7b".toList

theorem mainHead_eq_some_iff :
    mainHead text = some ((), rest) ↔ ∃ head, IsHead head ∧ text = head ++ rest := by
  rw [mainHead]
  constructor
  · intro found
    obtain ⟨_, rfl, found⟩ := literal_eq_some_iff.mp found
    obtain ⟨gap, _, rfl, nonempty, blankGap, found⟩ := exists_of_greedy₁ found
    obtain ⟨_, rfl, found⟩ := literal_eq_some_iff.mp found
    obtain ⟨space, _, rfl, blankSpace, found⟩ := exists_of_greedy found
    obtain ⟨_, rfl, found⟩ := literal_eq_some_iff.mp found
    obtain ⟨parameters, _, rfl, inside, found⟩ := exists_of_greedy found
    obtain ⟨_, rfl, found⟩ := literal_eq_some_iff.mp found
    obtain ⟨space', _, rfl, blankSpace', found⟩ := exists_of_greedy found
    obtain ⟨behind, rfl, last⟩ := literal_eq_some_iff.mp found
    obtain rfl : behind = rest := by simpa [done] using last
    have open' : ')' ∉ parameters := fun member => by
      simpa [Pattern.except] using inside ')' member
    exact ⟨_, ⟨gap, space, parameters, space', nonempty, blankGap, blankSpace, open', blankSpace',
      rfl⟩, by simp only [List.append_assoc]⟩
  · rintro ⟨_, ⟨gap, space, parameters, space', nonempty, blankGap, blankSpace, open', blankSpace',
      rfl⟩, rfl⟩
    obtain ⟨c, gap, rfl⟩ := List.exists_cons_of_ne_nil nonempty
    obtain ⟨blank, blankGap⟩ := List.forall_mem_cons.mp blankGap
    have inside : ∀ c ∈ parameters, Pattern.except ')' c = true := by
      intro c member
      simpa [Pattern.except] using ne_of_mem_of_not_mem member open'
    -- Each run ends at the first character of the word behind it.
    simp only [List.append_assoc, literal_append, greedy₁, List.cons_append, one, blank, if_true]
    refine greedy_append blankGap (by simp; decide) ?_
    rw [literal_append]
    refine greedy_append blankSpace (by simp; decide) ?_
    rw [literal_append]
    refine greedy_append inside (by simp; decide) ?_
    rw [literal_append]
    refine greedy_append blankSpace' (by simp; decide) ?_
    rw [literal_append]
    rfl

theorem mainHead_append (isHead : IsHead head) (rest : Text) :
    mainHead (head ++ rest) = some ((), rest) :=
  mainHead_eq_some_iff.mpr ⟨head, isHead, rfl⟩

/-- The first head of a source, with the text before it and the text behind its opening brace. -/
structure FirstHead (source before head inner : Text) : Prop where
  isHead : IsHead head
  split : source = before ++ head ++ inner
  earliest : ∀ before' head' inner', IsHead head' → source = before' ++ head' ++ inner' →
    before.length ≤ before'.length

theorem first?_mainHead_eq_none_iff :
    first? mainHead source = none ↔ ∀ head, IsHead head → ¬ head <:+: source := by
  rw [first?_eq_none_iff]
  constructor
  · rintro missing head isHead ⟨before, inner, rfl⟩
    have found := mainHead_append isHead inner
    rw [missing (head ++ inner) ⟨before, (List.append_assoc ..).symm⟩] at found
    exact absurd found (by simp)
  · intro missing tail isTail
    rw [Option.eq_none_iff_forall_ne_some]
    rintro ⟨⟨⟩, rest⟩ found
    obtain ⟨head, isHead, rfl⟩ := mainHead_eq_some_iff.mp found
    exact missing head isHead ((List.prefix_append _ _).isInfix.trans isTail.isInfix)

theorem first?_mainHead_eq_some_iff :
    first? mainHead source = some (before, (), inner) ↔
      ∃ head, FirstHead source before head inner := by
  rw [first?_eq_some_iff]
  constructor
  · rintro ⟨tail, rfl, found, earlier⟩
    obtain ⟨head, isHead, rfl⟩ := mainHead_eq_some_iff.mp found
    refine ⟨head, isHead, (List.append_assoc ..).symm, fun before' head' inner' isHead' split => ?_⟩
    by_contra shorter
    -- The other head would start inside the text before this one.
    rw [List.append_assoc] at split
    rcases List.append_eq_append_iff.mp split with ⟨more, rfl, -⟩ | ⟨more, rfl, behind⟩
    · simp at shorter
    · have found' := mainHead_append isHead' inner'
      rw [behind, earlier more (by rintro rfl; simp at shorter) (List.suffix_append _ _)] at found'
      exact absurd found' (by simp)
  · rintro ⟨head, isHead, split, earliest⟩
    refine ⟨head ++ inner, by rw [split, List.append_assoc], mainHead_append isHead inner, ?_⟩
    rintro more nonempty ⟨before', rfl⟩
    rw [Option.eq_none_iff_forall_ne_some]
    rintro ⟨⟨⟩, rest⟩ found
    obtain ⟨head', isHead', same⟩ := mainHead_eq_some_iff.mp found
    have shorter := earliest before' head' rest isHead' (by
      rw [split, List.append_assoc, List.append_assoc, same, List.append_assoc])
    have positive := List.length_pos_iff.mpr nonempty
    rw [List.length_append] at shorter
    omega

theorem exists_firstHead_iff :
    (∃ before head inner, FirstHead source before head inner) ↔
      ∃ head, IsHead head ∧ head <:+: source := by
  constructor
  · rintro ⟨before, head, inner, first⟩
    exact ⟨head, first.isHead, before, inner, first.split.symm⟩
  · rintro ⟨head, isHead, stands⟩
    cases found : first? mainHead source with
    | none => exact absurd stands (first?_mainHead_eq_none_iff.mp found head isHead)
    | some parts =>
      obtain ⟨before, ⟨⟩, inner⟩ := parts
      exact ⟨before, first?_mainHead_eq_some_iff.mp found |>.imp fun head first => ⟨inner, first⟩⟩

/-! ## The body -/

theorem mainBody_of_firstHead (first : FirstHead source before head inner) :
    mainBody source =
      (untilBalanced 1 inner).getD ((Text.beforeLast? '\x7d' inner).getD inner) := by
  rw [mainBody, first?_mainHead_eq_some_iff.mpr ⟨head, first⟩]
  dsimp only
  cases untilBalanced 1 inner <;> rfl

theorem mainBody_of_no_head (missing : ∀ head, IsHead head → ¬ head <:+: source) :
    mainBody source = source := by
  rw [mainBody, first?_mainHead_eq_none_iff.mpr missing]

theorem mainBody_isPrefix (first : FirstHead source before head inner) :
    mainBody source <+: inner := by
  rw [mainBody_of_firstHead first]
  rcases untilBalanced_cases Nat.one_pos inner with ⟨body, read, ⟨rest, rfl⟩, -, -⟩ | ⟨read, -⟩
  · rw [read]
    exact List.prefix_append _ _
  · rw [read]
    exact getD_beforeLast?_isPrefix '\x7d' inner

theorem balances_one_iff :
    Balances 1 inner body ↔ (∃ rest, inner = body ++ '\x7d' :: rest) ∧ opened body = closed body ∧
      ∀ front, front <+: body → closed front ≤ opened front := by
  constructor
  · rintro ⟨brace, last, earlier⟩
    exact ⟨brace, by omega, fun front isFront => Nat.lt_succ_iff.mp (earlier front isFront)⟩
  · rintro ⟨brace, even, within⟩
    exact ⟨brace, by omega, fun front isFront => Nat.lt_succ_iff.mpr (within front isFront)⟩

/-- A text closes one brace more than it opens when it does not stay open. -/
theorem staysOpen_one_iff :
    StaysOpen 1 inner ↔ ∀ front, front <+: inner → closed front ≠ opened front + 1 := by
  constructor
  · intro stays front isFront
    have few := stays front isFront
    omega
  · intro none
    rcases untilBalanced_cases Nat.one_pos inner with ⟨body, -, ⟨rest, rfl⟩, last, -⟩ | ⟨-, stays⟩
    · refine absurd ?_ (none (body ++ ['\x7d']) ⟨rest, by simp⟩)
      simp only [closed_append, opened_append, closed_closingBrace, opened_closingBrace,
        closed_nil, opened_nil]
      omega
    · exact stays

/-- The body of `main` is a piece of the source right behind the opening brace of the first head.
Where what follows closes one brace more than it opens, the body is the only text before a closing
brace that opens as many braces as it closes and never closes more than it has opened; elsewhere it
goes up to the last closing brace, or to the end when there is none. A source without a head is its
own body. -/
theorem mainBody_isolated (source : Text) :
    ((∃ before head inner, FirstHead source before head inner) ↔
      ∃ head, IsHead head ∧ head <:+: source) ∧
    ((∀ head, IsHead head → ¬ head <:+: source) → mainBody source = source) ∧
    ∀ before head inner, FirstHead source before head inner →
      mainBody source <+: inner ∧
      ((∃ front, front <+: inner ∧ closed front = opened front + 1) →
        ∀ body, mainBody source = body ↔ (∃ rest, inner = body ++ '\x7d' :: rest) ∧
          opened body = closed body ∧ ∀ front, front <+: body → closed front ≤ opened front) ∧
      ((∀ front, front <+: inner → closed front ≠ opened front + 1) →
        ('\x7d' ∉ inner → mainBody source = inner) ∧
        ∀ front back, inner = front ++ '\x7d' :: back → '\x7d' ∉ back →
          mainBody source = front) := by
  refine ⟨exists_firstHead_iff, mainBody_of_no_head, fun before head inner first => ?_⟩
  · refine ⟨mainBody_isPrefix first, ?_⟩
    rw [mainBody_of_firstHead first]
    constructor
    · rintro ⟨front, isFront, more⟩ body
      rw [← balances_one_iff, ← untilBalanced_eq_some_iff Nat.one_pos]
      cases read : untilBalanced 1 inner with
      | none =>
        exact absurd more (staysOpen_one_iff.mp ((untilBalanced_eq_none_iff Nat.one_pos).mp read)
          front isFront)
      | some found => simp
    · intro none
      rw [(untilBalanced_eq_none_iff Nat.one_pos).mpr (staysOpen_one_iff.mpr none)]
      refine ⟨fun absent => ?_, ?_⟩
      · rw [beforeLast?_eq_none absent]
        rfl
      · rintro front back rfl absent
        rw [beforeLast?_append_cons absent]
        rfl

/-- A brace in a comment is counted like any other, so that this body goes up to the last one. -/
theorem mainBody_isolated_of_stray_brace :
    let source : Text := "int main( ) \x7bif (x) \x7b y; // \x7b\n\x7d z;\x7d // end"
    (∃ head, FirstHead source [] head "if (x) \x7b y; // \x7b\n\x7d z;\x7d // end") ∧
      mainBody source = "if (x) \x7b y; // \x7b\n\x7d z;".toList := by
  intro source
  have found : ∃ head, FirstHead source [] head "if (x) \x7b y; // \x7b\n\x7d z;\x7d // end" :=
    first?_mainHead_eq_some_iff.mp (by decide)
  obtain ⟨head, first⟩ := found
  obtain ⟨-, -, bodies⟩ := mainBody_isolated source
  obtain ⟨-, -, unbalanced⟩ := bodies [] head _ first
  have none := unbalanced (staysOpen_one_iff.mp ((untilBalanced_eq_none_iff Nat.one_pos).mp
    (by decide)))
  exact ⟨⟨head, first⟩, none.2 "if (x) \x7b y; // \x7b\n\x7d z;" " // end" (by decide)
    (by decide)⟩

end SandboxPreview.Simulator.Cpp
