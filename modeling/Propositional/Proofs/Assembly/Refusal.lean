import Propositional.Proofs.Assembly.Translation

/-!
# Why a parse tree is refused

What is refused is always something of the parse tree: a leaf that is none, that covers
nothing or that holds the wrong character, or a node with a number of children that no
formula has. `LeafRefused` lists the reasons for a leaf and keeps the character that was
read, `TreeRefused` those for a tree.

> `leafRefused_of_readAtom`, `leafRefused_of_readNegation`, `leafRefused_of_readOperator`:
> what each of the three readings of a leaf can end in.
> `treeRefused_of_formula?`, `treeRefused_of_build`: what a translation or a build can end
> in, by the leaf or the node in question.
-/

namespace Propositional

open Log (Traced)

variable {text : List Char} {tree : ParseTree} {refusal : BuildError}

/-! ## Leaves -/

/-- What stands in the place of a leaf is refused for a reason. -/
inductive LeafRefused (text : List Char) : ParseTree → BuildError → Prop
  | notLeaf (symbol : String) (children : List ParseTree) :
      LeafRefused text (.node symbol children) .notLeaf
  | emptyRange {span : Span} (h : span.first? text = none) :
      LeafRefused text (.leaf span) .emptyRange
  | character {span : Span} {c : Char} (h : span.first? text = some c) :
      LeafRefused text (.leaf span) (.unexpectedCharacter c)
  | connective {span : Span} {found : Connective} (h : span.first? text = some found.symbol) :
      LeafRefused text (.leaf span) (.unexpectedConnective found)
  | letter {span : Span} {c : Char} {refused : NotALetter} (h : span.first? text = some c)
      (hletter : Text.isLetter c = true)
      (hlabel : atomLabel (String.ofList (Text.uppercase c)) = .error refused) :
      LeafRefused text (.leaf span) (.notALetter refused)

theorem readCharacter_of_first?_eq_some {span : Span} {c : Char}
    (h : span.first? text = some c) :
    readCharacter text (.leaf span) = .ok (c, span.start) := by
  rw [readCharacter, h]

/-- What is read is the first character of a range. -/
theorem readCharacter_eq_ok {c : Char} {position : Int}
    (h : readCharacter text tree = .ok (c, position)) :
    ∃ span, tree = .leaf span ∧ span.first? text = some c ∧ position = span.start := by
  unfold readCharacter at h
  split at h
  next => cases h
  next span =>
    split at h
    next hfirst =>
      cases h
      exact ⟨span, rfl, hfirst, rfl⟩
    next => cases h

theorem leafRefused_of_readCharacter (h : readCharacter text tree = .error refusal) :
    LeafRefused text tree refusal := by
  unfold readCharacter at h
  split at h
  next symbol children =>
    cases h
    exact .notLeaf symbol children
  next span =>
    split at h
    next => cases h
    next hfirst =>
      cases h
      exact .emptyRange hfirst

theorem leafRefused_of_readAtom (h : (readAtom text tree).outcome = .error refusal) :
    LeafRefused text tree refusal := by
  unfold readAtom at h
  split at h
  next hread =>
    cases h
    exact leafRefused_of_readCharacter hread
  next c position hread =>
    obtain ⟨span, rfl, hfirst, -⟩ := readCharacter_eq_ok hread
    split at h
    next hletter =>
      cases hlabel : atomLabel (String.ofList (Text.uppercase c)) with
      | ok label =>
        rw [hlabel] at h
        cases h
      | error refused =>
        rw [hlabel] at h
        cases h
        exact .letter hfirst hletter hlabel
    next =>
      cases h
      exact .character hfirst

theorem leafRefused_of_readConnective (h : readConnective text tree = .error refusal) :
    LeafRefused text tree refusal := by
  unfold readConnective at h
  split at h
  next hread =>
    cases h
    exact leafRefused_of_readCharacter hread
  next c position hread =>
    obtain ⟨span, rfl, hfirst, -⟩ := readCharacter_eq_ok hread
    split at h
    next => cases h
    next =>
      cases h
      exact .character hfirst

/-- A connective that is read but not expected is refused in its turn. -/
theorem leafRefused_unexpected {found : Connective} (h : readConnective text tree = .ok found) :
    LeafRefused text tree (.unexpectedConnective found) := by
  unfold readConnective at h
  split at h
  next => cases h
  next c position hread =>
    obtain ⟨span, rfl, hfirst, -⟩ := readCharacter_eq_ok hread
    split at h
    next hfound =>
      cases h
      rw [Connective.ofChar?_eq_some_iff] at hfound
      exact .connective (hfound ▸ hfirst)
    next => cases h

theorem leafRefused_of_readNegation (h : readNegation text tree = .error refusal) :
    LeafRefused text tree refusal := by
  unfold readNegation at h
  split at h
  next hread =>
    cases h
    exact leafRefused_of_readConnective hread
  next => cases h
  next hread =>
    cases h
    exact leafRefused_unexpected hread

theorem leafRefused_of_readOperator (h : readOperator text tree = .error refusal) :
    LeafRefused text tree refusal := by
  unfold readOperator at h
  split at h
  next hread =>
    cases h
    exact leafRefused_of_readConnective hread
  next hread =>
    cases h
    exact leafRefused_unexpected hread
  next => cases h

/-! ## Trees -/

/-- Something in a parse tree is refused for a reason: the tree itself, a leaf among its
children, or something in one of them. -/
inductive TreeRefused (text : List Char) : ParseTree → BuildError → Prop
  | noChildren (span : Span) : TreeRefused text (.leaf span) .noChildren
  | childCount (symbol : String) {children : List ParseTree}
      (h : children.length ∉ [1, 2, 3, 5]) :
      TreeRefused text (.node symbol children) (.childCount children.length)
  | leaf {symbol : String} {children : List ParseTree} {child : ParseTree} {refusal : BuildError}
      (hmem : child ∈ children) (h : LeafRefused text child refusal) :
      TreeRefused text (.node symbol children) refusal
  | deeper {symbol : String} {children : List ParseTree} {child : ParseTree}
      {refusal : BuildError} (hmem : child ∈ children) (h : TreeRefused text child refusal) :
      TreeRefused text (.node symbol children) refusal

/-- What a tree is refused for is no failure of wiring. -/
theorem TreeRefused.configuration_notMem (h : TreeRefused text tree refusal) :
    .configuration ∉ refusal.fault.category :: refusal.fault.category.ancestors := by
  induction h with
  | noChildren => simp [BuildError.fault, Fault.plain, Fault.Category.ancestors]
  | childCount => simp [BuildError.fault, Fault.childCount, Fault.Category.ancestors]
  | leaf _ h =>
    cases h <;>
      simp [BuildError.fault, Fault.plain, Fault.invalidCharacter, NotALetter.fault,
        Fault.Category.ancestors]
  | deeper _ _ ih => exact ih

/-- A link that cannot be made is a failure of wiring. -/
theorem AttachError.configuration_mem (link : AttachError) :
    .configuration ∈ link.fault.category :: link.fault.category.ancestors := by
  cases link <;> simp [fault, Fault.plain, Fault.Category.ancestors]

theorem TreeRefused.ne_attach (h : TreeRefused text tree refusal) (link : AttachError) :
    refusal ≠ .attach link := by
  rintro rfl
  exact h.configuration_notMem link.configuration_mem

/-- Four patterns leave the other numbers of children. -/
theorem ParseTree.length_notMem_of_ne {children : List ParseTree}
    (hone : ∀ a, children = [a] → False) (htwo : ∀ a b, children = [a, b] → False)
    (hthree : ∀ a b c, children = [a, b, c] → False)
    (hfive : ∀ a b c d e, children = [a, b, c, d, e] → False) :
    children.length ∉ [1, 2, 3, 5] := by
  rcases children with _ | ⟨a, _ | ⟨b, _ | ⟨c, _ | ⟨d, _ | ⟨e, _ | ⟨f, rest⟩⟩⟩⟩⟩⟩
  · simp
  · exact (hone a rfl).elim
  · exact (htwo a b rfl).elim
  · exact (hthree a b c rfl).elim
  · simp
  · exact (hfive a b c d e rfl).elim
  · simp

/-- A translation ends only in what something in the tree is refused for. -/
theorem treeRefused_of_formula? (tree : ParseTree) (kind : Kind) (slot : Slot) :
    ∀ refusal, (tree.formula? text kind slot).outcome = .error refusal →
      TreeRefused text tree refusal := by
  fun_induction ParseTree.formula? text tree kind slot with
  | case1 span kind slot =>
    intro refusal h
    cases h
    exact .noChildren span
  | case2 symbol letter kind slot =>
    intro refusal h
    rcases Traced.outcome_bind_eq_error.1 h with hread | ⟨label, -, hrest⟩
    · exact .leaf (by simp) (leafRefused_of_readAtom hread)
    · cases hrest
  | case3 symbol sign operand kind slot ih =>
    intro refusal h
    rcases Traced.outcome_bind_eq_error.1 h with hread | ⟨_, -, hrest⟩
    · exact .leaf (by simp) (leafRefused_of_readNegation hread)
    rcases Traced.outcome_bind_eq_error.1 hrest with hlink | ⟨_, -, hrest⟩
    · cases hlink
    rcases Traced.outcome_bind_eq_error.1 hrest with hoperand | ⟨_, -, hrest⟩
    · exact .deeper (by simp) (ih refusal hoperand)
    · cases hrest
  | case4 symbol opening inner closing kind slot ih =>
    intro refusal h
    exact .deeper (by simp) (ih refusal h)
  | case5 symbol opening left sign right closing kind slot ihl ihr =>
    intro refusal h
    rcases Traced.outcome_bind_eq_error.1 h with hread | ⟨op, -, hrest⟩
    · exact .leaf (by simp) (leafRefused_of_readOperator hread)
    rcases Traced.outcome_bind_eq_error.1 hrest with hlink | ⟨_, -, hrest⟩
    · cases hlink
    rcases Traced.outcome_bind_eq_error.1 hrest with hleft | ⟨_, -, hrest⟩
    · exact .deeper (by simp) (ihl op refusal hleft)
    rcases Traced.outcome_bind_eq_error.1 hrest with hright | ⟨_, -, hrest⟩
    · exact .deeper (by simp) (ihr op refusal hright)
    · cases hrest
  | case6 symbol children kind slot hone htwo hthree hfive =>
    intro refusal h
    cases h
    exact .childCount symbol (ParseTree.length_notMem_of_ne hone htwo hthree hfive)

/-- A build ends only in what something in the parse tree is refused for. -/
theorem treeRefused_of_build {builder : Builder}
    (h : (builder.build tree).2.outcome = .error refusal) :
    TreeRefused builder.text.toList tree refusal := by
  have hassemble : (Graph.empty.assemble builder.text tree).outcome = .error refusal := h
  rw [Graph.outcome_assemble] at hassemble
  cases hformula : (tree.formula? builder.text.toList .root .left).outcome with
  | ok formula =>
    rw [hformula] at hassemble
    cases hassemble
  | error refused =>
    rw [hformula] at hassemble
    cases hassemble
    exact treeRefused_of_formula? tree .root .left refusal hformula

end Propositional
