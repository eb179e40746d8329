import Propositional.Parse
import Propositional.Proofs.Grammar.PartialTree
import Propositional.Proofs.Token.Place

/-!
# Which texts have a derivation

`derive` answers for a text as it stands: nothing is added to it and nothing
dropped but what lies between the tokens. This file says for which texts the
answer is a tree, and that the tree is then determined by the text.

> `ofLexemes_eq_ok_iff`: reading succeeds exactly on tokens, and with exactly
> the tree that derives them.
> `derive_accepts`: the characters and the grammar decide about a text, its
> derivation is the only one, and its leaves are the places of the text.
-/

namespace Propositional

namespace ParseTree

/-! ## The leaves of a derivation -/

theorem leaves_leaf (span : Span) : (leaf span).leaves = [span] := rfl

theorem leaves_formula (children : List ParseTree) :
    (formula children).leaves = children.flatMap leaves := by
  unfold formula leaves
  rw [preorder, preorderAll_eq_flatMap, List.filterMap_cons, List.filterMap_flatMap]

end ParseTree

/-- A derivation has its tokens as leaves, each once and in their order. -/
theorem Derives.leaves_eq {tokens : List Token} {tree : ParseTree} (h : Derives tokens tree) :
    tree.leaves = tokens.map Token.span := by
  induction h with
  | atom _ => rfl
  | negation _ _ ih => simp [ParseTree.leaves_formula, Token.leaf, ParseTree.leaves_leaf, ih]
  | group _ _ _ ih => simp [ParseTree.leaves_formula, Token.leaf, ParseTree.leaves_leaf, ih]
  | binary _ _ _ _ _ ihl ihr =>
    simp [ParseTree.leaves_formula, Token.leaf, ParseTree.leaves_leaf, ihl, ihr]

/-! ## Reading to the end -/

/-- A partial tree that takes in tokens goes on from where they lead. -/
theorem PartialTree.read_append {built next : PartialTree} {tokens : List Token}
    (h : built.advanceAll? tokens = some next) (rest : List Lexeme) :
    built.read (tokens.map .ok ++ rest) = next.read rest := by
  induction tokens generalizing built with
  | nil =>
    cases h
    rfl
  | cons token tokens ih =>
    obtain ⟨middle, hmiddle, hnext⟩ := Option.bind_eq_some_iff.1 h
    rw [List.map_cons, List.cons_append, PartialTree.read, hmiddle]
    exact ih hnext

/-- Reading succeeds when all lexemes are tokens and complete the tree. -/
theorem PartialTree.read_eq_ok_iff {built : PartialTree} {found : List Lexeme}
    {tree : ParseTree} :
    built.read found = .ok tree ↔
      ∃ tokens, found = tokens.map .ok ∧ built.advanceAll? tokens = some (.complete tree) := by
  constructor
  · intro h
    induction found generalizing built with
    | nil =>
      cases built with
      | complete whole =>
        cases h
        exact ⟨[], rfl, rfl⟩
      | expecting | enclosed | paired => cases h
    | cons lexeme rest ih =>
      cases lexeme with
      | error illegal => cases h
      | ok token =>
        rw [PartialTree.read] at h
        split at h
        next next hnext =>
          obtain ⟨tokens, rfl, htokens⟩ := ih h
          refine ⟨token :: tokens, rfl, ?_⟩
          rw [advanceAll?, hnext]
          exact htokens
        next => cases h
  · intro h
    obtain ⟨tokens, rfl, htokens⟩ := h
    have hread := read_append htokens []
    rw [List.append_nil] at hread
    rw [hread]
    rfl

theorem ParseTree.ofLexemes_eq_ok_iff {found : List Lexeme} {tree : ParseTree} :
    ParseTree.ofLexemes found = .ok tree ↔
      ∃ tokens, found = tokens.map .ok ∧ Derives tokens tree := by
  simp only [ParseTree.ofLexemes, PartialTree.read_eq_ok_iff, PartialTree.derives_iff_advanceAll?]

/-- A text is read successfully when it is made of tokens, and the tree derives
these. -/
theorem ParseTree.ofText_eq_ok_iff {text : String} {tree : ParseTree} :
    ParseTree.ofText text = .ok tree ↔
      (∀ c ∈ text.toList, isIgnorable c = true ∨ IsTokenCharacter c) ∧
        Derives (tokensOf text) tree := by
  rw [ParseTree.ofText, ParseTree.ofLexemes_eq_ok_iff]
  constructor
  · intro h
    obtain ⟨tokens, htokens, htree⟩ := h
    obtain ⟨hchars, rfl⟩ := lexemesFrom_eq_map_ok_iff.1 htokens
    exact ⟨hchars, htree⟩
  · intro h
    obtain ⟨hchars, htree⟩ := h
    have htokens : lexemes text = (tokensOf text).map .ok :=
      lexemesFrom_eq_map_ok_iff.2 ⟨hchars, rfl⟩
    exact ⟨tokensOf text, htokens, htree⟩

theorem outcome_derive (text : String) : (derive text).outcome = ParseTree.ofText text := by
  unfold derive
  split
  next tree h => exact h.symm
  next rejection h => exact h.symm

/-- **Which texts have a derivation.** A text has one exactly when each of its
characters is ignored or one that formulas are written with, and its tokens
derive from the grammar. The tree is then the only derivation of these tokens,
and its leaves are the single positions of the text that are not ignored, from
left to right. -/
theorem derive_accepts (text : String) :
    ((∃ tree, (derive text).outcome = .ok tree) ↔
      (∀ c ∈ text.toList, isIgnorable c = true ∨ IsTokenCharacter c) ∧
        Derivable (tokensOf text)) ∧
    ∀ tree, (derive text).outcome = .ok tree →
      Derives (tokensOf text) tree ∧
      (∀ other, Derives (tokensOf text) other → other = tree) ∧
      tree.leaves = (places text).map fun place => Span.single place.2 := by
  rw [outcome_derive]
  constructor
  · simp only [ParseTree.ofText_eq_ok_iff, Derivable, exists_and_left]
  · intro tree h
    obtain ⟨hchars, htree⟩ := ParseTree.ofText_eq_ok_iff.1 h
    refine ⟨htree, fun other hother => hother.unique htree, ?_⟩
    have hplaces : (tokensOf text).map Token.index = (places text).map Prod.snd :=
      map_tokensFrom hchars fun _ _ _ => rfl
    calc tree.leaves
        = ((tokensOf text).map Token.index).map Span.single := by
          rw [htree.leaves_eq, List.map_map]
          rfl
      _ = ((places text).map Prod.snd).map Span.single := by rw [hplaces]
      _ = (places text).map fun place => Span.single place.2 := List.map_map

/-- The blank between a negation and its letter is no leaf. -/
theorem spaced_negation_derived :
    ∃ tree, (derive "¬ p").outcome = .ok tree ∧ Derives (tokensOf "¬ p") tree ∧
      (∀ other, Derives (tokensOf "¬ p") other → other = tree) ∧
      tree.leaves = [.single 0, .single 2] := by
  have hderive : ∃ tree, (derive "¬ p").outcome = .ok tree := ⟨_, rfl⟩
  obtain ⟨tree, htree⟩ := hderive
  obtain ⟨hderives, hunique, hleaves⟩ := (derive_accepts "¬ p").2 tree htree
  exact ⟨tree, htree, hderives, hunique, hleaves⟩

end Propositional
