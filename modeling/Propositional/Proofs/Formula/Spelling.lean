import Propositional.Formula.Spelling
import Propositional.Proofs.Assembly.Leaf
import Propositional.Proofs.Grammar.PartialTree

/-!
# Spellings and derivations

The grammar derives trees from tokens, and a spelling is a sequence of
characters of a formula. For tokens that were read from a text the two say the
same, and the translation of the tree is the formula that was spelled.

> `Denotes.spells`, `spells_of_derives`: the characters of derived tokens spell the
> translation of their tree.
> `derives_of_spells`: the tokens of a spelling are derived by a tree that is
> translated to the formula.
> `Spells.unique`: no sequence of characters spells two formulas.
> `Spells.eq_nil_of_append`: no spelling is the beginning of a longer one.
-/

namespace Propositional

variable {text : List Char}

/-- Every character of a spelling is a token. -/
theorem Spells.isTokenCharacter {chars : List Char} {formula : Formula}
    (h : Spells chars formula) : ∀ c ∈ chars, IsTokenCharacter c := by
  have hopening : IsTokenCharacter '(' := .inr (by decide)
  have hclosing : IsTokenCharacter ')' := .inr (by decide)
  induction h with
  | atom hc => exact List.forall_mem_singleton.2 (.inl hc)
  | negation _ ih => exact List.forall_mem_cons.2 ⟨.inr (by decide), ih⟩
  | @binary op _ _ _ _ _ _ ihl ihr =>
    have hsign : IsTokenCharacter op.symbol := by cases op <;> exact .inr (by decide)
    simp only [List.forall_mem_cons, List.forall_mem_append]
    exact ⟨hopening, ihl, hsign, ihr, hclosing, List.forall_mem_nil _⟩
  | group _ ih =>
    simp only [List.forall_mem_cons, List.forall_mem_append]
    exact ⟨hopening, ih, hclosing, List.forall_mem_nil _⟩

/-- The characters of derived tokens spell the formula of the derivation. -/
theorem Denotes.spells {tokens : List Token} {tree : ParseTree} {formula : Formula}
    (h : Denotes text tokens tree formula) :
    Spells (tokens.map (Token.character text)) formula := by
  induction h with
  | atom hletter hkind => exact .atom (hletter.writtenAs hkind)
  | negation hsign hkind _ ih =>
    rw [List.map_cons, hsign.writtenAs hkind]
    exact .negation ih
  | group hopening hkind₁ hclosing hkind₂ _ ih =>
    rw [List.map_cons, List.map_append, List.map_singleton, hopening.writtenAs hkind₁,
      hclosing.writtenAs hkind₂]
    exact .group ih
  | binary hopening hkind₁ hsign hkind₂ hclosing hkind₃ _ _ ihl ihr =>
    rw [List.map_cons, List.map_append, List.map_cons, List.map_append, List.map_singleton,
      hopening.writtenAs hkind₁, hsign.writtenAs hkind₂, hclosing.writtenAs hkind₃]
    exact .binary ihl ihr

/-- The characters of derived tokens spell a formula, and the tree of these tokens
is translated to it. -/
theorem spells_of_derives {tokens : List Token} {tree : ParseTree} (h : Derives tokens tree)
    (hread : ∀ token ∈ tokens, token.ReadFrom text) :
    ∃ formula, Spells (tokens.map (Token.character text)) formula ∧
      tree.StandsFor text formula := by
  obtain ⟨formula, hdenotes⟩ := h.exists_denotes hread
  exact ⟨formula, hdenotes.spells, hdenotes.standsFor⟩

/-- Tokens whose characters spell a formula are derived by a tree that is
translated to the formula. -/
theorem derives_of_spells {chars : List Char} {formula : Formula} (h : Spells chars formula) :
    ∀ {tokens : List Token}, tokens.map (Token.character text) = chars →
      (∀ token ∈ tokens, token.ReadFrom text) →
      ∃ tree, Derives tokens tree ∧ tree.StandsFor text formula := by
  induction h with
  | @atom c hc =>
    intro tokens hchars hread
    obtain ⟨letter, rfl, rfl⟩ := List.map_eq_singleton_iff.1 hchars
    have hletter := List.forall_mem_singleton.1 hread
    have hkind : letter.kind = .atom := hletter.kind_eq hc
    exact ⟨_, .atom hkind, ParseTree.standsFor_atom hletter hkind⟩
  | negation _ ih =>
    intro tokens hchars hread
    obtain ⟨sign, tokens, rfl, hchar, hrest⟩ := List.map_eq_cons_iff.1 hchars
    obtain ⟨hsign, htokens⟩ := List.forall_mem_cons.1 hread
    have hkind : sign.kind = .connective .negation := hsign.kind_eq hchar
    obtain ⟨operand, hderives, hoperand⟩ := ih hrest htokens
    exact ⟨_, .negation hkind hderives, ParseTree.standsFor_negation hsign hkind hoperand⟩
  | group _ ih =>
    intro tokens hchars hread
    obtain ⟨opening, tokens, rfl, hchar₁, hrest⟩ := List.map_eq_cons_iff.1 hchars
    obtain ⟨tokens, last, rfl, hinner, hlast⟩ := List.map_eq_append_iff.1 hrest
    obtain ⟨closing, rfl, hchar₂⟩ := List.map_eq_singleton_iff.1 hlast
    simp only [List.forall_mem_cons, List.forall_mem_append] at hread
    obtain ⟨hopening, htokens, hclosing, -⟩ := hread
    obtain ⟨inner, hderives, hformula⟩ := ih hinner htokens
    exact ⟨_, .group (hopening.kind_eq hchar₁) hderives (hclosing.kind_eq hchar₂),
      ParseTree.standsFor_group _ _ hformula⟩
  | @binary op _ _ _ _ _ _ ihl ihr =>
    intro tokens hchars hread
    obtain ⟨opening, tokens, rfl, hchar₁, hrest⟩ := List.map_eq_cons_iff.1 hchars
    obtain ⟨lefts, behind, rfl, hcharsl, hbehind⟩ := List.map_eq_append_iff.1 hrest
    obtain ⟨sign, behind, rfl, hchar₂, hrest'⟩ := List.map_eq_cons_iff.1 hbehind
    obtain ⟨rights, last, rfl, hcharsr, hlast⟩ := List.map_eq_append_iff.1 hrest'
    obtain ⟨closing, rfl, hchar₃⟩ := List.map_eq_singleton_iff.1 hlast
    simp only [List.forall_mem_cons, List.forall_mem_append] at hread
    obtain ⟨hopening, hlefts, hsign, hrights, hclosing, -⟩ := hread
    have hkind : sign.kind = .connective (.binary op) := hsign.kind_eq hchar₂
    obtain ⟨left, hderivesl, hleft⟩ := ihl hcharsl hlefts
    obtain ⟨right, hderivesr, hright⟩ := ihr hcharsr hrights
    exact ⟨_, .binary (hopening.kind_eq hchar₁) hderivesl hkind hderivesr
        (hclosing.kind_eq hchar₃),
      ParseTree.standsFor_binary hsign hkind _ _ hleft hright⟩

/-- A text in which nothing is ignored spells a formula exactly when its tokens are
derived by a tree that stands for the formula. -/
theorem spells_iff_derives {formula : Formula} (hfull : ∀ c ∈ text, isIgnorable c = false) :
    Spells text formula ↔
      (∀ c ∈ text, isIgnorable c = true ∨ IsTokenCharacter c) ∧
        ∃ tree, Derives (tokensFrom 1 0 text) tree ∧ tree.StandsFor text formula := by
  have hread : ∀ token ∈ tokensFrom 1 0 text, token.ReadFrom text :=
    fun _ => readFrom_of_mem_tokensFrom
  have hchars (hlegal : ∀ c ∈ text, isIgnorable c = true ∨ IsTokenCharacter c) :
      (tokensFrom 1 0 text).map (Token.character text) = text := by
    rw [map_character_tokensFrom hlegal, List.filter_eq_self]
    intro c hc
    rw [hfull c hc]
    rfl
  constructor
  · intro h
    have hlegal : ∀ c ∈ text, isIgnorable c = true ∨ IsTokenCharacter c :=
      fun c hc => .inr (h.isTokenCharacter c hc)
    exact ⟨hlegal, derives_of_spells h (hchars hlegal) hread⟩
  · intro h
    obtain ⟨hlegal, tree, hderives, hformula⟩ := h
    obtain ⟨spelled, hspells, hspelled⟩ := spells_of_derives hderives hread
    rw [hchars hlegal, hspelled.unique hformula] at hspells
    exact hspells

/-- No sequence of characters spells two formulas. -/
theorem Spells.unique {a b : Formula} (ha : Spells text a) (hb : Spells text b) : a = b := by
  have hfull : ∀ c ∈ text, isIgnorable c = false :=
    fun c hc => isIgnorable_eq_false (ha.isTokenCharacter c hc)
  obtain ⟨-, tree, hderives, hformula⟩ := (spells_iff_derives hfull).1 ha
  obtain ⟨-, other, hderives', hformula'⟩ := (spells_iff_derives hfull).1 hb
  rw [hderives'.unique hderives] at hformula'
  exact hformula.unique hformula'

/-- No spelling is the beginning of a longer one. -/
theorem Spells.eq_nil_of_append {front back : List Char} {a b : Formula} (ha : Spells front a)
    (hb : Spells (front ++ back) b) : back = [] := by
  have hlegal : ∀ c ∈ front ++ back, isIgnorable c = true ∨ IsTokenCharacter c :=
    fun c hc => .inr (hb.isTokenCharacter c hc)
  have hchars : (tokensFrom 1 0 (front ++ back)).map (Token.character (front ++ back)) =
      front ++ back := by
    rw [map_character_tokensFrom hlegal, List.filter_eq_self]
    intro c hc
    rw [isIgnorable_eq_false (hb.isTokenCharacter c hc)]
    rfl
  have hread : ∀ token ∈ tokensFrom 1 0 (front ++ back), token.ReadFrom (front ++ back) :=
    fun _ => readFrom_of_mem_tokensFrom
  -- the tokens split where the text does, and both the first part and the whole are derived
  obtain ⟨whole, hwhole, -⟩ := derives_of_spells hb hchars hread
  obtain ⟨first, last, htokens, hfirst, hlast⟩ := List.map_eq_append_iff.1 hchars
  rw [htokens] at hwhole hread
  obtain ⟨part, hpart, -⟩ :=
    derives_of_spells ha hfirst fun token htoken => hread token (List.mem_append_left _ htoken)
  rw [hpart.eq_nil_of_append hwhole] at hlast
  exact hlast.symm

end Propositional
