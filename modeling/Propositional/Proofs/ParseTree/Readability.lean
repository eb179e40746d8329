import Propositional.Grammar.Derivation
import Propositional.Proofs.Text.Word

/-!
# Written trees can be read back

The written form of a tree keeps its brackets and the bounds of its leaves, and nothing
says how many children a node has but the brackets: none, one or many stand between them,
with blanks in between. It is enough to read the tree back, for every written form ends
where its first bracket is closed, and the first character of a form is neither a blank nor
a closing bracket.

> `Span.render_append_cancel`: a range, with anything behind it, is told from its bounds.
> `OfFormulas.legible`: so is a tree, whatever its shape.
> `render_eq_render_iff`: two trees of formulas have one written form only if they are one.

A symbol may be any text, also one with brackets in it, so the symbols have to be known.
-/

namespace Propositional

/-- Both bounds of a range stand between the brackets. -/
theorem Span.toList_render_append (span : Span) (rest : List Char) :
    span.render.toList ++ rest = '[' :: ((toString span.start).toList ++
      ':' :: ((toString span.stop).toList ++ ']' :: rest)) := by
  simp [render]

/-- Two ranges with anything behind them are told apart. -/
theorem Span.render_append_cancel {a b : Span} {rest rest' : List Char}
    (h : a.render.toList ++ rest = b.render.toList ++ rest') : a = b ∧ rest = rest' := by
  -- neither the colon nor the closing bracket belongs to an integer
  have hends : ∀ {mark : Char} {chars : List Char}, Text.isNumeral mark = false →
      ∀ c ∈ (mark :: chars).head?, Text.isNumeral c = false := by
    rintro mark chars hmark c ⟨⟩
    exact hmark
  rw [toList_render_append, toList_render_append] at h
  obtain ⟨hstart, hcolon⟩ :=
    Text.toString_append_cancel (hends rfl) (hends rfl) (List.cons.inj h).2
  obtain ⟨hstop, hbracket⟩ :=
    Text.toString_append_cancel (hends rfl) (hends rfl) (List.cons.inj hcolon).2
  refine ⟨?_, (List.cons.inj hbracket).2⟩
  calc a = ⟨a.start, a.stop⟩ := rfl
    _ = ⟨b.start, b.stop⟩ := by rw [hstart, hstop]

namespace ParseTree

/-- All nodes of a tree have the symbol of the grammar, whatever children they have. -/
inductive OfFormulas : ParseTree → Prop
  | leaf (span : Span) : OfFormulas (.leaf span)
  | formula {children : List ParseTree} (h : ∀ child ∈ children, child.OfFormulas) :
      OfFormulas (.formula children)

/-- Where a text begins with the written form of the tree, it begins with that of no other
tree of formulas. -/
def Legible (tree : ParseTree) : Prop :=
  ∀ {other : ParseTree} {rest rest' : List Char}, other.OfFormulas →
    tree.render.toList ++ rest = other.render.toList ++ rest' → tree = other ∧ rest = rest'

/-- What follows a child in the written form of its node: each further child behind a
blank, and then the closing parenthesis. -/
def renderBehind : List ParseTree → List Char
  | [] => [')']
  | child :: rest => ' ' :: (child.render.toList ++ renderBehind rest)

/-- What follows the opening parenthesis in the written form of a node. -/
def renderChildren : List ParseTree → List Char
  | [] => [')']
  | first :: rest => first.render.toList ++ renderBehind rest

theorem intercalate_append_eq (children : List ParseTree) :
    (String.intercalate " " (renderAll children)).toList ++ [')'] = renderChildren children := by
  cases children with
  | nil => rfl
  | cons first rest =>
    induction rest generalizing first with
    | nil => simp [renderAll, renderChildren, renderBehind]
    | cons child rest ih =>
      have hrest : renderBehind (child :: rest) = ' ' :: renderChildren (child :: rest) := rfl
      rw [renderChildren, hrest, ← ih child, renderAll, renderAll, String.intercalate_cons_cons]
      simp

theorem toList_render_formula (children : List ParseTree) :
    (formula children).render.toList = "formula(".toList ++ renderChildren children := by
  rw [← intercalate_append_eq, formula, render]
  simp

/-- The character that the written form of a tree of formulas begins with. -/
def mark : ParseTree → Char
  | leaf _ => '['
  | node _ _ => 'f'

theorem OfFormulas.exists_render_append {tree : ParseTree} (h : tree.OfFormulas)
    (rest : List Char) : ∃ chars, tree.render.toList ++ rest = tree.mark :: chars := by
  cases h with
  | leaf span => exact ⟨_, span.toList_render_append rest⟩
  | formula _ =>
    rw [toList_render_formula]
    exact ⟨_, rfl⟩

/-- No tree begins like the end of a node. -/
theorem OfFormulas.render_append_ne {tree : ParseTree} (h : tree.OfFormulas)
    (rest rest' : List Char) : tree.render.toList ++ rest ≠ ')' :: rest' := by
  intro heq
  obtain ⟨chars, hchars⟩ := h.exists_render_append rest
  rw [hchars] at heq
  cases tree <;> cases (List.cons.inj heq).1

/-- Trees that are written alike are marked alike. -/
theorem OfFormulas.mark_eq {a b : ParseTree} {rest rest' : List Char} (ha : a.OfFormulas)
    (hb : b.OfFormulas) (h : a.render.toList ++ rest = b.render.toList ++ rest') :
    a.mark = b.mark := by
  obtain ⟨chars, hchars⟩ := ha.exists_render_append rest
  obtain ⟨chars', hchars'⟩ := hb.exists_render_append rest'
  rw [hchars, hchars'] at h
  exact (List.cons.inj h).1

/-- Further children are told apart when each of them is: behind a child there is either a
blank or the closing parenthesis. -/
theorem renderBehind_append_cancel {children : List ParseTree}
    (h : ∀ child ∈ children, child.Legible) :
    ∀ {others : List ParseTree} {rest rest' : List Char}, (∀ child ∈ others, child.OfFormulas) →
      renderBehind children ++ rest = renderBehind others ++ rest' →
      children = others ∧ rest = rest' := by
  induction children with
  | nil =>
    intro others rest rest' _ heq
    cases others with
    | nil => exact ⟨rfl, (List.cons.inj heq).2⟩
    | cons other others => cases (List.cons.inj heq).1
  | cons child children ih =>
    intro others rest rest' hothers heq
    cases others with
    | nil => cases (List.cons.inj heq).1
    | cons other others =>
      obtain ⟨hother, hbehind⟩ := List.forall_mem_cons.1 hothers
      obtain ⟨hchild, hchildren⟩ := List.forall_mem_cons.1 h
      simp only [renderBehind, List.cons_append, List.append_assoc] at heq
      obtain ⟨rfl, hrests⟩ := hchild hother (List.cons.inj heq).2
      obtain ⟨rfl, hrest⟩ := ih hchildren hbehind hrests
      exact ⟨rfl, hrest⟩

/-- All children are told apart when each of them is: behind the opening parenthesis there
is either the closing one or a child. -/
theorem renderChildren_append_cancel {children others : List ParseTree} {rest rest' : List Char}
    (hchildren : ∀ child ∈ children, child.OfFormulas) (h : ∀ child ∈ children, child.Legible)
    (hothers : ∀ child ∈ others, child.OfFormulas)
    (heq : renderChildren children ++ rest = renderChildren others ++ rest') :
    children = others ∧ rest = rest' := by
  cases children with
  | nil =>
    cases others with
    | nil => exact ⟨rfl, (List.cons.inj heq).2⟩
    | cons other others =>
      rw [renderChildren, renderChildren, List.append_assoc] at heq
      exact absurd heq.symm ((hothers other List.mem_cons_self).render_append_ne _ _)
  | cons child children =>
    cases others with
    | nil =>
      rw [renderChildren, renderChildren, List.append_assoc] at heq
      exact absurd heq ((hchildren child List.mem_cons_self).render_append_ne _ _)
    | cons other others =>
      obtain ⟨hother, hbehind⟩ := List.forall_mem_cons.1 hothers
      obtain ⟨hchild, hfurther⟩ := List.forall_mem_cons.1 h
      rw [renderChildren, renderChildren, List.append_assoc, List.append_assoc] at heq
      obtain ⟨rfl, hrests⟩ := hchild hother heq
      obtain ⟨rfl, hrest⟩ := renderBehind_append_cancel hfurther hbehind hrests
      exact ⟨rfl, hrest⟩

/-- Every tree of formulas is told from its written form. -/
theorem OfFormulas.legible {tree : ParseTree} (h : tree.OfFormulas) : tree.Legible := by
  induction h with
  | leaf span =>
    intro other rest rest' hother heq
    cases hother with
    | leaf span' =>
      obtain ⟨rfl, hrest⟩ := Span.render_append_cancel heq
      exact ⟨rfl, hrest⟩
    | formula hothers => cases (OfFormulas.leaf span).mark_eq (.formula hothers) heq
  | @formula children hchildren ih =>
    intro other rest rest' hother heq
    cases hother with
    | leaf span => cases (OfFormulas.formula hchildren).mark_eq (.leaf span) heq
    | formula hothers =>
      rw [toList_render_formula, toList_render_formula, List.append_assoc, List.append_assoc] at heq
      obtain ⟨rfl, hrest⟩ := renderChildren_append_cancel hchildren ih hothers
        (List.append_cancel_left heq)
      exact ⟨rfl, hrest⟩

end ParseTree

/-- **A tree is told from its written form.** Two trees of any shape, all of whose nodes
are formulas, have the same written form only if they are the same tree: a node may have
any number of children, also none, and a leaf any bounds. -/
theorem render_eq_render_iff {a b : ParseTree} (ha : a.OfFormulas) (hb : b.OfFormulas) :
    a.render = b.render ↔ a = b := by
  constructor
  · intro h
    have htexts : a.render.toList ++ [] = b.render.toList ++ [] := by rw [h]
    exact (ha.legible hb htexts).1
  · intro h
    rw [h]

/-- A leaf beside a node without children is not taken for a leaf inside of it. -/
theorem render_beside_ne_render_inside :
    (ParseTree.formula [.formula [], .leaf ⟨-3, 10 ^ 30⟩]).OfFormulas ∧
      (ParseTree.formula [.formula [.leaf ⟨-3, 10 ^ 30⟩]]).OfFormulas ∧
      (ParseTree.formula [.formula [], .leaf ⟨-3, 10 ^ 30⟩]).render ≠
        (ParseTree.formula [.formula [.leaf ⟨-3, 10 ^ 30⟩]]).render := by
  have hleaf : (ParseTree.leaf ⟨-3, 10 ^ 30⟩).OfFormulas := .leaf _
  have hempty : (ParseTree.formula []).OfFormulas := .formula (List.forall_mem_nil _)
  have hbeside := ParseTree.OfFormulas.formula
    (List.forall_mem_cons.2 ⟨hempty, List.forall_mem_singleton.2 hleaf⟩)
  have hinside := ParseTree.OfFormulas.formula
    (List.forall_mem_singleton.2 (.formula (List.forall_mem_singleton.2 hleaf)))
  refine ⟨hbeside, hinside, fun h => ?_⟩
  cases (render_eq_render_iff hbeside hinside).1 h

end Propositional
