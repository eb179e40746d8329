import Propositional.Proofs.Graph.Readability
import Propositional.Proofs.Graph.Rendering
import Propositional.Proofs.Parse.Letters
import Propositional.Proofs.Parse.Spelling

/-!
# Descriptions as a written form

A description is written for people, but it says all there is to say about a node: what
kind it is of, and what stands in each of its slots. `SameShape` compares two nodes of any
two graphs slot by slot, with no regard to their numbers or to what stands above them.

> `SameShape.eq_outline`, `HasOutline.sameShape`: places have the same shape when they have
> the same outline.
> `HasOutline.legible`, `Spells.legible`: whose descriptions can be read back.
> `description_serializes`: the same descriptions, the same shapes.
-/

namespace Propositional

/-- The kinds without slots are those of a generic node and of an atom. -/
theorem Kind.eq_plain_or_atom {kind : Kind} (h : kind.slots = []) :
    kind = .plain ∨ ∃ label, kind = .atom label := by
  cases kind with
  | plain => exact .inl rfl
  | atom label => exact .inr ⟨label, rfl⟩
  | pair | root => cases h
  | connective c => cases c <;> cases h

namespace Graph

variable {graph first second : Graph}

/-! ## Shapes -/

/-- What stands at a place of one graph looks like what stands at a place of another. Nodes
have to be of the same kind, atoms of the same label, and each slot that the kind has looks
the same. The two generic kinds share a name, but only one of them has slots to show. -/
inductive SameShape (first second : Graph) : Option NodeId → Option NodeId → Prop
  | missing : SameShape first second none none
  | node {a b : NodeId} {upper lower : Node} (ha : first.node? a = some upper)
      (hb : second.node? b = some lower) (hkind : upper.kind = lower.kind)
      (hchildren : ∀ slot ∈ upper.kind.slots,
        SameShape first second (upper.child slot) (lower.child slot)) :
      SameShape first second (some a) (some b)

theorem HasOutline.eq_missing {outline : Outline} (h : graph.HasOutline none outline) :
    outline = .missing := by
  cases h
  rfl

/-- Places of the same shape have the same outline. -/
theorem SameShape.eq_outline (hfirst : first.Tidy) (hsecond : second.Tidy)
    {place other : Option NodeId} (h : first.SameShape second place other) :
    ∀ {a b : Outline}, first.HasOutline place a → second.HasOutline other b → a = b := by
  induction h with
  | missing =>
    intro a b ha hb
    rw [ha.eq_missing, hb.eq_missing]
  | @node x y upper lower hx hy hkind _ ih =>
    intro a b ha hb
    have hside : ∀ slot {a b : Outline}, first.HasOutline (upper.child slot) a →
        second.HasOutline (lower.child slot) b → a = b := by
      intro slot a b ha hb
      by_cases hslot : slot ∈ upper.kind.slots
      · exact ih slot hslot ha hb
      · -- nothing stands outside the slots
        rw [(hfirst x upper hx).child_eq_none hslot] at ha
        rw [(hsecond y lower hy).child_eq_none (hkind ▸ hslot)] at hb
        rw [ha.eq_missing, hb.eq_missing]
    cases ha with
    | node hx' hleft hright =>
      cases hx.symm.trans hx'
      cases hb with
      | node hy' hleft' hright' =>
        cases hy.symm.trans hy'
        rw [hkind, hside .left hleft hleft', hside .right hright hright']

/-- Places of the same outline have the same shape. -/
theorem HasOutline.sameShape {place other : Option NodeId} {outline : Outline}
    (h : first.HasOutline place outline) :
    second.HasOutline other outline → first.SameShape second place other := by
  intro hother
  induction h generalizing other with
  | missing =>
    cases hother
    exact .missing
  | @node x upper left right hx hleft hright ihl ihr =>
    generalize hkind : upper.kind = kind at hother
    cases hother with
    | node hy hleft' hright' =>
      refine .node hx hy hkind fun slot _ => ?_
      cases slot with
      | left => exact ihl hleft'
      | right => exact ihr hright'

/-! ## What can be read back -/

/-- All atoms at and below a node are labeled by single letters from A to Z. -/
def Lettered (graph : Graph) (id : NodeId) : Prop :=
  ∀ other label, graph.AtOrAbove id other → graph.atomLabel? other = some label →
    ∃ c : Char, c.isUpper = true ∧ label = String.singleton c

/-- What holds of the atoms below a node holds of those below its children. -/
theorem Lettered.child (hconsistent : graph.Consistent) {id child : NodeId} {node : Node}
    {slot : Slot} (h : graph.Lettered id) (hnode : graph.node? id = some node)
    (hchild : node.child slot = some child) : graph.Lettered child := by
  intro other label habove hlabel
  refine h other label (.inr ((hconsistent.above_iff hnode).2 ?_)) hlabel
  cases slot with
  | left => exact .inl ⟨child, hchild, habove⟩
  | right => exact .inr ⟨child, hchild, habove⟩

/-- The outline of a node is legible if all atoms are lettered. -/
theorem HasOutline.legible (hconsistent : graph.Consistent) {place : Option NodeId}
    {outline : Outline} (h : graph.HasOutline place outline)
    (hlettered : ∀ id, place = some id → graph.Lettered id) : outline.Legible := by
  induction h with
  | missing => exact .word .missing
  | @node id node left right hnode hleft hright ihl ihr =>
    have hhere : graph.Lettered id := hlettered id rfl
    have htidy : node.Tidy := hconsistent.tidy id node hnode
    have hlegible : ∀ slot child, node.child slot = some child → graph.Lettered child :=
      fun slot child => hhere.child hconsistent hnode
    have hnoLeft : .left ∉ node.kind.slots → left = .missing := by
      intro hslot
      rw [show node.left = none from htidy.child_eq_none hslot] at hleft
      exact hleft.eq_missing
    have hnoRight : .right ∉ node.kind.slots → right = .missing := by
      intro hslot
      rw [show node.right = none from htidy.child_eq_none hslot] at hright
      exact hright.eq_missing
    by_cases hslots : node.kind.slots = []
    · rw [hnoLeft (by rw [hslots]; exact List.not_mem_nil),
        hnoRight (by rw [hslots]; exact List.not_mem_nil)]
      rcases Kind.eq_plain_or_atom hslots with hplain | ⟨label, hatom⟩
      · rw [hplain]
        exact .word .plain
      · have hlabel : graph.atomLabel? id = some label := by
          rw [atomLabel?, hnode, Option.map_some, hatom]
          rfl
        obtain ⟨c, hc, rfl⟩ := hhere id label (.inl rfl) hlabel
        rw [hatom]
        exact .word (.atom hc)
    · exact .slotted hslots (ihl (hlegible .left)) (ihr (hlegible .right)) hnoLeft hnoRight

/-- In a reachable graph, a node that is no ancestor of itself has an outline, and is
described as that is. -/
theorem Consistent.exists_outline (h : graph.Consistent) {id : NodeId} (hid : id < graph.size)
    (hloose : ¬graph.OnCycle id) :
    ∃ outline, graph.HasOutline (some id) outline ∧
      graph.describe? id = some outline.describe := by
  obtain ⟨ids, htraversal⟩ := h.exists_traversal ⟨⟨id, hid⟩, hloose⟩
  obtain ⟨outline, houtline⟩ := htraversal.exists_outline
  exact ⟨outline, houtline,
    describe?_eq_of_traversal h.tidy htraversal (htraversal.nodup h) houtline⟩

end Graph

/-! ## Formulas -/

theorem Formula.outline_inj {formula other : Formula} (h : formula.outline = other.outline) :
    formula = other := by
  have hfold := formula.fold?_outline
  rw [h, other.fold?_outline] at hfold
  exact (Option.some.inj (Option.some.inj hfold)).symm

/-- What can be written down can be read back. -/
theorem Spells.legible {chars : List Char} {formula : Formula} (h : Spells chars formula) :
    formula.outline.Legible := by
  induction h with
  | @atom c hc => exact .word (.atom (by rw [Char.isUpper_toUpper_eq_isAlpha, hc]))
  | negation _ ih =>
    exact .slotted (List.cons_ne_nil _ _) (.word .missing) ih (fun _ => rfl)
      fun hslot => absurd List.mem_cons_self hslot
  | binary _ _ ihl ihr =>
    exact .slotted (List.cons_ne_nil _ _) ihl ihr (fun hslot => absurd List.mem_cons_self hslot)
      fun hslot => absurd (List.mem_cons_of_mem _ List.mem_cons_self) hslot
  | group _ ih => exact ih

/-- A formula below a root is as legible as the formula. -/
theorem Outline.Legible.root {outline : Outline} (h : outline.Legible) :
    Legible (.node .root outline .missing) :=
  .slotted (List.cons_ne_nil _ _) h (.word .missing)
    (fun hslot => absurd List.mem_cons_self hslot) fun _ => rfl

/-- **Descriptions serialize.** Take any two nodes of any two reachable graphs, complete or
not, that are not their own ancestors and whose atoms are labeled by letters from A to Z.
Both have a description, and it is the same for both exactly if they have the same shape.
The descriptions of two accepted sources are the same exactly if the sources are parsed to
the same nodes with the same links. -/
theorem description_serializes :
    (∀ (first second : Graph) (a b : NodeId), first.Reachable → second.Reachable →
      a < first.size → b < second.size → ¬first.OnCycle a → ¬second.OnCycle b →
      first.Lettered a → second.Lettered b →
      ∃ text other, first.describe? a = some text ∧ second.describe? b = some other ∧
        (text = other ↔ first.SameShape second (some a) (some b))) ∧
    ∀ (source another : String) (parsed reparsed : Rooted),
      (parse source).outcome = .ok parsed → (parse another).outcome = .ok reparsed →
      ∃ text other, parsed.graph.describe? parsed.root = some text ∧
        reparsed.graph.describe? reparsed.root = some other ∧
        (text = other ↔ parsed = reparsed) := by
  constructor
  · intro first second a b hfirst hsecond ha hb hloose hloose' hlettered hlettered'
    obtain ⟨_, hlinked⟩ := hfirst.linkedBy
    obtain ⟨_, hlinked'⟩ := hsecond.linkedBy
    have hconsistent := hlinked.consistent
    have hconsistent' := hlinked'.consistent
    obtain ⟨outline, houtline, hdescribe⟩ := hconsistent.exists_outline ha hloose
    obtain ⟨outline', houtline', hdescribe'⟩ := hconsistent'.exists_outline hb hloose'
    refine ⟨_, _, hdescribe, hdescribe', ?_, ?_⟩
    · intro htext
      have hlegible := houtline.legible hconsistent (by rintro _ ⟨⟩; exact hlettered)
      have hlegible' := houtline'.legible hconsistent' (by rintro _ ⟨⟩; exact hlettered')
      obtain rfl := hlegible.eq_of_describe hlegible' htext
      exact houtline.sameShape houtline'
    · intro hshape
      rw [hshape.eq_outline hconsistent.tidy hconsistent'.tidy houtline houtline']
  · intro source another parsed reparsed hparsed hreparsed
    obtain ⟨formula, hspells, rfl⟩ := Graph.outcome_parse_eq_ok_iff.1 hparsed
    obtain ⟨formula', hspells', rfl⟩ := Graph.outcome_parse_eq_ok_iff.1 hreparsed
    refine ⟨_, _, Graph.describe?_withFormula Graph.tidy_empty formula,
      Graph.describe?_withFormula Graph.tidy_empty formula', ?_, ?_⟩
    · intro htext
      have houtlines := hspells.legible.root.eq_of_describe hspells'.legible.root htext
      rw [Formula.outline_inj (Outline.node.inj houtlines).2.1]
    · intro hsame
      have hdescribe := Graph.describe?_withFormula Graph.tidy_empty formula
      have hdescribe' := Graph.describe?_withFormula Graph.tidy_empty formula'
      rw [(Rooted.mk.inj hsame).1, hdescribe'] at hdescribe
      exact (Option.some.inj hdescribe).symm

/-- The atom `L` and a generic node, each on the left of a pair that lacks its right child,
and a negated letter that is written in two ways. -/
theorem pairs_and_negations_serialized :
    let first := Graph.empty.editAll [.create .pair, .create (.atom "l"), .attach 0 1]
    let second := Graph.empty.editAll [.create .pair, .create .plain, .attach 0 1]
    first.describe? 0 = some "(Logic L|nil)" ∧ second.describe? 0 = some "(Logic Logic|nil)" ∧
      ¬first.SameShape second (some 0) (some 0) ∧
      ∃ parsed, (parse "¬p").outcome = .ok parsed ∧ (parse "(¬(P))").outcome = .ok parsed ∧
        ∃ text, parsed.graph.describe? parsed.root = some text := by
  intro first second
  have hdescribe : first.describe? 0 = some "(Logic L|nil)" := by decide
  have hdescribe' : second.describe? 0 = some "(Logic Logic|nil)" := by decide
  have hloose : ¬first.OnCycle 0 := by
    rintro (h | ⟨h, _⟩) <;> cases h
  have hloose' : ¬second.OnCycle 0 := by
    rintro (h | ⟨h, _⟩) <;> cases h
  have hlettered : first.Lettered 0 := by
    intro other label _ hlabel
    match other with
    | 0 => cases hlabel
    | 1 => cases hlabel; exact ⟨'L', rfl, rfl⟩
    | _ + 2 => cases hlabel
  have hlettered' : second.Lettered 0 := by
    intro other label _ hlabel
    match other with
    | 0 | 1 => cases hlabel
    | _ + 2 => cases hlabel
  refine ⟨hdescribe, hdescribe', fun hshape => ?_, ?_⟩
  · obtain ⟨text, other, htext, hother, hsame⟩ := description_serializes.1 first second 0 0
      ⟨_, rfl⟩ ⟨_, rfl⟩ (by decide) (by decide) hloose hloose' hlettered hlettered'
    cases hdescribe.symm.trans htext
    cases hdescribe'.symm.trans hother
    exact absurd (hsame.2 hshape) (by decide)
  · have hspells : Spells (normalize "¬p").toList (.negation (.atom "P")) :=
      .group (.negation (.atom rfl))
    have hspells' : Spells (normalize "(¬(P))").toList (.negation (.atom "P")) :=
      .group (.group (.negation (.group (.atom rfl))))
    have hparsed : (parse "¬p").outcome = _ := Graph.outcome_parse_eq_ok_iff.2 ⟨_, hspells, rfl⟩
    have hparsed' : (parse "(¬(P))").outcome = _ :=
      Graph.outcome_parse_eq_ok_iff.2 ⟨_, hspells', rfl⟩
    obtain ⟨text, other, htext, -, -⟩ := description_serializes.2 _ _ _ _ hparsed hparsed'
    exact ⟨_, hparsed, hparsed', text, htext⟩

end Propositional
