import Propositional.Proofs.Graph.Descent
import Propositional.Proofs.Parse.Spelling

/-!
# What is built is a tree

While parse trees are worked through, nodes are attached that have no children yet
and get them turns later. `Rooted.WellFormed` says what there is in the end: the
walk from the root is a tree, every slot in it is filled, and every node stands in
a slot of its parent and nowhere else. That both ends of each link agree holds
after any development of a graph, and a build is one; which slots are filled is
read off the nodes of the formula that was built.

> `wellFormed_withFormula`: the nodes of a formula under a root are a tree.
> `wellFormed_of_assemble`: every build that succeeds leaves such a tree.
> `Spells.size_eq`: parentheses are the only characters that stand for no node.
-/

namespace Propositional

/-! ## Trees -/

theorem Node.IsPart.isComplete {node : Node} (h : node.IsPart) : node.isComplete = true := by
  cases h <;> rfl

/-- The nodes are those of a tree of a formula, with the root first. -/
structure Rooted.WellFormed (rooted : Rooted) (ids : List NodeId) : Prop where
  /-- The walk from the root comes to each of the nodes once, and ends. -/
  descent : rooted.graph.Descent rooted.root ids
  /-- The root is the child of no node and holds one child, on the left. -/
  root : ∃ child, rooted.graph.node? rooted.root = some ⟨.root, none, some child, none⟩
  /-- The other nodes have the kinds and the operands of a formula. -/
  isPart : ∀ id ∈ ids, id ≠ rooted.root →
    ∃ node, rooted.graph.node? id = some node ∧ node.IsPart
  isComplete : ∀ id ∈ ids, ∃ node, rooted.graph.node? id = some node ∧ node.isComplete = true
  /-- The parent of a node is in the tree, too, and the one node that holds it. -/
  parent : ∀ id ∈ ids, id ≠ rooted.root →
    ∃ upper ∈ ids, rooted.graph.parent? id = some upper ∧
      ∃ slot, ∀ holder place,
        rooted.graph.child? holder place = some id ↔ holder = upper ∧ place = slot

namespace Graph

/-- Every number of a node of the list is found in the graph. -/
theorem Holds.exists_node {graph : Graph} {first id : NodeId} {nodes : List Node}
    (h : graph.Holds first nodes) (hid : id ∈ List.range' first nodes.length) :
    ∃ node ∈ nodes, graph.node? id = some node := by
  obtain ⟨hle, hlt⟩ := List.mem_range'_1.1 hid
  obtain ⟨k, rfl⟩ := Nat.exists_eq_add_of_le hle
  have hk : k < nodes.length := Nat.lt_of_add_lt_add_left hlt
  exact ⟨nodes[k], List.getElem_mem hk, h k nodes[k] (List.getElem?_eq_getElem hk)⟩

/-- The nodes of a formula under a root are a tree. -/
theorem wellFormed_withFormula {graph : Graph} {formula : Formula}
    (h : (graph.withFormula formula).Consistent) :
    Rooted.WellFormed ⟨graph.withFormula formula, graph.size⟩
      (List.range' graph.size (formula.size + 1)) := by
  obtain ⟨hroot, hformula⟩ := graph.holds_withFormula formula
  have hdescent := h.descent (graph.traversal_withFormula formula)
  have hisPart : ∀ id ∈ List.range' graph.size (formula.size + 1), id ≠ graph.size →
      ∃ node, (graph.withFormula formula).node? id = some node ∧ node.IsPart := by
    intro id hid hne
    rw [List.range'_succ, ← formula.length_nodes graph.size (graph.size + 1)] at hid
    rcases List.mem_cons.1 hid with heq | hbelow
    · exact absurd heq hne
    · obtain ⟨node, hmem, hnode⟩ := hformula.exists_node hbelow
      exact ⟨node, hnode, Formula.isPart_of_mem_nodes hmem⟩
  refine ⟨hdescent, ⟨_, hroot⟩, hisPart, ?_, ?_⟩
  · intro id hid
    by_cases heq : id = graph.size
    · rw [heq]
      exact ⟨_, hroot, rfl⟩
    · obtain ⟨node, hnode, hpart⟩ := hisPart id hid heq
      exact ⟨node, hnode, hpart.isComplete⟩
  · intro id hid hne
    obtain ⟨upper, hupper, hparent⟩ := hdescent.exists_parent hid hne
    exact ⟨upper, hupper, hparent, h.exists_slot hparent⟩

/-- Every build that succeeds leaves the tree of a formula. -/
theorem wellFormed_of_assemble {graph : Graph} {links : List Link} (hlinked : graph.LinkedBy links)
    {text : String} {tree : ParseTree} {built : Rooted}
    (h : (graph.assemble text tree).outcome = .ok built) :
    ∃ formula, built = ⟨graph.withFormula formula, graph.size⟩ ∧
      built.WellFormed (List.range' graph.size (formula.size + 1)) := by
  have hconsistent : built.graph.Consistent :=
    (hlinked.develops (assemble_develops h)).consistent
  rw [outcome_assemble] at h
  cases htranslated : (tree.formula? text.toList .root .left).outcome with
  | error refusal =>
    rw [htranslated] at h
    cases h
  | ok formula =>
    rw [htranslated] at h
    cases h
    exact ⟨formula, rfl, wellFormed_withFormula hconsistent⟩

end Graph

/-! ## How many nodes there are -/

/-- Whether a character is one of the two parentheses. -/
def isParenthesis (c : Char) : Bool := c == '(' || c == ')'

/-- A formula has one node for each character of its spelling that is not a
parenthesis. -/
theorem Spells.size_eq {chars : List Char} {formula : Formula} (h : Spells chars formula) :
    formula.size = chars.countP fun c => !isParenthesis c := by
  have hopening : isParenthesis '(' = true := rfl
  have hclosing : isParenthesis ')' = true := rfl
  induction h with
  | @atom c hc =>
    have hopening' : c ≠ '(' := ne_of_isAlpha hc rfl
    have hclosing' : c ≠ ')' := ne_of_isAlpha hc rfl
    simp [Formula.size, isParenthesis, hopening', hclosing']
  | negation _ ih =>
    have hsign : isParenthesis '¬' = false := rfl
    simp [Formula.size, ih, hsign]
  | @binary op lefts rights left right _ _ ihl ihr =>
    have hsign : isParenthesis op.symbol = false := by cases op <;> rfl
    simp only [Formula.size, ihl, ihr, List.countP_cons, List.countP_append, List.countP_nil,
      hopening, hclosing, hsign, Bool.not_true, Bool.not_false, Bool.false_eq_true, if_false,
      if_true]
    omega
  | group _ ih => simp [ih, hopening, hclosing]

/-- **What is built is a tree.** Whatever a builder has built before, if it builds
anything from a parse tree, of whatever shape, it is the tree of a formula under a
root. So is what a source is parsed to, and there the walk from the root comes to one
node more than the normalized source has characters other than parentheses. -/
theorem built_trees_wellFormed :
    (∀ (text : String) (history : List ParseTree) (tree : ParseTree) (built : Rooted),
      (((Builder.ofText text).afterBuilds history).build tree).2.outcome = .ok built →
      ∃ ids, built.WellFormed ids) ∧
    ∀ (source : String) (parsed : Rooted), (parse source).outcome = .ok parsed →
      ∃ ids, parsed.WellFormed ids ∧
        ids.length = 1 + (normalize source).toList.countP fun c => !isParenthesis c := by
  constructor
  · intro text history tree built h
    obtain ⟨formula, -, hwellFormed⟩ := Graph.wellFormed_of_assemble Graph.linkedBy_empty h
    exact ⟨_, hwellFormed⟩
  · intro source parsed h
    obtain ⟨formula, hspells, rfl⟩ := Graph.outcome_parse_eq_ok_iff.1 h
    have hlinked := Graph.linkedBy_empty.develops (Graph.parse_develops h)
    refine ⟨_, Graph.wellFormed_withFormula hlinked.consistent, ?_⟩
    rw [List.length_range', hspells.size_eq, Nat.add_comm]

/-- A root, a negation and a letter. -/
theorem negated_letter_wellFormed :
    ∃ parsed ids, (parse "¬p").outcome = .ok parsed ∧ parsed.WellFormed ids ∧ ids.length = 3 := by
  have hspells : Spells (normalize "¬p").toList (.negation (.atom "P")) :=
    .group (.negation (.atom rfl))
  have hparsed : (parse "¬p").outcome =
      .ok ⟨Graph.empty.withFormula (.negation (.atom "P")), Graph.empty.size⟩ :=
    Graph.outcome_parse_eq_ok_iff.2 ⟨_, hspells, rfl⟩
  obtain ⟨ids, hwellFormed, hlength⟩ := built_trees_wellFormed.2 "¬p" _ hparsed
  exact ⟨_, ids, hparsed, hwellFormed, hlength⟩

end Propositional
