import Propositional.Proofs.Graph.Descent
import Propositional.Proofs.Graph.Description

/-!
# Descriptions by recursion on the graph

The description of a node is computed in a table, with the nodes of its walk taken
from the last to the first. `Describes` says what it should be, by recursion on what
stands in the slots, whether they are filled or not. A graph may have cycles, but
none of them lies below a node that is not on one itself.

> `HasOutline.describes`, `Describes.eq_describe`: a place is described as its outline
> is, and by nothing else.
> `exists_table_of_foldlM_enter`: where the whole walk could be entered, every child had
> its entry when its parent was entered.
> `described_by_recursion`: the table leads to what the recursion says.
-/

namespace Propositional

/-- With two slots, a kind is described by its name and both of its sides. -/
theorem Kind.describe_of_layout {kind : Kind} (h : kind.layout = .leftAndRight)
    (left right : Option String) :
    kind.describe left right =
      "(" ++ kind.name ++ " " ++ left.getD missingText ++ "|" ++ right.getD missingText ++ ")" := by
  unfold describe
  split
  next => cases h
  next => rw [h]

namespace Graph

variable {graph : Graph}

/-! ## The recursion -/

/-- What stands at a place of a graph, filled or not, is described by the text. -/
inductive Describes (graph : Graph) : Option NodeId → String → Prop
  | missing : Describes graph none "nil"
  | atom {id : NodeId} {label : String} {parent left right : Option NodeId}
      (hnode : graph.node? id = some ⟨.atom label, parent, left, right⟩) :
      Describes graph (some id) label
  | plain {id : NodeId} {parent left right : Option NodeId}
      (hnode : graph.node? id = some ⟨.plain, parent, left, right⟩) :
      Describes graph (some id) "Logic"
  | root {id : NodeId} {parent left right : Option NodeId} {text : String}
      (hnode : graph.node? id = some ⟨.root, parent, left, right⟩)
      (hleft : Describes graph left text) :
      Describes graph (some id) ("(Root " ++ text ++ "|_)")
  | negation {id : NodeId} {parent left right : Option NodeId} {text : String}
      (hnode : graph.node? id = some ⟨.connective .negation, parent, left, right⟩)
      (hright : Describes graph right text) :
      Describes graph (some id) ("(Negation _|" ++ text ++ ")")
  | binary {id : NodeId} {kind : Kind} {parent left right : Option NodeId}
      {before behind : String} (hnode : graph.node? id = some ⟨kind, parent, left, right⟩)
      (hkind : kind.layout = .leftAndRight) (hleft : Describes graph left before)
      (hright : Describes graph right behind) :
      Describes graph (some id) ("(" ++ kind.name ++ " " ++ before ++ "|" ++ behind ++ ")")

/-- The outline of a place is described as the place is. -/
theorem HasOutline.describes {place : Option NodeId} {outline : Outline}
    (h : graph.HasOutline place outline) : graph.Describes place outline.describe := by
  induction h with
  | missing => exact .missing
  | @node id node left right hnode _ _ ihl ihr =>
    obtain ⟨kind, parent, onLeft, onRight⟩ := node
    cases kind with
    | plain => exact .plain hnode
    | pair => exact .binary hnode rfl ihl ihr
    | root => exact .root hnode ihl
    | atom label => exact .atom hnode
    | connective c =>
      cases c with
      | negation => exact .negation hnode ihr
      | binary op => exact .binary hnode rfl ihl ihr

/-- So nothing else describes it. -/
theorem Describes.eq_describe {place : Option NodeId} {text : String}
    (h : graph.Describes place text) :
    ∀ {outline : Outline}, graph.HasOutline place outline → text = outline.describe := by
  induction h with
  | missing =>
    intro outline houtline
    cases houtline
    rfl
  | atom hnode | plain hnode =>
    intro outline houtline
    cases houtline with
    | node hnode' hleft hright =>
      cases hnode.symm.trans hnode'
      rfl
  | root hnode _ ih =>
    intro outline houtline
    cases houtline with
    | node hnode' hleft hright =>
      cases hnode.symm.trans hnode'
      rw [ih hleft]
      rfl
  | negation hnode _ ih =>
    intro outline houtline
    cases houtline with
    | node hnode' hleft hright =>
      cases hnode.symm.trans hnode'
      rw [ih hright]
      rfl
  | @binary id kind parent left right before behind hnode hkind _ _ ihl ihr =>
    intro outline houtline
    cases houtline with
    | node hnode' hleft hright =>
      cases hnode.symm.trans hnode'
      rw [ihl hleft, ihr hright, Outline.describe, Kind.describe_of_layout hkind,
        Option.getD_some, Option.getD_some]

/-- What has a traversal has an outline. -/
theorem Traversal.exists_outline {place : Option NodeId} {ids : List NodeId}
    (h : graph.Traversal place ids) : ∃ outline, graph.HasOutline place outline := by
  induction h with
  | missing => exact ⟨_, .missing⟩
  | node hnode _ _ ihl ihr =>
    obtain ⟨left, hleft⟩ := ihl
    obtain ⟨right, hright⟩ := ihr
    exact ⟨_, .node hnode hleft hright⟩

/-! ## Lookups -/

variable {β : Type} {value : Kind → Option β → Option β → Option β}

/-- Where the value of a node can be entered, its children have their entries. -/
theorem getD_isSome_of_enter {table after : Array (Option β)} {id child : NodeId} {slot : Slot}
    (h : graph.enter value table id = some after) (hchild : graph.child? id slot = some child) :
    (table.getD child none).isSome = true := by
  have hlookup : ∀ {place : Option NodeId} {entry : Option β}, lookup table place = some entry →
      place = some child → (table.getD child none).isSome = true := by
    intro place entry hentry hplace
    rw [hplace, lookup, Option.map_eq_some_iff] at hentry
    obtain ⟨found, hfound, -⟩ := hentry
    rw [hfound]
    rfl
  simp only [enter, bind, Option.bind_eq_some_iff] at h
  obtain ⟨node, hnode, left, hleft, right, hright, -⟩ := h
  rw [child?, hnode, Option.bind_some] at hchild
  cases slot with
  | left => exact hlookup hleft hchild
  | right => exact hlookup hright hchild

/-- Where the values of some nodes can be entered one after the other, each child has its
entry when the turn of its parent comes. -/
theorem exists_table_of_foldlM_enter {before after : List NodeId} {id : NodeId}
    {table final : Array (Option β)}
    (h : (before ++ id :: after).foldlM (graph.enter value) table = some final) :
    ∃ reached, before.foldlM (graph.enter value) table = some reached ∧
      ∀ slot child, graph.child? id slot = some child →
        (reached.getD child none).isSome = true := by
  rw [List.foldlM_append] at h
  obtain ⟨reached, hreached, hrest⟩ := Option.bind_eq_some_iff.1 h
  rw [List.foldlM_cons] at hrest
  obtain ⟨next, hnext, -⟩ := Option.bind_eq_some_iff.1 hrest
  exact ⟨reached, hreached, fun slot child => getD_isSome_of_enter hnext⟩

/-! ## Descriptions -/

/-- The value that a node's description is computed by. -/
def describeValue (kind : Kind) (left right : Option String) : Option String :=
  some (kind.describe left right)

/-- **Descriptions are computed as the recursion says.** In a reachable graph take a node
that is no ancestor of itself, whatever slots below it are filled and whatever cycles
there are elsewhere. Its walk ends, and when the nodes of the walk are taken from the last
to the first, each child has its entry in the table by the time its parent is described.
The node is described by the text that the recursion gives, and by no other. -/
theorem described_by_recursion (hreachable : graph.Reachable) {id : NodeId}
    (hid : id < graph.size) (hloose : ¬graph.OnCycle id) :
    ∃ ids text, graph.Descent id ids ∧ graph.describe? id = some text ∧
      (∀ other, graph.Describes (some id) other ↔ other = text) ∧
      ∀ before node after, ids.reverse = before ++ node :: after →
        ∃ table, before.foldlM (graph.enter describeValue)
            (Array.replicate graph.size none) = some table ∧
          ∀ slot child, graph.child? node slot = some child →
            (table.getD child none).isSome = true := by
  obtain ⟨links, hlinked⟩ := hreachable.linkedBy
  have hconsistent : graph.Consistent := hlinked.consistent
  obtain ⟨ids, htraversal⟩ := hconsistent.exists_traversal ⟨⟨id, hid⟩, hloose⟩
  have hdescent := hconsistent.descent htraversal
  obtain ⟨outline, houtline⟩ := htraversal.exists_outline
  have hdescribe : graph.describe? id = some outline.describe :=
    describe?_eq_of_traversal hconsistent.tidy htraversal hdescent.nodup houtline
  refine ⟨ids, outline.describe, hdescent, hdescribe, fun other => ?_, ?_⟩
  · constructor
    · exact fun h => h.eq_describe houtline
    · rintro rfl
      exact houtline.describes
  · intro before node after hids
    -- the description could not have been found if an entry had been missing on the way
    rw [describe?, foldUp,
      preorder_eq_of_traversal hconsistent.tidy htraversal hdescent.nodup, hids] at hdescribe
    obtain ⟨final, hfinal, -⟩ := Option.bind_eq_some_iff.1 hdescribe
    exact exists_table_of_foldlM_enter hfinal

/-- A pair is its own left child. Beside this loop there are a root and the negation that it
holds, whose operand is missing. -/
theorem described_by_recursion_beside_loop :
    let graph := empty.editAll [.create .pair, .attach 0 0, .create .root,
      .create (.connective .negation), .attach 1 2]
    graph.Reachable ∧ graph.OnCycle 0 ∧ ¬graph.OnCycle 1 ∧
      graph.describe? 1 = some "(Root (Negation _|nil)|_)" := by
  intro graph
  have hreachable : graph.Reachable := ⟨_, rfl⟩
  have hloose : ¬graph.OnCycle 1 := by
    have htop : graph.parent? 1 = none := rfl
    intro hcycle
    cases hcycle with
    | parent h => cases htop.symm.trans h
    | step h _ => cases htop.symm.trans h
  refine ⟨hreachable, .parent rfl, hloose, ?_⟩
  obtain ⟨ids, text, -, hdescribe, htext, -⟩ :=
    described_by_recursion hreachable (by decide) hloose
  have hdescribes :
      graph.Describes (some 1) ("(Root " ++ ("(Negation _|" ++ "nil" ++ ")") ++ "|_)") :=
    .root rfl (.negation rfl .missing)
  rw [hdescribe, ← (htext _).1 hdescribes]
  rfl

end Graph

end Propositional
