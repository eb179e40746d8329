import Propositional.Graph.Fold
import Propositional.Graph.Outline
import Propositional.Proofs.Graph.Walk

/-!
# Folding a graph is folding its outline

`foldUp` goes through a list of nodes and keeps the values in a table. What it
is meant to compute is a recursion over what lies below a node, which
`Outline.fold?` states.

> `foldlM_enter_frame`: entering the values of some nodes changes no other entry.
> `lookup_foldlM_enter`: after the nodes below a place have been entered, the
> place is looked up with the value of its outline.
> `foldUp_eq_of_traversal`: the value of a node is the value of its outline.

Where the recursion has no value, `foldUp` has none either, and never because an
entry was not there yet: children are entered before their parents.
-/

namespace Propositional

variable {β : Type}

/-- The value of an outline, from the values of its parts. A missing outline has
the value that stands for nothing, and no value where `value` has none. -/
def Outline.fold? (value : Kind → Option β → Option β → Option β) :
    Outline → Option (Option β)
  | missing => some none
  | node kind left right => do
    let left ← left.fold? value
    let right ← right.fold? value
    let result ← value kind left right
    return some result

namespace Graph

variable {graph : Graph} {value : Kind → Option β → Option β → Option β}

/-- Entering the value of one node changes at most the entry of that node. -/
theorem enter_frame {table after : Array (Option β)} {id : NodeId}
    (h : graph.enter value table id = some after) :
    after.size = table.size ∧
      ∀ other, other ≠ id → after.getD other none = table.getD other none := by
  simp only [enter, bind, pure, Option.bind_eq_some_iff] at h
  obtain ⟨node, -, left, -, right, -, result, -, hafter⟩ := h
  cases hafter
  refine ⟨Array.size_setIfInBounds, fun other hother => ?_⟩
  rw [Array.getD_eq_getD_getElem?, Array.getD_eq_getD_getElem?,
    Array.getElem?_setIfInBounds_ne (Ne.symm hother)]

/-- Entering the values of some nodes changes no other entry. -/
theorem foldlM_enter_frame {ids : List NodeId} {table after : Array (Option β)}
    (h : ids.foldlM (graph.enter value) table = some after) :
    after.size = table.size ∧
      ∀ other, other ∉ ids → after.getD other none = table.getD other none := by
  induction ids generalizing table with
  | nil =>
    cases h
    exact ⟨rfl, fun _ _ => rfl⟩
  | cons id ids ih =>
    rw [List.foldlM_cons] at h
    obtain ⟨middle, hmiddle, hafter⟩ := Option.bind_eq_some_iff.1 h
    obtain ⟨hsize, hentries⟩ := enter_frame hmiddle
    obtain ⟨hsize', hentries'⟩ := ih hafter
    refine ⟨hsize'.trans hsize, fun other hother => ?_⟩
    rw [List.mem_cons, not_or] at hother
    rw [hentries' other hother.2, hentries other hother.1]

/-- What has been entered at and below a place stays when nodes elsewhere are
entered. -/
theorem lookup_eq_of_frame {ids others : List NodeId} {place : Option NodeId}
    {table after : Array (Option β)} (h : graph.Traversal place ids)
    (hdisjoint : ∀ id ∈ ids, id ∉ others)
    (hafter : others.foldlM (graph.enter value) table = some after) :
    lookup after place = lookup table place := by
  cases place with
  | none => rfl
  | some id =>
    rw [lookup, lookup, (foldlM_enter_frame hafter).2 id (hdisjoint id h.mem)]

/-- Entering a node when both of its sides can be looked up. -/
theorem lookup_enter {table : Array (Option β)} {id : NodeId} {node : Node}
    (hnode : graph.node? id = some node) (hsize : table.size = graph.size) :
    (graph.enter value table id).bind (lookup · (some id)) = do
      let left ← lookup table node.left
      let right ← lookup table node.right
      let result ← value node.kind left right
      return some result := by
  have hid : id < table.size := hsize ▸ node?_isSome.1 (by rw [hnode]; rfl)
  simp only [enter, hnode, bind, Option.bind_some, Option.bind_assoc]
  congr 1
  funext left
  congr 1
  funext right
  congr 1
  funext result
  simp [lookup, hid]

/-- The nodes below a place are entered from the right to the left, the topmost one
last. -/
theorem foldlM_enter_cons (id : NodeId) (lefts rights : List NodeId)
    (table : Array (Option β)) :
    (id :: (lefts ++ rights)).reverse.foldlM (graph.enter value) table =
      (rights.reverse.foldlM (graph.enter value) table).bind fun first =>
        (lefts.reverse.foldlM (graph.enter value) first).bind fun second =>
          graph.enter value second id := by
  rw [List.reverse_cons, List.reverse_append, List.foldlM_append, List.foldlM_append]
  simp only [List.foldlM_cons, List.foldlM_nil, bind, pure, Option.bind_assoc,
    Option.bind_fun_some]

/-- After the nodes below a place have been entered, children first, the place is
looked up with the value of its outline. -/
theorem lookup_foldlM_enter {place : Option NodeId} {ids : List NodeId}
    (h : graph.Traversal place ids) :
    ∀ (outline : Outline) (table : Array (Option β)), graph.HasOutline place outline →
      ids.Nodup → table.size = graph.size →
      (ids.reverse.foldlM (graph.enter value) table).bind (lookup · place) =
        outline.fold? value := by
  induction h with
  | missing =>
    intro outline table houtline _ _
    cases houtline
    rfl
  | @node id node lefts rights hnode hlefts hrights ihl ihr =>
    intro outline table houtline hnodup hsize
    -- the right side is entered first, then the left side, then the node itself
    cases houtline with
    | @node _ node' left right hnode' hleft hright =>
      cases hnode.symm.trans hnode'
      obtain ⟨hnodupl, hnodupr, hdisjoint⟩ := List.nodup_append.1 (List.nodup_cons.1 hnodup).2
      rw [foldlM_enter_cons]
      have hfirst := ihr right table hright hnodupr hsize
      cases hr : rights.reverse.foldlM (graph.enter value) table with
      | none =>
        -- then the right side has no value, and neither has the node
        rw [hr] at hfirst
        cases hl : left.fold? value <;> simp [Outline.fold?, hl, ← hfirst]
      | some first =>
        rw [hr, Option.bind_some] at hfirst
        have hsize₁ : first.size = graph.size := (foldlM_enter_frame hr).1.trans hsize
        have hsecond := ihl left first hleft hnodupl hsize₁
        cases hl : lefts.reverse.foldlM (graph.enter value) first with
        | none =>
          rw [hl] at hsecond
          simp only [Option.bind_some, hl, Option.bind_none, Outline.fold?, ← hsecond]
          rfl
        | some second =>
          rw [hl, Option.bind_some] at hsecond
          -- the left side has been entered since, elsewhere in the table
          have hkept : lookup second node.right = right.fold? value := by
            rw [← hfirst]
            refine lookup_eq_of_frame hrights (fun other hother hmem => ?_) hl
            exact hdisjoint other (List.mem_reverse.1 hmem) other hother rfl
          have hsize₂ : second.size = graph.size := (foldlM_enter_frame hl).1.trans hsize₁
          rw [Option.bind_some, hl, Option.bind_some, lookup_enter hnode hsize₂, hsecond, hkept]
          rfl

/-- **Folding a graph is folding its outline.** The value of a node below which no
node is met twice is the value of its outline. -/
theorem foldUp_eq_of_traversal (htidy : graph.Tidy) {id : NodeId} {ids : List NodeId}
    {outline : Outline} (h : graph.Traversal (some id) ids) (hnodup : ids.Nodup)
    (houtline : graph.HasOutline (some id) outline) :
    graph.foldUp value id = (outline.fold? value).join := by
  have hsize : (Array.replicate graph.size (none : Option β)).size = graph.size :=
    Array.size_replicate
  rw [← lookup_foldlM_enter h outline _ houtline hnodup hsize, foldUp,
    preorder_eq_of_traversal htidy h hnodup]
  cases ids.reverse.foldlM (graph.enter value) (Array.replicate graph.size none) with
  | none => rfl
  | some table =>
    show table.getD id none = ((table.getD id none).map some).join
    cases table.getD id none <;> rfl

end Graph

end Propositional
