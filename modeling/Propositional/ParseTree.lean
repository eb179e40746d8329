import Propositional.Span

/-!
# Parse trees

The generic tree that a derivation leaves behind. A leaf names a range of the
text, a node carries the symbol that was derived and the trees of the right
side it was derived by. Nothing about a tree is checked here: a node may have
any symbol and any number of children, and a leaf any range.
-/

namespace Propositional

/-- A generic parse tree. -/
inductive ParseTree
  | leaf (span : Span)
  | node (symbol : String) (children : List ParseTree)
deriving Inhabited

/-- What a tree shows of itself at its top: the range of a leaf, or the symbol
of a node and the number of its children. -/
inductive ParseTree.Label
  | range (span : Span)
  | symbol (name : String) (arity : Nat)
deriving DecidableEq

namespace ParseTree

/-- The children of a node; a leaf has no list of children at all. -/
def children? : ParseTree → Option (List ParseTree)
  | leaf _ => none
  | node _ children => some children

/-- The range of a leaf. -/
def span? : ParseTree → Option Span
  | leaf span => some span
  | node _ _ => none

mutual

/-- The number of nodes and leaves of a tree. -/
def size : ParseTree → Nat
  | leaf _ => 1
  | node _ children => sizeAll children + 1

/-- The number of nodes and leaves of several trees together. -/
def sizeAll : List ParseTree → Nat
  | [] => 0
  | tree :: rest => size tree + sizeAll rest

end

mutual

/-- The labels of a tree, each node before its children. -/
def preorder : ParseTree → List Label
  | leaf span => [.range span]
  | node symbol children => .symbol symbol children.length :: preorderAll children

/-- The labels of several trees, one tree after the other. -/
def preorderAll : List ParseTree → List Label
  | [] => []
  | tree :: rest => preorder tree ++ preorderAll rest

end

/-- The ranges of the leaves, from left to right. -/
def leaves (tree : ParseTree) : List Span :=
  tree.preorder.filterMap fun
    | .range span => some span
    | .symbol _ _ => none

mutual

/-- The written form of a tree: a leaf as its range, a node as its symbol
followed by its children in parentheses. -/
def render : ParseTree → String
  | leaf span => span.render
  | node symbol children => symbol ++ "(" ++ String.intercalate " " (renderAll children) ++ ")"

/-- The written forms of several trees. -/
def renderAll : List ParseTree → List String
  | [] => []
  | tree :: rest => render tree :: renderAll rest

end

mutual

/-- Whether two trees are the same, symbols and ranges included. -/
def same : ParseTree → ParseTree → Bool
  | leaf a, leaf b => a == b
  | node s as, node t bs => s == t && sameAll as bs
  | leaf _, node _ _ => false
  | node _ _, leaf _ => false

/-- Whether two lists of trees are the same, tree by tree. -/
def sameAll : List ParseTree → List ParseTree → Bool
  | [], [] => true
  | a :: as, b :: bs => same a b && sameAll as bs
  | [], _ :: _ => false
  | _ :: _, [] => false

end

mutual

theorem same_iff : ∀ (a b : ParseTree), same a b = true ↔ a = b
  | leaf a, leaf b => by simp [same]
  | node s as, node t bs => by simp [same, sameAll_iff as bs]
  | leaf _, node _ _ => by simp [same]
  | node _ _, leaf _ => by simp [same]

theorem sameAll_iff : ∀ (as bs : List ParseTree), sameAll as bs = true ↔ as = bs
  | [], [] => by simp [sameAll]
  | a :: as, b :: bs => by simp [sameAll, same_iff a b, sameAll_iff as bs]
  | [], _ :: _ => by simp [sameAll]
  | _ :: _, [] => by simp [sameAll]

end

instance : DecidableEq ParseTree := fun a b =>
  decidable_of_iff (same a b = true) (same_iff a b)

theorem size_pos (tree : ParseTree) : 0 < tree.size := by
  cases tree <;> simp [size]

theorem preorderAll_eq_flatMap (trees : List ParseTree) :
    preorderAll trees = trees.flatMap preorder := by
  induction trees with
  | nil => rfl
  | cons tree rest ih => simp [preorderAll, ih]

end ParseTree

end Propositional
