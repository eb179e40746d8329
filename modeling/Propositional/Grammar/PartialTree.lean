import Propositional.Grammar.Derivation

/-!
# Derivations under construction

Reading a formula from left to right, one token at a time, there is at every
moment at most one way to go on. A `PartialTree` is what the tokens read so far
have built: the innermost place where something is missing, and around it, from
the inside out, the productions that have been begun. `advance?` adds a token,
and has no result when the token fits nowhere.

Only a token in the right place ever gets into a partial tree, so a token that
`advance?` refuses is the first one that no formula continues with.
-/

namespace Propositional

/-- A production that waits for one of its formulas. -/
inductive PartialTree.Frame
  /-- A negation without its operand. -/
  | negated (sign : Token)
  /-- An opening parenthesis without the first formula behind it. -/
  | opened (opening : Token)
  /-- A parenthesis, a formula and a binary connective without the second formula. -/
  | joined (opening : Token) (left : ParseTree) (sign : Token)

/-- What the tokens read so far have built. -/
inductive PartialTree
  /-- A formula has to begin here. -/
  | expecting (frames : List PartialTree.Frame)
  /-- One formula stands behind an opening parenthesis. -/
  | enclosed (opening : Token) (inner : ParseTree) (frames : List PartialTree.Frame)
  /-- Two formulas stand behind an opening parenthesis. -/
  | paired (opening : Token) (left : ParseTree) (sign : Token) (right : ParseTree)
      (frames : List PartialTree.Frame)
  /-- The whole formula has been read. -/
  | complete (tree : ParseTree)

namespace PartialTree

/-- Nothing has been read. -/
def start : PartialTree := expecting []

/-- Puts a finished formula where the innermost production waits for one. A
negation is finished by its operand, and so goes on to the next production. -/
def fill (tree : ParseTree) : List Frame → PartialTree
  | [] => complete tree
  | .negated sign :: frames => fill (.formula [sign.leaf, tree]) frames
  | .opened opening :: frames => enclosed opening tree frames
  | .joined opening left sign :: frames => paired opening left sign tree frames

/-- Adds the next token, if it fits. -/
def advance? (built : PartialTree) (token : Token) : Option PartialTree :=
  match built, token.kind with
  | expecting frames, .atom => some (fill (.formula [token.leaf]) frames)
  | expecting frames, .connective .negation => some (expecting (.negated token :: frames))
  | expecting frames, .opening => some (expecting (.opened token :: frames))
  | enclosed opening inner frames, .connective (.binary _) =>
    some (expecting (.joined opening inner token :: frames))
  | enclosed opening inner frames, .closing =>
    some (fill (.formula [opening.leaf, inner, token.leaf]) frames)
  | paired opening left sign right frames, .closing =>
    some (fill (.formula [opening.leaf, left, sign.leaf, right, token.leaf]) frames)
  | _, _ => none

/-- The tree, once the formula is complete. -/
def tree? : PartialTree → Option ParseTree
  | complete tree => some tree
  | _ => none

/-- Adds tokens one after the other, as long as each of them fits. -/
def advanceAll? : PartialTree → List Token → Option PartialTree
  | built, [] => some built
  | built, token :: rest => (built.advance? token).bind (·.advanceAll? rest)

end PartialTree

end Propositional
