import Propositional.Token
import Propositional.ParseTree

/-!
# The grammar of formulas

One symbol, `formula`, with seven productions: an atom, a formula in
parentheses, a negation, and two formulas joined by one of the four binary
connectives, always in parentheses. `Derives tokens tree` says that `tree` is a
derivation of exactly these tokens: every node is a `formula` whose children
are the right side of one production, tokens as leaves.
-/

namespace Propositional

/-- A node of the only symbol of the grammar. -/
def ParseTree.formula (children : List ParseTree) : ParseTree :=
  .node "formula" children

/-- The leaf of a token. -/
def Token.leaf (token : Token) : ParseTree := .leaf token.span

/-- The derivations of a sequence of tokens from `formula`. -/
inductive Derives : List Token → ParseTree → Prop
  | atom {letter : Token} (hletter : letter.kind = .atom) :
      Derives [letter] (.formula [letter.leaf])
  | negation {sign : Token} {tokens : List Token} {operand : ParseTree}
      (hsign : sign.kind = .connective .negation) (hoperand : Derives tokens operand) :
      Derives (sign :: tokens) (.formula [sign.leaf, operand])
  | group {opening closing : Token} {tokens : List Token} {inner : ParseTree}
      (hopening : opening.kind = .opening) (hinner : Derives tokens inner)
      (hclosing : closing.kind = .closing) :
      Derives (opening :: (tokens ++ [closing]))
        (.formula [opening.leaf, inner, closing.leaf])
  | binary {opening sign closing : Token} {op : BinaryConnective}
      {lefts rights : List Token} {left right : ParseTree}
      (hopening : opening.kind = .opening) (hleft : Derives lefts left)
      (hsign : sign.kind = .connective (.binary op)) (hright : Derives rights right)
      (hclosing : closing.kind = .closing) :
      Derives (opening :: (lefts ++ sign :: (rights ++ [closing])))
        (.formula [opening.leaf, left, sign.leaf, right, closing.leaf])

/-- Some tree derives the tokens. -/
def Derivable (tokens : List Token) : Prop := ∃ tree, Derives tokens tree

/-- The tokens can still be continued to a derivable sequence, or are one. -/
def Viable (tokens : List Token) : Prop := ∃ rest, Derivable (tokens ++ rest)

end Propositional
