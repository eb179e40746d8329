import Propositional.Assembly.Error
import Propositional.Diagnostic
import Propositional.ParseTree

/-!
# What the leaves of a parse tree stand for

A leaf names a range of the text, and only the first character of the range
matters: a letter for an atom, a connective for an operator. A lowercase letter
is reported, with the start of the range as it is written in the leaf, before it
is known whether its uppercase form can be the label of an atom.
-/

namespace Propositional

open Log (Traced Event)

/-- The first character under a leaf, and the start of its range. -/
def readCharacter (text : List Char) : ParseTree → Except BuildError (Char × Int)
  | .node _ _ => .error .notLeaf
  | .leaf span =>
    match span.first? text with
    | some c => .ok (c, span.start)
    | none => .error .emptyRange

/-- What is reported about the letter of an atom. -/
def caseEvents (c : Char) (position : Int) : List Event :=
  if Text.isLowercase c then [.lowercaseAtom c.toString position] else []

/-- The label of the atom under a leaf. -/
def readAtom (text : List Char) (tree : ParseTree) : Traced BuildError String :=
  match readCharacter text tree with
  | .error refusal => .fail refusal
  | .ok (c, position) =>
    if Text.isLetter c then
      ⟨caseEvents c position,
        (atomLabel (String.ofList (Text.uppercase c))).mapError .notALetter⟩
    else .fail (.unexpectedCharacter c)

/-- The connective under a leaf. -/
def readConnective (text : List Char) (tree : ParseTree) : Except BuildError Connective :=
  match readCharacter text tree with
  | .error refusal => .error refusal
  | .ok (c, _) =>
    match Connective.ofChar? c with
    | some found => .ok found
    | none => .error (.unexpectedCharacter c)

/-- Makes sure that the connective under a leaf is a negation. -/
def readNegation (text : List Char) (tree : ParseTree) : Except BuildError Unit :=
  match readConnective text tree with
  | .error refusal => .error refusal
  | .ok .negation => .ok ()
  | .ok (.binary op) => .error (.unexpectedConnective (.binary op))

/-- The binary connective under a leaf. -/
def readOperator (text : List Char) (tree : ParseTree) : Except BuildError BinaryConnective :=
  match readConnective text tree with
  | .error refusal => .error refusal
  | .ok .negation => .error (.unexpectedConnective .negation)
  | .ok (.binary op) => .ok op

end Propositional
