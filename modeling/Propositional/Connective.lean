/-!
# Connectives

The five logical connectives and the characters that write them. Negation
stands before its one operand; the four others stand between two.
-/

namespace Propositional

/-- A connective between two operands. -/
inductive BinaryConnective
  | conjunction
  | disjunction
  | conditional
  | biconditional
deriving DecidableEq

/-- A connective of either arity. -/
inductive Connective
  | negation
  | binary (op : BinaryConnective)
deriving DecidableEq

namespace BinaryConnective

/-- The character that writes the connective. -/
def symbol : BinaryConnective → Char
  | conjunction => '∧'
  | disjunction => '∨'
  | conditional => '→'
  | biconditional => '↔'

/-- The truth value of the connective; the left operand of a conditional is
its antecedent. -/
def apply : BinaryConnective → Bool → Bool → Bool
  | conjunction, left, right => left && right
  | disjunction, left, right => left || right
  | conditional, left, right => !left || right
  | biconditional, left, right => left == right

end BinaryConnective

namespace Connective

/-- The character that writes the connective. -/
def symbol : Connective → Char
  | negation => '¬'
  | binary op => op.symbol

/-- The connective that a character writes. -/
def ofChar? : Char → Option Connective
  | '¬' => some negation
  | '∧' => some (binary .conjunction)
  | '∨' => some (binary .disjunction)
  | '→' => some (binary .conditional)
  | '↔' => some (binary .biconditional)
  | _ => none

/-- The connective that a text writes: only a text of one character does. -/
def ofString? (text : String) : Option Connective :=
  match text.toList with
  | [c] => ofChar? c
  | _ => none

theorem ofChar?_symbol (c : Connective) : ofChar? c.symbol = some c := by
  cases c with
  | negation => rfl
  | binary op => cases op <;> rfl

theorem ofChar?_eq_some_iff {x : Char} {c : Connective} :
    ofChar? x = some c ↔ x = c.symbol := by
  constructor
  · intro h
    unfold ofChar? at h
    split at h <;> cases h <;> rfl
  · rintro rfl
    exact ofChar?_symbol c

end Connective

end Propositional
