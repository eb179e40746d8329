import Propositional.Formula.Basic

/-!
# How a formula can be written

A formula has many spellings: each letter may be written in either case, and
any part may stand in further parentheses. `Spells chars formula` is the
relation of all of them, for texts without blanks.
-/

namespace Propositional

/-- The characters are a spelling of the formula. -/
inductive Spells : List Char → Formula → Prop
  | atom {c : Char} (hc : c.isAlpha = true) :
      Spells [c] (.atom (String.singleton c.toUpper))
  | negation {chars : List Char} {operand : Formula} (hoperand : Spells chars operand) :
      Spells ('¬' :: chars) (.negation operand)
  | binary {op : BinaryConnective} {lefts rights : List Char} {left right : Formula}
      (hleft : Spells lefts left) (hright : Spells rights right) :
      Spells ('(' :: (lefts ++ op.symbol :: (rights ++ [')']))) (.binary op left right)
  | group {chars : List Char} {formula : Formula} (hformula : Spells chars formula) :
      Spells ('(' :: (chars ++ [')'])) formula

end Propositional
