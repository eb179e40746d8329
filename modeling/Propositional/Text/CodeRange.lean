/-!
# Sets of characters given by code points

A character class of the Unicode standard is a long but regular set of code
points. It is written here as a list of arithmetic progressions, and `covers`
asks whether a character is in one of them.

> `covers_iff`: a character is covered exactly when its code point is a member
> of one of the ranges.

The tables themselves stand in the modules named for the property they hold.
-/

namespace Propositional.Text

/-- Every `step`-th code point from `first` up to `last`. -/
structure CodeRange where
  first : Nat
  last : Nat
  step : Nat
deriving DecidableEq

namespace CodeRange

/-- Whether a code point lies between the ends of the range and on its grid. -/
def contains (range : CodeRange) (code : Nat) : Bool :=
  decide (range.first ≤ code) && decide (code ≤ range.last) &&
    (code - range.first) % range.step == 0

instance : Membership Nat CodeRange where
  mem range code :=
    range.first ≤ code ∧ code ≤ range.last ∧ range.step ∣ code - range.first

theorem contains_iff {range : CodeRange} {code : Nat} :
    range.contains code = true ↔ code ∈ range := by
  simp [contains, Membership.mem, Nat.dvd_iff_mod_eq_zero, and_assoc]

end CodeRange

/-- Whether the code point of a character lies in one of the ranges. -/
def covers (ranges : List CodeRange) (c : Char) : Bool :=
  ranges.any (·.contains c.toNat)

theorem covers_iff {ranges : List CodeRange} {c : Char} :
    covers ranges c = true ↔ ∃ range ∈ ranges, c.toNat ∈ range := by
  simp [covers, CodeRange.contains_iff]

end Propositional.Text
