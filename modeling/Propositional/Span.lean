/-!
# Ranges of a text

A leaf of a parse tree does not copy the characters it stands for: it names
them by a range of positions. Both bounds are arbitrary integers. A negative
bound counts from the end of the text, bounds beyond the text are moved to its
nearest end, and a range whose end does not lie behind its start is empty.

> `selects_iff`: an index is selected exactly when it lies in the text and
> between the two bounds, negative ones counted from the end.
> `first?_single`: the range of one position holds the character there.
-/

namespace Propositional

/-- The positions from `start` up to, but not including, `stop`. -/
structure Span where
  start : Int
  stop : Int
deriving DecidableEq

namespace Span

/-- The range of the one position `i`. -/
def single (i : Nat) : Span := ⟨i, i + 1⟩

/-- A bound counted from the start: a negative one is counted from the end of
a text of the given length. -/
def fromStart (length : Nat) (bound : Int) : Int :=
  if bound < 0 then bound + length else bound

/-- The position in a text of the given length that a bound stands for. -/
def resolve (length : Nat) (bound : Int) : Nat :=
  min (fromStart length bound).toNat length

/-- The index `i` of a text of the given length lies in the range. -/
def Selects (span : Span) (length i : Nat) : Prop :=
  i < length ∧ fromStart length span.start ≤ i ∧ i < fromStart length span.stop

instance (span : Span) (length i : Nat) : Decidable (span.Selects length i) := by
  unfold Selects; infer_instance

variable {α : Type}

/-- The part of a text that the range selects. -/
def slice (span : Span) (text : List α) : List α :=
  (text.drop (resolve text.length span.start)).take
    (resolve text.length span.stop - resolve text.length span.start)

/-- The first character of the selected part, if there is one. -/
def first? (span : Span) (text : List α) : Option α :=
  (span.slice text).head?

/-- The written form of a range: both bounds in square brackets. -/
def render (span : Span) : String :=
  "[" ++ toString span.start ++ ":" ++ toString span.stop ++ "]"

/-- Counted from where the selected part begins, the indices below its length
are those that the range selects. -/
theorem selects_iff {span : Span} {text : List α} {i : Nat} :
    span.Selects text.length i ↔
      resolve text.length span.start ≤ i ∧
        i < resolve text.length span.start + (span.slice text).length := by
  simp only [Selects, slice, List.length_take, List.length_drop, resolve]
  omega

theorem getElem?_slice {span : Span} {text : List α} {k : Nat}
    (h : k < (span.slice text).length) :
    (span.slice text)[k]? = text[resolve text.length span.start + k]? := by
  simp only [slice, List.length_take] at h ⊢
  rw [List.getElem?_take_of_lt (by omega), List.getElem?_drop]

theorem resolve_ofNat (length k : Nat) : resolve length (k : Int) = min k length := by
  simp only [resolve, fromStart]
  rw [if_neg (by omega)]
  omega

theorem first?_single (text : List α) (i : Nat) : (single i).first? text = text[i]? := by
  have hstart : resolve text.length (single i).start = min i text.length :=
    resolve_ofNat text.length i
  have hstop : resolve text.length (single i).stop = min (i + 1) text.length :=
    resolve_ofNat text.length (i + 1)
  simp only [first?, slice, hstart, hstop]
  rcases Nat.lt_or_ge i text.length with hi | hi
  · rw [Nat.min_eq_left (Nat.le_of_lt hi), Nat.min_eq_left hi, List.head?_take,
      if_neg (by omega), List.head?_drop]
  · rw [Nat.min_eq_right hi, Nat.min_eq_right (by omega), List.getElem?_eq_none hi]
    simp

end Span

end Propositional
