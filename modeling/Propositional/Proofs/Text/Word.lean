import Mathlib

/-!
# Where a word ends

A word is a text of characters of one class, and it is read as far as the class goes. So
two words can be told apart in longer texts, as long as neither is followed by a further
character of the class. Integers are words of digits and signs.

> `append_cancel_of_forall`: two words, each with something behind it that does not go on
> with the class, are the same only if the words are.
> `toString_append_cancel`: the same for the written forms of two integers.
-/

namespace Propositional.Text

/-- A word is what the longer text begins with, as far as the class goes. -/
theorem takeWhile_append_eq {p : Char → Bool} {word rest : List Char}
    (hword : ∀ c ∈ word, p c = true) (hrest : ∀ c ∈ rest.head?, p c = false) :
    (word ++ rest).takeWhile p = word := by
  have hnone : rest.takeWhile p = [] := by
    cases rest with
    | nil => rfl
    | cons c rest => rw [List.takeWhile_cons, hrest c rfl, if_neg Bool.false_ne_true]
  rw [List.takeWhile_append_of_pos hword, hnone, List.append_nil]

/-- Two words with something behind that does not go on with their class are told apart. -/
theorem append_cancel_of_forall {p : Char → Bool} {word other rest rest' : List Char}
    (hword : ∀ c ∈ word, p c = true) (hother : ∀ c ∈ other, p c = true)
    (hrest : ∀ c ∈ rest.head?, p c = false) (hrest' : ∀ c ∈ rest'.head?, p c = false)
    (h : word ++ rest = other ++ rest') : word = other ∧ rest = rest' := by
  have hsame : word = other := by
    rw [← takeWhile_append_eq hword hrest, h, takeWhile_append_eq hother hrest']
  subst hsame
  exact ⟨rfl, List.append_cancel_left h⟩

/-! ## Integers -/

/-- The characters that integers are written with. -/
def isNumeral (c : Char) : Bool := c.isDigit || c == '-'

theorem isNumeral_of_mem_repr {n : Nat} {c : Char} (h : c ∈ n.repr.toList) :
    isNumeral c = true := by
  rw [Nat.repr_eq_ofList_toDigits, String.toList_ofList] at h
  rw [isNumeral, Nat.isDigit_of_mem_toDigits (by decide) (by decide) h, Bool.true_or]

theorem isNumeral_of_mem_toString {n : Int} {c : Char} (h : c ∈ (toString n).toList) :
    isNumeral c = true := by
  rw [Int.toString_eq_repr, Int.repr_eq_if] at h
  split at h
  · exact isNumeral_of_mem_repr h
  · rw [String.toList_append, List.mem_append] at h
    rcases h with hsign | hdigits
    · obtain rfl := List.mem_singleton.1 hsign
      rfl
    · exact isNumeral_of_mem_repr hdigits

/-- Two integers with something behind that belongs to no integer are told apart. -/
theorem toString_append_cancel {m n : Int} {rest rest' : List Char}
    (hrest : ∀ c ∈ rest.head?, isNumeral c = false)
    (hrest' : ∀ c ∈ rest'.head?, isNumeral c = false)
    (h : (toString m).toList ++ rest = (toString n).toList ++ rest') : m = n ∧ rest = rest' := by
  obtain ⟨hsame, hrests⟩ := append_cancel_of_forall (fun _ => isNumeral_of_mem_toString)
    (fun _ => isNumeral_of_mem_toString) hrest hrest' h
  rw [String.toList_inj, Int.toString_eq_repr, Int.toString_eq_repr] at hsame
  exact ⟨Int.repr_inj.1 hsame, hrests⟩

end Propositional.Text
