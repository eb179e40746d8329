import Mathlib
import Propositional.Graph.Kind

/-!
# ASCII letters

Formulas are written with the ASCII letters, while letters and their uppercase
forms are told by the tables of the Unicode standard. On ASCII letters the two
views agree: each is a letter, and its uppercase form is the usual one.

> `forall_isAlpha`: what holds of the letters in both alphabets, one by one,
> holds of every ASCII letter. The facts here are read off the tables this way.
-/

namespace Propositional.Text

theorem isAlpha_iff {c : Char} :
    c.isAlpha = true ↔ (65 ≤ c.toNat ∧ c.toNat ≤ 90) ∨ (97 ≤ c.toNat ∧ c.toNat ≤ 122) := by
  simp [Char.isAlpha, Char.isUpper, Char.isLower, UInt32.le_iff_toNat_le, ← Char.toNat_val]

/-- The ASCII letters are the 26 from `A` on and the 26 from `a` on. -/
theorem forall_isAlpha {p : Char → Prop} (hupper : ∀ k : Fin 26, p (Char.ofNat (65 + k)))
    (hlower : ∀ k : Fin 26, p (Char.ofNat (97 + k))) {c : Char} (hc : c.isAlpha = true) :
    p c := by
  rcases isAlpha_iff.1 hc with ⟨hfirst, hlast⟩ | ⟨hfirst, hlast⟩
  · have hcode := hupper ⟨c.toNat - 65, by omega⟩
    rwa [Nat.add_sub_cancel' hfirst, Char.ofNat_toNat] at hcode
  · have hcode := hlower ⟨c.toNat - 97, by omega⟩
    rwa [Nat.add_sub_cancel' hfirst, Char.ofNat_toNat] at hcode

theorem isLetter_of_isAlpha {c : Char} (hc : c.isAlpha = true) : isLetter c = true :=
  forall_isAlpha (p := fun c => isLetter c = true) (by decide +kernel) (by decide +kernel) hc

theorem uppercase_of_isAlpha {c : Char} (hc : c.isAlpha = true) : uppercase c = [c.toUpper] :=
  forall_isAlpha (p := fun c => uppercase c = [c.toUpper]) (by decide +kernel)
    (by decide +kernel) hc

theorem isLowercase_of_isAlpha {c : Char} (hc : c.isAlpha = true) : isLowercase c = c.isLower :=
  forall_isAlpha (p := fun c => isLowercase c = c.isLower) (by decide +kernel)
    (by decide +kernel) hc

/-- Two characters with the same uppercase form are the same or both are letters. -/
theorem eq_or_isAlpha_of_toUpper_eq {c d : Char} (h : c.toUpper = d.toUpper) :
    c = d ∨ (c.isAlpha = true ∧ d.isAlpha = true) := by
  have halpha : c.isAlpha = d.isAlpha := by
    rw [← Char.isAlpha_toUpper_eq_isAlpha c, h, Char.isAlpha_toUpper_eq_isAlpha]
  have hother : ∀ x : Char, x.isAlpha = false → x.toUpper = x := by
    intro x hx
    refine Char.toUpper_eq_of_not_isLower fun hlower => ?_
    rw [Char.isAlpha, hlower, Bool.or_true] at hx
    cases hx
  cases hd : d.isAlpha with
  | true => exact .inr ⟨halpha.trans hd, rfl⟩
  | false =>
    rw [hother c (halpha.trans hd), hother d hd] at h
    exact .inl h

theorem eq_of_toUpper_eq {c d : Char} (h : c.toUpper = d.toUpper) (hd : d.isAlpha = false) :
    c = d := by
  rcases eq_or_isAlpha_of_toUpper_eq h with heq | ⟨-, halpha⟩
  · exact heq
  · rw [hd] at halpha
    cases halpha

theorem eq_of_isLower_of_toUpper_eq {c d : Char} (h : c.toUpper = d.toUpper)
    (hc : c.isLower = true) (hd : d.isLower = true) : c = d := by
  have hlower : ∀ x : Char, x.isLower = true → x.toUpper.toLower = x := by
    intro x hx
    rw [Char.toLower_toUpper_eq_toLower]
    exact Char.toLower_eq_of_not_isUpper (Char.not_isUpper_of_isLower hx)
  rw [← hlower c hc, h, hlower d hd]

end Propositional.Text

namespace Propositional

/-- The label of the atom that an uppercase ASCII letter names is that letter. -/
theorem atomLabel_toUpper {c : Char} (hc : c.isAlpha = true) :
    atomLabel (String.singleton c.toUpper) = .ok (String.singleton c.toUpper) := by
  have hupper : c.toUpper.isAlpha = true := by rw [Char.isAlpha_toUpper_eq_isAlpha, hc]
  have htext : Text.uppercaseText (String.singleton c.toUpper) = String.singleton c.toUpper := by
    rw [Text.uppercaseText, String.toList_singleton, List.flatMap_singleton,
      Text.uppercase_of_isAlpha hupper, Char.toUpper_toUpper_eq_toUpper]
    rfl
  rw [atomLabel, String.toList_singleton]
  dsimp only
  rw [if_pos (Text.isLetter_of_isAlpha hupper), htext]

end Propositional
