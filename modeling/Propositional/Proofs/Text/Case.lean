import Propositional.Text.Case
import Propositional.Text.Letter

/-!
# Uppercase letters

What the case tables say about letters as a whole: the uppercase form of a letter either has
several characters, or it is one letter that is its own uppercase form. The tables are
compared range by range; only where the image of a shift runs across two ranges of letters
are its code points looked up one by one.

> `mem_of_within`, `notMem_of_apart`: what the two comparisons of ranges mean.
> `uppercase_letter`: the uppercase form of a letter.
-/

namespace Propositional.Text

/-! ## Comparing ranges -/

namespace CodeRange

/-- The first range lies between the ends of the second, and on its grid. -/
def within (range other : CodeRange) : Bool :=
  other.first.ble range.first && range.last.ble other.last &&
    (other.step.beq 1 ||
      (range.step.beq 2 && other.step.beq 2 && Nat.beq ((range.first - other.first) % 2) 0))

/-- One range lies below the other, or they fill each other's gaps, or the first is a single
code point that the other passes over. -/
def apart (range other : CodeRange) : Bool :=
  range.last.blt other.first || other.last.blt range.first ||
    (range.step.beq 2 && other.step.beq 2 && Nat.beq ((range.first + other.first) % 2) 1) ||
    (range.first.beq range.last && !other.contains range.first)

theorem mem_of_within {range other : CodeRange} {code : Nat} (h : range.within other = true)
    (hcode : code ∈ range) : code ∈ other := by
  obtain ⟨hfirst, hlast, hstep⟩ := hcode
  simp only [within, Bool.and_eq_true, Bool.or_eq_true, Nat.ble_eq, Nat.beq_eq] at h
  obtain ⟨⟨hbelow, habove⟩, hone | ⟨⟨htwo, htwo'⟩, hgrid⟩⟩ := h
  · exact ⟨by omega, by omega, by rw [hone]; exact Nat.one_dvd _⟩
  · rw [htwo] at hstep
    exact ⟨by omega, by omega, by rw [htwo']; omega⟩

theorem notMem_of_apart {range other : CodeRange} {code : Nat} (h : range.apart other = true)
    (hcode : code ∈ range) : code ∉ other := by
  obtain ⟨hfirst, hlast, hstep⟩ := hcode
  rintro ⟨hfirst', hlast', hstep'⟩
  simp only [apart, Bool.and_eq_true, Bool.or_eq_true, Nat.blt_eq, Nat.beq_eq,
    Bool.not_eq_true'] at h
  obtain ((hbelow | habove) | ⟨⟨htwo, htwo'⟩, hgrid⟩) | ⟨hsingle, hpassed⟩ := h
  · omega
  · omega
  · rw [htwo] at hstep
    rw [htwo'] at hstep'
    omega
  · obtain rfl : code = range.first := by omega
    have hmem : other.contains range.first = true := contains_iff.2 ⟨hfirst', hlast', hstep'⟩
    rw [hpassed] at hmem
    cases hmem

end CodeRange

/-! ## The case tables -/

namespace CaseShift

/-- The code points of the uppercase forms. -/
def target (shift : CaseShift) : CodeRange :=
  ⟨shift.image, shift.image + (shift.source.last - shift.source.first), shift.source.step⟩

/-- The uppercase forms are characters that neither table lists. -/
def isFinal (shift : CaseShift) : Bool :=
  -- the surrogates are no characters
  (shift.target.last.blt 0xd800 ||
      Nat.blt 0xdfff shift.target.first && shift.target.last.blt 0x110000) &&
    caseShifts.all (fun other => shift.target.apart other.source) &&
    caseExpansions.all fun expansion => shift.target.apart ⟨expansion.1, expansion.1, 1⟩

/-- The uppercase forms are letters, or the shift is not one of letters. -/
def keepsLetters (shift : CaseShift) : Bool :=
  letterRanges.any shift.target.within || letterRanges.all shift.source.apart ||
    -- an image may run across two ranges of letters
    (List.range (shift.source.last + 1 - shift.source.first)).all fun k =>
      letterRanges.any (·.contains (shift.image + k)) ||
        !shift.source.contains (shift.source.first + k)

theorem mem_target {shift : CaseShift} {code : Nat} (h : code ∈ shift.source) :
    shift.image + (code - shift.source.first) ∈ shift.target := by
  obtain ⟨hfirst, hlast, hstep⟩ := h
  refine ⟨Nat.le_add_right _ _, ?_, ?_⟩
  · show shift.image + _ ≤ shift.image + (shift.source.last - shift.source.first)
    omega
  · show shift.source.step ∣ shift.image + (code - shift.source.first) - shift.image
    rwa [Nat.add_sub_cancel_left]

end CaseShift

theorem caseShifts_isFinal : caseShifts.all CaseShift.isFinal = true := by decide +kernel

theorem caseShifts_keepsLetters : caseShifts.all CaseShift.keepsLetters = true := by
  decide +kernel

theorem two_le_length_caseExpansions :
    ∀ expansion ∈ caseExpansions, 2 ≤ expansion.2.length := by
  decide +kernel

/-! ## Uppercase forms -/

theorem toNat_ofNat {code : Nat} (h : code.isValidChar) : (Char.ofNat code).toNat = code := by
  rw [Char.ofNat, dif_pos h]
  rfl

/-- What is in the image of a shift is its own uppercase form. -/
theorem uppercase_target {shift : CaseShift} (hshift : shift ∈ caseShifts) {code : Nat}
    (hcode : code ∈ shift.target) :
    (Char.ofNat code).toNat = code ∧ uppercase (Char.ofNat code) = [Char.ofNat code] := by
  have hfinal := List.all_eq_true.1 caseShifts_isFinal shift hshift
  simp only [CaseShift.isFinal, Bool.and_eq_true, Bool.or_eq_true, Nat.blt_eq,
    List.all_eq_true] at hfinal
  obtain ⟨⟨hvalid, hshifts⟩, hexpansions⟩ := hfinal
  have htoNat : (Char.ofNat code).toNat = code := by
    obtain ⟨hfirst, hlast, -⟩ := hcode
    refine toNat_ofNat ?_
    rcases hvalid with hbelow | ⟨habove, hbelow⟩
    · exact .inl (by omega)
    · exact .inr ⟨by omega, by omega⟩
  have hshift? : caseShifts.find? (·.source.contains code) = none := by
    rw [List.find?_eq_none]
    intro other hother hcontains
    exact CodeRange.notMem_of_apart (hshifts other hother) hcode (CodeRange.contains_iff.1 hcontains)
  have hexpansion? : caseExpansions.lookup code = none := by
    rw [List.lookup_eq_none_iff]
    intro expansion hexpansion
    rw [bne_iff_ne]
    rintro rfl
    refine CodeRange.notMem_of_apart (hexpansions expansion hexpansion) hcode ?_
    exact ⟨Nat.le_refl _, Nat.le_refl _, by simp⟩
  refine ⟨htoNat, ?_⟩
  rw [uppercase, htoNat, hshift?]
  dsimp only
  rw [hexpansion?]

/-- The image of a letter under a shift is a letter. -/
theorem isLetter_target {shift : CaseShift} (hshift : shift ∈ caseShifts) {c : Char}
    (hsource : c.toNat ∈ shift.source) (hc : isLetter c = true) :
    ∃ range ∈ letterRanges, shift.image + (c.toNat - shift.source.first) ∈ range := by
  have hkeeps := List.all_eq_true.1 caseShifts_keepsLetters shift hshift
  simp only [CaseShift.keepsLetters, Bool.or_eq_true, List.any_eq_true, List.all_eq_true] at hkeeps
  obtain (⟨range, hrange, hwithin⟩ | hapart) | hpoint := hkeeps
  · exact ⟨range, hrange, CodeRange.mem_of_within hwithin (CaseShift.mem_target hsource)⟩
  · obtain ⟨range, hrange, hmem⟩ := covers_iff.1 hc
    exact absurd hmem (CodeRange.notMem_of_apart (hapart range hrange) hsource)
  · obtain ⟨hfirst, hlast, -⟩ := id hsource
    rcases hpoint (c.toNat - shift.source.first) (List.mem_range.2 (by omega)) with hletter | hgap
    · obtain ⟨range, hrange, hcontains⟩ := hletter
      exact ⟨range, hrange, CodeRange.contains_iff.1 hcontains⟩
    · rw [Nat.add_sub_cancel' hfirst, Bool.not_eq_true', CodeRange.contains_iff.2 hsource] at hgap
      cases hgap

/-- **The uppercase form of a letter** has several characters, or it is one letter, which is
its own uppercase form. -/
theorem uppercase_letter {c : Char} (hc : isLetter c = true) :
    (∃ u, uppercase c = [u] ∧ isLetter u = true ∧ uppercase u = [u]) ∨
      2 ≤ (uppercase c).length := by
  cases hshift : caseShifts.find? (·.source.contains c.toNat) with
  | some shift =>
    have hmem := List.mem_of_find?_eq_some hshift
    have hsource : c.toNat ∈ shift.source := CodeRange.contains_iff.1 (by
      simpa using List.find?_some hshift)
    obtain ⟨htoNat, hfixed⟩ := uppercase_target hmem (CaseShift.mem_target hsource)
    refine .inl ⟨_, by rw [uppercase, hshift], ?_, hfixed⟩
    rw [isLetter, covers_iff, htoNat]
    exact isLetter_target hmem hsource hc
  | none =>
    cases hexpansion : caseExpansions.lookup c.toNat with
    | some codes =>
      right
      have hmem : (c.toNat, codes) ∈ caseExpansions := by
        obtain ⟨before, after, htable, -⟩ := List.lookup_eq_some_iff.1 hexpansion
        rw [htable]
        exact List.mem_append_right before List.mem_cons_self
      have hlength := two_le_length_caseExpansions _ hmem
      rw [uppercase, hshift]
      dsimp only
      rw [hexpansion]
      dsimp only
      rwa [List.length_map]
    | none =>
      have hself : uppercase c = [c] := by
        rw [uppercase, hshift]
        dsimp only
        rw [hexpansion]
      exact .inl ⟨c, hself, hc, hself⟩

end Propositional.Text
