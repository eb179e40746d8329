import Propositional.Graph.Description
import Propositional.Proofs.Text.Word

/-!
# Descriptions can be read back

Descriptions are no prefix code: the atom `L` begins like the node `Logic`. But no
description is followed by a letter where it stands inside of another, and a word ends
where the letters do.

> `Outline.IsWord.eq_of_describe`: what is described by a word is told from it.
> `Outline.Legible.describe_append_inj`: two descriptions, each followed by something that
> does not go on with a letter, are the same only for the same outline.
-/

namespace Propositional

/-! ## Words -/

/-- The characters do not go on with a letter. -/
def Ends (rest : List Char) : Prop :=
  ∀ c ∈ rest.head?, c.isAlpha = false

theorem ends_nil : Ends [] := fun _ h => nomatch h

theorem ends_cons {c : Char} {rest : List Char} (h : c.isAlpha = false) : Ends (c :: rest) := by
  intro d hd
  cases hd
  exact h

/-! ## Legible outlines -/

namespace Outline

/-- What is described by a word: a child that is missing, a generic node without slots, and
an atom that is labeled by a letter from A to Z. -/
inductive IsWord : Outline → Prop
  | missing : IsWord .missing
  | plain : IsWord (.node .plain .missing .missing)
  | atom {c : Char} (hc : c.isUpper = true) :
      IsWord (.node (.atom (String.singleton c)) .missing .missing)

/-- All atoms are labeled by letters, and nothing stands where there is no slot. -/
inductive Legible : Outline → Prop
  | word {outline : Outline} (h : outline.IsWord) : Legible outline
  | slotted {kind : Kind} {left right : Outline} (hslots : kind.slots ≠ [])
      (hleft : left.Legible) (hright : right.Legible)
      (hnoLeft : .left ∉ kind.slots → left = .missing)
      (hnoRight : .right ∉ kind.slots → right = .missing) :
      Legible (.node kind left right)

theorem isAlpha_of_isUpper {c : Char} (h : c.isUpper = true) : c.isAlpha = true := by
  show (c.isUpper || c.isLower) = true
  rw [h, Bool.true_or]

theorem IsWord.isAlpha {outline : Outline} (h : outline.IsWord) :
    ∀ c ∈ outline.describe.toList, c.isAlpha = true := by
  cases h with
  | missing => exact List.all_eq_true.1 rfl
  | plain => exact List.all_eq_true.1 rfl
  | atom hc =>
    intro d hd
    rw [describe, Kind.describe, String.toList_singleton, List.mem_singleton] at hd
    rw [hd]
    exact isAlpha_of_isUpper hc

/-- No two outlines are described by the same word. -/
theorem IsWord.eq_of_describe {a b : Outline} (ha : a.IsWord) (hb : b.IsWord)
    (h : a.describe = b.describe) : a = b := by
  have hmissing : ∀ c, missingText ≠ String.singleton c :=
    fun c hc => absurd (congrArg String.length hc) (by simp [missingText]; decide)
  have hplain : ∀ c, Kind.plain.name ≠ String.singleton c :=
    fun c hc => absurd (congrArg String.length hc) (by simp [Kind.name]; decide)
  have hdiffer : missingText ≠ Kind.plain.name := by decide
  cases ha with
  | missing =>
    cases hb with
    | missing => rfl
    | plain => exact absurd h hdiffer
    | atom hc => exact absurd h (hmissing _)
  | plain =>
    cases hb with
    | missing => exact absurd h.symm hdiffer
    | plain => rfl
    | atom hc => exact absurd h (hplain _)
  | atom hc =>
    cases hb with
    | missing => exact absurd h.symm (hmissing _)
    | plain => exact absurd h.symm (hplain _)
    | atom hd =>
      have hlabel : String.singleton _ = String.singleton _ := h
      rw [hlabel]

end Outline

/-! ## Kinds with slots -/

namespace Kind

/-- What the description of a node shows on one side. -/
def sideText (kind : Kind) (slot : Slot) (outline : Outline) : String :=
  if slot ∈ kind.slots then outline.describe else "_"

/-- A node with slots is described by its name and its two sides. -/
theorem toList_describe {kind : Kind} (h : kind.slots ≠ []) (left right : Outline) :
    (Outline.node kind left right).describe.toList = '(' :: (kind.name.toList ++ ' ' ::
      ((kind.sideText .left left).toList ++ '|' ::
        ((kind.sideText .right right).toList ++ [')']))) := by
  rw [Outline.describe]
  cases kind with
  | plain => exact absurd rfl h
  | atom label => exact absurd rfl h
  | pair => simp [describe, sideText, slots, layout, Layout.slots]
  | root => simp [describe, sideText, slots, layout, Layout.slots]
  | connective c =>
    cases c <;> simp [describe, sideText, slots, layout, Layout.slots]

/-- Among the kinds with slots, no two have the same name. -/
theorem eq_of_name {kind other : Kind} (hkind : kind.slots ≠ []) (hother : other.slots ≠ [])
    (h : kind.name = other.name) : kind = other := by
  rcases kind with _ | _ | _ | _ | (_ | ⟨_ | _ | _ | _⟩) <;>
    rcases other with _ | _ | _ | _ | (_ | ⟨_ | _ | _ | _⟩) <;>
    first
      | rfl
      | exact absurd rfl hkind
      | exact absurd rfl hother
      | exact absurd h (by decide)

theorem isAlpha_name (kind : Kind) : ∀ c ∈ kind.name.toList, c.isAlpha = true := by
  refine List.all_eq_true.1 ?_
  cases kind with
  | plain | pair | root => rfl
  | atom label =>
    show "Atomic".toList.all Char.isAlpha = true
    rfl
  | connective c => rcases c with _ | ⟨_ | _ | _ | _⟩ <;> rfl

/-- Sides are told apart as the outlines are that they show. -/
theorem sideText_append_cancel {kind : Kind} {slot : Slot} {a b : Outline}
    {rest rest' : List Char} (hnone : slot ∉ kind.slots → a = b)
    (hcancel : a.describe.toList ++ rest = b.describe.toList ++ rest' → a = b ∧ rest = rest')
    (h : (kind.sideText slot a).toList ++ rest = (kind.sideText slot b).toList ++ rest') :
    a = b ∧ rest = rest' := by
  by_cases hslot : slot ∈ kind.slots
  · simp only [sideText, if_pos hslot] at h
    exact hcancel h
  · simp only [sideText, if_neg hslot] at h
    exact ⟨hnone hslot, List.append_cancel_left h⟩

end Kind

/-! ## Reading back -/

namespace Outline

/-- A word is never taken for a node in parentheses. -/
theorem IsWord.describe_append_ne {outline : Outline} (h : outline.IsWord) {rest : List Char}
    (hrest : Ends rest) (chars : List Char) : outline.describe.toList ++ rest ≠ '(' :: chars := by
  intro heq
  have hempty : outline.describe.toList = [] ∧ rest = '(' :: chars :=
    Text.append_cancel_of_forall h.isAlpha (fun _ hc => nomatch hc) hrest (ends_cons rfl) heq
  have hdescribe : outline.describe = "" := String.toList_eq_nil_iff.1 hempty.1
  cases h with
  | atom hc => exact absurd (congrArg String.length hdescribe) (by simp [describe, Kind.describe])
  | missing | plain => exact absurd hdescribe (by decide)

/-- Two descriptions, each followed by something that does not go on with a letter, are the
same only for the same outline, and so is what follows. -/
theorem Legible.describe_append_inj {a : Outline} (ha : a.Legible) :
    ∀ {b : Outline} {rest rest' : List Char}, b.Legible → Ends rest → Ends rest' →
      a.describe.toList ++ rest = b.describe.toList ++ rest' → a = b ∧ rest = rest' := by
  induction ha with
  | word ha =>
    intro b rest rest' hb hrest hrest' h
    cases hb with
    | word hb =>
      obtain ⟨hdescribe, hrests⟩ :=
        Text.append_cancel_of_forall ha.isAlpha hb.isAlpha hrest hrest' h
      exact ⟨ha.eq_of_describe hb (String.toList_inj.1 hdescribe), hrests⟩
    | slotted hslots _ _ _ _ =>
      rw [Kind.toList_describe hslots] at h
      exact absurd h (ha.describe_append_ne hrest _)
  | @slotted kind left right hslots _ _ hnoLeft hnoRight ihl ihr =>
    intro b rest rest' hb hrest hrest' h
    rw [Kind.toList_describe hslots] at h
    cases hb with
    | word hb => exact absurd h.symm (hb.describe_append_ne hrest' _)
    | @slotted kind' left' right' hslots' hleft' hright' hnoLeft' hnoRight' =>
      rw [Kind.toList_describe hslots'] at h
      simp only [List.cons_append, List.append_assoc, List.cons.injEq, true_and] at h
      obtain ⟨hname, hsides⟩ := Text.append_cancel_of_forall kind.isAlpha_name
        kind'.isAlpha_name (ends_cons rfl) (ends_cons rfl) h
      obtain rfl := Kind.eq_of_name hslots hslots' (String.toList_inj.1 hname)
      -- the sides end at the bar and at the closing parenthesis
      obtain ⟨rfl, hbar⟩ := Kind.sideText_append_cancel
        (fun hslot => (hnoLeft hslot).trans (hnoLeft' hslot).symm)
        (ihl hleft' (ends_cons rfl) (ends_cons rfl)) (List.cons.inj hsides).2
      obtain ⟨rfl, hclosing⟩ := Kind.sideText_append_cancel
        (fun hslot => (hnoRight hslot).trans (hnoRight' hslot).symm)
        (ihr hright' (ends_cons rfl) (ends_cons rfl)) (List.cons.inj hbar).2
      exact ⟨rfl, (List.cons.inj hclosing).2⟩

/-- Legible outlines are told apart by their descriptions. -/
theorem Legible.eq_of_describe {a b : Outline} (ha : a.Legible) (hb : b.Legible)
    (h : a.describe = b.describe) : a = b :=
  (ha.describe_append_inj hb ends_nil ends_nil (congrArg (·.toList ++ []) h)).1

end Outline

end Propositional
