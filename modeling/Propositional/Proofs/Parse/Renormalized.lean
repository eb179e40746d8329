import Propositional.Proofs.Graph.Description
import Propositional.Proofs.Parse.Diagnostic

/-!
# Normalizing twice

A normalized source is a source again, and parsing it encloses it in a second pair
of parentheses. For what was parsed before, this pair is one more group. What was
rejected before may be accepted now: if a source closes a parenthesis that it has
not opened and opens another one later, both come to be matched by the second pair.

> `parse_normalized`: parsing the normalized source gives the same nodes, and the
> same diagnostics one position further.
> `accepted_normalize_iff`: what is accepted once it has been normalized.
> `renormalized_parse`: the two together, and the sources that change between them.

The second statement rests on two facts about spellings: what ends in a closing
parenthesis is a number of negations of a formula in parentheses
(`Spells.exists_of_closing`), and no spelling is the beginning of a longer one.
-/

namespace Propositional

/-! ## Diagnostics one position further -/

/-- The same observation, one position further. -/
def Diagnostic.shifted (diagnostic : Diagnostic) : Diagnostic :=
  { diagnostic with position := diagnostic.position + 1 }

theorem lowercaseFrom_append (index : Nat) (front back : List Char) :
    lowercaseFrom index (front ++ back) =
      lowercaseFrom index front ++ lowercaseFrom (index + front.length) back := by
  rw [lowercaseFrom, List.zipIdx_append, List.filterMap_append]
  rfl

theorem lowercaseFrom_succ (index : Nat) (chars : List Char) :
    lowercaseFrom (index + 1) chars = (lowercaseFrom index chars).map Diagnostic.shifted := by
  rw [lowercaseFrom, lowercaseFrom, List.zipIdx_succ, List.filterMap_map, List.map_filterMap]
  congr 1
  funext place
  obtain ⟨c, k⟩ := place
  show Diagnostic.ofPlace? (c, k + 1) = (Diagnostic.ofPlace? (c, k)).map Diagnostic.shifted
  unfold Diagnostic.ofPlace?
  cases c.isLower <;> rfl

/-- Parentheses around a text move its letters by one position. -/
theorem lowercaseFrom_enclosed (chars : List Char) :
    lowercaseFrom 0 ('(' :: (chars ++ [')'])) =
      (lowercaseFrom 0 chars).map Diagnostic.shifted := by
  have hopening : lowercaseFrom 0 ['('] = [] := rfl
  have hclosing : lowercaseFrom (1 + chars.length) [')'] = [] := rfl
  calc lowercaseFrom 0 ('(' :: (chars ++ [')']))
      = lowercaseFrom 0 ['('] ++ lowercaseFrom (0 + 1) (chars ++ [')']) :=
        lowercaseFrom_append 0 ['('] (chars ++ [')'])
    _ = lowercaseFrom (0 + 1) chars ++ lowercaseFrom (1 + chars.length) [')'] := by
        rw [hopening, List.nil_append, lowercaseFrom_append]
    _ = (lowercaseFrom 0 chars).map Diagnostic.shifted := by
        rw [hclosing, List.append_nil, lowercaseFrom_succ]

/-! ## Where a spelling has its outer parentheses -/

/-- What begins with an opening parenthesis ends with a closing one. -/
theorem Spells.exists_of_opening {rest : List Char} {formula : Formula}
    (h : Spells ('(' :: rest) formula) : ∃ inner, rest = inner ++ [')'] := by
  generalize hchars : '(' :: rest = chars at h
  cases h with
  | atom hc =>
    cases hchars
    exact absurd hc (by decide)
  | negation _ => cases hchars
  | @binary op lefts rights =>
    refine ⟨lefts ++ op.symbol :: rights, ?_⟩
    rw [(List.cons.inj hchars).2, List.append_assoc, List.cons_append]
  | @group inner _ => exact ⟨inner, (List.cons.inj hchars).2⟩

/-- What ends in a closing parenthesis is a number of negations of a formula in
parentheses. -/
theorem Spells.exists_of_closing {chars : List Char} {formula : Formula}
    (h : Spells chars formula) : ∀ {front : List Char}, chars = front ++ [')'] →
      ∃ n inner enclosed, front = List.replicate n '¬' ++ '(' :: inner ∧
        SpellsOpenly inner enclosed := by
  induction h with
  | @atom c hc =>
    intro front hchars
    have hlast := congrArg List.getLast? hchars
    rw [List.getLast?_singleton, List.getLast?_concat, Option.some.injEq] at hlast
    rw [hlast] at hc
    exact absurd hc (by decide)
  | @negation chars operand _ ih =>
    intro front hchars
    cases front with
    | nil => cases (List.cons.inj hchars).1
    | cons sign front =>
      obtain ⟨hsign, hrest⟩ := List.cons.inj hchars
      obtain ⟨n, inner, enclosed, rfl, hinner⟩ := ih hrest
      refine ⟨n + 1, inner, enclosed, ?_, hinner⟩
      rw [← hsign, List.replicate_succ, List.cons_append]
  | @binary op lefts rights left right hleft hright _ _ =>
    intro front hchars
    refine ⟨0, lefts ++ op.symbol :: rights, .binary op left right, ?_,
      .inr ⟨op, left, right, lefts, rights, rfl, rfl, hleft, hright⟩⟩
    have hfront : '(' :: (lefts ++ op.symbol :: rights) ++ [')'] = front ++ [')'] := by
      rw [← hchars]
      simp
    exact (List.append_cancel_right hfront).symm
  | @group inner formula hinner _ =>
    intro front hchars
    exact ⟨0, inner, formula, (List.append_cancel_right hchars).symm, .inl hinner⟩

/-- Negation signs may stand in front of any spelling. -/
theorem Spells.exists_negations {chars : List Char} {formula : Formula} (h : Spells chars formula)
    (n : Nat) : ∃ negated, Spells (List.replicate n '¬' ++ chars) negated := by
  induction n with
  | zero => exact ⟨formula, h⟩
  | succ n ih =>
    obtain ⟨negated, hnegated⟩ := ih
    exact ⟨_, .negation hnegated⟩

/-! ## Parsing the normalized source -/

/-- A source that can be parsed. -/
def Accepted (source : String) : Prop := ∃ parsed, (parse source).outcome = .ok parsed

theorem accepted_iff {source : String} :
    Accepted source ↔ ∃ formula, SpellsOpenly (unblanked source) formula := by
  constructor
  · intro h
    obtain ⟨parsed, hparsed⟩ := h
    obtain ⟨formula, hformula, -⟩ := parse_eq_ok_iff.1 hparsed
    exact ⟨formula, hformula⟩
  · intro h
    obtain ⟨formula, hformula⟩ := h
    exact ⟨_, parse_eq_ok_iff.2 ⟨formula, hformula, rfl⟩⟩

/-- There is no blank left in a normalized source. -/
theorem unblanked_normalize (source : String) :
    unblanked (normalize source) = (normalize source).toList := by
  rw [unblanked, normalize, String.toList_ofList, List.filter_filter]
  simp only [Bool.and_self]

/-- A part of a source without its blanks has no blanks itself. -/
theorem accepted_iff_of_subset {source : String} {part : List Char}
    (h : part ⊆ unblanked source) :
    Accepted (String.ofList part) ↔ ∃ formula, Spells ('(' :: (part ++ [')'])) formula := by
  have hpart : unblanked (String.ofList part) = part := by
    rw [unblanked, String.toList_ofList, List.filter_eq_self]
    intro c hc
    exact (List.mem_filter.1 (h hc)).2
  simp only [accepted_iff, hpart, spells_enclosed_iff]

/-- What was parsed is parsed to the same nodes once it has been normalized, with the
same diagnostics one position further. -/
theorem parse_normalized {source : String} {parsed : Rooted}
    (h : (parse source).outcome = .ok parsed) :
    (parse (normalize source)).outcome = .ok parsed ∧
      (parse (normalize source)).diagnostics =
        (parse source).diagnostics.map Diagnostic.shifted := by
  have hagain : (parse (normalize source)).outcome = .ok parsed := by
    obtain ⟨formula, hformula, rfl⟩ := parse_eq_ok_iff.1 h
    refine parse_eq_ok_iff.2 ⟨formula, .inl ?_, rfl⟩
    rw [unblanked_normalize, toList_normalize]
    exact spells_enclosed_iff.2 hformula
  refine ⟨hagain, ?_⟩
  calc (parse (normalize source)).diagnostics
      = lowercaseFrom 0 (normalize (normalize source)).toList := Graph.diagnostics_parse hagain
    _ = (lowercaseFrom 0 (normalize source).toList).map Diagnostic.shifted := by
        rw [toList_normalize (normalize source), unblanked_normalize, lowercaseFrom_enclosed]
    _ = (parse source).diagnostics.map Diagnostic.shifted := by
        rw [parse, Graph.diagnostics_parse h]

/-- Without its blanks the source is a source that can be parsed, a closing
parenthesis, a binary connective, any number of negation signs, an opening
parenthesis, and another source that can be parsed. -/
def Rejoined (source : String) : Prop :=
  ∃ (front back : List Char) (op : BinaryConnective) (n : Nat),
    unblanked source = front ++ ')' :: op.symbol :: (List.replicate n '¬' ++ '(' :: back) ∧
    Accepted (String.ofList front) ∧ Accepted (String.ofList back)

/-- The two parts are found in the source without its blanks. -/
theorem subset_of_rejoined {chars front back : List Char} {op : BinaryConnective} {n : Nat}
    (h : chars = front ++ ')' :: op.symbol :: (List.replicate n '¬' ++ '(' :: back)) :
    front ⊆ chars ∧ back ⊆ chars := by
  rw [h]
  constructor
  · exact List.subset_append_left ..
  · intro c hc
    simp [hc]

/-- A source is rejoined when the text in parentheses consists of two spellings with a
binary connective between them. -/
theorem rejoined_iff_exists_operands {source : String} :
    Rejoined source ↔
      ∃ (op : BinaryConnective) (left right : Formula) (lefts rights : List Char),
        '(' :: (unblanked source ++ [')']) = lefts ++ op.symbol :: rights ∧
        Spells lefts left ∧ Spells rights right := by
  constructor
  · intro h
    obtain ⟨front, back, op, n, hsource, hfront, hback⟩ := h
    obtain ⟨hsubf, hsubb⟩ := subset_of_rejoined hsource
    obtain ⟨left, hleft⟩ := (accepted_iff_of_subset hsubf).1 hfront
    obtain ⟨enclosed, henclosed⟩ := (accepted_iff_of_subset hsubb).1 hback
    obtain ⟨right, hright⟩ := henclosed.exists_negations n
    refine ⟨op, left, right, _, _, ?_, hleft, hright⟩
    rw [hsource]
    simp
  · intro h
    obtain ⟨op, left, right, lefts, rights, hsplit, hleft, hright⟩ := h
    -- the left operand begins with the outer opening parenthesis
    obtain ⟨front, rfl⟩ : ∃ front, lefts = '(' :: (front ++ [')']) := by
      cases lefts with
      | nil => cases hleft
      | cons opening lefts =>
        obtain ⟨hopening, -⟩ := List.cons.inj hsplit
        subst hopening
        obtain ⟨front, rfl⟩ := hleft.exists_of_opening
        exact ⟨front, rfl⟩
    -- the right operand ends in the outer closing parenthesis
    obtain ⟨rights, rfl⟩ : ∃ ends, rights = ends ++ [')'] := by
      rcases List.eq_nil_or_concat rights with rfl | ⟨ends, closing, rfl⟩
      · cases hright
      · rw [List.concat_eq_append] at hsplit ⊢
        have hlast := congrArg List.getLast? hsplit
        simp only [← List.cons_append, ← List.append_assoc, List.getLast?_append,
          List.getLast?_singleton, Option.some_or, Option.some.injEq] at hlast
        exact ⟨ends, by rw [← hlast]⟩
    obtain ⟨n, back, enclosed, rfl, hback⟩ := hright.exists_of_closing rfl
    have hsource : unblanked source =
        front ++ ')' :: op.symbol :: (List.replicate n '¬' ++ '(' :: back) := by
      have hends : unblanked source ++ [')'] =
          (front ++ ')' :: op.symbol :: (List.replicate n '¬' ++ '(' :: back)) ++ [')'] := by
        rw [(List.cons.inj hsplit).2]
        simp
      exact List.append_cancel_right hends
    obtain ⟨hsubf, hsubb⟩ := subset_of_rejoined hsource
    exact ⟨front, back, op, n, hsource, (accepted_iff_of_subset hsubf).2 ⟨left, hleft⟩,
      (accepted_iff_of_subset hsubb).2 ⟨enclosed, spells_enclosed_iff.2 hback⟩⟩

/-- The normalized source is accepted when the source is, or when the parentheses
around it rejoin it. -/
theorem accepted_normalize_iff {source : String} :
    Accepted (normalize source) ↔ Accepted source ∨ Rejoined source := by
  rw [rejoined_iff_exists_operands]
  simp only [accepted_iff, unblanked_normalize, toList_normalize]
  constructor
  · intro h
    obtain ⟨formula, hgroup | ⟨op, left, right, lefts, rights, -, hsplit, hleft, hright⟩⟩ := h
    · exact .inl ⟨formula, spells_enclosed_iff.1 hgroup⟩
    · exact .inr ⟨op, left, right, lefts, rights, hsplit, hleft, hright⟩
  · intro h
    rcases h with ⟨formula, hformula⟩ | ⟨op, left, right, lefts, rights, hsplit, hleft, hright⟩
    · exact ⟨formula, .inl (spells_enclosed_iff.2 hformula)⟩
    · exact ⟨.binary op left right,
        .inr ⟨op, left, right, lefts, rights, rfl, hsplit, hleft, hright⟩⟩

/-- A rejoined source is not accepted as it stands: its left operand would be the
beginning of a longer spelling. -/
theorem Rejoined.not_accepted {source : String} (h : Rejoined source) : ¬Accepted source := by
  intro haccepted
  obtain ⟨op, left, right, lefts, rights, hsplit, hleft, -⟩ := rejoined_iff_exists_operands.1 h
  obtain ⟨formula, hformula⟩ := accepted_iff.1 haccepted
  rw [← spells_enclosed_iff, hsplit] at hformula
  cases hleft.eq_nil_of_append hformula

/-- **Normalizing twice.** A source that can be parsed is parsed to the same nodes,
with the same description, once it has been normalized, and its diagnostics are the
same one position further. A source that cannot be parsed can be parsed once it has
been normalized exactly when the parentheses around it rejoin it, and no other source
changes between the two. -/
theorem renormalized_parse (source : String) :
    (∀ parsed, (parse source).outcome = .ok parsed →
      (parse (normalize source)).outcome = .ok parsed ∧
      (∃ description, parsed.graph.describe? parsed.root = some description) ∧
      (parse (normalize source)).diagnostics =
        (parse source).diagnostics.map Diagnostic.shifted) ∧
    (¬Accepted source → (Accepted (normalize source) ↔ Rejoined source)) ∧
    (¬(Accepted source ↔ Accepted (normalize source)) ↔ Rejoined source) := by
  refine ⟨fun parsed h => ?_, fun h => ?_, ?_⟩
  · obtain ⟨hagain, hdiagnostics⟩ := parse_normalized h
    obtain ⟨formula, -, rfl⟩ := parse_eq_ok_iff.1 h
    exact ⟨hagain, ⟨_, Graph.describe?_withFormula Graph.tidy_empty formula⟩, hdiagnostics⟩
  · rw [accepted_normalize_iff, or_iff_right h]
  · rw [accepted_normalize_iff]
    constructor
    · intro hchange
      by_contra hnot
      exact hchange (or_iff_left hnot).symm
    · intro h hsame
      exact h.not_accepted (hsame.2 (.inr h))

/-- The closing and the opening parenthesis of `p)∧¬(q` are each other's match only
after the source has been enclosed. -/
theorem rejoined_by_enclosing :
    ¬Accepted "p)∧¬(q" ∧ Accepted (normalize "p)∧¬(q") ∧ Rejoined "p)∧¬(q" := by
  have hletter {c : Char} (hc : c.isAlpha = true) (hblank : Text.isBlank c = false) :
      Accepted (String.ofList [c]) := by
    have hchars : unblanked (String.ofList [c]) = [c] := by
      rw [unblanked, String.toList_ofList, List.filter_cons, hblank]
      rfl
    rw [accepted_iff, hchars]
    exact ⟨_, .inl (.atom hc)⟩
  have hrejoined : Rejoined "p)∧¬(q" :=
    ⟨['p'], ['q'], .conjunction, 1, by decide, hletter rfl (by decide), hletter rfl (by decide)⟩
  have hrejected := hrejoined.not_accepted
  exact ⟨hrejected, ((renormalized_parse "p)∧¬(q").2.1 hrejected).2 hrejoined, hrejoined⟩

end Propositional
