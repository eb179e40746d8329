import Propositional.Proofs.Parse.Diagnostic

/-!
# Every letter is one atom

The letters of a text go three ways. They are the tokens of the atoms, in the order of
the text; the nodes are made in the order in which the derivation is worked through; and
they are met in the order of the walk from the root. No letter is lost on any of these
ways, and none changes places with another one.

> `Recounts.labels`: the nodes of a report have its letters for labels, in order.
> `pairwise_lowercaseFrom`: observations stand in the order of their positions.
> `parsed_letters`: one diagnostic for each lowercase letter of the normalized source,
> and one atom for each letter, both from left to right.
-/

namespace Propositional

/-- The label of an atom. -/
def Kind.label? : Kind → Option String
  | .atom label => some label
  | .plain | .pair | .root | .connective _ => none

/-- The label of a node, if it is an atom. -/
def Graph.atomLabel? (graph : Graph) (id : NodeId) : Option String :=
  ((graph.node? id).map Node.kind).bind Kind.label?

/-- The atoms among the nodes of a report are labeled with its letters. -/
theorem Graph.Recounts.labels {graph : Graph} {ids : List NodeId}
    {letters : List (Char × Nat)} {events : List Log.Event}
    (h : graph.Recounts ids letters events) :
    ids.filterMap graph.atomLabel? = letters.map fun place => String.singleton place.1.toUpper := by
  induction h with
  | nil => rfl
  | atom hnode _ ih =>
    obtain ⟨_, hkind, -⟩ := hnode
    rw [List.filterMap_cons, atomLabel?, hkind, ih]
    rfl
  | connective hnode _ ih =>
    obtain ⟨_, hkind, -⟩ := hnode
    rw [List.filterMap_cons, atomLabel?, hkind]
    exact ih

theorem map_fst_letters (text : List Char) :
    (letters text).map Prod.fst = text.filter Char.isAlpha := by
  rw [← List.zipIdx_map_fst 0 text, List.filter_map, List.zipIdx_map_fst]
  rfl

/-- Observations stand in the order of their positions. -/
theorem pairwise_lowercaseFrom (index : Nat) (text : List Char) :
    (lowercaseFrom index text).Pairwise fun a b => a.position < b.position := by
  refine (pairwise_zipIdx index text).filterMap _ fun a b hlt first hfirst second hsecond => ?_
  obtain ⟨-, hfirst⟩ := Option.ite_none_right_eq_some.1 hfirst
  obtain ⟨-, hsecond⟩ := Option.ite_none_right_eq_some.1 hsecond
  cases hfirst
  cases hsecond
  exact Int.ofNat_lt.2 hlt

/-- The message of an observation names the letter and its uppercase form. -/
theorem Diagnostic.lowercase_eq {c : Char} (hc : c.isLower = true) (position : Int) :
    Diagnostic.lowercase c.toString position = ⟨position, c.toString,
      "Lowercase letter '" ++ c.toString ++ "' converted to '" ++ c.toUpper.toString ++ "'"⟩ := by
  have halpha : c.isAlpha = true := by rw [Char.isAlpha, hc, Bool.or_true]
  have hupper : Text.uppercaseText c.toString = c.toUpper.toString := by
    rw [Text.uppercaseText, Char.toString_eq_singleton, String.toList_singleton,
      List.flatMap_singleton, Text.uppercase_of_isAlpha halpha]
    rfl
  rw [lowercase, hupper]

/-- **Every letter is one atom.** The diagnostics of a parsed source stand in the order
of their positions, with one for each position of the normalized source that holds a
lowercase letter, and no others. The walk from the root comes to one atom for each
letter of the normalized source, from left to right, with the letter in uppercase for a
label. -/
theorem parsed_letters {source : String} {parsed : Rooted}
    (h : (parse source).outcome = .ok parsed) :
    ((parse source).diagnostics.Pairwise fun a b => a.position < b.position) ∧
    (∀ diagnostic, diagnostic ∈ (parse source).diagnostics ↔
      ∃ (c : Char) (k : Nat), (normalize source).toList[k]? = some c ∧ c.isLower = true ∧
        diagnostic = ⟨k, c.toString,
          "Lowercase letter '" ++ c.toString ++ "' converted to '" ++ c.toUpper.toString ++ "'"⟩) ∧
    ∃ ids, parsed.graph.Descent parsed.root ids ∧
      ids.filterMap parsed.graph.atomLabel? =
        ((normalize source).toList.filter Char.isAlpha).map
          fun c => String.singleton c.toUpper := by
  have hdiagnostics : (parse source).diagnostics = lowercaseFrom 0 (normalize source).toList :=
    Graph.diagnostics_parse h
  have hconsistent := consistent_of_parse h
  obtain ⟨formula, events, rfl, hrecounts, -⟩ := Graph.exists_recounts_parse h
  refine ⟨?_, fun diagnostic => ?_, _,
    hconsistent.descent (Graph.empty.traversal_withFormula formula), ?_⟩
  · rw [hdiagnostics]
    exact pairwise_lowercaseFrom 0 _
  · rw [hdiagnostics, mem_lowercaseFrom_iff]
    refine exists_congr fun c => exists_congr fun k => and_congr_right fun _ =>
      and_congr_right fun hc => ?_
    rw [Diagnostic.lowercase_eq hc]
  · have hroot : (Graph.empty.withFormula formula).atomLabel? Graph.empty.size = none := by
      rw [Graph.atomLabel?, (Graph.empty.holds_withFormula formula).1]
      rfl
    rw [List.range'_succ, List.filterMap_cons_none hroot, hrecounts.labels, ← map_fst_letters,
      List.map_map]
    rfl

/-- In `(q→P)∧r` the atoms are met from left to right, and the last letter is reported at
its position behind the inner parentheses. -/
theorem parsed_letters_nested :
    ∃ parsed ids, (parse "(q→P)∧r").outcome = .ok parsed ∧
      parsed.graph.Descent parsed.root ids ∧
      ids.filterMap parsed.graph.atomLabel? = ["Q", "P", "R"] ∧
      ⟨7, "r", "Lowercase letter 'r' converted to 'R'"⟩ ∈ (parse "(q→P)∧r").diagnostics := by
  have hinner : Spells ['(', 'q', '→', 'P', ')']
      (.binary .conditional (.atom "Q") (.atom "P")) :=
    @Spells.binary .conditional ['q'] ['P'] _ _ (.atom rfl) (.atom rfl)
  have hparsed : (parse "(q→P)∧r").outcome = .ok ⟨Graph.empty.withFormula _, 0⟩ :=
    parse_eq_ok_iff.2 ⟨_, .inr ⟨.conjunction, _, _, _, ['r'], rfl, by decide, hinner, .atom rfl⟩,
      rfl⟩
  obtain ⟨-, hmem, ids, hids, hlabels⟩ := parsed_letters hparsed
  exact ⟨_, ids, hparsed, hids, hlabels, (hmem _).2 ⟨'r', 7, rfl, rfl, rfl⟩⟩

end Propositional
