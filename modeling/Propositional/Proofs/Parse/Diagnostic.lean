import Propositional.Proofs.Parse.Recounting

/-!
# The diagnostics of a parsed source

Diagnostics are collected one by one while a derivation is worked through. What
is collected in the end can be read off the text alone, without a derivation:

> `Recounts.diagnostics`: a report on nodes and letters gives rise to an observation for
> each letter that is a lowercase one.
> `Graph.diagnostics_parse`: the diagnostics of a parsed source are those of the
> lowercase letters of the normalized source, from left to right.
-/

namespace Propositional

open Log (Traced Event)

/-! ## Lowercase letters -/

/-- What is observed about a character and its position. -/
def Diagnostic.ofPlace? (place : Char × Nat) : Option Diagnostic :=
  if place.1.isLower then some (.lowercase place.1.toString place.2) else none

/-- The observations about the lowercase ASCII letters of a text, whose first
character has the position `index`. -/
def lowercaseFrom (index : Nat) (chars : List Char) : List Diagnostic :=
  (chars.zipIdx index).filterMap Diagnostic.ofPlace?

/-- There is one observation for each position that holds a lowercase letter. -/
theorem mem_lowercaseFrom_iff {chars : List Char} {diagnostic : Diagnostic} :
    diagnostic ∈ lowercaseFrom 0 chars ↔
      ∃ (c : Char) (k : Nat), chars[k]? = some c ∧ c.isLower = true ∧
        diagnostic = .lowercase c.toString k := by
  simp only [lowercaseFrom, List.mem_filterMap, Prod.exists, List.mem_zipIdx_iff_getElem?,
    Diagnostic.ofPlace?, Option.ite_none_right_eq_some, Option.some.injEq]
  simp only [eq_comm]

/-- Nothing is observed about a character that is no letter. -/
theorem filterMap_letters (text : List Char) :
    (letters text).filterMap Diagnostic.ofPlace? = lowercaseFrom 0 text := by
  have hletter (place : Char × Nat) :
      (if place.1.isAlpha then Diagnostic.ofPlace? place else none) =
        Diagnostic.ofPlace? place := by
    unfold Diagnostic.ofPlace? Char.isAlpha
    cases place.1.isLower <;> simp
  rw [letters, List.filterMap_filter, lowercaseFrom]
  exact List.filterMap_congr fun place _ => hletter place

/-! ## Diagnostics of a source -/

/-- A report gives rise to an observation for each of its lowercase letters. -/
theorem Graph.Recounts.diagnostics {graph : Graph} {ids : List NodeId}
    {letters : List (Char × Nat)} {events : List Event}
    (h : graph.Recounts ids letters events) :
    events.filterMap Diagnostic.ofEvent? = letters.filterMap Diagnostic.ofPlace? := by
  induction h with
  | nil => rfl
  | @atom id c k above slot ids letters events _ _ ih =>
    rw [List.filterMap_cons, Diagnostic.ofPlace?]
    cases c.isLower with
    | true => exact congrArg (Diagnostic.lowercase c.toString k :: ·) ih
    | false => exact ih
  | connective _ _ ih => exact ih

/-- The diagnostics of a parsed source are those of the lowercase letters of the
normalized source. -/
theorem Graph.diagnostics_parse {graph : Graph} {source : String} {parsed : Rooted}
    (h : (graph.parse source).outcome = .ok parsed) :
    (graph.parse source).diagnostics = lowercaseFrom 0 (normalize source).toList := by
  obtain ⟨formula, events, -, hrecounts, hevents⟩ := exists_recounts_parse h
  calc (graph.parse source).diagnostics
      = (events ++ [Event.built (normalize source)
          (parsed.graph.preorder parsed.root).length]).filterMap Diagnostic.ofEvent? := by
        rw [Traced.diagnostics, hevents]
        rfl
    _ = events.filterMap Diagnostic.ofEvent? := by
        rw [List.filterMap_append]
        exact List.append_nil _
    _ = lowercaseFrom 0 (normalize source).toList := by
        rw [hrecounts.diagnostics, filterMap_letters]

end Propositional
