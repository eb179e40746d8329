import Propositional.Proofs.Assembly.WellFormed
import Propositional.Proofs.Parse.Agreement

/-!
# What is reported about a source

Links and lowercase letters are reported while a derivation is worked through, when
most of the nodes are not there yet. The finished nodes tell the same story: the walk
from the root comes to them in the order in which they were attached, and to the atoms
in the order in which their letters stand in the text. So a report needs neither the
derivation nor the work on it.

> `recounts_of_denotes`: the report of a translation, read off the nodes of the formula
> and the letters among the tokens.
> `Recounts.unique`: nodes and letters leave only one report.
> `reports_iff`: what parsing a source reports, in terms of its outcome.
-/

namespace Propositional

open Log (Traced Event)

/-! ## Letters -/

/-- The letters of a text, each with its position, from left to right. -/
def letters (text : List Char) : List (Char × Nat) :=
  text.zipIdx.filter fun place => place.1.isAlpha

/-- The letters among some tokens. -/
def Token.letters (text : List Char) (tokens : List Token) : List (Char × Nat) :=
  (tokens.map fun token => (token.character text, token.index)).filter fun place =>
    place.1.isAlpha

variable {text : List Char}

theorem Token.letters_append (front back : List Token) :
    Token.letters text (front ++ back) = Token.letters text front ++ Token.letters text back := by
  rw [letters, List.map_append, List.filter_append]
  rfl

theorem Token.letters_cons_atom {token : Token} (h : token.ReadFrom text)
    (hkind : token.kind = .atom) (rest : List Token) :
    Token.letters text (token :: rest) =
      (token.character text, token.index) :: Token.letters text rest := by
  have hletter : (token.character text).isAlpha = true := h.writtenAs hkind
  rw [letters, List.map_cons, List.filter_cons, if_pos hletter]
  rfl

/-- Tokens that are no atoms may be left out. -/
theorem Token.letters_cons {token : Token} (h : token.ReadFrom text) (hkind : token.kind ≠ .atom)
    (rest : List Token) : Token.letters text (token :: rest) = Token.letters text rest := by
  have hletter : ¬(token.character text).isAlpha = true := fun halpha => hkind (h.kind_eq halpha)
  rw [letters, List.map_cons, List.filter_cons, if_neg hletter]
  rfl

/-- Tokens around others that are no atoms may be left out, too. -/
theorem Token.letters_enclosed {opening closing : Token} (hopening : opening.ReadFrom text)
    (hkind₁ : opening.kind ≠ .atom) (hclosing : closing.ReadFrom text)
    (hkind₂ : closing.kind ≠ .atom) (tokens : List Token) :
    Token.letters text (opening :: (tokens ++ [closing])) = Token.letters text tokens := by
  rw [letters_cons hopening hkind₁, letters_append, letters_cons hclosing hkind₂]
  exact List.append_nil _

/-- In a text of tokens alone, the letters among the tokens are those of the text. -/
theorem Token.letters_tokensFrom {line : Int} (hfull : ∀ c ∈ text, isIgnorable c = false)
    (hlegal : ∀ c ∈ text, isIgnorable c = true ∨ IsTokenCharacter c) :
    Token.letters text (tokensFrom line 0 text) = Propositional.letters text := by
  have hplaces : placesFrom 0 text = text.zipIdx := by
    rw [placesFrom, List.filter_eq_self]
    intro place hplace
    rw [hfull place.1 (List.fst_mem_of_mem_zipIdx hplace)]
    rfl
  have hmap : (tokensFrom line 0 text).map (fun token => (token.character text, token.index)) =
      text.zipIdx := by
    rw [← hplaces, ← List.map_id (placesFrom 0 text)]
    refine map_tokensFrom hlegal fun place hplace kind => ?_
    show (Token.character text ⟨kind, place.2, line⟩, place.2) = place
    rw [character_of_mem_placesFrom hplace]
  rw [letters, hmap, Propositional.letters]

/-! ## Nodes and letters -/

/-- The node is of the first kind, and stands in the slot of its parent, which is of the
second kind. -/
def Graph.Hangs (graph : Graph) (id : NodeId) (kind above : Kind) (slot : Slot) : Prop :=
  ∃ upper, (graph.node? id).map Node.kind = some kind ∧ graph.parent? id = some upper ∧
    (graph.node? upper).map Node.kind = some above ∧ graph.child? upper slot = some id

/-- What is reported about a list of nodes: for each of them one link, and before the
link of an atom its letter, if that is a lowercase one. The letters of the atoms are
those of a list, in order. -/
inductive Graph.Recounts (graph : Graph) :
    List NodeId → List (Char × Nat) → List Event → Prop
  | nil : Recounts graph [] [] []
  | atom {id : NodeId} {c : Char} {k : Nat} {above : Kind} {slot : Slot} {ids : List NodeId}
      {letters : List (Char × Nat)} {events : List Event}
      (hnode : graph.Hangs id (.atom (String.singleton c.toUpper)) above slot)
      (hrest : Recounts graph ids letters events) :
      Recounts graph (id :: ids) ((c, k) :: letters)
        ((if c.isLower then [.lowercaseAtom c.toString k] else []) ++
          linkEvent above slot (.atom (String.singleton c.toUpper)) :: events)
  | connective {id : NodeId} {found : Connective} {above : Kind} {slot : Slot}
      {ids : List NodeId} {letters : List (Char × Nat)} {events : List Event}
      (hnode : graph.Hangs id (.connective found) above slot)
      (hrest : Recounts graph ids letters events) :
      Recounts graph (id :: ids) letters (linkEvent above slot (.connective found) :: events)

namespace Graph

variable {graph : Graph}

/-- A node hangs from its one parent in one slot. -/
theorem Hangs.unique (hconsistent : graph.Consistent) {id : NodeId} {kind above : Kind}
    {slot : Slot} {kind' above' : Kind} {slot' : Slot} (h : graph.Hangs id kind above slot)
    (h' : graph.Hangs id kind' above' slot') : kind = kind' ∧ above = above' ∧ slot = slot' := by
  obtain ⟨upper, hkind, hparent, habove, hslot⟩ := h
  obtain ⟨upper', hkind', hparent', habove', hslot'⟩ := h'
  cases hparent.symm.trans hparent'
  exact ⟨Option.some.inj (hkind.symm.trans hkind'), Option.some.inj (habove.symm.trans habove'),
    hconsistent.slot_unique upper id slot slot' hslot hslot'⟩

namespace Recounts

/-- Reports on two lists of nodes, one after the other. -/
theorem append {ids more : List NodeId} {letters others : List (Char × Nat)}
    {events later : List Event} (h : graph.Recounts ids letters events)
    (hmore : graph.Recounts more others later) :
    graph.Recounts (ids ++ more) (letters ++ others) (events ++ later) := by
  induction h with
  | nil => exact hmore
  | atom hnode _ ih =>
    rw [List.append_assoc]
    exact .atom hnode ih
  | connective hnode _ ih => exact .connective hnode ih

/-- Nodes and letters leave only one report. -/
theorem unique (hconsistent : graph.Consistent) {ids : List NodeId}
    {letters : List (Char × Nat)} {events others : List Event}
    (h : graph.Recounts ids letters events) (hother : graph.Recounts ids letters others) :
    events = others := by
  induction h generalizing others with
  | nil =>
    cases hother
    rfl
  | atom hnode _ ih =>
    cases hother with
    | atom hnode' hrest' =>
      obtain ⟨-, rfl, rfl⟩ := hnode.unique hconsistent hnode'
      rw [ih hrest']
    | connective hnode' _ => cases (hnode.unique hconsistent hnode').1
  | connective hnode _ ih =>
    cases hother with
    | atom hnode' _ => cases (hnode.unique hconsistent hnode').1
    | connective hnode' hrest' =>
      obtain ⟨hkind, rfl, rfl⟩ := hnode.unique hconsistent hnode'
      rw [hkind, ih hrest']

end Recounts

end Graph

/-! ## Translations -/

namespace ParseTree

theorem events_negation {sign : Token} {operand : ParseTree} {negated : Formula}
    (hsign : sign.ReadFrom text) (hkind : sign.kind = .connective .negation)
    (hoperand : operand.StandsFor text negated) (kind : Kind) (slot : Slot) :
    ((formula [sign.leaf, operand]).formula? text kind slot).events =
      linkEvent kind slot (.connective .negation) ::
        (operand.formula? text (.connective .negation) .right).events := by
  rw [formula?_negation hsign hkind, Traced.events_bind_of_ok rfl,
    Traced.events_bind_of_ok (hoperand _ _)]
  exact congrArg (linkEvent kind slot (.connective .negation) :: ·) (List.append_nil _)

theorem events_binary {sign : Token} {op : BinaryConnective} {left right : ParseTree}
    {before behind : Formula} (hsign : sign.ReadFrom text)
    (hkind : sign.kind = .connective (.binary op)) (opening closing : ParseTree)
    (hleft : left.StandsFor text before) (hright : right.StandsFor text behind) (kind : Kind)
    (slot : Slot) :
    ((formula [opening, left, sign.leaf, right, closing]).formula? text kind slot).events =
      linkEvent kind slot (.connective (.binary op)) ::
        ((left.formula? text (.connective (.binary op)) .left).events ++
          (right.formula? text (.connective (.binary op)) .right).events) := by
  rw [formula?_binary hsign hkind, Traced.events_bind_of_ok rfl,
    Traced.events_bind_of_ok (hleft _ _), Traced.events_bind_of_ok (hright _ _)]
  refine congrArg (linkEvent kind slot (.connective (.binary op)) :: ·) ?_
  exact congrArg ((left.formula? text _ .left).events ++ ·) (List.append_nil _)

end ParseTree

/-! ## The nodes of a formula -/

namespace Graph

variable {graph : Graph}

/-- A node that has been put into a slot of another hangs from it. -/
theorem hangs_of_node? {id upper : NodeId} {node : Node} {above : Kind} {slot : Slot}
    (hnode : graph.node? id = some node) (hparent : node.parent = some upper)
    (habove : (graph.node? upper).map Node.kind = some above)
    (hslot : graph.child? upper slot = some id) : graph.Hangs id node.kind above slot := by
  refine ⟨upper, ?_, ?_, habove, hslot⟩
  · rw [hnode, Option.map_some]
  · rw [parent?, hnode, Option.bind_some, hparent]

theorem child?_of_node? {id : NodeId} {node : Node} (h : graph.node? id = some node)
    (slot : Slot) : graph.child? id slot = node.child slot := by
  rw [child?, h, Option.bind_some]

/-- Translating a derivation reports the links of the nodes of its formula and the
lowercase letters among its tokens. -/
theorem recounts_of_denotes {tokens : List Token} {tree : ParseTree} {formula : Formula}
    (h : Denotes text tokens tree formula) :
    ∀ {upper first : NodeId} {above : Kind} {slot : Slot},
      graph.Holds first (formula.nodes upper first) →
      (graph.node? upper).map Node.kind = some above → graph.child? upper slot = some first →
      graph.Recounts (List.range' first formula.size) (Token.letters text tokens)
        (tree.formula? text above slot).events := by
  induction h with
  | @atom letter hletter hkind =>
    intro upper first above slot hholds habove hslot
    have hnode := hangs_of_node? (holds_cons.1 hholds).1 rfl habove hslot
    rw [Token.letters_cons_atom hletter hkind, ParseTree.formula?_atom hletter hkind, caseEvents,
      Text.isLowercase_of_isAlpha (hletter.writtenAs hkind)]
    exact .atom hnode .nil
  | @negation sign tokens operand negated hsign hkind hoperand ih =>
    intro upper first above slot hholds habove hslot
    obtain ⟨hnode, hbelow⟩ := holds_cons.1 hholds
    have hrest := ih hbelow (by rw [hnode, Option.map_some]) (child?_of_node? hnode .right)
    rw [Token.letters_cons hsign (by simp [hkind]),
      ParseTree.events_negation hsign hkind hoperand.standsFor, Formula.size, List.range'_succ]
    exact .connective (hangs_of_node? hnode rfl habove hslot) hrest
  | @group opening closing tokens inner enclosed hopening hkind₁ hclosing hkind₂ hinner ih =>
    intro upper first above slot hholds habove hslot
    rw [Token.letters_enclosed hopening (by simp [hkind₁]) hclosing (by simp [hkind₂]),
      ParseTree.formula?_group]
    exact ih hholds habove hslot
  | @binary opening sign closing op lefts rights left right before behind hopening hkind₁ hsign
      hkind₂ hclosing hkind₃ hleft hright ihl ihr =>
    intro upper first above slot hholds habove hslot
    obtain ⟨hnode, hoperands⟩ := holds_cons.1 hholds
    obtain ⟨hnodesl, hnodesr⟩ := holds_append.1 hoperands
    rw [Formula.length_nodes] at hnodesr
    have hkind : (graph.node? first).map Node.kind = some (.connective (.binary op)) := by
      rw [hnode, Option.map_some]
    have hrestl := ihl hnodesl hkind (child?_of_node? hnode .left)
    have hrestr := ihr hnodesr hkind (child?_of_node? hnode .right)
    -- the parentheses are the same for a group and for a binary formula
    have henclosed : lefts ++ sign :: (rights ++ [closing]) =
        (lefts ++ sign :: rights) ++ [closing] := by
      rw [List.append_assoc, List.cons_append]
    rw [henclosed, Token.letters_enclosed hopening (by simp [hkind₁]) hclosing (by simp [hkind₃]),
      Token.letters_append, Token.letters_cons hsign (by simp [hkind₂]),
      ParseTree.events_binary hsign hkind₂ _ _ hleft.standsFor hright.standsFor, Formula.size,
      List.range'_succ, ← List.range'_append_1]
    exact .connective (hangs_of_node? hnode rfl habove hslot) (hrestl.append hrestr)

/-- A formula that is assembled under a root. -/
theorem recounts_withFormula (graph : Graph) {tokens : List Token} {tree : ParseTree}
    {formula : Formula} (h : Denotes text tokens tree formula) :
    (graph.withFormula formula).Recounts (List.range' (graph.size + 1) formula.size)
      (Token.letters text tokens) (tree.formula? text .root .left).events := by
  obtain ⟨hroot, hholds⟩ := graph.holds_withFormula formula
  exact recounts_of_denotes h hholds (by rw [hroot, Option.map_some])
    (child?_of_node? hroot .left)

end Graph

/-! ## Reports -/

theorem derive_eq_of_ok {text : String} {tree : ParseTree} (h : (derive text).outcome = .ok tree) :
    derive text = ⟨[.derived text], .ok tree⟩ := by
  unfold derive at h ⊢
  split at h
  next =>
    cases h
    rfl
  next => cases h

theorem derive_eq_of_error {text : String} {rejection : Rejection}
    (h : (derive text).outcome = .error rejection) :
    derive text = ⟨rejection.events, .error rejection⟩ := by
  unfold derive at h ⊢
  split at h
  next => cases h
  next =>
    cases h
    rfl

namespace Graph

/-- Assembling the tree of a formula reports its translation and one event more. -/
theorem events_assemble (graph : Graph) {text : String} {tree : ParseTree} {formula : Formula}
    (h : tree.StandsFor text.toList formula) :
    (graph.assemble text tree).events = (tree.formula? text.toList .root .left).events ++
      [.built text ((graph.withFormula formula).preorder graph.size).length] := by
  have hformula := h .root .left
  rw [assemble_eq]
  generalize tree.formula? text.toList .root .left = translated at hformula ⊢
  obtain ⟨events, outcome⟩ := translated
  cases hformula
  rfl

theorem events_parse_of_derive (graph : Graph) {source : String} {tree : ParseTree}
    (h : (derive (normalize source)).outcome = .ok tree) :
    (graph.parse source).events = .normalized source (normalize source) ::
      .derived (normalize source) :: (graph.assemble (normalize source) tree).events := by
  unfold parse
  dsimp only
  rw [derive_eq_of_ok h]
  rfl

/-- The nodes and the report of a source that is parsed. -/
theorem exists_recounts_parse {graph : Graph} {source : String} {parsed : Rooted}
    (h : (graph.parse source).outcome = .ok parsed) :
    ∃ formula events, parsed = ⟨graph.withFormula formula, graph.size⟩ ∧
      parsed.graph.Recounts (List.range' (graph.size + 1) formula.size)
        (letters (normalize source).toList) events ∧
      (graph.parse source).events =
        .normalized source (normalize source) :: .derived (normalize source) ::
          (events ++ [.built (normalize source) (parsed.graph.preorder parsed.root).length]) := by
  obtain ⟨formula, hspells, rfl⟩ := outcome_parse_eq_ok_iff.1 h
  obtain ⟨hlegal, tree, hderives, hformula⟩ :=
    (spells_iff_derives isIgnorable_normalize).1 hspells
  have htree : (derive (normalize source)).outcome = .ok tree := by
    rw [outcome_derive, ParseTree.ofText_eq_ok_iff]
    exact ⟨hlegal, hderives⟩
  have hrecounts := graph.recounts_withFormula
    (hderives.denotes (fun _ => readFrom_of_mem_tokensFrom) hformula)
  rw [Token.letters_tokensFrom isIgnorable_normalize hlegal] at hrecounts
  refine ⟨formula, _, rfl, hrecounts, ?_⟩
  rw [graph.events_parse_of_derive htree, graph.events_assemble hformula]

end Graph

/-- What parsing a source reports, in terms of its outcome. For a source that is parsed,
these are the links of all nodes but the root in the order of the walk, and the
lowercase letters of the normalized source. -/
inductive Reports (source : String) : List Event → Prop
  | parsed {parsed : Rooted} {ids : List NodeId} {events : List Event}
      (hparsed : (parse source).outcome = .ok parsed)
      (hids : parsed.graph.Descent parsed.root (parsed.root :: ids))
      (hevents : parsed.graph.Recounts ids (letters (normalize source).toList) events) :
      Reports source
        (.normalized source (normalize source) :: .derived (normalize source) ::
          (events ++ [.built (normalize source) (parsed.root :: ids).length]))
  | illegal {found : IllegalCharacter}
      (hfound : (parse source).outcome = .error (.grammar (.illegal found))) :
      Reports source
        [.normalized source (normalize source), .illegalCharacter found.character found.position,
          .readingFailed found.message]
  | rejected {reason : ParseError} (hreason : (parse source).outcome = .error reason)
      (hlegal : ∀ found, reason ≠ .grammar (.illegal found)) :
      Reports source [.normalized source (normalize source), .rejected]

/-- The links of a parsed graph agree. -/
theorem consistent_of_parse {source : String} {parsed : Rooted}
    (h : (parse source).outcome = .ok parsed) : parsed.graph.Consistent :=
  (Graph.linkedBy_empty.develops (Graph.parse_develops h)).consistent

theorem Reports.unique {source : String} {events others : List Event} (h : Reports source events)
    (hother : Reports source others) : events = others := by
  cases h with
  | parsed hparsed hids hevents =>
    cases hother with
    | parsed hparsed' hids' hevents' =>
      cases hparsed.symm.trans hparsed'
      obtain ⟨-, rfl⟩ := List.cons.inj (hids.traversal.unique hids'.traversal)
      rw [hevents.unique (consistent_of_parse hparsed) hevents']
    | illegal hfound => cases hparsed.symm.trans hfound
    | rejected hreason _ => cases hparsed.symm.trans hreason
  | illegal hfound =>
    cases hother with
    | parsed hparsed _ _ => cases hparsed.symm.trans hfound
    | illegal hfound' =>
      cases hfound.symm.trans hfound'
      rfl
    | rejected hreason hlegal =>
      cases hfound.symm.trans hreason
      exact absurd rfl (hlegal _)
  | rejected hreason hlegal =>
    cases hother with
    | parsed hparsed _ _ => cases hparsed.symm.trans hreason
    | illegal hfound =>
      cases hfound.symm.trans hreason
      exact absurd rfl (hlegal _)
    | rejected _ _ => rfl

/-- Parsing reports what its outcome says. -/
theorem reports_parse (source : String) : Reports source (parse source).events := by
  cases hparse : (parse source).outcome with
  | ok parsed =>
    have hconsistent := consistent_of_parse hparse
    obtain ⟨formula, events, rfl, hrecounts, hevents⟩ := Graph.exists_recounts_parse hparse
    have hdescent := hconsistent.descent (Graph.empty.traversal_withFormula formula)
    rw [parse, hevents, Graph.preorder_eq_of_traversal hconsistent.tidy hdescent.traversal
      hdescent.nodup]
    exact .parsed hparse hdescent hrecounts
  | error reason =>
    obtain ⟨rejection, hrejection, rfl⟩ := parse_eq_error_iff.1 hparse
    have hevents : (parse source).events =
        .normalized source (normalize source) :: rejection.events := by
      unfold parse Graph.parse
      dsimp only
      rw [derive_eq_of_error hrejection]
      rfl
    rw [hevents]
    cases rejection with
    | illegal found => exact .illegal hparse
    | unexpected token => exact .rejected hparse (by simp)
    | unexpectedEnd => exact .rejected hparse (by simp)

/-- **What parsing reports** is settled by its outcome, and by the nodes and the letters
of a source that is parsed. -/
theorem reports_iff {source : String} {events : List Event} :
    Reports source events ↔ events = (parse source).events := by
  constructor
  · intro h
    exact h.unique (reports_parse source)
  · intro h
    rw [h]
    exact reports_parse source

end Propositional
