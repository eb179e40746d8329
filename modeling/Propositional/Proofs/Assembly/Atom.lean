import Propositional.Proofs.Assembly.Balance
import Propositional.Proofs.Text.Case

/-!
# Letters as atoms

An atom can be asked for by any letter, and is labeled with the uppercase form of that,
however long it is. A build puts the letter in uppercase first and asks then, so a letter
with a longer uppercase form is refused, although an atom of the same label could be had.

> `atomLabel_letter`, `atomLabel_uppercase`: asking with a letter and with its uppercase
> form.
> `turn_letter`: what a turn does with a letter.
> `TreeRefused.exists_character`: which characters are complained about.
-/

namespace Propositional

open Log (Traced)

/-! ## Labels -/

/-- Every letter can be asked for. -/
theorem atomLabel_letter {c : Char} (hc : Text.isLetter c = true) :
    atomLabel c.toString = .ok (String.ofList (Text.uppercase c)) := by
  simp [atomLabel, hc, Text.uppercaseText]

/-- The uppercase form of a letter can be asked for only where it is one character, and is
the label then. -/
theorem atomLabel_uppercase {c : Char} (hc : Text.isLetter c = true) :
    atomLabel (String.ofList (Text.uppercase c)) =
      if (Text.uppercase c).length = 1 then .ok (String.ofList (Text.uppercase c))
      else .error ⟨String.ofList (Text.uppercase c)⟩ := by
  rcases Text.uppercase_letter hc with ⟨u, hu, hletter, hfixed⟩ | hlong
  · simp [atomLabel, hu, hletter, Text.uppercaseText, hfixed]
  · rw [if_neg (by omega)]
    unfold atomLabel
    split
    next d hd =>
      rw [String.toList_ofList] at hd
      rw [hd, List.length_singleton] at hlong
      omega
    next => rfl

/-- Reading a letter reports it if it is lowercase, whether or not it can be a label. -/
theorem readAtom_letter {text : List Char} {span : Span} {c : Char}
    (hfirst : span.first? text = some c) (hc : Text.isLetter c = true) :
    readAtom text (.leaf span) = ⟨caseEvents c span.start,
      if (Text.uppercase c).length = 1 then .ok (String.ofList (Text.uppercase c))
      else .error (.notALetter ⟨String.ofList (Text.uppercase c)⟩)⟩ := by
  rw [readAtom, readCharacter_of_first?_eq_some hfirst]
  dsimp only
  rw [if_pos hc, atomLabel_uppercase hc]
  split <;> rfl

theorem filterMap_caseEvents (c : Char) (position : Int) :
    (caseEvents c position).filterMap Diagnostic.ofEvent? =
      if Text.isLowercase c then [.lowercase c.toString position] else [] := by
  unfold caseEvents
  split <;> rfl

/-! ## Turns -/

/-- A turn with a letter attaches an atom or refuses the uppercase form. -/
theorem Assembly.turn_letter {text : List Char} {graph : Graph} {parent : NodeId} {node : Node}
    {slot : Slot} {span : Span} {c : Char} (hnode : graph.node? parent = some node)
    (hslot : node.freeSlot? = some slot) (hfirst : span.first? text = some c)
    (hc : Text.isLetter c = true) (symbol : String) (rest : List Task) :
    turn text graph ⟨.node symbol [.leaf span], parent⟩ rest =
      if (Text.uppercase c).length = 1 then
        ⟨caseEvents c span.start ++
            [linkEvent node.kind slot (.atom (String.ofList (Text.uppercase c)))],
          .ok ⟨graph.sprout parent slot (.atom (String.ofList (Text.uppercase c))), rest⟩⟩
      else ⟨caseEvents c span.start, .error (.notALetter ⟨String.ofList (Text.uppercase c)⟩)⟩ := by
  have hturn : turn text graph ⟨.node symbol [.leaf span], parent⟩ rest =
      readAtom text (.leaf span) >>= fun label =>
        graph.grow parent (.atom label) >>= fun grown => pure ⟨grown.1, rest⟩ := rfl
  rw [hturn, readAtom_letter hfirst hc]
  by_cases hlength : (Text.uppercase c).length = 1
  · rw [if_pos hlength, if_pos hlength]
    show Traced.after _ (graph.grow parent (.atom (String.ofList (Text.uppercase c))) >>= _) = _
    rw [Graph.grow_eq hnode hslot (by simp)]
    rfl
  · rw [if_neg hlength, if_neg hlength]
    rfl

/-- So a build of such a letter alone fails. -/
theorem build_letter_of_length_ne {text : String} {span : Span} {c : Char}
    (hfirst : span.first? text.toList = some c) (hc : Text.isLetter c = true)
    (hlength : (Text.uppercase c).length ≠ 1) (symbol : String) :
    ((Builder.ofText text).build (.node symbol [.leaf span])).2.outcome =
      .error (.notALetter ⟨String.ofList (Text.uppercase c)⟩) := by
  show (Graph.empty.assemble text (.node symbol [.leaf span])).outcome = _
  rw [Graph.outcome_assemble, ParseTree.formula?, readAtom_letter hfirst hc, if_neg hlength]
  rfl

/-! ## Refused characters -/

theorem ParseTree.mem_leaves_of_mem {symbol : String} {children : List ParseTree}
    {child : ParseTree} {span : Span} (hchild : child ∈ children) (h : span ∈ child.leaves) :
    span ∈ (node symbol children).leaves := by
  rw [leaves, preorder, preorderAll_eq_flatMap, List.filterMap_cons, List.mem_filterMap]
  obtain ⟨label, hlabel, hspan⟩ := List.mem_filterMap.1 h
  exact ⟨label, List.mem_flatMap.2 ⟨child, hchild, hlabel⟩, hspan⟩

/-- What a leaf holds begins with a character of the text that is refused: the refusal names
the character itself or, for a letter that has a longer one, its uppercase form. -/
def Complains (text : List Char) (span : Span) (refusal : BuildError) : Prop :=
  ∃ c ∈ text, span.first? text = some c ∧
    (refusal.fault.detail = .character c.toString ∨
      Text.isLetter c = true ∧ 2 ≤ (Text.uppercase c).length ∧
        refusal.fault.detail = .character (String.ofList (Text.uppercase c)))

theorem Span.mem_of_first? {span : Span} {text : List Char} {c : Char}
    (h : span.first? text = some c) : c ∈ text :=
  List.mem_of_mem_drop (List.mem_of_mem_take (List.mem_of_head? h))

/-- A refused character stands at the start of a leaf, as it is or in lowercase. -/
theorem TreeRefused.exists_leaf {text : List Char} {tree : ParseTree} {refusal : BuildError}
    (h : TreeRefused text tree refusal) (hcategory : refusal.fault.category = .invalidCharacter) :
    ∃ span ∈ tree.leaves, Complains text span refusal := by
  induction h with
  | noChildren => cases hcategory
  | childCount => cases hcategory
  | @leaf symbol children child refusal hmem hrefused =>
    have hleaf : ∀ span, child = .leaf span → span ∈ (ParseTree.node symbol children).leaves := by
      rintro span rfl
      exact ParseTree.mem_leaves_of_mem hmem List.mem_cons_self
    cases hrefused with
    | notLeaf => cases hcategory
    | emptyRange => cases hcategory
    | character hfirst => exact ⟨_, hleaf _ rfl, _, Span.mem_of_first? hfirst, hfirst, .inl rfl⟩
    | connective hfirst => exact ⟨_, hleaf _ rfl, _, Span.mem_of_first? hfirst, hfirst, .inl rfl⟩
    | @letter span c refused hfirst hletter hlabel =>
      rw [atomLabel_uppercase hletter] at hlabel
      split at hlabel
      next => cases hlabel
      next hlength =>
        cases hlabel
        rcases Text.uppercase_letter hletter with ⟨u, hu, -⟩ | hlong
        · exact absurd (by rw [hu]; rfl) hlength
        · exact ⟨_, hleaf _ rfl, _, Span.mem_of_first? hfirst, hfirst, .inr ⟨hletter, hlong, rfl⟩⟩
  | deeper hmem _ ih =>
    obtain ⟨span, hspan, hcomplains⟩ := ih hcategory
    exact ⟨span, ParseTree.mem_leaves_of_mem hmem hspan, hcomplains⟩

/-- **Letters as atoms.** In any build over any text, whenever a turn reads a letter under the
leaf of an atom, an atom can be asked for by that letter. If the uppercase form of the letter
is one character, the turn attaches the atom that is so asked for; else it refuses the label of
that atom. A lowercase letter is reported in either case. Every character that a build refuses
stands at the start of a leaf of the tree, but of a letter with a longer uppercase form it is
that form that is named. -/
theorem letters_attached_or_refused (text : String) (tree : ParseTree) :
    (∀ (graph grown : Graph) (turns : Nat) (symbol : String) (span : Span) (parent : NodeId)
        (rest : List Task) (c : Char),
      Assembly.Reaches text.toList (.start graph tree) turns
        ⟨grown, ⟨.node symbol [.leaf span], parent⟩ :: rest⟩ →
      span.first? text.toList = some c → Text.isLetter c = true →
      let taken := Assembly.turn text.toList grown ⟨.node symbol [.leaf span], parent⟩ rest
      ∃ label, atomLabel c.toString = .ok label ∧
        taken.diagnostics =
          (if Text.isLowercase c then [.lowercase c.toString span.start] else []) ∧
        ((Text.uppercase c).length = 1 →
          ∃ node slot, grown.node? parent = some node ∧ node.freeSlot? = some slot ∧
            taken.outcome = .ok ⟨grown.sprout parent slot (.atom label), rest⟩) ∧
        ((Text.uppercase c).length ≠ 1 → taken.outcome = .error (.notALetter ⟨label⟩))) ∧
    ∀ (history : List ParseTree) (refusal : BuildError),
      (((Builder.ofText text).afterBuilds history).build tree).2.outcome = .error refusal →
      refusal.fault.category = .invalidCharacter →
      ∃ span ∈ tree.leaves, Complains text.toList span refusal := by
  refine ⟨?_, fun history refusal h hcategory => ?_⟩
  · intro graph grown turns symbol span parent rest c hreaches hfirst hc taken
    have hbalanced := hreaches.balanced (Assembly.balanced_start graph tree)
    obtain ⟨node, slot, hnode, hslot⟩ := hbalanced.exists_freeSlot?
    have htaken : taken = _ := Assembly.turn_letter hnode hslot hfirst hc symbol rest
    refine ⟨_, atomLabel_letter hc, ?_, fun hlength => ?_, fun hlength => ?_⟩
    · rw [htaken, ← filterMap_caseEvents]
      split
      next =>
        rw [Traced.diagnostics, List.filterMap_append]
        exact List.append_nil _
      next => rfl
    · rw [htaken, if_pos hlength]
      exact ⟨node, slot, hnode, hslot, rfl⟩
    · rw [htaken, if_neg hlength]
  · have hrefused := treeRefused_of_build h
    rw [Builder.text_afterBuilds] at hrefused
    exact hrefused.exists_leaf hcategory

/-- An acute e becomes the atom `É`. The sharp s cannot be attached, though an atom labeled
`SS` can be asked for by it. -/
theorem acute_attached_sharp_s_refused :
    let tree := ParseTree.node "formula" [.leaf ⟨0, 1⟩]
    (∃ node slot, (Graph.empty.push .root).node? 0 = some node ∧ node.freeSlot? = some slot ∧
      (Assembly.turn "é".toList (Graph.empty.push .root) ⟨tree, 0⟩ []).outcome =
        .ok ⟨(Graph.empty.push .root).sprout 0 slot (.atom "É"), []⟩) ∧
      (Assembly.turn "ß".toList (Graph.empty.push .root) ⟨tree, 0⟩ []).outcome =
        .error (.notALetter ⟨"SS"⟩) ∧
      Complains "ß".toList ⟨0, 1⟩ (.notALetter ⟨"SS"⟩) := by
  intro tree
  have hacute : Text.uppercase 'é' = ['É'] := by decide +kernel
  have hsharp : Text.uppercase 'ß' = ['S', 'S'] := by decide +kernel
  have hread : (⟨0, 1⟩ : Span).first? "ß".toList = some 'ß' := by decide
  obtain ⟨label, hlabel, -, hattached, -⟩ := (letters_attached_or_refused "é" tree).1 .empty _
    0 "formula" ⟨0, 1⟩ 0 [] 'é' (.refl _) (by decide) (by decide +kernel)
  obtain ⟨label', hlabel', -, -, hrefused⟩ := (letters_attached_or_refused "ß" tree).1 .empty _
    0 "formula" ⟨0, 1⟩ 0 [] 'ß' (.refl _) hread (by decide +kernel)
  rw [atomLabel_letter (by decide +kernel), hacute] at hlabel
  rw [atomLabel_letter (by decide +kernel), hsharp] at hlabel'
  cases hlabel
  cases hlabel'
  have hturn := hrefused (by rw [hsharp]; decide)
  refine ⟨hattached (by rw [hacute]; rfl), hturn, ?_⟩
  have hbuild : (((Builder.ofText "ß").afterBuilds []).build tree).2.outcome =
      .error (.notALetter ⟨String.ofList (Text.uppercase 'ß')⟩) :=
    build_letter_of_length_ne hread (by decide +kernel) (by rw [hsharp]; decide) "formula"
  rw [hsharp] at hbuild
  obtain ⟨span, hspan, hcomplains⟩ :=
    (letters_attached_or_refused "ß" tree).2 [] _ hbuild rfl
  cases List.mem_singleton.1 hspan
  exact hcomplains

/-- The sharp s is a letter that can be asked for as an atom, and still a build refuses it
where it stands for one, with a text that is no character of what was built from. -/
theorem sharp_s_not_built :
    let tree := ParseTree.node "formula" [.leaf ⟨0, 1⟩]
    (⟨0, 1⟩ : Span).first? "ß".toList = some 'ß' ∧ Text.isLetter 'ß' = true ∧
      atomLabel "ß" = .ok "SS" ∧
      ((Builder.ofText "ß").build tree).2.outcome = .error (.notALetter ⟨"SS"⟩) ∧
      (NotALetter.fault ⟨"SS"⟩).category = .invalidCharacter ∧
      ¬∃ c ∈ "ß".toList, (NotALetter.fault ⟨"SS"⟩).detail = .character c.toString := by
  intro tree
  have hfirst : (⟨0, 1⟩ : Span).first? "ß".toList = some 'ß' := by decide
  have hletter : Text.isLetter 'ß' = true := by decide +kernel
  have hupper : Text.uppercase 'ß' = ['S', 'S'] := by decide +kernel
  have hlabel : atomLabel "ß" = .ok "SS" := by
    have h := atomLabel_letter hletter
    rwa [hupper] at h
  refine ⟨hfirst, hletter, hlabel, ?_, rfl, ?_⟩
  · have h := build_letter_of_length_ne hfirst hletter (by rw [hupper]; decide) "formula"
    rwa [hupper] at h
  · rintro ⟨c, hc, hdetail⟩
    obtain rfl : c = 'ß' := List.mem_singleton.1 hc
    exact absurd hdetail (by decide)

end Propositional
