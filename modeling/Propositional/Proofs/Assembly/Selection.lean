import Propositional.Proofs.Assembly.Balance
import Propositional.Proofs.Assembly.Leaf
import Propositional.Proofs.Token.Tokenization

/-!
# What a leaf selects

The bounds of a leaf are any two integers. To read the leaf they are counted from the
start of the text and moved to its nearest end, and what is left between them is cut out.
None of these steps shows in what is read: a leaf selects the indices of the text between
its bounds, and the character at the least of them is what it stands for. A leaf that
selects no index is refused, and no build that comes to it gets further.

> `Span.mem_indices_iff`, `Span.map_some_slice`: which indices a range selects, and that
> the selected part holds the characters there.
> `Span.first?_eq_none_iff`, `Span.exists_least`: when there is a first character, and
> where it stands.
> `Assembly.outcome_turn_eq_emptyRange_iff`, `Builder.build_refuses_empty_iff`: the turns and
> the builds that refuse an empty range.
> `leaf_reads_least_selected`: what is read under a leaf, in a build and of a token.
-/

namespace Propositional

open Log (Traced)

/-! ## Selected indices -/

namespace Span

variable {α : Type} {span : Span} {text : List α}

/-- The indices of a text that the range selects, from left to right. -/
def indices (span : Span) (text : List α) : List Nat :=
  List.range' (resolve text.length span.start) (span.slice text).length

theorem mem_indices_iff {i : Nat} :
    i ∈ span.indices text ↔ span.Selects text.length i := by
  rw [indices, List.mem_range'_1, selects_iff]

theorem pairwise_indices (span : Span) (text : List α) :
    (span.indices text).Pairwise (· < ·) :=
  List.pairwise_lt_range'

/-- The selected part holds the characters at the selected indices. -/
theorem map_some_slice (span : Span) (text : List α) :
    (span.slice text).map some = (span.indices text).map (text[·]?) := by
  apply List.ext_getElem?
  intro k
  rw [List.getElem?_map, List.getElem?_map, indices]
  rcases Nat.lt_or_ge k (span.slice text).length with hk | hk
  · have hchar := getElem?_slice hk
    rw [List.getElem?_eq_getElem hk] at hchar ⊢
    rw [List.getElem?_range' hk, Nat.one_mul, Option.map_some, Option.map_some, ← hchar]
  · rw [List.getElem?_eq_none hk, List.getElem?_eq_none (by rwa [List.length_range'])]
    rfl

/-- There is no first character when no index is selected. -/
theorem first?_eq_none_iff :
    span.first? text = none ↔ ¬∃ i, span.Selects text.length i := by
  rw [first?, List.head?_eq_none_iff, ← List.length_eq_zero_iff]
  simp only [selects_iff]
  constructor
  · rintro hlength ⟨i, hi⟩
    omega
  · intro hnone
    rcases Nat.eq_zero_or_pos (span.slice text).length with hlength | hlength
    · exact hlength
    · exact absurd ⟨_, Nat.le_refl _, Nat.lt_add_of_pos_right hlength⟩ hnone

/-- If some index is selected, the first character stands at the least one. -/
theorem exists_least (h : ∃ i, span.Selects text.length i) :
    ∃ i c, span.Selects text.length i ∧ (∀ j, span.Selects text.length j → i ≤ j) ∧
      text[i]? = some c ∧ span.first? text = some c := by
  have hfirst : span.first? text ≠ none := fun hnone => first?_eq_none_iff.1 hnone h
  obtain ⟨c, hc⟩ := Option.ne_none_iff_exists'.1 hfirst
  -- the least index is the one where the selected part begins
  refine ⟨resolve text.length span.start, c, ?_, fun j hj => (selects_iff.1 hj).1, ?_, hc⟩
  · obtain ⟨j, hj⟩ := h
    have hbetween := selects_iff.1 hj
    exact selects_iff.2 ⟨Nat.le_refl _, by omega⟩
  · rw [first?, List.head?_eq_getElem?] at hc
    have hlt := (List.getElem?_eq_some_iff.1 hc).1
    rwa [getElem?_slice hlt, Nat.add_zero] at hc

end Span

/-! ## Leaves that select nothing -/

section Refusal

variable {text : List Char} {tree : ParseTree}

/-- Something is refused as empty exactly if it is a leaf without a first character. -/
theorem LeafRefused.emptyRange_iff :
    LeafRefused text tree .emptyRange ↔ ∃ span, tree = .leaf span ∧ span.first? text = none := by
  constructor
  · intro h
    cases h with
    | emptyRange hfirst => exact ⟨_, rfl, hfirst⟩
  · rintro ⟨span, rfl, hfirst⟩
    exact .emptyRange hfirst

theorem readCharacter_leaf_eq_emptyRange_iff {span : Span} :
    readCharacter text (.leaf span) = .error .emptyRange ↔ span.first? text = none := by
  rw [readCharacter]
  cases span.first? text with
  | none => exact iff_of_true rfl rfl
  | some c => simp

/-- No other refusal is reported as an empty part of the text. -/
theorem BuildError.category_eq_emptySubstring_iff {refusal : BuildError} :
    refusal.fault.category = .emptySubstring ↔ refusal = .emptyRange := by
  cases refusal with
  | attach link => cases link <;> simp [fault, AttachError.fault, Fault.plain]
  | _ => simp [fault, NotALetter.fault, Fault.plain, Fault.invalidCharacter, Fault.childCount]

end Refusal

/-- The child of a tree that a turn reads a character from: the letter of an atom or the sign
of a connective. -/
def ParseTree.sign? : ParseTree → Option ParseTree
  | .node _ [letter] => some letter
  | .node _ [sign, _] => some sign
  | .node _ [_, _, sign, _, _] => some sign
  | _ => none

namespace Assembly

variable {text : List Char} {graph : Graph} {task : Task} {rest : List Task}

/-- A turn that has to read an empty range does nothing else. -/
theorem turn_of_first?_eq_none {span : Span} (hsign : task.tree.sign? = some (.leaf span))
    (hfirst : span.first? text = none) : turn text graph task rest = .fail .emptyRange := by
  have hread := readCharacter_leaf_eq_emptyRange_iff.2 hfirst
  obtain ⟨tree, parent⟩ := task
  unfold ParseTree.sign? at hsign
  split at hsign
  next symbol letter htree =>
    cases htree
    cases hsign
    show readAtom text (.leaf span) >>= _ = _
    rw [readAtom, hread]
    rfl
  next symbol sign operand htree =>
    cases htree
    cases hsign
    show Traced.ofExcept (readNegation text (.leaf span)) >>= _ = _
    rw [readNegation, readConnective, hread]
    rfl
  next symbol opening left sign right closing htree =>
    cases htree
    cases hsign
    show Traced.ofExcept (readOperator text (.leaf span)) >>= _ = _
    rw [readOperator, readConnective, hread]
    rfl
  next => cases hsign

/-- A new node is refused for nothing but its link. -/
theorem outcome_grow_ne_emptyRange {parent : NodeId} {kind : Kind}
    (next : Graph × NodeId → Assembly) :
    (graph.grow parent kind >>= fun grown => pure (next grown)).outcome ≠
      .error .emptyRange := by
  intro h
  rcases Traced.outcome_bind_eq_error.1 h with hgrow | ⟨grown, -, hnext⟩
  · unfold Graph.grow at hgrow
    split at hgrow
    next => cases hgrow
    next => cases hgrow
  · cases hnext

/-- A turn refuses an empty range exactly when it has to read one. -/
theorem outcome_turn_eq_emptyRange_iff :
    (turn text graph task rest).outcome = .error .emptyRange ↔
      ∃ span, task.tree.sign? = some (.leaf span) ∧ span.first? text = none := by
  constructor
  · intro h
    obtain ⟨tree, parent⟩ := task
    have hleaf : ∀ {child}, tree.sign? = some child → LeafRefused text child .emptyRange →
        ∃ span, tree.sign? = some (.leaf span) ∧ span.first? text = none := by
      intro child hsign hrefused
      obtain ⟨span, rfl, hfirst⟩ := LeafRefused.emptyRange_iff.1 hrefused
      exact ⟨span, hsign, hfirst⟩
    unfold turn at h
    split at h
    next => cases h
    next symbol letter htree =>
      cases htree
      rcases Traced.outcome_bind_eq_error.1 h with hread | ⟨label, -, hgrow⟩
      · exact hleaf rfl (leafRefused_of_readAtom hread)
      · exact absurd hgrow (outcome_grow_ne_emptyRange _)
    next symbol sign operand htree =>
      cases htree
      rcases Traced.outcome_bind_eq_error.1 h with hread | ⟨_, -, hgrow⟩
      · exact hleaf rfl (leafRefused_of_readNegation hread)
      · exact absurd hgrow (outcome_grow_ne_emptyRange _)
    next => cases h
    next symbol opening left sign right closing htree =>
      cases htree
      rcases Traced.outcome_bind_eq_error.1 h with hread | ⟨op, -, hgrow⟩
      · exact hleaf rfl (leafRefused_of_readOperator hread)
      · exact absurd hgrow (outcome_grow_ne_emptyRange _)
    next => cases h
  · rintro ⟨span, hsign, hfirst⟩
    rw [turn_of_first?_eq_none hsign hfirst]
    rfl

end Assembly

/-- A build ends with an empty range exactly when it comes to one. -/
theorem Builder.build_refuses_empty_iff {builder : Builder} {tree : ParseTree} :
    (∃ refusal, (builder.build tree).2.outcome = .error refusal ∧
        refusal.fault.category = .emptySubstring) ↔
      ∃ turns graph task rest span,
        Assembly.Reaches builder.text.toList (.start .empty tree) turns ⟨graph, task :: rest⟩ ∧
          task.tree.sign? = some (.leaf span) ∧ span.first? builder.text.toList = none := by
  have houtcome : ∀ refusal, (builder.build tree).2.outcome = .error refusal ↔ _ :=
    fun _ => Assembly.outcome_assemble_eq_error_iff
  simp only [BuildError.category_eq_emptySubstring_iff, exists_eq_right, houtcome,
    Assembly.outcome_turn_eq_emptyRange_iff, exists_and_left]

/-! ## Leaves of tokens -/

/-- The tokens of a reading were read from its text. -/
theorem Lexer.Request.readFrom_of_mem_tokens {request : Request} {token : Token}
    (h : token ∈ request.scan.tokens) : token.ReadFrom request.text.toList := by
  obtain ⟨-, -, c, hchar, hkind⟩ := mem_tokens_iff.1 h
  refine ⟨(List.getElem?_eq_some_iff.1 hchar).1, ?_⟩
  rwa [Token.character, List.getD_eq_getElem?_getD, hchar]

/-- **What a leaf selects.** An index of a text is selected by a leaf if it lies between the
two bounds, of which a negative one is counted from the end of the text; all other indices
are not, however far out or in whatever order the bounds are. The selected part holds the
characters at these indices, from left to right.

If there is none, reading the leaf is refused as empty. Otherwise the character at the least
selected index is read, and its position is the first bound as it was written. A build, after
any others, fails for an empty part of the text exactly when it comes to an atom or a
connective whose leaf selects nothing.

The leaf of every token that a lexer reads from the text, whatever it has read before and
wherever it starts, stands for the character at the place of the token. -/
theorem leaf_reads_least_selected (text : String) :
    (∀ (span : Span) (i : Nat), span.Selects text.toList.length i ↔
      i < text.toList.length ∧
        (if 0 ≤ span.start then span.start else span.start + text.toList.length) ≤ i ∧
        i < (if 0 ≤ span.stop then span.stop else span.stop + text.toList.length)) ∧
    (∀ span : Span,
      (∃ indices : List Nat, indices.Pairwise (· < ·) ∧
        (∀ i, i ∈ indices ↔ span.Selects text.toList.length i) ∧
        (span.slice text.toList).map some = indices.map (text.toList[·]?)) ∧
      (readCharacter text.toList (.leaf span) = .error .emptyRange ↔
        ¬∃ i, span.Selects text.toList.length i) ∧
      ((∃ i, span.Selects text.toList.length i) →
        ∃ i c, span.Selects text.toList.length i ∧
          (∀ j, span.Selects text.toList.length j → i ≤ j) ∧ text.toList[i]? = some c ∧
          readCharacter text.toList (.leaf span) = .ok (c, span.start))) ∧
    (∀ history tree,
      (∃ refusal, (((Builder.ofText text).afterBuilds history).build tree).2.outcome =
          .error refusal ∧ refusal.fault.category = .emptySubstring) ↔
        ∃ turns graph task rest span,
          Assembly.Reaches text.toList (.start .empty tree) turns ⟨graph, task :: rest⟩ ∧
            task.tree.sign? = some (.leaf span) ∧ ¬∃ i, span.Selects text.toList.length i) ∧
    ∀ (lexer : Lexer) (line : Int) (index : Nat) (limit? : Option Nat),
      ∀ token ∈ (lexer.tokenize ⟨text, line, index, limit?⟩).2.tokens,
        token.leaf = .leaf ⟨token.index, token.index + 1⟩ ∧
          ∃ c, text.toList[token.index]? = some c ∧
            readCharacter text.toList token.leaf = .ok (c, token.index) := by
  refine ⟨fun span i => ?_, fun span => ⟨?_, ?_, fun hselected => ?_⟩, fun history tree => ?_,
    fun lexer line index limit? token htoken => ⟨rfl, ?_⟩⟩
  · unfold Span.Selects Span.fromStart
    omega
  · exact ⟨span.indices text.toList, span.pairwise_indices text.toList,
      fun _ => Span.mem_indices_iff, span.map_some_slice text.toList⟩
  · rw [readCharacter_leaf_eq_emptyRange_iff, Span.first?_eq_none_iff]
  · obtain ⟨i, c, hi, hleast, hchar, hfirst⟩ := Span.exists_least hselected
    exact ⟨i, c, hi, hleast, hchar, readCharacter_of_first?_eq_some hfirst⟩
  · rw [Builder.build_refuses_empty_iff, Builder.text_afterBuilds]
    simp only [Span.first?_eq_none_iff]
    rfl
  · rw [Lexer.snd_tokenize] at htoken
    have hread := Lexer.Request.readFrom_of_mem_tokens htoken
    exact ⟨token.character text.toList, hread.getElem?, readCharacter_leaf hread⟩

/-- Of a text of five characters, the bounds `-4` and `100` select all but the first, while
nothing lies between `3` and `-2`. The letter of a reading that starts at `2` stands at `3`. -/
theorem leaf_counted_from_end :
    let chars := "(p∧q)".toList
    readCharacter chars (.leaf ⟨-4, 100⟩) = .ok ('p', -4) ∧
      readCharacter chars (.leaf ⟨3, -2⟩) = .error .emptyRange ∧
      (∃ refusal, ((Builder.ofText "(p∧q)").build
          (.node "formula" [.leaf ⟨3, -2⟩, .leaf ⟨0, 1⟩])).2.outcome = .error refusal ∧
        refusal.fault.category = .emptySubstring) ∧
      readCharacter chars (Token.leaf ⟨.atom, 3, 7⟩) = .ok ('q', 3) := by
  intro chars
  obtain ⟨hselects, hread, hbuild, htokens⟩ := leaf_reads_least_selected "(p∧q)"
  have hnone : ¬∃ i, Span.Selects ⟨3, -2⟩ chars.length i := by
    rintro ⟨i, hi⟩
    have hbetween : (3 : Int) ≤ i ∧ (i : Int) < 3 := ((hselects ⟨3, -2⟩ i).1 hi).2
    omega
  refine ⟨?_, (hread ⟨3, -2⟩).2.1.2 hnone, ?_, ?_⟩
  · obtain ⟨i, c, hi, hleast, hchar, hresult⟩ := (hread ⟨-4, 100⟩).2.2 ⟨1, by decide⟩
    obtain rfl : i = 1 := by
      have hle : i ≤ 1 := hleast 1 (by decide)
      have hge : (1 : Int) ≤ i := ((hselects ⟨-4, 100⟩ i).1 hi).2.1
      omega
    cases hchar
    exact hresult
  · exact (hbuild [] _).2 ⟨0, _, _, [], ⟨3, -2⟩, .refl _, rfl, hnone⟩
  · obtain ⟨-, c, hchar, hresult⟩ := htokens ⟨"", 0, 1⟩ 7 2 (some 2) ⟨.atom, 3, 7⟩ (by decide)
    cases hchar
    exact hresult

end Propositional
