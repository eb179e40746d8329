import Propositional.Proofs.Grammar.Nesting

/-!
# What the brackets say of a derivation

A derivation is found by reading tokens one after the other, and which connective joins the
two halves of a formula is known only when the reader gets there. But it can also be seen
by counting brackets. Count those that are open in front of each character of the stretch
that a node covers: the connective of a binary formula is the one place where a binary
connective stands behind one open bracket, and in a group there is no such place.

> `exists_stretches`: tokens that follow each other are those of a stretch of the text.
> `Stretches.shownByBrackets`: what the production of a node means for its stretch.
> `derived_shownByBrackets`: every node of a derivation is shown by the brackets.
-/

namespace Propositional

/-! ## Stretches of a text -/

/-- A token among those of a text splits the text at its character. -/
theorem exists_character {line : Int} {index : Nat} {chars : List Char} {front back : List Token}
    {token : Token} (h : lexemesFrom line index chars = (front ++ token :: back).map .ok) :
    ∃ before c after, chars = before ++ c :: after ∧
      lexemesFrom line index before = front.map .ok ∧
      lexemesFrom line (index + before.length) (c :: after) = (token :: back).map .ok ∧
      isIgnorable c = false ∧ Lexeme.ofChar line (index + before.length) c = .ok token := by
  rw [List.map_append, List.map_cons] at h
  obtain ⟨before, c, after, rfl, hc, htoken, hbefore⟩ := exists_of_lexemesFrom_eq h
  rw [lexemesFrom_append, hbefore] at h
  exact ⟨before, c, after, rfl, hbefore, List.append_cancel_left h, hc, htoken.symm⟩

/-- A character that is not ignored splits the tokens of the text at its own token. -/
theorem exists_token {line : Int} {index : Nat} {before after : List Char} {c : Char}
    {tokens : List Token} (hc : isIgnorable c = false)
    (h : lexemesFrom line index (before ++ c :: after) = tokens.map .ok) :
    ∃ front token back, tokens = front ++ token :: back ∧
      lexemesFrom line index before = front.map .ok ∧
      Lexeme.ofChar line (index + before.length) c = .ok token := by
  rw [lexemesFrom_append_cons line index before after hc] at h
  obtain ⟨front, behind, rfl, hfront, hbehind⟩ := List.map_eq_append_iff.1 h.symm
  obtain ⟨token, back, rfl, htoken, -⟩ := List.map_eq_cons_iff.1 hbehind
  exact ⟨front, token, back, rfl, hfront.symm, htoken.symm⟩

/-- The characters from this position on are read as the tokens, and they begin and end
where the tokens do. -/
structure Stretches (start : Nat) (stretch : List Char) (tokens : List Token) : Prop where
  lexemes : lexemesFrom 1 start stretch = tokens.map .ok
  head : ∃ c first, stretch.head? = some c ∧ tokens.head? = some first ∧
    first.kind.WrittenAs c ∧ first.index = start
  last : ∃ c last, stretch.getLast? = some c ∧ tokens.getLast? = some last ∧
    last.kind.WrittenAs c ∧ last.index = start + (stretch.length - 1)

/-- Tokens that follow each other are those of a stretch. -/
theorem exists_stretches {chars : List Char} {front tokens back : List Token}
    (h : lexemesFrom 1 0 chars = (front ++ (tokens ++ back)).map .ok) (hne : tokens ≠ []) :
    ∃ before stretch after, chars = before ++ (stretch ++ after) ∧
      Stretches before.length stretch tokens := by
  obtain ⟨first, rest, hrest⟩ := List.exists_cons_of_ne_nil hne
  obtain ⟨init, last, rfl⟩ := (List.eq_nil_or_concat tokens).resolve_left hne
  rw [List.concat_eq_append] at *
  -- the first token splits off what stands in front, the last one what stands behind
  rw [hrest, List.cons_append] at h
  obtain ⟨before, c, behind, rfl, -, hbehind, -, hfirst⟩ := exists_character h
  rw [← List.cons_append, ← hrest, List.append_assoc, Nat.zero_add] at hbehind
  obtain ⟨body, e, after, hchars, hbody, -, he, hlast⟩ := exists_character hbehind
  refine ⟨before, body ++ [e], after, by simp [hchars], ?_, ?_, ?_⟩
  · rw [lexemesFrom_append_cons 1 before.length body [] he, hbody, hlast]
    simp [lexemesFrom]
  · obtain ⟨hkind, hindex, -⟩ := Lexeme.ofChar_eq_ok_iff.1 hfirst
    refine ⟨c, first, ?_, by rw [hrest]; rfl, hkind, by rw [hindex, Nat.zero_add]⟩
    cases body <;> exact congrArg List.head? hchars.symm
  · obtain ⟨hkind, hindex, -⟩ := Lexeme.ofChar_eq_ok_iff.1 hlast
    refine ⟨e, last, List.getLast?_concat, List.getLast?_concat, hkind, ?_⟩
    rw [hindex, List.length_append, List.length_singleton, Nat.add_sub_cancel]

/-! ## The nodes of a derivation -/

/-- The tree itself, and what is a part of one of its children. -/
inductive ParseTree.HasPart : ParseTree → ParseTree → Prop
  | self (tree : ParseTree) : HasPart tree tree
  | child {symbol : String} {children : List ParseTree} {child part : ParseTree}
      (hchild : child ∈ children) (h : HasPart child part) :
      HasPart (.node symbol children) part

theorem Derives.ne_nil {tokens : List Token} {tree : ParseTree} (h : Derives tokens tree) :
    tokens ≠ [] := by
  cases h <;> exact List.cons_ne_nil _ _

/-- A part of the tokens is derived by the tree, and they follow each other. -/
def DerivesPart (tokens : List Token) (tree : ParseTree) : Prop :=
  ∃ front part back, tokens = front ++ (part ++ back) ∧ Derives part tree

theorem DerivesPart.of_append {tokens front part back : List Token} {tree : ParseTree}
    (h : DerivesPart part tree) (heq : tokens = front ++ (part ++ back)) :
    DerivesPart tokens tree := by
  obtain ⟨before, inner, behind, rfl, hinner⟩ := h
  refine ⟨front ++ before, inner, behind ++ back, ?_, hinner⟩
  rw [heq]
  simp

/-- The children of a node are leaves of tokens and derivations. -/
theorem Derives.leaf_or_derivesPart {tokens : List Token} {symbol : String}
    {children : List ParseTree} {child : ParseTree} (h : Derives tokens (.node symbol children))
    (hchild : child ∈ children) :
    (∃ span, child = .leaf span) ∨ DerivesPart tokens child := by
  have hleaf : ∀ token : Token, ∃ span, token.leaf = .leaf span := fun token => ⟨_, rfl⟩
  cases h with
  | @atom letter _ =>
    rw [List.mem_singleton.1 hchild]
    exact .inl (hleaf letter)
  | @negation sign tokens operand _ hoperand =>
    simp only [List.mem_cons, List.not_mem_nil, or_false] at hchild
    rcases hchild with rfl | rfl
    · exact .inl (hleaf sign)
    · exact .inr ⟨[sign], tokens, [], by simp, hoperand⟩
  | @group opening closing tokens inner _ hinner _ =>
    simp only [List.mem_cons, List.not_mem_nil, or_false] at hchild
    rcases hchild with rfl | rfl | rfl
    · exact .inl (hleaf opening)
    · exact .inr ⟨[opening], tokens, [closing], by simp, hinner⟩
    · exact .inl (hleaf closing)
  | @binary opening sign closing op lefts rights left right _ hleft _ hright _ =>
    simp only [List.mem_cons, List.not_mem_nil, or_false] at hchild
    rcases hchild with rfl | rfl | rfl | rfl | rfl
    · exact .inl (hleaf opening)
    · exact .inr ⟨[opening], lefts, sign :: (rights ++ [closing]), by simp, hleft⟩
    · exact .inl (hleaf sign)
    · exact .inr ⟨opening :: (lefts ++ [sign]), rights, [closing], by simp, hright⟩
    · exact .inl (hleaf closing)

/-- So are all parts of a derivation, at any depth. -/
theorem ParseTree.HasPart.leaf_or_derivesPart {tree part : ParseTree} (hpart : tree.HasPart part) :
    ∀ {tokens : List Token}, Derives tokens tree →
      (∃ span, part = .leaf span) ∨ DerivesPart tokens part := by
  induction hpart with
  | self tree =>
    intro tokens h
    exact .inr ⟨[], tokens, [], by simp, h⟩
  | @child symbol children child part hchild hbelow ih =>
    intro tokens h
    rcases h.leaf_or_derivesPart hchild with ⟨span, rfl⟩ | ⟨front, inner, back, heq, hinner⟩
    · cases hbelow
      exact .inl ⟨span, rfl⟩
    · exact (ih hinner).imp_right fun hpart => hpart.of_append heq

/-! ## What the brackets show -/

/-- A binary connective stands at this index, behind this number of open brackets. -/
def JoinedAt (stretch : List Char) (depth : Int) (i : Nat) : Prop :=
  ∃ op : BinaryConnective, stretch[i]? = some op.symbol ∧ bracketDepth (stretch.take i) = depth

/-- The stretch begins with an opening bracket and ends with the closing one that matches
it: all brackets are closed at the end, and not before. -/
structure Matched (stretch : List Char) : Prop where
  opening : stretch.head? = some '('
  closing : stretch.getLast? = some ')'
  closed : bracketDepth stretch = 0
  inside : ∀ i, 0 < i → i < stretch.length → 0 < bracketDepth (stretch.take i)

/-- What counting brackets in a stretch of a text, from its first character on, shows of
the children of the node that covers it. -/
inductive ShownByBrackets (start : Nat) (stretch : List Char) : List ParseTree → Prop
  | letter {letter : ParseTree} (hlength : stretch.length = 1)
      (hnone : ∀ i, ¬JoinedAt stretch 0 i) : ShownByBrackets start stretch [letter]
  | negation {sign operand : ParseTree} (hlength : stretch.length ≠ 1)
      (hfirst : stretch.head? ≠ some '(') (hnone : ∀ i, ¬JoinedAt stretch 0 i) :
      ShownByBrackets start stretch [sign, operand]
  | group {inner : ParseTree} (hmatched : Matched stretch) (hnone : ∀ i, ¬JoinedAt stretch 1 i) :
      ShownByBrackets start stretch
        [.leaf (.single start), inner, .leaf (.single (start + (stretch.length - 1)))]
  | binary {left right : ParseTree} {k : Nat} (hmatched : Matched stretch)
      (hone : ∀ i, JoinedAt stretch 1 i ↔ i = k) :
      ShownByBrackets start stretch
        [.leaf (.single start), left, .leaf (.single (start + k)), right,
          .leaf (.single (start + (stretch.length - 1)))]

theorem Matched.one_lt_length {stretch : List Char} (h : Matched stretch) : 1 < stretch.length := by
  obtain ⟨hopening, hclosing, -, -⟩ := h
  match stretch with
  | [] => cases hopening
  | [c] =>
    cases hopening
    cases hclosing
  | _ :: _ :: rest => simp

/-- The number of children can be told from the brackets, too. -/
theorem ShownByBrackets.counts {start : Nat} {stretch : List Char} {children : List ParseTree}
    (h : ShownByBrackets start stretch children) :
    (children.length = 1 ↔ stretch.length = 1) ∧
    (children.length = 3 ↔ Matched stretch ∧ ∀ i, ¬JoinedAt stretch 1 i) ∧
    (children.length = 5 ↔ Matched stretch ∧ ∃ i, JoinedAt stretch 1 i) := by
  cases h with
  | letter hlength _ =>
    have hnot : ¬Matched stretch := fun h => absurd h.one_lt_length (by omega)
    simp [hlength, hnot]
  | negation hlength hfirst _ =>
    have hnot : ¬Matched stretch := fun h => hfirst h.opening
    simp [hlength, hnot]
  | group hmatched hnone =>
    have hlength := hmatched.one_lt_length
    simp [hmatched, hnone]
    omega
  | binary hmatched hone =>
    have hlength := hmatched.one_lt_length
    simp [hmatched, hone]
    omega

theorem lexemesFrom_ne_nil {line : Int} {index : Nat} {chars : List Char} {c : Char}
    (hmem : c ∈ chars) (hc : isIgnorable c = false) : lexemesFrom line index chars ≠ [] := by
  obtain ⟨before, after, rfl⟩ := List.append_of_mem hmem
  rw [lexemesFrom_append_cons line index before after hc]
  simp

theorem mem_take_of_head? {chars : List Char} {c : Char} {i : Nat} (h : chars.head? = some c)
    (hi : 0 < i) : c ∈ chars.take i := by
  obtain ⟨rest, rfl⟩ := List.head?_eq_some_iff.1 h
  obtain ⟨i, rfl⟩ := Nat.exists_eq_add_one_of_ne_zero (Nat.ne_of_gt hi)
  exact List.mem_cons_self

theorem mem_drop_of_getLast? {chars : List Char} {c : Char} {i : Nat}
    (h : chars.getLast? = some c) (hi : i < chars.length) : c ∈ chars.drop i := by
  obtain ⟨front, rfl⟩ := List.getLast?_eq_some_iff.1 h
  rw [List.length_append, List.length_singleton] at hi
  rw [List.drop_append_of_le_length (Nat.le_of_lt_succ hi)]
  exact List.mem_append_right _ List.mem_cons_self

namespace Stretches

variable {start : Nat} {stretch : List Char} {tokens : List Token}

/-- A binary connective in the stretch is one of the tokens, on the same level. -/
theorem exists_level (h : Stretches start stretch tokens) {depth : Int} {i : Nat}
    (hi : JoinedAt stretch depth i) :
    ∃ token, (token, depth) ∈ levels 0 tokens ∧ token.Joins ∧ token.index = start + i := by
  obtain ⟨op, hop, hdepth⟩ := hi
  obtain ⟨before, after, rfl, rfl⟩ := exists_append_cons_of_getElem? hop
  rw [List.take_left] at hdepth
  have hsymbol : isIgnorable op.symbol = false := by cases op <;> rfl
  obtain ⟨front, token, back, rfl, hfront, htoken⟩ := exists_token hsymbol h.lexemes
  obtain ⟨hkind, hindex, -⟩ := Lexeme.ofChar_eq_ok_iff.1 htoken
  have hjoins : token.kind = .connective (.binary op) := hkind.unique rfl
  refine ⟨token, ?_, ⟨op, hjoins⟩, hindex⟩
  rw [← hdepth, ← tokenDepth_eq hfront, ← Int.zero_add (tokenDepth front)]
  exact mem_levels 0 front back token

/-- Each binary connective among the tokens is found in the stretch. -/
theorem exists_joinedAt {front back : List Token} {sign : Token} {op : BinaryConnective}
    (h : Stretches start stretch (front ++ sign :: back))
    (hsign : sign.kind = .connective (.binary op)) :
    ∃ k, sign.index = start + k ∧ JoinedAt stretch (tokenDepth front) k := by
  obtain ⟨before, c, after, rfl, hbefore, -, -, htoken⟩ := exists_character h.lexemes
  obtain ⟨hkind, hindex, -⟩ := Lexeme.ofChar_eq_ok_iff.1 htoken
  rw [hsign] at hkind
  cases hkind
  exact ⟨before.length, hindex, op, by simp [Connective.symbol], by
    rw [List.take_left, tokenDepth_eq hbefore]⟩

/-- Nested tokens have no binary connective outside of all brackets. -/
theorem not_joinedAt_zero (h : Stretches start stretch tokens) (hnested : Nested tokens) (i : Nat) :
    ¬JoinedAt stretch 0 i := by
  intro hi
  obtain ⟨token, hlevel, hjoins, -⟩ := h.exists_level hi
  exact Int.lt_irrefl 0 ((hnested.inside 0 _ hlevel).2 hjoins)

/-- Behind one open bracket are the tokens that are not inside of a further one. -/
theorem exists_level_one {opening : Token} {rest : List Token} {i : Nat}
    (h : Stretches start stretch (opening :: rest)) (hopening : opening.kind = .opening)
    (hi : JoinedAt stretch 1 i) :
    ∃ token, (token, 1) ∈ levels 1 rest ∧ token.Joins ∧ token.index = start + i := by
  obtain ⟨token, hlevel, hjoins, hindex⟩ := h.exists_level hi
  rw [levels, hopening] at hlevel
  rcases List.mem_cons.1 hlevel with heq | hlevel
  · cases heq
  · exact ⟨token, hlevel, hjoins, hindex⟩

/-- Each index but the first stands in front of a token, on the level of this token. -/
theorem exists_level_of_index {first : Token} {rest : List Token} {i : Nat}
    (h : Stretches start stretch (first :: rest)) (hpos : 0 < i) (hi : i < stretch.length) :
    ∃ token, (token, bracketDepth (stretch.take i)) ∈ levels first.kind.weight rest := by
  obtain ⟨c, _, hc, -, hkind, -⟩ := h.head
  obtain ⟨e, _, he, -, hkind', -⟩ := h.last
  have hlexemes := h.lexemes
  rw [← List.take_append_drop i stretch, lexemesFrom_append] at hlexemes
  obtain ⟨front, back, htokens, hfront, hback⟩ := List.map_eq_append_iff.1 hlexemes.symm
  -- the first character is in front of the index, and the last one is not
  have hne : front ≠ [] := by
    rintro rfl
    exact lexemesFrom_ne_nil (mem_take_of_head? hc hpos)
      (isIgnorable_eq_false hkind.isTokenCharacter) hfront.symm
  have hne' : back ≠ [] := by
    rintro rfl
    exact lexemesFrom_ne_nil (mem_drop_of_getLast? he hi)
      (isIgnorable_eq_false hkind'.isTokenCharacter) hback.symm
  obtain ⟨head, front, rfl⟩ := List.exists_cons_of_ne_nil hne
  obtain ⟨token, back, rfl⟩ := List.exists_cons_of_ne_nil hne'
  obtain ⟨rfl, rfl⟩ := List.cons.inj htokens
  rw [← tokenDepth_eq hfront.symm, tokenDepth]
  exact ⟨token, mem_levels first.kind.weight front back token⟩

/-- The brackets around nested tokens match. -/
theorem matched {opening closing : Token} {inners : List Token}
    (h : Stretches start stretch (opening :: (inners ++ [closing])))
    (hopening : opening.kind = .opening) (hclosing : closing.kind = .closing)
    (hclosed : tokenDepth (inners ++ [closing]) = -1)
    (hle : ∀ depth, ∀ level ∈ levels depth (inners ++ [closing]), depth ≤ level.2) :
    Matched stretch := by
  obtain ⟨c, first, hc, hfirst, hkind, -⟩ := h.head
  obtain ⟨e, last, he, hlast, hkind', -⟩ := h.last
  cases hfirst
  rw [← List.cons_append, List.getLast?_concat] at hlast
  cases hlast
  rw [hopening] at hkind
  rw [hclosing] at hkind'
  cases hkind
  cases hkind'
  refine ⟨hc, he, ?_, fun i hpos hi => ?_⟩
  · rw [← tokenDepth_eq h.lexemes, tokenDepth, hclosed, hopening]
    rfl
  · obtain ⟨token, hlevel⟩ := h.exists_level_of_index hpos hi
    rw [hopening] at hlevel
    exact Int.lt_of_lt_of_le Int.zero_lt_one (hle 1 _ hlevel)

/-- One token is written with one character. -/
theorem length_eq_one {letter : Token} (h : Stretches start stretch [letter]) :
    stretch.length = 1 := by
  obtain ⟨c, first, hc, hfirst, -, hstart⟩ := h.head
  obtain ⟨-, last, -, hlast, -, hstop⟩ := h.last
  obtain rfl : letter = first := Option.some.inj hfirst
  obtain rfl : letter = last := Option.some.inj hlast
  have hpos : 0 < stretch.length := List.length_pos_of_mem (List.mem_of_mem_head? hc)
  omega

/-- One character is not read as two tokens. -/
theorem length_ne_one {first : Token} (h : Stretches start stretch (first :: tokens))
    (hne : tokens ≠ []) : stretch.length ≠ 1 := by
  intro hlength
  obtain ⟨c, rfl⟩ := List.length_eq_one_iff.1 hlength
  have hle : (lexemesFrom 1 start [c]).length ≤ 1 := by
    rw [lexemesFrom_eq_map, List.length_map]
    exact Nat.le_trans (List.length_filter_le _ _) (Nat.le_of_eq List.length_zipIdx)
  rw [h.lexemes, List.length_map, List.length_cons] at hle
  exact hne (List.length_eq_zero_iff.1 (Nat.le_zero.1 (Nat.le_of_succ_le_succ hle)))

/-- The first and the last of several tokens stand where the stretch begins and ends. -/
theorem ends {first last : Token} {inners : List Token}
    (h : Stretches start stretch (first :: (inners ++ [last]))) :
    first.leaf = .leaf (.single start) ∧
      last.leaf = .leaf (.single (start + (stretch.length - 1))) := by
  obtain ⟨-, token, -, hfirst, -, hstart⟩ := h.head
  obtain ⟨-, token', -, hlast, -, hstop⟩ := h.last
  obtain rfl : first = token := Option.some.inj hfirst
  obtain rfl : last = token' :=
    Option.some.inj ((List.getLast?_concat (l := first :: inners)).symm.trans hlast)
  rw [Token.leaf, Token.leaf, Token.span, Token.span, hstart, hstop]
  exact ⟨rfl, rfl⟩

/-- The children of a node of a derivation are shown by the brackets of its stretch. -/
theorem shownByBrackets {symbol : String} {children : List ParseTree}
    (h : Stretches start stretch tokens) (htree : Derives tokens (.node symbol children)) :
    ShownByBrackets start stretch children := by
  have hnested := htree.nested
  cases htree with
  | @atom letter _ => exact .letter h.length_eq_one (h.not_joinedAt_zero hnested)
  | @negation sign tokens operand hsign hoperand =>
    refine .negation (h.length_ne_one hoperand.ne_nil) ?_ (h.not_joinedAt_zero hnested)
    obtain ⟨c, first, hc, hfirst, hkind, -⟩ := h.head
    cases hfirst
    rw [hsign] at hkind
    cases hkind
    simp [hc, Connective.symbol]
  | @group opening closing inners inner hopening hinner hclosing =>
    obtain ⟨hclosed, hinside⟩ := hinner.nested.concat hclosing
    have hmatched : Matched stretch := h.matched hopening hclosing hclosed
      fun depth level hlevel => (hinside depth level hlevel).1
    obtain ⟨hstart, hstop⟩ := h.ends
    rw [hstart, hstop]
    refine .group hmatched fun i hi => ?_
    obtain ⟨token, hlevel, hjoins, -⟩ := h.exists_level_one hopening hi
    exact Int.lt_irrefl 1 ((hinside 1 _ hlevel).2 hjoins)
  | @binary opening sign closing op lefts rights left right hopening hleft hsign hright hclosing =>
    obtain ⟨hclosed, hinside⟩ := hleft.nested.operands hsign hright.nested hclosing
    -- the connective stands behind the opening bracket and a nested formula
    have hwhole : Stretches start stretch ((opening :: lefts) ++ sign :: (rights ++ [closing])) := h
    obtain ⟨k, hk, hjoined⟩ := hwhole.exists_joinedAt hsign
    rw [tokenDepth, hleft.nested.closed, hopening] at hjoined
    have hunique : ∀ i, JoinedAt stretch 1 i → i = k := by
      intro i hi
      obtain ⟨token, hlevel, hjoins, hindex⟩ := h.exists_level_one hopening hi
      rcases hinside 1 _ hlevel with heq | hlevel
      · cases heq
        exact Nat.add_left_cancel (hindex.symm.trans hk)
      · exact absurd (hlevel.2 hjoins) (Int.lt_irrefl 1)
    have hgroup : lefts ++ sign :: (rights ++ [closing]) = (lefts ++ sign :: rights) ++ [closing] :=
      by simp
    rw [hgroup] at h hclosed hinside
    have hmatched : Matched stretch := by
      refine h.matched hopening hclosing hclosed fun depth level hlevel => ?_
      rcases hinside depth level hlevel with rfl | hlevel
      · exact Int.le_refl depth
      · exact hlevel.1
    obtain ⟨hstart, hstop⟩ := h.ends
    rw [hstart, hstop, Token.leaf, Token.span, hk]
    exact .binary hmatched fun i => ⟨hunique i, fun heq => heq ▸ hjoined⟩

end Stretches

/-! ## Accepted texts -/

/-- The tree covers the stretch of the text from this position on: its first leaf is the
first character there, and its last leaf the last one. -/
structure ParseTree.Covers (tree : ParseTree) (text : List Char) (start : Nat)
    (stretch : List Char) : Prop where
  nonempty : stretch ≠ []
  place : (text.drop start).take stretch.length = stretch
  first : tree.leaves.head? = some (.single start)
  last : tree.leaves.getLast? = some (.single (start + (stretch.length - 1)))

/-- What is derived from tokens of a text covers their stretch. -/
theorem DerivesPart.exists_covers {chars : List Char} {tokens : List Token} {part : ParseTree}
    (hpart : DerivesPart tokens part) (h : lexemesFrom 1 0 chars = tokens.map .ok) :
    ∃ start stretch own, part.Covers chars start stretch ∧ Stretches start stretch own ∧
      Derives own part := by
  obtain ⟨front, own, back, rfl, hown⟩ := hpart
  obtain ⟨before, stretch, after, rfl, hstretch⟩ := exists_stretches h hown.ne_nil
  obtain ⟨c, first, hc, hfirst, -, hstart⟩ := hstretch.head
  obtain ⟨-, last, -, hlast, -, hstop⟩ := hstretch.last
  refine ⟨before.length, stretch, own, ⟨?_, ?_, ?_, ?_⟩, hstretch, hown⟩
  · exact List.ne_nil_of_mem (List.mem_of_mem_head? hc)
  · rw [List.drop_left, List.take_left]
  · rw [hown.leaves_eq, List.head?_map, hfirst, Option.map_some, Token.span, hstart]
  · rw [hown.leaves_eq, List.getLast?_map, hlast, Option.map_some, Token.span, hstop]

/-- **Every node is shown by the brackets.** Take any node of the tree that a text is
accepted with, and the stretch of the text from its first to its last leaf. Count the
brackets that are open in front of each character of the stretch.

A node with five children has a connective between its operands, and this is the one
binary connective behind a single open bracket. A node with three children has none there.
Both begin and end with brackets that match each other. In the stretch of a node with one
or two children no binary connective stands outside of all brackets. Conversely, the number
of the children can be told from the stretch alone. -/
theorem derived_shownByBrackets (text : String) (tree : ParseTree) (symbol : String)
    (children : List ParseTree) (htree : (derive text).outcome = .ok tree)
    (hnode : tree.HasPart (.node symbol children)) :
    ∃ start stretch, (ParseTree.node symbol children).Covers text.toList start stretch ∧
      ShownByBrackets start stretch children ∧
      (children.length = 1 ↔ stretch.length = 1) ∧
      (children.length = 3 ↔ Matched stretch ∧ ∀ i, ¬JoinedAt stretch 1 i) ∧
      (children.length = 5 ↔ Matched stretch ∧ ∃ i, JoinedAt stretch 1 i) := by
  rw [outcome_derive, ParseTree.ofText, ParseTree.ofLexemes_eq_ok_iff] at htree
  obtain ⟨tokens, htokens, hderives⟩ := htree
  have hpart : DerivesPart tokens (.node symbol children) := by
    rcases hnode.leaf_or_derivesPart hderives with ⟨span, hleaf⟩ | hpart
    · cases hleaf
    · exact hpart
  obtain ⟨start, stretch, own, hcovers, hstretch, hown⟩ := hpart.exists_covers htokens
  have hshown := hstretch.shownByBrackets hown
  exact ⟨start, stretch, hcovers, hshown, hshown.counts⟩

/-- In `¬((p)∧ q)` the conjunction is a node with five children, so a single connective joins
its operands. -/
theorem negated_conjunction_shownByBrackets :
    ∃ group, (derive "¬((p)∧ q)").outcome = .ok (.formula [.leaf (.single 0), group]) ∧
      ∃ start stretch, group.Covers "¬((p)∧ q)".toList start stretch ∧
        Matched stretch ∧ ∃ i, JoinedAt stretch 1 i := by
  have hok : (derive "¬((p)∧ q)").outcome = .ok (.formula [.leaf (.single 0), .formula
      [.leaf (.single 1), .formula [.leaf (.single 2), .formula [.leaf (.single 3)],
        .leaf (.single 4)], .leaf (.single 5), .formula [.leaf (.single 7)],
        .leaf (.single 8)]]) := rfl
  obtain ⟨start, stretch, hcovers, -, -, -, hfive⟩ := derived_shownByBrackets _ _ _ _ hok
    (.child (List.mem_cons_of_mem _ List.mem_cons_self) (.self _))
  exact ⟨_, hok, start, stretch, hcovers, hfive.1 rfl⟩

end Propositional
