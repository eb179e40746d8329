import Propositional.Proofs.Grammar.Acceptance
import Propositional.Proofs.Token.Character

/-!
# Open brackets

The level of a token is the number of brackets that are open in front of it. The tokens of
a derivation close the brackets that they open, and a binary connective is always inside of
some, since it is only ever written between brackets of its own.

> `Derives.nested`: a derivation closes what it opens, and has its binary connectives inside
> of brackets.
> `tokenDepth_eq`: it is all the same whether tokens or characters are counted.
-/

namespace Propositional

/-! ## Levels of tokens -/

/-- What a token adds to the number of open brackets. -/
def Token.Kind.weight : Token.Kind → Int
  | opening => 1
  | closing => -1
  | atom | connective _ => 0

/-- The number of brackets that the tokens leave open. -/
def tokenDepth : List Token → Int
  | [] => 0
  | token :: rest => token.kind.weight + tokenDepth rest

/-- The tokens, each with the number of open brackets in front of it. -/
def levels (depth : Int) : List Token → List (Token × Int)
  | [] => []
  | token :: rest => (token, depth) :: levels (depth + token.kind.weight) rest

theorem tokenDepth_append (front back : List Token) :
    tokenDepth (front ++ back) = tokenDepth front + tokenDepth back := by
  induction front with
  | nil => rw [List.nil_append, tokenDepth, Int.zero_add]
  | cons token front ih => rw [List.cons_append, tokenDepth, tokenDepth, ih, Int.add_assoc]

theorem levels_append (depth : Int) (front back : List Token) :
    levels depth (front ++ back) =
      levels depth front ++ levels (depth + tokenDepth front) back := by
  induction front generalizing depth with
  | nil =>
    rw [tokenDepth, Int.add_zero]
    rfl
  | cons token front ih =>
    rw [List.cons_append, levels, levels, ih, tokenDepth, Int.add_assoc]
    rfl

/-- A token among others has the level that those in front of it leave open. -/
theorem mem_levels (depth : Int) (front back : List Token) (token : Token) :
    (token, depth + tokenDepth front) ∈ levels depth (front ++ token :: back) := by
  rw [levels_append]
  exact List.mem_append_right _ List.mem_cons_self

/-- The token is a binary connective. -/
def Token.Joins (token : Token) : Prop := ∃ op, token.kind = .connective (.binary op)

theorem Token.not_joins {token : Token} {kind : Token.Kind} (h : token.kind = kind)
    (hkind : ∀ op, kind ≠ .connective (.binary op)) : ¬token.Joins := by
  rintro ⟨op, hop⟩
  exact hkind op (h.symm.trans hop)

/-- Behind this number of open brackets or, for a binary connective, a larger one. -/
def Inside (depth : Int) (level : Token × Int) : Prop :=
  depth ≤ level.2 ∧ (level.1.Joins → depth < level.2)

/-- The tokens close the brackets that they open and no others, and the binary connectives
among them stand inside of these brackets. -/
structure Nested (tokens : List Token) : Prop where
  closed : tokenDepth tokens = 0
  inside : ∀ depth, ∀ level ∈ levels depth tokens, Inside depth level

/-- Behind an opening bracket all that does not reach below it is nested. -/
theorem nested_of_opening {opening : Token} {rest : List Token}
    (hopening : opening.kind = .opening) (hclosed : tokenDepth rest = -1)
    (hrest : ∀ depth, ∀ level ∈ levels depth rest, depth ≤ level.2) :
    Nested (opening :: rest) := by
  have hother : ¬opening.Joins := Token.not_joins hopening (by simp)
  refine ⟨?_, fun depth => ?_⟩
  · rw [tokenDepth, hclosed, hopening]
    rfl
  · rw [levels, hopening]
    refine List.forall_mem_cons.2 ⟨⟨Int.le_refl depth, fun h => absurd h hother⟩, ?_⟩
    intro level hlevel
    have hle : depth + 1 ≤ level.2 := hrest (depth + 1) level hlevel
    exact ⟨by omega, fun _ => by omega⟩

section

variable {closing : Token} {inners : List Token}

/-- What stands between two brackets, with the second of them. -/
theorem Nested.concat (h : Nested inners) (hclosing : closing.kind = .closing) :
    tokenDepth (inners ++ [closing]) = -1 ∧
      ∀ depth, ∀ level ∈ levels depth (inners ++ [closing]), Inside depth level := by
  have hother : ¬closing.Joins := Token.not_joins hclosing (by simp)
  refine ⟨?_, fun depth => ?_⟩
  · rw [tokenDepth_append, h.closed, tokenDepth, hclosing]
    rfl
  · rw [levels_append, h.closed, Int.add_zero]
    refine List.forall_mem_append.2 ⟨h.inside depth, List.forall_mem_singleton.2 ?_⟩
    exact ⟨Int.le_refl depth, fun h => absurd h hother⟩

variable {sign : Token} {op : BinaryConnective} {lefts rights : List Token}

/-- The same for two formulas with a binary connective: this one is not inside of
anything. -/
theorem Nested.operands (hlefts : Nested lefts) (hsign : sign.kind = .connective (.binary op))
    (hrights : Nested rights) (hclosing : closing.kind = .closing) :
    tokenDepth (lefts ++ sign :: (rights ++ [closing])) = -1 ∧
      ∀ depth, ∀ level ∈ levels depth (lefts ++ sign :: (rights ++ [closing])),
        level = (sign, depth) ∨ Inside depth level := by
  obtain ⟨hclosed, hbehind⟩ := hrights.concat hclosing
  refine ⟨?_, fun depth => ?_⟩
  · rw [tokenDepth_append, hlefts.closed, tokenDepth, hclosed, hsign]
    rfl
  · rw [levels_append, hlefts.closed, Int.add_zero, levels, hsign]
    refine List.forall_mem_append.2 ⟨fun level hlevel => ?_, ?_⟩
    · exact .inr (hlefts.inside depth level hlevel)
    refine List.forall_mem_cons.2 ⟨.inl rfl, fun level hlevel => .inr ?_⟩
    exact hbehind depth level (by rwa [Token.Kind.weight, Int.add_zero] at hlevel)

end

/-- The tokens of a derivation are nested. -/
theorem Derives.nested {tokens : List Token} {tree : ParseTree} (h : Derives tokens tree) :
    Nested tokens := by
  induction h with
  | @atom letter hletter =>
    refine ⟨?_, fun depth => List.forall_mem_singleton.2 ⟨Int.le_refl depth, ?_⟩⟩
    · rw [tokenDepth, hletter]
      rfl
    · exact fun h => absurd h (Token.not_joins hletter (by simp))
  | @negation sign tokens _ hsign _ ih =>
    refine ⟨?_, fun depth => ?_⟩
    · rw [tokenDepth, ih.closed, hsign]
      rfl
    · rw [levels, hsign, Token.Kind.weight, Int.add_zero]
      refine List.forall_mem_cons.2 ⟨⟨Int.le_refl depth, ?_⟩, ih.inside depth⟩
      exact fun h => absurd h (Token.not_joins hsign (by simp))
  | group hopening _ hclosing ih =>
    obtain ⟨hclosed, hinside⟩ := ih.concat hclosing
    exact nested_of_opening hopening hclosed fun depth level hlevel =>
      (hinside depth level hlevel).1
  | binary hopening _ hsign _ hclosing ihl ihr =>
    obtain ⟨hclosed, hinside⟩ := ihl.operands hsign ihr hclosing
    refine nested_of_opening hopening hclosed fun depth level hlevel => ?_
    rcases hinside depth level hlevel with rfl | h
    · exact Int.le_refl depth
    · exact h.1

/-! ## Characters -/

/-- The number of brackets that the characters leave open. -/
def bracketDepth (chars : List Char) : Int := (chars.count '(' : Int) - chars.count ')'

theorem bracketDepth_append (front back : List Char) :
    bracketDepth (front ++ back) = bracketDepth front + bracketDepth back := by
  rw [bracketDepth, bracketDepth, bracketDepth, List.count_append, List.count_append]
  omega

theorem bracketDepth_of_isIgnorable {c : Char} (h : isIgnorable c = true) :
    bracketDepth [c] = 0 := by
  simp only [isIgnorable, Bool.or_eq_true, decide_eq_true_eq] at h
  rcases h with ((rfl | rfl) | rfl) | rfl <;> rfl

/-- A character counts like the token that it writes. -/
theorem bracketDepth_of_writtenAs {c : Char} {kind : Token.Kind} (h : kind.WrittenAs c) :
    bracketDepth [c] = kind.weight := by
  cases kind with
  | atom =>
    have hopening : c ≠ '(' := ne_of_isAlpha h rfl
    have hclosing : c ≠ ')' := ne_of_isAlpha h rfl
    simp [bracketDepth, hopening, hclosing, Token.Kind.weight]
  | connective found =>
    cases h
    cases found with
    | negation => rfl
    | binary op => cases op <;> rfl
  | opening => cases h; rfl
  | closing => cases h; rfl

/-- Characters that are read as tokens leave as many brackets open as the tokens do. -/
theorem tokenDepth_eq {line : Int} {index : Nat} {chars : List Char} {tokens : List Token}
    (h : lexemesFrom line index chars = tokens.map .ok) :
    tokenDepth tokens = bracketDepth chars := by
  induction chars generalizing index tokens with
  | nil =>
    obtain rfl := List.map_eq_nil_iff.1 h.symm
    rfl
  | cons c rest ih =>
    rw [← List.singleton_append, bracketDepth_append]
    rw [lexemesFrom] at h
    cases hignored : isIgnorable c with
    | true =>
      rw [hignored, if_pos rfl] at h
      rw [bracketDepth_of_isIgnorable hignored, Int.zero_add, ih h]
    | false =>
      rw [hignored, if_neg Bool.false_ne_true] at h
      obtain ⟨token, tokens, rfl, htoken, hrest⟩ := List.map_eq_cons_iff.1 h.symm
      rw [tokenDepth, ih hrest.symm,
        bracketDepth_of_writtenAs (Lexeme.ofChar_eq_ok_iff.1 htoken.symm).1]

end Propositional
