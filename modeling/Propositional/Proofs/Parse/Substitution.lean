import Propositional.Proofs.Parse.Truth

/-!
# Putting one source into another

Where a source has a letter, another source may be put in its place, in parentheses: the
text that comes out is parsed to the formula that comes out when the atoms of the letter
are replaced. All positions behind the letter are moved by this, and the inserted source
may have the letter itself, but a spelling is put together from the spellings of its parts
and not from positions.

> `Spells.replaced`: a spelling with a spelling in the place of a letter spells the
> substituted formula.
> `unblanked_insertFor`: blanks may be dropped before or after.
> `parse_insertFor`: the source that comes out is parsed to the substituted formula, and
> its truth value is the one under the updated assignment.
-/

namespace Propositional

/-! ## Letters in a text -/

/-- The text with the part in the place of the letter, wherever this occurs in either case. -/
def replaceLetter (letter : Char) (part text : List Char) : List Char :=
  text.flatMap fun c => if c.toUpper = letter.toUpper then part else [c]

section

variable {letter : Char} {part : List Char}

theorem replaceLetter_append (front back : List Char) :
    replaceLetter letter part (front ++ back) =
      replaceLetter letter part front ++ replaceLetter letter part back :=
  List.flatMap_append

theorem replaceLetter_cons_of_eq {c : Char} (hc : c.toUpper = letter.toUpper)
    (rest : List Char) :
    replaceLetter letter part (c :: rest) = part ++ replaceLetter letter part rest := by
  rw [replaceLetter, List.flatMap_cons, if_pos hc, replaceLetter]

theorem replaceLetter_cons_of_ne {c : Char} (hc : c.toUpper ≠ letter.toUpper)
    (rest : List Char) :
    replaceLetter letter part (c :: rest) = c :: replaceLetter letter part rest := by
  rw [replaceLetter, List.flatMap_cons, if_neg hc, replaceLetter]
  rfl

/-- Only letters are replaced. -/
theorem replaceLetter_cons_of_not_isAlpha (hletter : letter.isAlpha = true) {c : Char}
    (hc : c.isAlpha = false) (rest : List Char) :
    replaceLetter letter part (c :: rest) = c :: replaceLetter letter part rest := by
  refine replaceLetter_cons_of_ne (fun hsame => ?_) rest
  rw [Text.eq_of_toUpper_eq hsame.symm hc, hc] at hletter
  cases hletter

/-- What keeps all letters may be done before they are replaced or after. -/
theorem filter_replaceLetter {p : Char → Bool} (hletter : letter.isAlpha = true)
    (hp : ∀ c, c.isAlpha = true → p c = true) (text : List Char) :
    (replaceLetter letter part text).filter p =
      replaceLetter letter (part.filter p) (text.filter p) := by
  induction text with
  | nil => rfl
  | cons c rest ih =>
    by_cases hsame : c.toUpper = letter.toUpper
    · have hc : c.isAlpha = true := by
        rw [← Char.isAlpha_toUpper_eq_isAlpha, hsame, Char.isAlpha_toUpper_eq_isAlpha, hletter]
      rw [replaceLetter_cons_of_eq hsame, List.filter_append, ih, List.filter_cons_of_pos (hp c hc),
        replaceLetter_cons_of_eq hsame]
    · rw [replaceLetter_cons_of_ne hsame, List.filter_cons, List.filter_cons, ih]
      split
      · rw [replaceLetter_cons_of_ne hsame]
      · rfl

end

/-- A spelling with a spelling in the place of a letter spells the formula with a formula
in the place of the atoms of this letter. -/
theorem Spells.replaced {chars part : List Char} {formula replacement : Formula}
    {letter : Char} (h : Spells chars formula) (hletter : letter.isAlpha = true)
    (hpart : Spells part replacement) :
    Spells (replaceLetter letter part chars)
      (.substitute (String.singleton letter.toUpper) replacement formula) := by
  have hother {c : Char} (hc : c.isAlpha = false) (rest : List Char) :
      replaceLetter letter part (c :: rest) = c :: replaceLetter letter part rest :=
    replaceLetter_cons_of_not_isAlpha hletter hc rest
  induction h with
  | @atom c hc =>
    rw [Formula.substitute]
    by_cases hsame : c.toUpper = letter.toUpper
    · rw [replaceLetter_cons_of_eq hsame, if_pos (congrArg _ hsame)]
      show Spells (part ++ []) replacement
      rw [List.append_nil]
      exact hpart
    · rw [replaceLetter_cons_of_ne hsame, if_neg (fun heq => hsame (String.singleton_inj.1 heq))]
      exact .atom hc
  | negation _ ih =>
    rw [hother rfl]
    exact .negation ih
  | @binary op lefts rights left right _ _ ihl ihr =>
    have hsign : op.symbol.isAlpha = false := by cases op <;> rfl
    rw [hother rfl, replaceLetter_append, hother hsign, replaceLetter_append, hother rfl]
    exact .binary ihl ihr
  | group _ ih =>
    rw [hother rfl, replaceLetter_append, hother rfl]
    exact .group ih

/-! ## Sources in a source -/

/-- The source with the other one, in parentheses, in the place of the letter, wherever
this occurs in either case. -/
def insertFor (letter : Char) (inserted source : String) : String :=
  String.ofList (replaceLetter letter ("(" ++ inserted ++ ")").toList source.toList)

theorem isBlank_eq_false_of_isAlpha {c : Char} (hc : c.isAlpha = true) : Text.isBlank c = false :=
  Text.forall_isAlpha (p := fun c => Text.isBlank c = false) (by decide +kernel)
    (by decide +kernel) hc

/-- No blank is replaced, so it does not matter whether blanks are dropped before or
after. -/
theorem unblanked_insertFor {letter : Char} (hletter : letter.isAlpha = true)
    (inserted source : String) :
    unblanked (insertFor letter inserted source) =
      replaceLetter letter ('(' :: (unblanked inserted ++ [')'])) (unblanked source) := by
  have hpart : ("(" ++ inserted ++ ")").toList.filter (fun c => !Text.isBlank c) =
      '(' :: (unblanked inserted ++ [')']) := by
    rw [← toList_normalize, normalize, String.toList_ofList]
  have hkeeps : ∀ c : Char, c.isAlpha = true → (!Text.isBlank c) = true := by
    intro c hc
    rw [isBlank_eq_false_of_isAlpha hc]
    rfl
  rw [insertFor, unblanked, String.toList_ofList, filter_replaceLetter hletter hkeeps, hpart]
  rfl

/-- Parentheses may be put around a source before or after. -/
theorem replaceLetter_normalize {letter : Char} (hletter : letter.isAlpha = true)
    (inserted source : String) :
    (normalize (insertFor letter inserted source)).toList =
      replaceLetter letter (normalize inserted).toList (normalize source).toList := by
  rw [toList_normalize, unblanked_insertFor hletter, toList_normalize, toList_normalize source,
    replaceLetter_cons_of_not_isAlpha hletter rfl, replaceLetter_append,
    replaceLetter_cons_of_not_isAlpha hletter rfl]
  rfl

/-- The root holds the nodes of the formula. -/
def Rooted.IsOf (parsed : Rooted) (formula : Formula) : Prop :=
  parsed.graph.HasOutline (some parsed.root) (.node .root formula.outline .missing)

/-- A visit of the root gives this value and no other. -/
def Rooted.HasValue (parsed : Rooted) (assignment : String → Bool) (value : Bool) : Prop :=
  ∀ result, parsed.graph.Evaluates assignment parsed.root result ↔ result = value

/-- **Putting one source into another.** Take two sources that can be parsed and a letter.
With the second source, in parentheses, in the place of the letter wherever the first one
has it, in either case, the first one can still be parsed. Its nodes are those of the
first formula with the second one in the place of the atoms of the letter, and under any
assignment it has the value that the first source has once the letter is assigned the
value of the second. -/
theorem parse_insertFor {source inserted : String} {parsed part : Rooted} {letter : Char}
    (hletter : letter.isAlpha = true) (hsource : (parse source).outcome = .ok parsed)
    (hinserted : (parse inserted).outcome = .ok part) :
    ∃ (formula replacement : Formula) (whole : Rooted),
      parsed.IsOf formula ∧ part.IsOf replacement ∧
      (parse (insertFor letter inserted source)).outcome = .ok whole ∧
      whole.IsOf (.substitute (String.singleton letter.toUpper) replacement formula) ∧
      ∀ assignment, ∃ value result,
        part.HasValue assignment value ∧
        parsed.HasValue (Function.update assignment (String.singleton letter.toUpper) value)
          result ∧
        whole.HasValue assignment result := by
  obtain ⟨formula, hformula, rfl⟩ := Graph.outcome_parse_eq_ok_iff.1 hsource
  obtain ⟨replacement, hreplacement, rfl⟩ := Graph.outcome_parse_eq_ok_iff.1 hinserted
  have hwhole := hformula.replaced hletter hreplacement
  rw [← replaceLetter_normalize hletter] at hwhole
  refine ⟨formula, replacement, _, Graph.hasOutline_withFormula .empty formula,
    Graph.hasOutline_withFormula .empty replacement,
    Graph.outcome_parse_eq_ok_iff.2 ⟨_, hwhole, rfl⟩, Graph.hasOutline_withFormula .empty _,
    fun assignment => ?_⟩
  have hupdate : Function.update assignment (String.singleton letter.toUpper)
      (replacement.eval assignment) = fun other =>
        if other = String.singleton letter.toUpper then replacement.eval assignment
        else assignment other := by
    funext other
    rw [Function.update_apply]
  refine ⟨replacement.eval assignment, _, Graph.empty.evaluates_withFormula replacement assignment,
    Graph.empty.evaluates_withFormula formula _, ?_⟩
  rw [hupdate, ← Formula.eval_substitute]
  exact Graph.empty.evaluates_withFormula _ assignment

/-- In `x∧¬X` both atoms are replaced by a source that has the letter itself and no outer
parentheses. -/
theorem parse_conditional_inserted :
    ∃ parsed part whole : Rooted,
      (parse "x∧¬X").outcome = .ok parsed ∧ (parse "x→y").outcome = .ok part ∧
      (parse "(x→y)∧¬(x→y)").outcome = .ok whole ∧
      ∀ assignment, ∃ value result,
        part.HasValue assignment value ∧
        parsed.HasValue (Function.update assignment "X" value) result ∧
        whole.HasValue assignment result := by
  have hsource : (parse "x∧¬X").outcome = .ok ⟨Graph.empty.withFormula _, 0⟩ :=
    parse_eq_ok_iff.2 ⟨_, .inr ⟨.conjunction, _, _, ['x'], ['¬', 'X'], rfl, by decide, .atom rfl,
      .negation (.atom rfl)⟩, rfl⟩
  have hinserted : (parse "x→y").outcome = .ok ⟨Graph.empty.withFormula _, 0⟩ :=
    parse_eq_ok_iff.2 ⟨_, .inr ⟨.conditional, _, _, ['x'], ['y'], rfl, by decide, .atom rfl,
      .atom rfl⟩, rfl⟩
  obtain ⟨-, -, whole, -, -, hwhole, -, hvalue⟩ :=
    parse_insertFor (show 'X'.isAlpha = true from rfl) hsource hinserted
  exact ⟨_, _, whole, hsource, hinserted, hwhole, hvalue⟩

end Propositional
