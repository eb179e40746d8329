import Propositional.Grammar.Automaton
import Propositional.Proofs.Grammar.Acceptance

/-!
# The reader is the automaton of the grammar

`ParseTree.ofLexemes` keeps a partial tree and adds one token after the other;
the bottom-up automaton keeps a stack of symbols and decides by tables. This file
shows that a run of the automaton comes to an end on every input, and to the same
end: the same tree, or the same rejection.

> `runs_of_represents`: from a stack that stands for a partial tree, the
> automaton comes to what reading on from the partial tree comes to.
> `runs_iff`: the result of the automaton is the result of the reader.
> `runs_ok_iff`: the automaton accepts the tokens that have a derivation, with it.

The two differ in when a production is closed. A partial tree closes it with its
last token, the automaton only when it has seen what comes next, and then it may
have to close several negations one after the other (`runs_of_width`).
-/

namespace Propositional.Automaton

/-- The stack holds the productions that have been begun, the innermost one on
top. -/
inductive Stacks : Stack → List PartialTree.Frame → Prop
  | nil : Stacks [] []
  | negated {stack : Stack} {frames : List PartialTree.Frame} {sign : Token}
      (hstack : Stacks stack frames) :
      Stacks ((.negating, sign.leaf) :: stack) (.negated sign :: frames)
  | opened {stack : Stack} {frames : List PartialTree.Frame} {opening : Token}
      (hstack : Stacks stack frames) :
      Stacks ((.opened, opening.leaf) :: stack) (.opened opening :: frames)
  | joined {stack : Stack} {frames : List PartialTree.Frame} {opening sign : Token}
      {left : ParseTree} {op : BinaryConnective} (hstack : Stacks stack frames) :
      Stacks ((.joined op, sign.leaf) :: (.enclosed, left) :: (.opened, opening.leaf) :: stack)
        (.joined opening left sign :: frames)

/-- The stack stands for a partial tree. -/
inductive Represents : Stack → PartialTree → Prop
  | expecting {stack : Stack} {frames : List PartialTree.Frame} (hstack : Stacks stack frames) :
      Represents stack (.expecting frames)
  | enclosed {stack : Stack} {frames : List PartialTree.Frame} {opening : Token}
      {inner : ParseTree} (hstack : Stacks stack frames) :
      Represents ((.enclosed, inner) :: (.opened, opening.leaf) :: stack)
        (.enclosed opening inner frames)
  | paired {stack : Stack} {frames : List PartialTree.Frame} {opening sign : Token}
      {left right : ParseTree} {op : BinaryConnective} (hstack : Stacks stack frames) :
      Represents ((.paired op, right) :: (.joined op, sign.leaf) :: (.enclosed, left) ::
        (.opened, opening.leaf) :: stack) (.paired opening left sign right frames)
  | complete {tree : ParseTree} : Represents [(.whole, tree)] (.complete tree)

/-- Where a formula has to begin, the automaton shifts what a formula begins with
and nothing else. -/
theorem Stacks.action? {stack : Stack} {frames : List PartialTree.Frame}
    (h : Stacks stack frames) (ahead : Option Token.Kind) :
    stack.state.action? ahead = (ahead.bind State.begin?).map .shift := by
  cases h <;> cases ahead <;> rfl

theorem fill_ne_expecting (tree : ParseTree) (frames others : List PartialTree.Frame) :
    PartialTree.fill tree frames ≠ .expecting others := by
  induction frames generalizing tree with
  | nil => exact PartialTree.noConfusion
  | cons frame frames ih =>
    cases frame with
    | negated sign => exact ih (.formula [sign.leaf, tree])
    | opened opening => exact PartialTree.noConfusion
    | joined opening left sign => exact PartialTree.noConfusion

/-- What cannot follow a formula does not fit where one has just been closed. -/
theorem fill_advance?_eq_none {token : Token} (h : mayFollow (some token.kind) = false)
    (tree : ParseTree) (frames : List PartialTree.Frame) :
    (PartialTree.fill tree frames).advance? token = none := by
  have hfill := fill_ne_expecting tree frames
  unfold PartialTree.advance?
  split
  next others hbuilt _ => exact absurd hbuilt (hfill others)
  next others hbuilt _ => exact absurd hbuilt (hfill others)
  next others hbuilt _ => exact absurd hbuilt (hfill others)
  next hkind =>
    rw [hkind] at h
    cases h
  next hkind =>
    rw [hkind] at h
    cases h
  next hkind =>
    rw [hkind] at h
    cases h
  next => rfl

theorem State.action?_of_width {state : State} {width : Nat} (h : state.width? = some width)
    (ahead : Option Token.Kind) :
    state.action? ahead = if mayFollow ahead then some (.reduce width) else none := by
  rw [State.action?.eq_def, h]

/-- Before it reduces, the automaton may end the run at the next token; the partial
tree, where the production is closed already, is then no further. -/
theorem runs_of_reduced {stack below pushed : Stack} {frames : List PartialTree.Frame}
    {tree : ParseTree} {width : Nat} {found : List Lexeme}
    (hwidth : stack.state.width? = some width) (hreduce : stack.reduce? width = below.push? tree)
    (hpush : below.push? tree = some pushed)
    (hruns : Runs pushed found ((PartialTree.fill tree frames).read found)) :
    Runs stack found ((PartialTree.fill tree frames).read found) := by
  have hreducing : reducing stack width found = .next pushed found := by
    rw [reducing, hreduce, hpush]
  have haction := State.action?_of_width hwidth
  cases found with
  | nil =>
    refine .next ?_ hruns
    unfold turn
    simp only [haction, mayFollow, if_true]
    exact hreducing
  | cons lexeme rest =>
    cases lexeme with
    | error character => exact .done rfl
    | ok token =>
      cases hfollow : mayFollow (some token.kind) with
      | true =>
        refine .next ?_ hruns
        unfold turn
        simp only [haction, hfollow, if_true]
        exact hreducing
      | false =>
        refine .done ?_
        rw [PartialTree.read, fill_advance?_eq_none hfollow]
        unfold turn
        simp only [haction, hfollow, Bool.false_eq_true, if_false]

/-- With the right side of a production on top of its stack the automaton comes to
what the closed production comes to. -/
theorem runs_of_width {found : List Lexeme}
    (hfound : ∀ stack built, Represents stack built → Runs stack found (built.read found))
    {below : Stack} {frames : List PartialTree.Frame} (h : Stacks below frames) :
    ∀ {stack : Stack} {tree : ParseTree} {width : Nat}, stack.state.width? = some width →
      stack.reduce? width = below.push? tree →
      Runs stack found ((PartialTree.fill tree frames).read found) := by
  induction h with
  | nil =>
    intro stack tree width hwidth hreduce
    exact runs_of_reduced hwidth hreduce rfl (hfound _ _ .complete)
  | @negated below frames sign hstack ih =>
    intro stack tree width hwidth hreduce
    -- the formula completes a negation, which is reduced next
    have hnegated : Runs ((.negated, tree) :: (.negating, sign.leaf) :: below) found
        ((PartialTree.fill (.formula [sign.leaf, tree]) frames).read found) := ih rfl rfl
    exact runs_of_reduced hwidth hreduce rfl hnegated
  | opened hstack =>
    intro stack tree width hwidth hreduce
    exact runs_of_reduced hwidth hreduce rfl (hfound _ _ (.enclosed hstack))
  | joined hstack =>
    intro stack tree width hwidth hreduce
    exact runs_of_reduced hwidth hreduce rfl (hfound _ _ (.paired hstack))

/-- From a stack that stands for a partial tree, the automaton comes to what reading
on from the partial tree comes to. -/
theorem runs_of_represents {found : List Lexeme} :
    ∀ stack built, Represents stack built → Runs stack found (built.read found) := by
  induction found with
  | nil =>
    intro stack built h
    cases h with
    | expecting hstack =>
      refine .done ?_
      unfold turn
      simp only [hstack.action?]
      rfl
    | enclosed _ => exact .done rfl
    | paired _ => exact .done rfl
    | complete => exact .done rfl
  | cons lexeme rest ih =>
    cases lexeme with
    | error character => exact fun stack built _ => .done rfl
    | ok token =>
      obtain ⟨kind, index, line⟩ := token
      intro stack built h
      cases h with
      | expecting hstack =>
        have hturn : turn stack (.ok ⟨kind, index, line⟩ :: rest) =
            match State.begin? kind with
            | some next => .next ((next, Token.leaf ⟨kind, index, line⟩) :: stack) rest
            | none => .done (.error (.unexpected ⟨kind, index, line⟩)) := by
          unfold turn
          simp only [hstack.action?, Option.bind_some]
          cases State.begin? kind <;> rfl
        cases kind with
        | atom => exact .next hturn (runs_of_width ih hstack rfl rfl)
        | opening => exact .next hturn (ih _ _ (.expecting (.opened hstack)))
        | closing => exact .done hturn
        | connective c =>
          cases c with
          | negation => exact .next hturn (ih _ _ (.expecting (.negated hstack)))
          | binary op => exact .done hturn
      | enclosed hstack =>
        cases kind with
        | atom => exact .done rfl
        | opening => exact .done rfl
        | closing => exact .next rfl (runs_of_width ih hstack rfl rfl)
        | connective c =>
          cases c with
          | negation => exact .done rfl
          | binary op => exact .next rfl (ih _ _ (.expecting (.joined hstack)))
      | paired hstack =>
        cases kind with
        | atom => exact .done rfl
        | opening => exact .done rfl
        | closing => exact .next rfl (runs_of_width ih hstack rfl rfl)
        | connective c =>
          cases c with
          | negation => exact .done rfl
          | binary op => exact .done rfl
      | complete =>
        -- nothing may follow a whole formula
        cases kind with
        | atom => exact .done rfl
        | opening => exact .done rfl
        | closing => exact .done rfl
        | connective c =>
          cases c with
          | negation => exact .done rfl
          | binary op => exact .done rfl

/-- A run has one result. -/
theorem Runs.unique {stack : Stack} {found : List Lexeme} {a b : Except Rejection ParseTree}
    (ha : Runs stack found a) (hb : Runs stack found b) : a = b := by
  induction ha with
  | done hturn =>
    cases hb with
    | done hturn' =>
      rw [hturn] at hturn'
      cases hturn'
      rfl
    | next hturn' _ =>
      rw [hturn] at hturn'
      cases hturn'
  | next hturn _ ih =>
    cases hb with
    | done hturn' =>
      rw [hturn] at hturn'
      cases hturn'
    | next hturn' hruns =>
      rw [hturn] at hturn'
      cases hturn'
      exact ih hruns

/-- **The reader is the automaton.** On every input the automaton comes to an end,
and its result is that of the reader. -/
theorem runs_iff {found : List Lexeme} {result : Except Rejection ParseTree} :
    Runs [] found result ↔ ParseTree.ofLexemes found = result := by
  have hreader : Runs [] found (ParseTree.ofLexemes found) :=
    runs_of_represents [] .start (.expecting .nil)
  constructor
  · intro h
    exact hreader.unique h
  · intro h
    subst h
    exact hreader

/-- The automaton accepts exactly the tokens that have a derivation, and its tree is
that derivation. -/
theorem runs_ok_iff {found : List Lexeme} {tree : ParseTree} :
    Runs [] found (.ok tree) ↔ ∃ tokens, found = tokens.map .ok ∧ Derives tokens tree := by
  rw [runs_iff, ParseTree.ofLexemes_eq_ok_iff]

end Propositional.Automaton
