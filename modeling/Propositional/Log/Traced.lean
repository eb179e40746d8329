import Propositional.Log.Event

/-!
# Computations that report events

A `Traced` computation has an outcome, a value or an error, and the events that
were reported on the way. Events are kept in either case: a failure comes after
everything that was reported before it, and nothing is reported after it.

> `events_bind`, `outcome_bind`: what a sequence of two computations reports and
> returns, in terms of the two.
-/

namespace Propositional.Log

/-- An outcome and the events reported before it, first to last. -/
structure Traced (ε α : Type) where
  events : List Event
  outcome : Except ε α

namespace Traced

variable {ε ε' α β : Type}

/-- Reports one event. -/
def report (event : Event) : Traced ε Unit := ⟨[event], .ok ()⟩

/-- Fails without a report. -/
def fail (error : ε) : Traced ε α := ⟨[], .error error⟩

/-- An outcome without a report. -/
def ofExcept (outcome : Except ε α) : Traced ε α := ⟨[], outcome⟩

/-- The computation with further events in front of its own. -/
def after (first : List Event) (traced : Traced ε α) : Traced ε α :=
  ⟨first ++ traced.events, traced.outcome⟩

/-- The computation with its error in another form. -/
def mapError (f : ε → ε') (traced : Traced ε α) : Traced ε' α :=
  ⟨traced.events, traced.outcome.mapError f⟩

/-- Goes on with the value, if there is one. -/
protected def bind (traced : Traced ε α) (next : α → Traced ε β) : Traced ε β :=
  match traced.outcome with
  | .ok value => (next value).after traced.events
  | .error error => ⟨traced.events, .error error⟩

instance : Monad (Traced ε) where
  pure value := ⟨[], .ok value⟩
  bind := Traced.bind

theorem bind_def (traced : Traced ε α) (next : α → Traced ε β) :
    traced >>= next = traced.bind next := rfl

theorem outcome_bind (traced : Traced ε α) (next : α → Traced ε β) :
    (traced >>= next).outcome = traced.outcome >>= fun value => (next value).outcome := by
  rw [bind_def, Traced.bind]
  cases traced.outcome <;> rfl

theorem events_bind (traced : Traced ε α) (next : α → Traced ε β) :
    (traced >>= next).events =
      traced.events ++
        match traced.outcome with
        | .ok value => (next value).events
        | .error _ => [] := by
  rw [bind_def, Traced.bind]
  cases traced.outcome <;> simp [after]

theorem outcome_bind_eq_ok {traced : Traced ε α} {next : α → Traced ε β} {result : β} :
    (traced >>= next).outcome = .ok result ↔
      ∃ value, traced.outcome = .ok value ∧ (next value).outcome = .ok result := by
  rw [outcome_bind]
  cases traced.outcome with
  | ok value => simp [bind, Except.bind]
  | error error => simp [bind, Except.bind]

@[simp]
theorem outcome_pure (value : α) : (pure value : Traced ε α).outcome = .ok value := rfl

@[simp]
theorem outcome_fail (error : ε) : (fail error : Traced ε α).outcome = .error error := rfl

end Traced

end Propositional.Log
