import Propositional.Diagnostic

/-!
# Laws of computations that report events

Joining computations obeys the laws of a monad, so two ways of arranging the
same steps report the same events and have the same outcome.
-/

namespace Propositional.Log.Traced

variable {ε ε' α β γ : Type}

/-- Events in front of a sequence are events in front of its first part. -/
theorem after_bind (first : List Event) (traced : Traced ε α) (next : α → Traced ε β) :
    traced.after first >>= next = (traced >>= next).after first := by
  obtain ⟨events, outcome⟩ := traced
  cases outcome with
  | error error => rfl
  | ok value =>
    show (next value).after (first ++ events) = ((next value).after events).after first
    simp only [after, List.append_assoc]

instance : LawfulMonad (Traced ε) :=
  LawfulMonad.mk' (Traced ε)
    (by
      intro α traced
      obtain ⟨events, outcome⟩ := traced
      cases outcome with
      | error error => rfl
      | ok value =>
        show (⟨events ++ [], .ok value⟩ : Traced ε α) = ⟨events, .ok value⟩
        rw [List.append_nil])
    (fun _ _ => rfl)
    (by
      intro α β γ traced next last
      obtain ⟨events, outcome⟩ := traced
      cases outcome with
      | error error => rfl
      | ok value =>
        show (next value).after events >>= last = (next value >>= last).after events
        exact after_bind events (next value) last)

/-- The events of two computations, one after the other. -/
theorem events_bind_of_ok {traced : Traced ε α} {value : α} (h : traced.outcome = .ok value)
    (next : α → Traced ε β) : (traced >>= next).events = traced.events ++ (next value).events := by
  rw [events_bind, h]

/-- A sequence fails in its first part or in the second. -/
theorem outcome_bind_eq_error {traced : Traced ε α} {next : α → Traced ε β} {error : ε} :
    (traced >>= next).outcome = .error error ↔
      traced.outcome = .error error ∨
        ∃ value, traced.outcome = .ok value ∧ (next value).outcome = .error error := by
  rw [outcome_bind]
  cases traced.outcome with
  | ok value => simp [bind, Except.bind]
  | error error => simp [bind, Except.bind]

/-- A last step that reports nothing leaves the events as they are. -/
theorem ok_bind_pure (events : List Event) (value : α) (f : α → β) :
    ((⟨events, .ok value⟩ : Traced ε α) >>= fun value => pure (f value)) =
      ⟨events, .ok (f value)⟩ := by
  show (⟨events ++ [], .ok (f value)⟩ : Traced ε β) = ⟨events, .ok (f value)⟩
  rw [List.append_nil]

/-- Putting the error in another form changes no value. -/
theorem outcome_mapError_eq_ok {traced : Traced ε α} {f : ε → ε'} {value : α} :
    (traced.mapError f).outcome = .ok value ↔ traced.outcome = .ok value := by
  show traced.outcome.mapError f = .ok value ↔ traced.outcome = .ok value
  cases traced.outcome with
  | ok found =>
    show Except.ok found = Except.ok value ↔ Except.ok found = Except.ok value
    rw [Except.ok.injEq, Except.ok.injEq]
  | error error =>
    constructor
    · intro h
      cases h
    · intro h
      cases h

end Propositional.Log.Traced
