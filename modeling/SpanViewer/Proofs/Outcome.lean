/-!
# Computations that may fail

A computation of several steps that gives a result has got one in each of its steps. One that fails
does so in its first step, or behind it.
-/

namespace SpanViewer

variable {ε α β : Type} {first : Except ε α} {result : β}

/-- A computation of two steps that succeeds succeeds in both. -/
theorem exists_of_bind_eq_ok {next : α → Except ε β} (hbind : first >>= next = .ok result) :
    ∃ value, first = .ok value ∧ next value = .ok result := by
  cases first with
  | error error => contradiction
  | ok value => exact ⟨value, rfl, hbind⟩

/-- A computation of two steps that fails does so in one of them. -/
theorem of_bind_eq_error {next : α → Except ε β} {cause : ε}
    (hbind : first >>= next = .error cause) :
    first = .error cause ∨ ∃ value, first = .ok value ∧ next value = .error cause := by
  cases first with
  | error other => exact .inl (congrArg _ (Except.error.inj hbind))
  | ok value => exact .inr ⟨value, rfl, hbind⟩

/-- A result that is rewritten was a result before. -/
theorem exists_of_map_eq_ok {f : α → β} (hmap : first.map f = .ok result) :
    ∃ value, first = .ok value ∧ f value = result := by
  cases first with
  | error error => contradiction
  | ok value => exact ⟨value, rfl, Except.ok.inj hmap⟩

/-- A failure that is passed on was one before. -/
theorem eq_error_of_map_eq_error {f : α → β} {cause : ε} (hmap : first.map f = .error cause) :
    first = .error cause := by
  cases first with
  | error other => exact congrArg _ (Except.error.inj hmap)
  | ok value => contradiction

end SpanViewer
