set_option autoImplicit false

namespace CodeSurvey.Except

variable {ε δ α β : Type}

theorem exists_of_bind_eq_ok {first : Except ε α} {next : α → Except ε β} {result : β}
    (done : (first >>= next) = .ok result) :
    ∃ value, first = .ok value ∧ next value = .ok result := by
  cases first with
  | error fault => cases done
  | ok value => exact ⟨value, rfl, done⟩

theorem mapError_eq_ok {f : ε → δ} {outcome : Except ε α} {value : α} :
    outcome.mapError f = .ok value ↔ outcome = .ok value := by
  cases outcome with
  | error fault => constructor <;> intro same <;> cases same
  | ok other => constructor <;> intro same <;> cases same <;> rfl

theorem mapError_of_error {f : ε → δ} {outcome : Except ε α} {fault : ε}
    (failed : outcome = .error fault) : outcome.mapError f = .error (f fault) := by
  rw [failed]
  rfl

theorem eq_ok_of_toOption {outcome : Except ε α} {value : α}
    (found : outcome.toOption = some value) : outcome = .ok value := by
  cases outcome with
  | error fault => cases found
  | ok other =>
      cases found
      rfl

/-- A test that an outcome passes has seen a value. -/
theorem exists_of_any {outcome : Except ε α} {test : α → Bool}
    (holds : outcome.toOption.any test = true) :
    ∃ value, outcome = .ok value ∧ test value = true := by
  cases outcome with
  | error fault => cases holds
  | ok value => exact ⟨value, rfl, holds⟩

end CodeSurvey.Except
