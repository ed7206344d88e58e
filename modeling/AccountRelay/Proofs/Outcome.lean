/-! # Outcomes

When an outcome that is put together of others is a success, and with which value, and where a failure
of it comes from.
-/

namespace AccountRelay.Outcome

variable {ε ε' α β : Type}

/-- A sequence succeeds exactly when its first step does and the rest does from there. -/
theorem bind_eq_ok_iff {first : Except ε α} {next : α → Except ε β} {result : β} :
    (first >>= next) = .ok result ↔ ∃ value, first = .ok value ∧ next value = .ok result := by
  cases first with
  | ok value => simp [Bind.bind, Except.bind]
  | error error => simp [Bind.bind, Except.bind]

/-- A sequence fails in its first step, or in the rest after that step succeeded. -/
theorem bind_eq_error {first : Except ε α} {next : α → Except ε β} {error : ε}
    (fails : (first >>= next) = .error error) :
    first = .error error ∨ ∃ value, first = .ok value ∧ next value = .error error := by
  cases first with
  | ok value => exact .inr ⟨value, rfl, fails⟩
  | error own =>
      cases fails
      exact .inl rfl

/-- What is given back as it stands is that very result. -/
theorem pure_eq_ok_iff {value result : α} :
    (pure value : Except ε α) = .ok result ↔ value = result := by
  simp [Pure.pure, Except.pure]

/-- A changed outcome succeeds exactly when the outcome does, with the changed value. -/
theorem map_eq_ok_iff {outcome : Except ε α} {change : α → β} {result : β} :
    outcome.map change = .ok result ↔ ∃ value, outcome = .ok value ∧ change value = result := by
  cases outcome with
  | ok value => simp [Except.map]
  | error error => simp [Except.map]

/-- Translating errors keeps a success. -/
theorem mapError_ok (change : ε → ε') (value : α) :
    (Except.ok value : Except ε α).mapError change = .ok value :=
  rfl

/-- Translating errors translates the error. -/
theorem mapError_error (change : ε → ε') (error : ε) :
    (Except.error error : Except ε α).mapError change = .error (change error) :=
  rfl

/-- Translating errors neither makes nor loses a success. -/
theorem mapError_eq_ok_iff {outcome : Except ε α} {change : ε → ε'} {value : α} :
    outcome.mapError change = .ok value ↔ outcome = .ok value := by
  cases outcome with
  | ok other =>
      constructor <;> rintro ⟨⟩
      · rfl
      · rfl
  | error error => exact ⟨nofun, nofun⟩

/-- The error of an outcome, if it ended with one. -/
def error? : Except ε α → Option ε
  | .ok _ => none
  | .error error => some error

/-- The error of an outcome is there exactly when it failed with that error. -/
theorem error?_eq_some_iff {outcome : Except ε α} {error : ε} :
    error? outcome = some error ↔ outcome = .error error := by
  cases outcome with
  | ok value => simp [error?]
  | error other => simp [error?]

/-- An outcome without an error is a success. -/
theorem error?_eq_none_iff {outcome : Except ε α} :
    error? outcome = none ↔ ∃ value, outcome = .ok value := by
  cases outcome with
  | ok value => simp [error?]
  | error other => simp [error?]

/-- What follows fails as it does, whatever the value is that it follows. -/
theorem error?_bind {first : Except ε α} {next : α → Except ε β} {rest : Option ε}
    (follows : ∀ value, first = .ok value → error? (next value) = rest) :
    error? (first >>= next) = (error? first).or rest := by
  cases first with
  | ok value => exact follows value rfl
  | error error => rfl

end AccountRelay.Outcome
