namespace Telemetry

/-! What a computation that went well says of its parts, and what one says that failed. -/

theorem exists_of_bind_eq_ok {Cause First Last : Type} {first : Except Cause First}
    {next : First → Except Cause Last} {last : Last} (wentWell : (first >>= next) = .ok last) :
    ∃ value, first = .ok value ∧ next value = .ok last := by
  cases first with
  | error cause => cases wentWell
  | ok value => exact ⟨value, rfl, wentWell⟩

theorem error_of_bind_eq_error {Cause First Last : Type} {first : Except Cause First}
    {next : First → Except Cause Last} {cause : Cause} (failed : (first >>= next) = .error cause) :
    first = .error cause ∨ ∃ value, first = .ok value ∧ next value = .error cause := by
  cases first with
  | error early => exact .inl (congrArg Except.error (Except.error.inj failed))
  | ok value => exact .inr ⟨value, rfl, failed⟩

theorem error_ne_ok {Cause Value : Type} {cause : Cause} {value : Value} :
    (Except.error cause : Except Cause Value) ≠ .ok value := by
  intro same
  cases same

end Telemetry
