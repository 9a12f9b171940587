namespace Telemetry.Counter

/-! Sums of counter deltas, which must fit 64 bits with a sign. -/

def Fits (number : Int) : Prop := -0x8000000000000000 ≤ number ∧ number < 0x8000000000000000

instance (number : Int) : Decidable (Fits number) :=
  inferInstanceAs (Decidable (_ ∧ _))

/-- The sum, if it fits. -/
def add? (sum delta : Int64) : Option Int64 :=
  if Fits (sum.toInt + delta.toInt) then some (Int64.ofInt (sum.toInt + delta.toInt)) else none

theorem fits_toInt (number : Int64) : Fits number.toInt :=
  ⟨by have := number.le_toInt; simpa using this, by have := number.toInt_lt; simpa using this⟩

theorem toInt_add? {sum delta total : Int64} (h : add? sum delta = some total) :
    total.toInt = sum.toInt + delta.toInt := by
  unfold add? at h
  split at h
  · next fits =>
    obtain rfl := Option.some.inj h
    exact Int64.toInt_ofInt_of_le (by simpa using fits.1) (by simpa using fits.2)
  · cases h

end Telemetry.Counter
