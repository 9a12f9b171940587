import Telemetry.Agent.Collector
import Telemetry.Proofs.Binary64.Approximation

namespace Telemetry

open Telemetry Binary64

/-! How much of the time a core was busy: the milliseconds that it was, over those that passed. Five
numbers are rounded on the way. -/

theorem Probe.toNat_saturatingSub (x y : UInt64) :
    (saturatingSub x y).toNat = x.toNat - y.toNat := by
  rw [saturatingSub]
  split
  · next less =>
      have below := UInt64.lt_iff_toNat_lt.mp less
      rw [UInt64.toNat_zero]
      omega
  · next notLess =>
      have above : y ≤ x := UInt64.le_iff_toNat_le.mpr
        (Nat.le_of_not_lt fun below => notLess (UInt64.lt_iff_toNat_lt.mpr below))
      exact UInt64.toNat_sub_of_le x y above

theorem Duration.eq_seconds_add_fraction (span : Duration) :
    (span.nanoseconds : Rat) / nanosecondsPerSecond =
      span.seconds + span.fraction / nanosecondsPerSecond := by
  have whole : span.nanoseconds = nanosecondsPerSecond * span.seconds + span.fraction :=
    (Nat.div_add_mod _ _).symm
  have positive : (nanosecondsPerSecond : Rat) ≠ 0 := by norm_num [nanosecondsPerSecond]
  rw [whole, Nat.cast_add, Nat.cast_mul, add_div, mul_div_cancel_left₀ _ positive]

namespace Collector

variable {elapsed : Duration}

theorem approximates_nanosecondsPerSecond :
    Approximates 0 Duration.nanosecondsPerSecond (ofNat Duration.nanosecondsPerSecond) :=
  approximates_ofNat_of_lt (by decide)

theorem approximates_fraction (elapsed : Duration) :
    Approximates 1 (elapsed.fraction / Duration.nanosecondsPerSecond)
      ((ofNat elapsed.fraction).div (ofNat Duration.nanosecondsPerSecond)) := by
  have small : elapsed.fraction < Duration.nanosecondsPerSecond := Nat.mod_lt _ (by decide)
  have isFraction : Approximates 0 elapsed.fraction (ofNat elapsed.fraction) :=
    approximates_ofNat_of_lt (small.trans (by decide))
  exact isFraction.div approximates_nanosecondsPerSecond (Nat.cast_nonneg _)
    (Nat.cast_pos.mpr (by decide))
    (isModerate_div (by decide) (small.le.trans (by decide)) (by decide)) (by decide)

/-- So many seconds are as many as can be told. -/
theorem approximates_milliseconds (bounded : elapsed.seconds < 2 ^ 64) :
    Approximates 3 (elapsed.nanoseconds / Duration.nanosecondsPerMillisecond)
      (milliseconds elapsed) := by
  have nanoseconds : elapsed.nanoseconds < 2 ^ 64 * Duration.nanosecondsPerSecond :=
    (Nat.div_lt_iff_lt_mul (by decide)).mp bounded
  have inSeconds : Approximates 1 elapsed.seconds (ofNat elapsed.seconds) :=
    approximates_ofNat (isModerate_natCast (bounded.le.trans (by decide)))
  have total : Approximates 2 (elapsed.nanoseconds / Duration.nanosecondsPerSecond)
      ((ofNat elapsed.seconds).add
        ((ofNat elapsed.fraction).div (ofNat Duration.nanosecondsPerSecond))) := by
    have moderate : IsModerate 127 (elapsed.nanoseconds / Duration.nanosecondsPerSecond) :=
      isModerate_div (by decide) (nanoseconds.le.trans (by decide)) (by decide)
    rw [elapsed.eq_seconds_add_fraction] at moderate ⊢
    exact inSeconds.add (approximates_fraction elapsed) moderate (by decide)
  have thousand : Approximates 0 (1000 : Nat) (ofNat 1000) := approximates_ofNat_of_lt (by decide)
  have inMilliseconds : (elapsed.nanoseconds : Rat) / Duration.nanosecondsPerMillisecond =
      elapsed.nanoseconds / Duration.nanosecondsPerSecond * (1000 : Nat) := by
    norm_num [Duration.nanosecondsPerMillisecond, Duration.nanosecondsPerSecond]
    ring
  have moderate : IsModerate 127 (elapsed.nanoseconds / Duration.nanosecondsPerMillisecond) :=
    isModerate_div (by decide) (nanoseconds.le.trans (by decide)) (by decide)
  rw [inMilliseconds] at moderate ⊢
  exact total.mul thousand (by positivity) (Nat.cast_nonneg _) moderate (by decide)

theorem isPositive_milliseconds (passed : elapsed.isZero = false) :
    (milliseconds elapsed).IsPositive := by
  have some : 0 < elapsed.nanoseconds := Nat.pos_of_ne_zero (of_decide_eq_false passed)
  have fraction := approximates_fraction elapsed
  refine (IsPositive.add (negative_ofNat _) (isNaN_ofRatio _ _ _) fraction.nonneg fraction.finite
    ?_).mul (negative_ofNat _) (isFinite_ofNat_of_lt (by decide)) (le_units_ofNat (by decide))
  by_cases whole : 0 < elapsed.seconds
  · have least := unitsInOne_pos.trans_le (le_units_ofNat whole)
    omega
  · have part : 0 < elapsed.fraction := by
      have split : elapsed.nanoseconds =
          Duration.nanosecondsPerSecond * elapsed.seconds + elapsed.fraction :=
        (Nat.div_add_mod _ _).symm
      rw [Nat.eq_zero_of_not_pos whole] at split
      omega
    have least := fraction.units_pos
      (div_pos (Nat.cast_pos.mpr part) (Nat.cast_pos.mpr (by decide)))
    omega

/-- What the utilization of a core is, over a span of at most `2 ^ 64` seconds also to how many
roundings. A core that was not read before, or that had been busy for longer then, was not busy. -/
structure IsUtilization (before : Option UInt64) (now : UInt64) (elapsed : Duration)
    (x : Binary64) : Prop where
  exact : x = (ofNat (now.toNat - (before.getD now).toNat)).div (milliseconds elapsed)
  idle : now.toNat ≤ (before.getD now).toNat → x = zero
  close : elapsed.seconds < 2 ^ 64 →
    Approximates 5 (((now.toNat - (before.getD now).toNat : Nat) : Rat) /
      (elapsed.nanoseconds / Duration.nanosecondsPerMillisecond)) x

theorem isUtilization_utilization (before : Option UInt64) (now : UInt64)
    (passed : elapsed.isZero = false) :
    IsUtilization before now elapsed (utilization before now elapsed) := by
  have exact : utilization before now elapsed =
      (ofNat (now.toNat - (before.getD now).toNat)).div (milliseconds elapsed) := by
    rw [utilization, Probe.toNat_saturatingSub]
  refine ⟨exact, fun idle => ?_, fun bounded => ?_⟩
  · rw [exact, Nat.sub_eq_zero_of_le idle]
    exact (isPositive_milliseconds passed).zero_div
  · have some : (0 : Rat) < elapsed.nanoseconds :=
      Nat.cast_pos.mpr (Nat.pos_of_ne_zero (of_decide_eq_false passed))
    have divisor : (0 : Rat) < Duration.nanosecondsPerMillisecond := Nat.cast_pos.mpr (by decide)
    have spent : now.toNat - (before.getD now).toNat < 2 ^ 64 :=
      Nat.lt_of_le_of_lt (Nat.sub_le _ _) now.toNat_lt
    have nanoseconds : elapsed.nanoseconds < 2 ^ 64 * Duration.nanosecondsPerSecond :=
      (Nat.div_lt_iff_lt_mul (by decide)).mp bounded
    rw [exact]
    refine (approximates_ofNat (isModerate_natCast (spent.le.trans (by decide)))).div
      (approximates_milliseconds bounded) (Nat.cast_nonneg _) (div_pos some divisor) ?_ (by decide)
    rw [div_div_eq_mul_div, ← Nat.cast_mul]
    refine isModerate_div (Nat.cast_pos.mp some) ?_ (nanoseconds.le.trans (by decide))
    exact (Nat.mul_le_mul_right _ spent.le).trans (by decide)

end Collector

end Telemetry
