import Mathlib.Order.Bounds.Defs
import Mathlib.Order.MinMax
import SessionGateway.Settings.Duration

/-!
# What settings keep of a duration

Settings know whole milliseconds only, and no more of them than sixty-four bits
can count.  So a duration is rounded down to the longest one below it that they
know: `Keeps` says what that means, and `keeps_rounded` that rounding does it.

All of it is read off one formula, the rounded duration in nanoseconds
(`toNanoseconds_rounded`).
-/

namespace SessionGateway.Duration

/-! ## The order of durations -/

theorem toNanoseconds_injective : Function.Injective toNanoseconds := by
  rintro ⟨seconds, nanoseconds, below⟩ ⟨otherSeconds, otherNanoseconds, otherBelow⟩ same
  simp only [toNanoseconds] at same
  have equal : seconds = otherSeconds := UInt64.toNat_inj.mp (by omega)
  subst equal
  congr 1
  omega

/-- Durations are ordered by their length. -/
instance : LinearOrder Duration :=
  LinearOrder.lift' toNanoseconds toNanoseconds_injective

variable {left right : Duration}

theorem le_iff : left ≤ right ↔ left.toNanoseconds ≤ right.toNanoseconds :=
  Iff.rfl

theorem lt_iff : left < right ↔ left.toNanoseconds < right.toNanoseconds :=
  Iff.rfl

theorem toNanoseconds_max (left right : Duration) :
    (max left right).toNanoseconds = max left.toNanoseconds right.toNanoseconds :=
  Monotone.map_max fun _ _ => id

/-! ## Whole milliseconds -/

/-- A whole number of milliseconds. -/
def IsWhole (duration : Duration) : Prop :=
  1000000 ∣ duration.toNanoseconds

/-- The most milliseconds that sixty-four bits can count. -/
def longest : Duration :=
  ofMilliseconds 18446744073709551615

/--
Durations are kept as well as settings can keep them: as the longest duration of
whole milliseconds that is not longer, and those that are too long as the longest
of all.
-/
structure Keeps (keep : Duration → Duration) : Prop where
  greatest : ∀ duration ≤ longest,
    IsGreatest {whole | IsWhole whole ∧ whole ≤ duration} (keep duration)
  saturates : ∀ duration > longest, keep duration = longest
  le : ∀ duration, keep duration ≤ duration
  monotone : Monotone keep
  eq_iff : ∀ duration, keep duration = duration ↔ IsWhole duration ∧ duration ≤ longest

/-! ## Rounding -/

@[simp]
theorem toNanoseconds_ofMilliseconds (milliseconds : UInt64) :
    (ofMilliseconds milliseconds).toNanoseconds = 1000000 * milliseconds.toNat := by
  have thousand : (1000 : UInt64).toNat = 1000 := rfl
  simp only [ofMilliseconds, toNanoseconds, UInt64.toNat_div, thousand]
  omega

theorem toNat_saturatingMilliseconds (duration : Duration) :
    duration.saturatingMilliseconds.toNat =
      min (duration.toNanoseconds / 1000000) 18446744073709551615 := by
  have most : (18446744073709551615 : UInt64).toNat = 18446744073709551615 := rfl
  rw [saturatingMilliseconds]
  split
  · next fits =>
      rw [UInt64.toNat_ofNat_of_lt' fits]
      omega
  · omega

theorem toNanoseconds_rounded (duration : Duration) :
    (ofMilliseconds duration.saturatingMilliseconds).toNanoseconds =
      1000000 * min (duration.toNanoseconds / 1000000) 18446744073709551615 := by
  rw [toNanoseconds_ofMilliseconds, toNat_saturatingMilliseconds]

/-- Nothing is kept of a duration below a millisecond. -/
theorem rounded_of_lt {duration : Duration} (short : duration < ofMilliseconds 1) :
    ofMilliseconds duration.saturatingMilliseconds = ofMilliseconds 0 := by
  have one : (1 : UInt64).toNat = 1 := rfl
  have zero : (0 : UInt64).toNat = 0 := rfl
  rw [lt_iff, toNanoseconds_ofMilliseconds] at short
  apply toNanoseconds_injective
  rw [toNanoseconds_rounded, toNanoseconds_ofMilliseconds]
  omega

theorem toNanoseconds_longest : longest.toNanoseconds = 1000000 * 18446744073709551615 :=
  toNanoseconds_ofMilliseconds _

theorem keeps_rounded :
    Keeps fun duration => ofMilliseconds duration.saturatingMilliseconds where
  greatest := by
    intro duration fits
    rw [le_iff, toNanoseconds_longest] at fits
    have rounded := toNanoseconds_rounded duration
    refine ⟨⟨⟨_, rounded⟩, by rw [le_iff]; omega⟩, ?_⟩
    rintro whole ⟨⟨number, counted⟩, below⟩
    rw [le_iff] at below ⊢
    omega
  saturates := by
    intro duration tooLong
    apply toNanoseconds_injective
    rw [gt_iff_lt, lt_iff, toNanoseconds_longest] at tooLong
    rw [toNanoseconds_rounded, toNanoseconds_longest]
    omega
  le := by
    intro duration
    rw [le_iff, toNanoseconds_rounded]
    omega
  monotone := by
    intro shorter longer ordered
    rw [le_iff] at ordered
    rw [le_iff, toNanoseconds_rounded, toNanoseconds_rounded]
    omega
  eq_iff := by
    intro duration
    rw [← toNanoseconds_injective.eq_iff, toNanoseconds_rounded, IsWhole, le_iff,
      toNanoseconds_longest]
    omega

end SessionGateway.Duration
