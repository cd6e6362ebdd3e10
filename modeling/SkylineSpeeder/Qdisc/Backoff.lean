import Mathlib.Tactic
import Mathlib.Algebra.Order.Floor.Div

/-!
How long the guard waits after a replace that failed: `retry_backoff` of `guard.rs`.

Durations are whole nanoseconds and saturate.  The interval of the guard is a number of whole
seconds that fits 32 bits, so nothing here saturates.

* `retryBackoff`: the code;
* `roundUp`: a duration rounded up to whole intervals;
* `retryBackoff_eq`: the wait is `wantedBackoff`, rounded up;
* `retryBackoff_mono`, `dvd_retryBackoff`, `le_retryBackoff`, `retryBackoff_le`: it grows with
  the failures, is a whole number of intervals, and lies between its bounds.
-/

namespace SkylineSpeeder

/-! ### Durations -/

/-- One second. -/
def second : ℕ := 10 ^ 9

/-- `Duration::MAX`. -/
def durationMax : ℕ := 2 ^ 64 * second - 1

/-- `Duration::saturating_mul`. -/
def durationMul (duration factor : ℕ) : ℕ := min (duration * factor) durationMax

/-- `RETRY_BACKOFF_MIN`. -/
def retryBackoffMin : ℕ := 30 * second

/-- `RETRY_BACKOFF_MAX`. -/
def retryBackoffMax : ℕ := 300 * second

/-- `retry_backoff`. -/
def retryBackoff (interval failures : ℕ) : ℕ :=
  let base := max interval retryBackoffMin
  let doublings := min (failures - 1) 16
  let wanted := min (durationMul base (2 ^ doublings)) (max retryBackoffMax interval)
  if interval = 0 then wanted
  else
    let steps := max (wanted ⌈/⌉ interval) 1
    durationMul interval (if steps < 2 ^ 32 then steps else 2 ^ 32 - 1)

/-- `Duration::from_secs(interval_s)`: the interval of the guard. -/
def guardInterval (intervalS : UInt32) : ℕ := intervalS.toNat * second

/-! ### Rounding up -/

/-- A duration rounded up to whole intervals; an interval of 0 rounds nothing. -/
def roundUp (interval duration : ℕ) : ℕ :=
  if interval = 0 then duration else interval * (duration ⌈/⌉ interval)

lemma le_roundUp (interval duration : ℕ) : duration ≤ roundUp interval duration := by
  rw [roundUp]
  split_ifs with hzero
  · exact le_rfl
  · exact le_smul_ceilDiv (Nat.pos_of_ne_zero hzero)

lemma roundUp_mono (interval : ℕ) {d e : ℕ} (h : d ≤ e) :
    roundUp interval d ≤ roundUp interval e := by
  rw [roundUp, roundUp]
  split_ifs with hzero
  · exact h
  · have hpos : 0 < interval := Nat.pos_of_ne_zero hzero
    exact Nat.mul_le_mul_left interval
      ((ceilDiv_le_iff_le_mul hpos).mpr (h.trans (le_smul_ceilDiv hpos)))

/-! ### The wait -/

/-- What is wanted after some failures: doubled after each but the first, up to the cap. -/
def wantedBackoff (interval failures : ℕ) : ℕ :=
  min (max interval retryBackoffMin * 2 ^ min (failures - 1) 16) (max retryBackoffMax interval)

lemma guardInterval_lt (intervalS : UInt32) : guardInterval intervalS < 2 ^ 32 * second := by
  have h := intervalS.toNat_lt
  rw [guardInterval]
  exact Nat.mul_lt_mul_of_pos_right h (by decide)

/-- An interval other than 0 is at least a second. -/
lemma second_le_guardInterval {intervalS : UInt32} (h : guardInterval intervalS ≠ 0) :
    second ≤ guardInterval intervalS := by
  rw [guardInterval] at h ⊢
  exact Nat.le_mul_of_pos_left second (Nat.pos_of_ne_zero fun hzero => h (by rw [hzero, zero_mul]))

/-- The doublings do not saturate. -/
lemma durationMul_doublings (intervalS : UInt32) (failures : ℕ) :
    durationMul (max (guardInterval intervalS) retryBackoffMin) (2 ^ min (failures - 1) 16) =
      max (guardInterval intervalS) retryBackoffMin * 2 ^ min (failures - 1) 16 := by
  have hpow : 2 ^ min (failures - 1) 16 ≤ 2 ^ 16 :=
    Nat.pow_le_pow_right (by decide) (min_le_right _ _)
  have hbase : max (guardInterval intervalS) retryBackoffMin ≤ 2 ^ 32 * second :=
    max_le (guardInterval_lt intervalS).le (by decide)
  refine min_eq_left ?_
  calc max (guardInterval intervalS) retryBackoffMin * 2 ^ min (failures - 1) 16
      ≤ 2 ^ 32 * second * 2 ^ 16 := Nat.mul_le_mul hbase hpow
    _ ≤ durationMax := by decide

lemma wantedBackoff_pos (interval failures : ℕ) : 0 < wantedBackoff interval failures := by
  have hbase : 0 < max interval retryBackoffMin := lt_max_of_lt_right (by decide)
  have hcap : 0 < max retryBackoffMax interval := lt_max_of_lt_left (by decide)
  exact lt_min (Nat.mul_pos hbase (Nat.two_pow_pos _)) hcap

/-- At most 300 intervals are waited. -/
lemma wantedBackoff_steps {intervalS : UInt32} (h : guardInterval intervalS ≠ 0) (failures : ℕ) :
    wantedBackoff (guardInterval intervalS) failures ⌈/⌉ guardInterval intervalS ≤ 300 := by
  have hsecond := second_le_guardInterval h
  rw [ceilDiv_le_iff_le_mul (Nat.pos_of_ne_zero h)]
  refine (min_le_right _ _).trans (max_le ?_ (Nat.le_mul_of_pos_right _ (by decide)))
  rw [retryBackoffMax, Nat.mul_comm]
  exact Nat.mul_le_mul_right 300 hsecond

/-- At least one is. -/
lemma one_le_steps {interval : ℕ} (h : interval ≠ 0) (failures : ℕ) :
    1 ≤ wantedBackoff interval failures ⌈/⌉ interval := by
  by_contra hnone
  have hle : wantedBackoff interval failures ⌈/⌉ interval ≤ 0 := by omega
  rw [ceilDiv_le_iff_le_mul (Nat.pos_of_ne_zero h), mul_zero] at hle
  exact absurd hle (not_le.mpr (wantedBackoff_pos interval failures))

/-- **The wait** is what is wanted, rounded up to whole intervals. -/
lemma retryBackoff_eq (intervalS : UInt32) (failures : ℕ) :
    retryBackoff (guardInterval intervalS) failures =
      roundUp (guardInterval intervalS) (wantedBackoff (guardInterval intervalS) failures) := by
  rw [retryBackoff, durationMul_doublings, ← wantedBackoff, roundUp]
  split_ifs with hzero
  · rfl
  · have hsteps := wantedBackoff_steps hzero failures
    have hlt : wantedBackoff (guardInterval intervalS) failures ⌈/⌉ guardInterval intervalS <
        2 ^ 32 := lt_of_le_of_lt hsteps (by decide)
    dsimp only
    rw [max_eq_left (one_le_steps hzero failures), if_pos hlt]
    refine min_eq_left ?_
    calc guardInterval intervalS *
          (wantedBackoff (guardInterval intervalS) failures ⌈/⌉ guardInterval intervalS)
        ≤ 2 ^ 32 * second * 300 := Nat.mul_le_mul (guardInterval_lt intervalS).le hsteps
      _ ≤ durationMax := by decide

/-- More failures, no shorter wait. -/
lemma retryBackoff_mono (intervalS : UInt32) {m n : ℕ} (h : m ≤ n) :
    retryBackoff (guardInterval intervalS) m ≤ retryBackoff (guardInterval intervalS) n := by
  have hdoublings : min (m - 1) 16 ≤ min (n - 1) 16 := by omega
  rw [retryBackoff_eq, retryBackoff_eq]
  refine roundUp_mono _ (min_le_min_right _ (Nat.mul_le_mul_left _ ?_))
  exact Nat.pow_le_pow_right (by decide) hdoublings

/-- The wait is a whole number of intervals. -/
lemma dvd_retryBackoff {intervalS : UInt32} (h : guardInterval intervalS ≠ 0) (n : ℕ) :
    guardInterval intervalS ∣ retryBackoff (guardInterval intervalS) n := by
  rw [retryBackoff_eq, roundUp, if_neg h]
  exact dvd_mul_right _ _

/-- The wait is at least the interval and 30 seconds. -/
lemma le_retryBackoff (intervalS : UInt32) (n : ℕ) :
    max (guardInterval intervalS) retryBackoffMin ≤ retryBackoff (guardInterval intervalS) n := by
  rw [retryBackoff_eq]
  refine le_trans (le_min ?_ ?_) (le_roundUp _ _)
  · exact Nat.le_mul_of_pos_right _ (Nat.two_pow_pos _)
  · exact max_le (le_max_right _ _) (le_max_of_le_left (by decide))

/-- The wait is at most the interval or 300 seconds, rounded up. -/
lemma retryBackoff_le (intervalS : UInt32) (n : ℕ) :
    retryBackoff (guardInterval intervalS) n ≤
      roundUp (guardInterval intervalS) (max (guardInterval intervalS) retryBackoffMax) := by
  rw [retryBackoff_eq, max_comm]
  exact roundUp_mono _ (min_le_right _ _)

example : [1, 2, 3, 4, 5, 6].map (fun n => retryBackoff (guardInterval 5) n / second) =
    [30, 60, 120, 240, 300, 300] := by decide

/-- A count that saturates at 32 bits waits as long. -/
lemma retryBackoff_saturated (interval n : ℕ) :
    retryBackoff interval (min n (2 ^ 32 - 1)) = retryBackoff interval n := by
  have hdoublings : min (min n (2 ^ 32 - 1) - 1) 16 = min (n - 1) 16 := by omega
  rw [retryBackoff, retryBackoff, hdoublings]

end SkylineSpeeder
