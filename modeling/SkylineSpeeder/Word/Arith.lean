import Mathlib.Tactic

/-!
Fixed-width unsigned arithmetic read in the natural numbers: the `min_t` and
`max_t` macros of kernel code and the rules that move a word expression to
`ℕ` as long as nothing wraps.

* `minT`, `maxT`: the two macros, at any type with a decidable `<`;
* `toNat_minT`, `toNat_maxT`: their values;
* `nat_div_le_div_of_mul_le_mul`, `U64.mul_div_le_mul_div`: quotients and scaled
  products are monotone, as long as the larger one fits;
* `smooth`, `smoothGap`: a truncating moving average, and how far it is from standing
  still; `smoothGap_smooth` brings it there in a number of steps no larger than that;
* `U64.toNat_limit`, `U64.toNat_floor`: the limits `if (x > cap) x = cap` and
  `if (x < least) x = least`;
* `saturatingAdd`, `saturatingMul`, of 32 and of 64 bits: the sums and products
  that stop at the largest value instead of wrapping;
* `U32.serial_le_iff`, `U32.serial_lt_iff`: two counters compared by the sign of their
  wrapped difference, right as long as they are less than half the range apart.
-/

namespace Word

/-- The macro `min_t(type, left, right)`. -/
def minT {α : Type*} [LT α] [DecidableLT α] (left right : α) : α :=
  if left < right then left else right

/-- The macro `max_t(type, left, right)`. -/
def maxT {α : Type*} [LT α] [DecidableLT α] (left right : α) : α :=
  if left > right then left else right

/-- Quotients compare by their cross products. -/
lemma nat_div_le_div_of_mul_le_mul {a b c d : ℕ} (hb : 0 < b) (hd : 0 < d)
    (h : a * d ≤ c * b) : a / b ≤ c / d := by
  rw [Nat.le_div_iff_mul_le hd]
  refine Nat.le_of_mul_le_mul_right ?_ hb
  calc a / b * d * b = a / b * b * d := by ring
    _ ≤ a * d := Nat.mul_le_mul_right d (Nat.div_mul_le_self a b)
    _ ≤ c * b := h

/-! ### Truncating averages -/

/-- A moving average of weight `k : 1`, rounded down. -/
def smooth (k s r : ℕ) : ℕ := (k * r + s) / (k + 1)

/-- How far an average is from `[s - k, s]`, where it stands still. -/
def smoothGap (k s r : ℕ) : ℕ := (r - s) + (s - k - r)

/-- An average of values up to a bound stays below it. -/
lemma smooth_le {k s r b : ℕ} (hs : s ≤ b) (hr : r ≤ b) : smooth k s r ≤ b := by
  refine Nat.div_le_of_le_mul ?_
  calc k * r + s ≤ k * b + b := Nat.add_le_add (Nat.mul_le_mul_left k hr) hs
    _ = (k + 1) * b := by ring

/-- The average stands still where the gap is zero. -/
lemma smooth_eq_self {k s r : ℕ} (h : smoothGap k s r = 0) : smooth k s r = r := by
  have hgap : r ≤ s ∧ s ≤ r + k := by
    rw [smoothGap] at h
    omega
  refine Nat.div_eq_of_lt_le ?_ ?_
  · calc r * (k + 1) = k * r + r := by ring
      _ ≤ k * r + s := by omega
  · calc k * r + s < k * r + (r + k + 1) := by omega
      _ = (r + 1) * (k + 1) := by ring

/-- Each step closes the gap by at least one: from above the average falls to `s`, from
below it rises to `s - k`. -/
lemma smoothGap_smooth (k s r : ℕ) : smoothGap k s (smooth k s r) ≤ smoothGap k s r - 1 := by
  obtain hzero | hpos := Nat.eq_zero_or_pos (smoothGap k s r)
  · rw [smooth_eq_self hzero]
    omega
  obtain habove | hbelow := Nat.lt_or_ge s r
  · have hge : s ≤ smooth k s r := by
      refine (Nat.le_div_iff_mul_le (Nat.succ_pos k)).mpr ?_
      calc s * (k + 1) = k * s + s := by ring
        _ ≤ k * r + s := Nat.add_le_add_right (Nat.mul_le_mul_left k habove.le) s
    have hlt : smooth k s r < r := by
      refine (Nat.div_lt_iff_lt_mul (Nat.succ_pos k)).mpr ?_
      calc k * r + s < k * r + r := by omega
        _ = r * (k + 1) := by ring
    rw [smoothGap, smoothGap]
    omega
  · have hle : smooth k s r ≤ s := smooth_le le_rfl hbelow
    have hgt : r + 1 ≤ smooth k s r := by
      have hfar : r + k + 1 ≤ s := by
        rw [smoothGap] at hpos
        omega
      refine (Nat.le_div_iff_mul_le (Nat.succ_pos k)).mpr ?_
      calc (r + 1) * (k + 1) = k * r + (r + k + 1) := by ring
        _ ≤ k * r + s := by omega
    rw [smoothGap, smoothGap]
    omega

/-! ### 32-bit words -/

namespace U32

lemma toNat_minT (a b : UInt32) : (minT a b).toNat = min a.toNat b.toNat := by
  unfold minT
  split <;> rename_i h <;> rw [UInt32.lt_iff_toNat_lt] at h <;> omega

lemma toNat_maxT (a b : UInt32) : (maxT a b).toNat = max a.toNat b.toNat := by
  unfold maxT
  split <;> rename_i h <;> rw [gt_iff_lt, UInt32.lt_iff_toNat_lt] at h <;> omega

lemma and_or_distrib_right (a b c : UInt32) : (a ||| b) &&& c = (a &&& c) ||| (b &&& c) := by
  apply UInt32.toNat.inj
  simp only [UInt32.toNat_and, UInt32.toNat_or, Nat.and_or_distrib_right]

lemma and_or_self_right (a b : UInt32) : (a &&& b) ||| b = b := by
  apply UInt32.toNat.inj
  rw [UInt32.toNat_or, UInt32.toNat_and]
  apply Nat.eq_of_testBit_eq
  intro i
  rw [Nat.testBit_or, Nat.testBit_and]
  cases a.toNat.testBit i <;> simp

/-- The sign bit. -/
lemma zero_le_toInt32_iff (x : UInt32) : 0 ≤ x.toInt32 ↔ x.toNat < 2 ^ 31 := by
  have hbits : x.toInt32.toInt = x.toBitVec.toInt := rfl
  have hzero : (0 : Int32).toInt = 0 := rfl
  have hnat : x.toBitVec.toNat = x.toNat := rfl
  have hlt := x.toNat_lt
  rw [Int32.le_iff_toInt_le, hbits, BitVec.toInt_eq_toNat_cond, hzero, hnat]
  split <;> omega

/-- Counters kept modulo `2^32` compare by the sign of their difference, across any
number of wraps, as long as they are less than half the range apart. -/
lemma serial_le_iff {m n : ℕ} (hn : n < m + 2 ^ 31) (hm : m ≤ n + 2 ^ 31) :
    0 ≤ (UInt32.ofNat n - UInt32.ofNat m).toInt32 ↔ m ≤ n := by
  rw [zero_le_toInt32_iff, UInt32.toNat_sub, UInt32.toNat_ofNat', UInt32.toNat_ofNat']
  omega

/-- Neither zero nor negative. -/
lemma zero_lt_toInt32_iff (x : UInt32) : 0 < x.toInt32 ↔ 0 < x.toNat ∧ x.toNat < 2 ^ 31 := by
  have hbits : x.toInt32.toInt = x.toBitVec.toInt := rfl
  have hzero : (0 : Int32).toInt = 0 := rfl
  have hnat : x.toBitVec.toNat = x.toNat := rfl
  have hlt := x.toNat_lt
  rw [Int32.lt_iff_toInt_lt, hbits, BitVec.toInt_eq_toNat_cond, hzero, hnat]
  split <;> omega

/-- The same for positions on a line that is longer than the range, in either direction. -/
lemma serial_lt_iff {a b : UInt32} {m n : ℤ} (ha : m ≡ a.toNat [ZMOD 2 ^ 32])
    (hb : n ≡ b.toNat [ZMOD 2 ^ 32]) (hnear : |m - n| < 2 ^ 31) :
    0 < (a - b).toInt32 ↔ n < m := by
  have halt := a.toNat_lt
  have hblt := b.toNat_lt
  rw [abs_lt] at hnear
  rw [Int.ModEq] at ha hb
  rw [zero_lt_toInt32_iff, UInt32.toNat_sub]
  omega

/-- The sum, or the largest value where it does not fit. -/
def saturatingAdd (a b : UInt32) : UInt32 :=
  if a.toNat + b.toNat < 2 ^ 32 then a + b else 0xffffffff

/-- The product, or the largest value where it does not fit. -/
def saturatingMul (a b : UInt32) : UInt32 :=
  if a.toNat * b.toNat < 2 ^ 32 then a * b else 0xffffffff

/-- One more than anything is not zero. -/
lemma saturatingAdd_one_ne_zero (a : UInt32) : saturatingAdd a 1 ≠ 0 := by
  intro h
  have hn := congrArg UInt32.toNat h
  rw [saturatingAdd] at hn
  split at hn
  · rename_i hfit
    rw [UInt32.toNat_add, Nat.mod_eq_of_lt hfit, UInt32.toNat_one, UInt32.toNat_zero] at hn
    omega
  · simp at hn

/-- A product that fits is the product. -/
lemma toNat_saturatingMul_of_lt {a b : UInt32} (h : a.toNat * b.toNat < 2 ^ 32) :
    (saturatingMul a b).toNat = a.toNat * b.toNat := by
  rw [saturatingMul, if_pos h, UInt32.toNat_mul, Nat.mod_eq_of_lt h]

end U32

/-! ### 64-bit words -/

namespace U64

lemma toNat_minT (a b : UInt64) : (minT a b).toNat = min a.toNat b.toNat := by
  unfold minT
  split <;> rename_i h <;> rw [UInt64.lt_iff_toNat_lt] at h <;> omega

lemma toNat_maxT (a b : UInt64) : (maxT a b).toNat = max a.toNat b.toNat := by
  unfold maxT
  split <;> rename_i h <;> rw [gt_iff_lt, UInt64.lt_iff_toNat_lt] at h <;> omega

/-- A product that fits is the product. -/
lemma toNat_mul_of_lt {a b : UInt64} (h : a.toNat * b.toNat < 2 ^ 64) :
    (a * b).toNat = a.toNat * b.toNat := by
  rw [UInt64.toNat_mul, Nat.mod_eq_of_lt h]

/-- The sum, or the largest value where it does not fit. -/
def saturatingAdd (a b : UInt64) : UInt64 :=
  if a.toNat + b.toNat < 2 ^ 64 then a + b else 0xffffffffffffffff

/-- The product, or the largest value where it does not fit. -/
def saturatingMul (a b : UInt64) : UInt64 :=
  if a.toNat * b.toNat < 2 ^ 64 then a * b else 0xffffffffffffffff

/-- A product of two positive numbers is positive. -/
lemma saturatingMul_pos {a b : UInt64} (ha : 0 < a.toNat) (hb : 0 < b.toNat) :
    0 < (saturatingMul a b).toNat := by
  rw [saturatingMul]
  split
  · rename_i hfit
    rw [toNat_mul_of_lt hfit]
    exact Nat.mul_pos ha hb
  · decide

/-- A scaled product is monotone in its factor, as long as the larger product fits. -/
lemma mul_div_le_mul_div {x a b : UInt64} (hab : a.toNat ≤ b.toNat)
    (hfit : x.toNat * b.toNat < 2 ^ 64) (scale : UInt64) :
    (x * a / scale).toNat ≤ (x * b / scale).toNat := by
  have hle : x.toNat * a.toNat ≤ x.toNat * b.toNat := Nat.mul_le_mul_left _ hab
  rw [UInt64.toNat_div, UInt64.toNat_div, toNat_mul_of_lt (by omega), toNat_mul_of_lt hfit]
  exact Nat.div_le_div_right hle

/-- A limit from above is a minimum. -/
lemma toNat_limit (a cap : UInt64) :
    (if a > cap then cap else a).toNat = min cap.toNat a.toNat := by
  split_ifs with h
  all_goals rw [gt_iff_lt, UInt64.lt_iff_toNat_lt] at h
  all_goals omega

/-- A limit from below is a maximum. -/
lemma toNat_floor (a least : UInt64) :
    (if a < least then least else a).toNat = max least.toNat a.toNat := by
  split_ifs with h
  all_goals rw [UInt64.lt_iff_toNat_lt] at h
  all_goals omega

/-- So a limit from above is monotone. -/
lemma limit_le_limit {a b : UInt64} (hab : a.toNat ≤ b.toNat) (cap : UInt64) :
    (if a > cap then cap else a).toNat ≤ (if b > cap then cap else b).toNat := by
  rw [toNat_limit, toNat_limit]
  exact min_le_min_left _ hab

/-- And so is a limit from below. -/
lemma floor_le_floor {a b : UInt64} (hab : a.toNat ≤ b.toNat) (least : UInt64) :
    (if a < least then least else a).toNat ≤ (if b < least then least else b).toNat := by
  rw [toNat_floor, toNat_floor]
  exact max_le_max_left _ hab

end U64

end Word
