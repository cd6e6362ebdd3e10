import SkylineSpeeder.Cc.Window
import SkylineSpeeder.Machine.Bisect

/-!
How well `skyline_cube_root` resolves the time constant `K`.

* `cubeRootLoop_toNat`: the loop is a bisection over the numbers whose cube is at most the
  value, and nothing in it wraps (`CubeRootFits`);
* `ResolvesToMs`: what its comment promises for the difference of two windows;
* `cubeRoot_within`: what ten steps give, 133 milliseconds;
* `cubeRootGrid`: the numbers that ten steps can return;
* `cubeRoot_resolves_iff`: the promise is kept if and only if the root of the value is one of
  them, or the next number.
-/

namespace SkylineSpeeder

open Bisect

/-- Nothing wraps in the loop: no difference, no product, no sum. -/
def CubeRootFits (value : UInt64) : ℕ → UInt64 → UInt64 → Prop
  | 0, _, _ => True
  | steps + 1, low, high =>
      let middle := low + ((high - low) >>> 1)
      low ≤ high ∧ low.toNat + (high - low).toNat / 2 < 2 ^ 64 ∧
        middle.toNat * middle.toNat * middle.toNat < 2 ^ 64 ∧ middle.toNat + 1 < 2 ^ 64 ∧
        if middle * middle * middle ≤ value then CubeRootFits value steps (middle + 1) high
        else CubeRootFits value steps low middle

/-- The cube is at most the value. -/
def cubeLe (value m : ℕ) : Bool := m ^ 3 ≤ value

lemma cubeLe_downward (value : ℕ) : Downward (cubeLe value) := by
  intro m n hmn hn
  rw [cubeLe, decide_eq_true_eq] at *
  exact (Nat.pow_le_pow_left hmn 3).trans hn

/-- A cube of the interval is a number of 64 bits. -/
lemma cube_lt {m : ℕ} (h : m ≤ 135722) : m * m * m < 2 ^ 64 :=
  calc m * m * m
      ≤ 135722 * 135722 * 135722 := Nat.mul_le_mul (Nat.mul_le_mul h h) h
    _ < 2 ^ 64 := by decide

lemma toNat_cube {m : UInt64} (h : m.toNat ≤ 135722) : (m * m * m).toNat = m.toNat ^ 3 := by
  have hcube := cube_lt h
  have hsquare : m.toNat * m.toNat < 2 ^ 64 :=
    lt_of_le_of_lt (Nat.mul_le_mul h h) (by decide)
  rw [UInt64.toNat_mul, UInt64.toNat_mul, Nat.mod_eq_of_lt hsquare, Nat.mod_eq_of_lt hcube,
    pow_succ, pow_two]

/-- **The loop** bisects, and nothing in it wraps. -/
lemma cubeRootLoop_toNat {value low high : UInt64} {steps : ℕ}
    (hroom : Room steps low.toNat high.toNat) (hhigh : high.toNat ≤ 135722) :
    (cubeRootLoop value steps low high).toNat =
        bisect (cubeLe value.toNat) steps low.toNat high.toNat ∧
      CubeRootFits value steps low high := by
  induction steps generalizing low high with
  | zero => exact ⟨rfl, trivial⟩
  | succ steps ih =>
      have hle := hroom.le
      have hdiff : (high - low).toNat = high.toNat - low.toNat :=
        UInt64.toNat_sub_of_le _ _ (UInt64.le_iff_toNat_le.mpr hle)
      -- nothing wraps below 2^64
      have hmiddle : (low + ((high - low) >>> 1)).toNat =
          low.toNat + (high.toNat - low.toNat) / 2 := by
        have hone : (1 : UInt64).toNat % 64 = 1 := rfl
        rw [UInt64.toNat_add, UInt64.toNat_shiftRight, hdiff, hone, Nat.shiftRight_one]
        omega
      have hbound : (low + ((high - low) >>> 1)).toNat ≤ 135722 := by omega
      have hnext : (low + ((high - low) >>> 1) + 1).toNat =
          low.toNat + (high.toNat - low.toNat) / 2 + 1 := by
        rw [UInt64.toNat_add, hmiddle]
        have hone : (1 : UInt64).toNat = 1 := rfl
        omega
      have hcmp : (low + ((high - low) >>> 1)) * (low + ((high - low) >>> 1)) *
            (low + ((high - low) >>> 1)) ≤ value ↔
          cubeLe value.toNat (low.toNat + (high.toNat - low.toNat) / 2) = true := by
        rw [UInt64.le_iff_toNat_le, toNat_cube hbound, hmiddle, cubeLe, decide_eq_true_eq]
      have hlower := @ih low (low + ((high - low) >>> 1)) (by rw [hmiddle]; exact hroom.lower)
        hbound
      have hupper := @ih (low + ((high - low) >>> 1) + 1) high
        (by rw [hnext]; exact hroom.upper) hhigh
      rw [hmiddle] at hlower
      rw [hnext] at hupper
      rw [cubeRootLoop, bisect, CubeRootFits]
      refine ⟨?_, UInt64.le_iff_toNat_le.mpr hle, by omega, cube_lt hbound, by omega, ?_⟩
      · by_cases h : cubeLe value.toNat (low.toNat + (high.toNat - low.toNat) / 2) = true
        · rw [if_pos (hcmp.mpr h), if_pos h]
          exact hupper.1
        · rw [if_neg (fun hc => h (hcmp.mp hc)), if_neg h]
          exact hlower.1
      · split_ifs
        · exact hupper.2
        · exact hlower.2

/-! ### What ten steps resolve -/

/-- The value that the caller passes, for the difference of two windows. -/
def cubeRootValue (difference : UInt64) : UInt64 := difference * 2500000000

/-- What the comment of `skyline_cube_root` promises: the root to the millisecond, from
arithmetic that does not wrap, and later for larger differences. -/
structure ResolvesToMs (difference : UInt64) : Prop where
  fits : CubeRootFits (cubeRootValue difference) 10 0 135722
  lower : (skylineCubeRoot (cubeRootValue difference)).toNat ^ 3 ≤ (cubeRootValue difference).toNat
  upper : (cubeRootValue difference).toNat <
    ((skylineCubeRoot (cubeRootValue difference)).toNat + 2) ^ 3
  mono : ∀ smaller ≤ difference,
    skylineCubeRoot (cubeRootValue smaller) ≤ skylineCubeRoot (cubeRootValue difference)

/-- The numbers that ten steps can return. -/
def cubeRootGrid : List ℕ := (starts 10 0 135722).map (· - 1)

lemma room_cubeRoot : Room 10 0 135722 := by
  rw [Room]
  decide

variable {difference : UInt64}

lemma cubeRootValue_toNat (h : difference ≤ 1000000) :
    (cubeRootValue difference).toNat = difference.toNat * 2500000000 := by
  rw [UInt64.le_iff_toNat_le] at h
  have hbound : (1000000 : UInt64).toNat = 1000000 := rfl
  have hfactor : (2500000000 : UInt64).toNat = 2500000000 := rfl
  rw [cubeRootValue, UInt64.toNat_mul, hfactor, Nat.mod_eq_of_lt]
  omega

/-- The root is the end of the bisection, less one. -/
lemma skylineCubeRoot_toNat (value : UInt64) :
    (skylineCubeRoot value).toNat = bisect (cubeLe value.toNat) 10 0 135722 - 1 := by
  have hloop := (@cubeRootLoop_toNat value 0 135722 10 room_cubeRoot le_rfl).1
  have hzero : (0 : UInt64).toNat = 0 := rfl
  have hhigh : (135722 : UInt64).toNat = 135722 := rfl
  rw [hzero, hhigh] at hloop
  rw [skylineCubeRoot, ← hloop]
  by_cases h : cubeRootLoop value 10 0 135722 = 0
  · simp [h]
  · have hone : (1 : UInt64) ≤ cubeRootLoop value 10 0 135722 := by
      rw [UInt64.le_iff_toNat_le]
      have hne : (cubeRootLoop value 10 0 135722).toNat ≠ 0 := fun h0 =>
        h (UInt64.toNat_inj.mp h0)
      have : (1 : UInt64).toNat = 1 := rfl
      omega
    simp only [ne_eq, h, not_false_eq_true, if_true]
    rw [UInt64.toNat_sub_of_le _ _ hone]
    rfl

lemma skylineCubeRoot_mem_grid (value : UInt64) : (skylineCubeRoot value).toNat ∈ cubeRootGrid := by
  rw [skylineCubeRoot_toNat]
  exact List.mem_map_of_mem (bisect_mem_starts _ _ _ _)

lemma skylineCubeRoot_lower (value : UInt64) : (skylineCubeRoot value).toNat ^ 3 ≤ value.toNat := by
  rw [skylineCubeRoot_toNat]
  rcases @holds_below (cubeLe value.toNat) 10 0 135722 (.inl rfl) with h | h
  · simp [h]
  · exact of_decide_eq_true h

/-- No number of the grid that is larger has its cube below the value. -/
lemma le_skylineCubeRoot {value : UInt64} {g : ℕ} (hg : g ∈ cubeRootGrid)
    (hcube : g ^ 3 ≤ value.toNat) : g ≤ (skylineCubeRoot value).toNat := by
  obtain ⟨n, hn, rfl⟩ := List.mem_map.mp hg
  have hle := le_bisect (cubeLe_downward value.toNat) room_cubeRoot hn
    (.inr (decide_eq_true hcube))
  rw [skylineCubeRoot_toNat]
  exact Nat.sub_le_sub_right hle 1

lemma skylineCubeRoot_mono {value value' : UInt64} (h : value ≤ value') :
    skylineCubeRoot value ≤ skylineCubeRoot value' := by
  rw [UInt64.le_iff_toNat_le] at h ⊢
  rw [skylineCubeRoot_toNat, skylineCubeRoot_toNat]
  refine Nat.sub_le_sub_right (bisect_mono (cubeLe_downward _) room_cubeRoot fun n hn => ?_) 1
  exact decide_eq_true ((of_decide_eq_true hn).trans h)

/-- **What ten steps give**: the root to within 133 milliseconds. -/
theorem cubeRoot_within (h : difference ≤ 1000000) :
    (cubeRootValue difference).toNat <
      ((skylineCubeRoot (cubeRootValue difference)).toNat + 133) ^ 3 := by
  have hvalue := cubeRootValue_toNat h
  have hbound : difference.toNat ≤ 1000000 := UInt64.le_iff_toNat_le.mp h
  have hhigh : cubeLe (cubeRootValue difference).toNat 135722 = false := by
    rw [cubeLe, decide_eq_false_iff_not, hvalue]
    omega
  have hend := not_holds_add (cubeLe_downward _) room_cubeRoot hhigh
  rw [cubeLe, decide_eq_false_iff_not, not_le] at hend
  refine hend.trans_le (Nat.pow_le_pow_left ?_ 3)
  rw [skylineCubeRoot_toNat]
  omega

/-- **The promise is kept** if and only if the value lies in `[g³, (g + 2)³)` for one of the
numbers `g` that ten steps can return. -/
theorem cubeRoot_resolves_iff (difference : UInt64) (h : difference ≤ 1000000) :
    ResolvesToMs difference ↔ ∃ g ∈ cubeRootGrid,
      g ^ 3 ≤ difference.toNat * 2500000000 ∧ difference.toNat * 2500000000 < (g + 2) ^ 3 := by
  rw [← cubeRootValue_toNat h]
  constructor
  · intro hres
    exact ⟨_, skylineCubeRoot_mem_grid _, hres.lower, hres.upper⟩
  · rintro ⟨g, hg, hlower, hupper⟩
    have hle := le_skylineCubeRoot hg hlower
    refine ⟨(@cubeRootLoop_toNat _ 0 135722 10 room_cubeRoot le_rfl).2, skylineCubeRoot_lower _,
      hupper.trans_le (Nat.pow_le_pow_left (Nat.add_le_add_right hle 2) 3),
      fun smaller hsmaller => ?_⟩
    refine skylineCubeRoot_mono ?_
    rw [UInt64.le_iff_toNat_le, cubeRootValue_toNat h,
      cubeRootValue_toNat (UInt64.le_trans hsmaller h)]
    exact Nat.mul_le_mul_right _ (UInt64.le_iff_toNat_le.mp hsmaller)

/-- Two windows that differ by 40 packets: the root is 4641, and 4640 is returned. -/
theorem cubeRoot_resolves_forty : ResolvesToMs 40 :=
  (cubeRoot_resolves_iff 40 (by decide)).mpr ⟨4640, by decide +kernel, by decide, by decide⟩

/-- Two windows that differ by one packet: the root is 1357, and 1325 is returned. -/
theorem cubeRoot_not_resolves_one : ¬ ResolvesToMs 1 := by
  intro h
  exact absurd h.upper (by decide)

end SkylineSpeeder
