import Mathlib.Tactic
import Mathlib.Data.Nat.ModEq

/-!
One's-complement sums of 16-bit words, as the checksums of the Internet protocols are made
of them.

* `onesAdd`: the sum with its carry added back in; `onesAdd_modEq` reads it modulo
  `2^16 - 1`;
* `onesSum`: the sum of a list, and `onesSum_eq_ones_iff`, when it is all ones;
* `incremental`: the update of a checksum for one changed word, and
  `onesSum_set_incremental`, which says that it keeps a sum of all ones.
-/

namespace Word

/-- `csum16_add`: the carry out of the top bit is added at the bottom. -/
def onesAdd (a b : UInt16) : UInt16 := if a + b < b then a + b + 1 else a + b

lemma toNat_onesAdd (a b : UInt16) :
    (onesAdd a b).toNat =
      if a.toNat + b.toNat < 65536 then a.toNat + b.toNat else a.toNat + b.toNat - 65535 := by
  have ha := a.toNat_lt
  have hb := b.toNat_lt
  rw [onesAdd]
  by_cases hcarry : a + b < b
  · rw [if_pos hcarry]
    rw [UInt16.lt_iff_toNat_lt, UInt16.toNat_add] at hcarry
    rw [UInt16.toNat_add, UInt16.toNat_add, UInt16.toNat_one]
    split_ifs <;> omega
  · rw [if_neg hcarry]
    rw [UInt16.lt_iff_toNat_lt, UInt16.toNat_add] at hcarry
    rw [UInt16.toNat_add]
    split_ifs <;> omega

lemma onesAdd_modEq (a b : UInt16) : (onesAdd a b).toNat ≡ a.toNat + b.toNat [MOD 65535] := by
  have ha := a.toNat_lt
  have hb := b.toNat_lt
  rw [toNat_onesAdd, Nat.ModEq]
  split_ifs <;> omega

lemma onesAdd_eq_zero_iff {a b : UInt16} : onesAdd a b = 0 ↔ a = 0 ∧ b = 0 := by
  have ha := a.toNat_lt
  have hb := b.toNat_lt
  rw [← UInt16.toNat_inj, ← UInt16.toNat_inj (a := a), ← UInt16.toNat_inj (a := b),
    toNat_onesAdd, UInt16.toNat_zero]
  split_ifs <;> omega

/-- The sum of a list of words. -/
def onesSum : List UInt16 → UInt16
  | [] => 0
  | w :: ws => onesAdd w (onesSum ws)

/-- The sum of the words as numbers. -/
def natSum (ws : List UInt16) : ℕ := (ws.map UInt16.toNat).sum

@[simp] lemma natSum_cons (w : UInt16) (ws : List UInt16) :
    natSum (w :: ws) = w.toNat + natSum ws := rfl

lemma onesSum_modEq (ws : List UInt16) : (onesSum ws).toNat ≡ natSum ws [MOD 65535] := by
  induction ws with
  | nil => rfl
  | cons w ws ih => exact (onesAdd_modEq w _).trans (Nat.ModEq.add_left _ ih)

lemma onesSum_eq_zero_iff {ws : List UInt16} : onesSum ws = 0 ↔ ∀ w ∈ ws, w = 0 := by
  induction ws with
  | nil => simp [onesSum]
  | cons w ws ih => rw [onesSum, onesAdd_eq_zero_iff, ih, List.forall_mem_cons]

/-- A sum is all ones if it is a multiple of `2^16 - 1` and the words are not all zero. -/
lemma onesSum_eq_ones_iff {ws : List UInt16} :
    onesSum ws = 0xffff ↔ 65535 ∣ natSum ws ∧ ∃ w ∈ ws, w ≠ 0 := by
  have hlt := (onesSum ws).toNat_lt
  have hsum := onesSum_modEq ws
  have hzero : (∃ w ∈ ws, w ≠ 0) ↔ (onesSum ws).toNat ≠ 0 := by
    rw [← UInt16.toNat_zero, ne_eq, UInt16.toNat_inj, onesSum_eq_zero_iff]
    push Not
    rfl
  rw [hzero, ← UInt16.toNat_inj, Nat.dvd_iff_mod_eq_zero, ← hsum]
  show (onesSum ws).toNat = 65535 ↔ _
  omega

/-- The words after one of them was changed. -/
lemma natSum_set {ws : List UInt16} {i : ℕ} {old : UInt16} (h : ws[i]? = some old)
    (new : UInt16) : natSum (ws.set i new) + old.toNat = natSum ws + new.toNat := by
  induction ws generalizing i with
  | nil => simp at h
  | cons w ws ih =>
      cases i with
      | zero =>
          obtain rfl : w = old := by simpa using h
          rw [List.set_cons_zero, natSum_cons, natSum_cons]
          omega
      | succ i =>
          have hrest := ih (i := i) (by simpa using h)
          rw [List.set_cons_succ, natSum_cons, natSum_cons]
          omega

/-- The checksum after one word changed: equation 3 of RFC 1624, `~(~HC + ~m + m')`. -/
def incremental (check old new : UInt16) : UInt16 :=
  ~~~ onesAdd (onesAdd (~~~check) (~~~old)) new

lemma toNat_not (a : UInt16) : (~~~a).toNat = 65535 - a.toNat := by
  rw [UInt16.toNat_not]
  rfl

lemma incremental_modEq (check old new : UInt16) :
    (incremental check old new).toNat + new.toNat ≡ check.toNat + old.toNat [MOD 65535] := by
  have hcheck := check.toNat_lt
  have hold := old.toNat_lt
  have hsum := onesAdd_modEq (onesAdd (~~~check) (~~~old)) new
  have hinner := onesAdd_modEq (~~~check) (~~~old)
  have hlt := (onesAdd (onesAdd (~~~check) (~~~old)) new).toNat_lt
  have hlt' := (onesAdd (~~~check) (~~~old)).toNat_lt
  have hnew := new.toNat_lt
  rw [toNat_not, toNat_not] at hinner
  rw [incremental, toNat_not]
  rw [Nat.ModEq] at hsum hinner ⊢
  omega

/-- **The incremental update keeps a sum of all ones**, as long as the words are not all
zero after it. -/
theorem onesSum_set_incremental {ws : List UInt16} {i j : ℕ} {old check : UInt16}
    (hvalid : onesSum ws = 0xffff) (hij : i ≠ j) (hi : ws[i]? = some old)
    (hj : ws[j]? = some check) (new : UInt16)
    (hne : ∃ w ∈ (ws.set i new).set j (incremental check old new), w ≠ 0) :
    onesSum ((ws.set i new).set j (incremental check old new)) = 0xffff := by
  have hj' : (ws.set i new)[j]? = some check := by rw [List.getElem?_set_ne hij, hj]
  have hfirst := natSum_set hi new
  have hsecond := natSum_set hj' (incremental check old new)
  have hmod := incremental_modEq check old new
  obtain ⟨hdvd, -⟩ := onesSum_eq_ones_iff.mp hvalid
  refine onesSum_eq_ones_iff.mpr ⟨?_, hne⟩
  rw [Nat.ModEq] at hmod
  omega

end Word
