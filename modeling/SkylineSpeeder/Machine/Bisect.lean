import Mathlib.Tactic

/-!
A bisection that stops after a fixed number of steps, however much is left of its interval.

* `bisect`: the first number from which on the predicate was not seen to hold;
* `starts`: where such a search can end at all;
* `bisect_mem_starts`, `le_bisect`: it ends at the last of them below which the predicate
  holds;
* `bisect_mono`: the further the predicate holds, the later it ends;
* `not_holds_add`: how much may be left.
-/

namespace Bisect

/-- `steps` halvings of `low..high`; above the middle if the predicate holds there. -/
def bisect (holds : ℕ → Bool) : ℕ → ℕ → ℕ → ℕ
  | 0, low, _ => low
  | steps + 1, low, high =>
      let middle := low + (high - low) / 2
      if holds middle then bisect holds steps (middle + 1) high else bisect holds steps low middle

/-- All the numbers at which `steps` halvings of `low..high` can end. -/
def starts : ℕ → ℕ → ℕ → List ℕ
  | 0, low, _ => [low]
  | steps + 1, low, high =>
      let middle := low + (high - low) / 2
      starts steps low middle ++ starts steps (middle + 1) high

variable {holds : ℕ → Bool} {steps low high : ℕ}

lemma bisect_mem_starts (holds : ℕ → Bool) (steps low high : ℕ) :
    bisect holds steps low high ∈ starts steps low high := by
  induction steps generalizing low high with
  | zero => simp [bisect, starts]
  | succ steps ih =>
      rw [bisect, starts]
      split_ifs
      · exact List.mem_append_right _ (ih _ _)
      · exact List.mem_append_left _ (ih _ _)

/-- There is room for all the steps. -/
def Room (steps low high : ℕ) : Prop := low + 2 ^ steps ≤ high + 1

lemma Room.lower (h : Room (steps + 1) low high) : Room steps low (low + (high - low) / 2) := by
  rw [Room, pow_succ] at *
  omega

lemma Room.upper (h : Room (steps + 1) low high) :
    Room steps (low + (high - low) / 2 + 1) high := by
  have hpos : 0 < 2 ^ steps := by positivity
  rw [Room, pow_succ] at *
  omega

lemma Room.le (h : Room steps low high) : low ≤ high := by
  have hpos : 0 < 2 ^ steps := by positivity
  rw [Room] at h
  omega

/-- The search ends in its interval. -/
lemma mem_starts_bounds (h : Room steps low high) {n : ℕ} (hn : n ∈ starts steps low high) :
    low ≤ n ∧ n ≤ high := by
  induction steps generalizing low high with
  | zero =>
      obtain rfl := List.mem_singleton.mp hn
      exact ⟨le_rfl, h.le⟩
  | succ steps ih =>
      have hle := h.le
      rw [starts] at hn
      rcases List.mem_append.mp hn with hn | hn
      · have := ih h.lower hn
        omega
      · have := ih h.upper hn
        omega

/-- Where the predicate holds once it holds everywhere below. -/
def Downward (holds : ℕ → Bool) : Prop := ∀ m n, m ≤ n → holds n = true → holds m = true

/-- Below the end of the search the predicate holds. -/
lemma holds_below (hlow : low = 0 ∨ holds (low - 1) = true) :
    bisect holds steps low high = 0 ∨ holds (bisect holds steps low high - 1) = true := by
  induction steps generalizing low high with
  | zero => exact hlow
  | succ steps ih =>
      rw [bisect]
      split_ifs with hmiddle
      · exact ih (.inr hmiddle)
      · exact ih hlow

/-- **The search ends last**: at no later number that it could end at does the predicate hold
below. -/
lemma le_bisect (hdown : Downward holds) (h : Room steps low high) {n : ℕ}
    (hn : n ∈ starts steps low high) (hbelow : n = 0 ∨ holds (n - 1) = true) :
    n ≤ bisect holds steps low high := by
  induction steps generalizing low high with
  | zero =>
      obtain rfl := List.mem_singleton.mp hn
      exact le_rfl
  | succ steps ih =>
      rw [starts] at hn
      rw [bisect]
      split_ifs with hmiddle
      · rcases List.mem_append.mp hn with hn | hn
        · have hle := (mem_starts_bounds h.lower hn).2
          have hge := (mem_starts_bounds h.upper (bisect_mem_starts holds _ _ _)).1
          omega
        · exact ih h.upper hn
      · rcases List.mem_append.mp hn with hn | hn
        · exact ih h.lower hn
        · have hge := (mem_starts_bounds h.upper hn).1
          rcases hbelow with rfl | hbelow
          · omega
          · exact absurd (hdown _ _ (by omega) hbelow) hmiddle

/-- The further the predicate holds, the later the search ends. -/
lemma bisect_mono {holds' : ℕ → Bool} (hdown' : Downward holds') (h : Room steps 0 high)
    (himp : ∀ n, holds n = true → holds' n = true) :
    bisect holds steps 0 high ≤ bisect holds' steps 0 high := by
  have hbelow := @holds_below holds steps 0 high (.inl rfl)
  exact le_bisect hdown' h (bisect_mem_starts holds _ _ _) (hbelow.imp_right (himp _))

/-- What is left of the interval: at most the length over the power of two. -/
lemma not_holds_add (hdown : Downward holds) (h : Room steps low high)
    (hhigh : holds high = false) :
    holds (bisect holds steps low high + (high - low) / 2 ^ steps) = false := by
  induction steps generalizing low high with
  | zero =>
      have hle := h.le
      rw [bisect, pow_zero, Nat.div_one, Nat.add_sub_cancel' hle]
      exact hhigh
  | succ steps ih =>
      have hle := h.le
      rw [bisect, pow_succ']
      split_ifs with hmiddle
      · have hrest := ih h.upper hhigh
        by_contra hholds
        rw [Bool.not_eq_false] at hholds
        refine absurd (hdown _ _ ?_ hholds) (by rw [hrest]; decide)
        rw [← Nat.div_div_eq_div_mul]
        exact Nat.add_le_add_left (Nat.div_le_div_right (by omega)) _
      · have hrest := ih h.lower (by simpa using hmiddle)
        rw [← Nat.div_div_eq_div_mul]
        rwa [Nat.add_sub_cancel_left] at hrest

end Bisect
