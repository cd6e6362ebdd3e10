import Mathlib.Tactic

/-!
Extrema over a sliding window, and the two devices that programs keep them with.

* `peak`: the largest of a list, `⊥` if it is empty; `peak_append`, `peak_flatten`
  take it apart;
* `Holds`: a register of `n` cells holds the newest `n` entries of a list;
  `Holds.shift` is the shift, and `Holds.scan_eq` says that a scan of the first cells
  finds the peak of the newest entries;
* `Lower`: a value is at most everything seen within a span of time; `Stamped.take`
  keeps one value and one stamp for it, and `Lower.take` says what that takes.
-/

namespace Windowed

/-! ### The largest of a list -/

section Peak

variable {α : Type*} [LinearOrder α] [OrderBot α]

/-- The largest entry, `⊥` if there is none. -/
def peak (xs : List α) : α := xs.foldr max ⊥

@[simp] lemma peak_nil : peak ([] : List α) = ⊥ := rfl

@[simp] lemma peak_cons (x : α) (xs : List α) : peak (x :: xs) = max x (peak xs) := rfl

lemma peak_append (xs ys : List α) : peak (xs ++ ys) = max (peak xs) (peak ys) := by
  induction xs with
  | nil => simp
  | cons x xs ih => rw [List.cons_append, peak_cons, peak_cons, ih, max_assoc]

/-- The largest entry of a list of lists. -/
lemma peak_flatten (xss : List (List α)) : peak xss.flatten = peak (xss.map peak) := by
  induction xss with
  | nil => rfl
  | cons xs xss ih => rw [List.flatten_cons, peak_append, List.map_cons, peak_cons, ih]

/-- The peak is the least bound. -/
lemma peak_le_iff {xs : List α} {b : α} : peak xs ≤ b ↔ ∀ x ∈ xs, x ≤ b := by
  induction xs with
  | nil => simp
  | cons x xs ih => rw [peak_cons, max_le_iff, ih, List.forall_mem_cons]

lemma le_peak_of_mem {x : α} {xs : List α} (h : x ∈ xs) : x ≤ peak xs := peak_le_iff.mp le_rfl x h

/-! ### A register -/

/-- The cells hold the newest entries of `xs`, which lists the newest first, and `⊥`
where it has no more. -/
def Holds {n : ℕ} (cells : Fin n → α) (xs : List α) : Prop := ∀ i : Fin n, cells i = xs.getD i ⊥

lemma holds_nil {n : ℕ} : Holds (fun _ : Fin n => (⊥ : α)) [] := fun _ => rfl

/-- A register holds its own cells. -/
lemma holds_ofFn {n : ℕ} (cells : Fin n → α) : Holds cells (List.ofFn cells) := by
  intro i
  simp [List.getD_eq_getElem?_getD]

/-- Shifting an entry in. -/
lemma Holds.shift {n : ℕ} {cells : Fin (n + 1) → α} {xs : List α} (h : Holds cells xs) (x : α) :
    Holds (Fin.cons x (Fin.init cells)) (x :: xs) := by
  intro i
  refine Fin.cases ?_ (fun j => ?_) i
  · rfl
  · rw [Fin.cons_succ]
    exact h j.castSucc

/-- One pass over the first `w` cells. -/
def scan {n : ℕ} (w : ℕ) (cells : Fin n → α) : α :=
  (List.finRange n).foldl (fun best i => if i.val < w ∧ cells i > best then cells i else best) ⊥

/-- A pass that keeps the best so far finds the peak. -/
lemma foldl_best {ι : Type*} (P : ι → Prop) [DecidablePred P] (f : ι → α) (is : List ι) (best : α) :
    is.foldl (fun best i => if P i ∧ f i > best then f i else best) best =
      max best (peak ((is.filter P).map f)) := by
  induction is generalizing best with
  | nil => simp
  | cons i is ih =>
      rw [List.foldl_cons, ih]
      by_cases hP : P i
      · rw [List.filter_cons_of_pos (by simpa using hP), List.map_cons, peak_cons, ← max_assoc]
        congr 1
        by_cases hgt : f i > best
        · rw [if_pos ⟨hP, hgt⟩, max_eq_right hgt.le]
        · rw [if_neg fun h => hgt h.2, max_eq_left (not_lt.mp hgt)]
      · rw [List.filter_cons_of_neg (by simpa using hP), if_neg fun h => hP h.1]

/-- The scan of a register finds the peak of the newest `w` entries. -/
lemma Holds.scan_eq {n w : ℕ} {cells : Fin n → α} {xs : List α} (h : Holds cells xs)
    (hw : w ≤ n) : scan w cells = peak (xs.take w) := by
  rw [scan, foldl_best (fun i : Fin n => i.val < w), max_eq_right bot_le]
  apply le_antisymm
  · rw [peak_le_iff]
    intro x hx
    obtain ⟨i, hi, rfl⟩ := List.mem_map.mp hx
    have hiw : i.val < w := by simpa using (List.mem_filter.mp hi).2
    rw [h i]
    by_cases hlen : i.val < xs.length
    · rw [List.getD_eq_getElem?_getD, List.getElem?_eq_getElem hlen, Option.getD_some]
      exact le_peak_of_mem (List.mem_take_iff_getElem.mpr ⟨i, by omega, rfl⟩)
    · rw [List.getD_eq_getElem?_getD, List.getElem?_eq_none (by omega), Option.getD_none]
      exact bot_le
  · rw [peak_le_iff]
    intro x hx
    obtain ⟨k, hk, rfl⟩ := List.mem_take_iff_getElem.mp hx
    have hcell := h ⟨k, by omega⟩
    rw [List.getD_eq_getElem?_getD, List.getElem?_eq_getElem (by omega : k < xs.length),
      Option.getD_some] at hcell
    rw [← hcell]
    refine le_peak_of_mem (List.mem_map_of_mem (List.mem_filter.mpr ⟨List.mem_finRange _, ?_⟩))
    simpa using (by omega : k < w)

end Peak

/-! ### A value with a stamp -/

section Lowest

variable {α : Type*} [LinearOrder α]

/-- `m` is at most everything seen in the last `span` units of time. -/
def Lower (span now : ℕ) (seen : List (ℕ × α)) (m : α) : Prop :=
  ∀ p ∈ seen, now ≤ p.1 + span → m ≤ p.2

instance (span now : ℕ) (seen : List (ℕ × α)) (m : α) : Decidable (Lower span now seen m) :=
  inferInstanceAs (Decidable (∀ p ∈ seen, now ≤ p.1 + span → m ≤ p.2))

/-- What was seen leaves the window as time goes by. -/
lemma Lower.later {span now now' : ℕ} {seen : List (ℕ × α)} {m : α} (h : Lower span now seen m)
    (hle : now ≤ now') : Lower span now' seen m :=
  fun p hp hwithin => h p hp (hle.trans hwithin)

/-- A new entry that is not below. -/
lemma Lower.cons {span now : ℕ} {seen : List (ℕ × α)} {m : α} (h : Lower span now seen m)
    {p : ℕ × α} (hp : m ≤ p.2) : Lower span now (p :: seen) m := by
  intro q hq hwithin
  rcases List.mem_cons.mp hq with rfl | hq
  · exact hp
  · exact h q hq hwithin

/-- A smaller value is at most as much. -/
lemma Lower.of_le {span now : ℕ} {seen : List (ℕ × α)} {m m' : α} (h : Lower span now seen m)
    (hle : m' ≤ m) : Lower span now seen m' :=
  fun p hp hwithin => hle.trans (h p hp hwithin)

/-- A value and the time it was taken. -/
structure Stamped (α : Type*) where
  value : α
  stamp : ℕ

/-- A new value is taken if there is none, if it is smaller, or if the old one is older
than the span. -/
def Stamped.take (span now : ℕ) (x : α) : Option (Stamped α) → Stamped α
  | none => ⟨x, now⟩
  | some old => if x < old.value ∨ span < now - old.stamp then ⟨x, now⟩ else old

/-- The value taken is at most everything in the window, provided that a value that only
replaces an old one is. -/
lemma Lower.take {span now : ℕ} {seen : List (ℕ × α)} {x : α} {old : Option (Stamped α)}
    (hnone : old = none → seen = [])
    (hold : ∀ o, old = some o → Lower span now seen o.value)
    (hexpired : ∀ o, old = some o → span < now - o.stamp → Lower span now seen x) :
    Lower span now ((now, x) :: seen) (Stamped.take span now x old).value := by
  cases old with
  | none =>
      rw [hnone rfl]
      intro p hp _
      rw [List.mem_singleton.mp hp, Stamped.take]
  | some o =>
      rw [Stamped.take]
      split_ifs with h
      · rcases h with hlt | hspan
        · exact ((hold o rfl).of_le hlt.le).cons le_rfl
        · exact (hexpired o rfl hspan).cons le_rfl
      · exact (hold o rfl).cons (not_lt.mp fun hlt => h (.inl hlt))

/-- The value taken was seen. -/
lemma Stamped.take_mem {span now : ℕ} {seen : List (ℕ × α)} {x : α} {old : Option (Stamped α)}
    (hold : ∀ o, old = some o → ∃ p ∈ seen, p.2 = o.value) :
    ∃ p ∈ (now, x) :: seen, p.2 = (Stamped.take span now x old).value := by
  cases old with
  | none => exact ⟨(now, x), List.mem_cons_self, rfl⟩
  | some o =>
      rw [Stamped.take]
      split_ifs
      · exact ⟨(now, x), List.mem_cons_self, rfl⟩
      · obtain ⟨p, hp, hvalue⟩ := hold o rfl
        exact ⟨p, List.mem_cons_of_mem _ hp, hvalue⟩

end Lowest

end Windowed
