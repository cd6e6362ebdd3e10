import Mathlib.Tactic
import Mathlib.Data.List.Destutter

/-!
The distinct entries of a list in order, found in two ways.

* `collect`: the entries in the order they are first seen;
* `insertDown`, `sortDown`: an insertion sort that walks down from the last place, as a
  program with one array does it;
* `sortDown_collect_eq_iff`: sorting what was collected is the same as sorting everything and
  dropping what repeats its neighbour.
-/

namespace Distinct

variable {α : Type*} [LinearOrder α]

/-! ### What is seen first -/

/-- What was seen so far, with an entry added if it is new. -/
def add (seen : List α) (x : α) : List α := if x ∈ seen then seen else seen ++ [x]

lemma mem_add {seen : List α} {x y : α} : y ∈ add seen x ↔ y ∈ seen ∨ y = x := by
  rw [add]
  split_ifs with h
  · exact ⟨.inl, fun hy => hy.elim id fun hyx => hyx ▸ h⟩
  · rw [List.mem_append, List.mem_singleton]

lemma add_nodup {seen : List α} (h : seen.Nodup) (x : α) : (add seen x).Nodup := by
  rw [add]
  split_ifs with hx
  · exact h
  · exact List.nodup_append_comm.mp (List.nodup_cons.mpr ⟨hx, h⟩)

/-- The entries in the order they are first seen. -/
def collect (xs : List α) : List α := xs.foldl add []

lemma mem_foldl_add (xs seen : List α) (y : α) : y ∈ xs.foldl add seen ↔ y ∈ seen ∨ y ∈ xs := by
  induction xs generalizing seen with
  | nil => simp
  | cons x xs ih => rw [List.foldl_cons, ih, mem_add, List.mem_cons, or_assoc]

/-- Every entry is collected. -/
@[simp] lemma mem_collect {xs : List α} {y : α} : y ∈ collect xs ↔ y ∈ xs := by
  rw [collect, mem_foldl_add]
  simp

/-- No entry is collected twice. -/
lemma collect_nodup (xs : List α) : (collect xs).Nodup := by
  have hfold : ∀ (ys seen : List α), seen.Nodup → (ys.foldl add seen).Nodup := by
    intro ys
    induction ys with
    | nil => exact fun _ h => h
    | cons y ys ih => exact fun seen h => ih (add seen y) (add_nodup h y)
  exact hfold xs [] List.nodup_nil

/-! ### Sorting in place -/

/-- The place of `v` below the sorted entries, which are listed from the last to the first:
what is larger moves up by one. -/
def insertDown (v : α) : List α → List α
  | [] => [v]
  | x :: xs => if x > v then x :: insertDown v xs else v :: x :: xs

lemma insertDown_eq (v : α) (xs : List α) : insertDown v xs = xs.orderedInsert (· ≥ ·) v := by
  induction xs with
  | nil => rfl
  | cons x xs ih =>
      rw [insertDown, List.orderedInsert_cons, ih]
      by_cases h : x > v
      · rw [if_pos h, if_neg (not_le.mpr h)]
      · rw [if_neg h, if_pos (not_lt.mp h)]

/-- The insertion sort: each entry in turn is walked down from its place. -/
def sortDown (xs : List α) : List α := (xs.foldl (fun sorted v => insertDown v sorted) []).reverse

lemma sortDown_eq (xs : List α) : sortDown xs = (xs.reverse.insertionSort (· ≥ ·)).reverse := by
  rw [sortDown, List.insertionSort, List.foldr_reverse]
  simp only [insertDown_eq]

lemma sortDown_perm (xs : List α) : (sortDown xs).Perm xs := by
  rw [sortDown_eq]
  exact (List.reverse_perm _).trans ((List.perm_insertionSort _ _).trans (List.reverse_perm xs))

lemma sortDown_pairwise (xs : List α) : (sortDown xs).Pairwise (· ≤ ·) := by
  rw [sortDown_eq, List.pairwise_reverse]
  exact List.pairwise_insertionSort (· ≥ ·) _

/-! ### Both ways -/

/-- The entries in order, without what repeats its neighbour. -/
def sortDedup (xs : List α) : List α := (xs.insertionSort (· ≤ ·)).destutter (· ≠ ·)

lemma sortDedup_eq (xs : List α) : sortDedup xs = (xs.insertionSort (· ≤ ·)).dedup :=
  (List.pairwise_insertionSort (· ≤ ·) xs).destutter_eq_dedup

@[simp] lemma mem_sortDedup {xs : List α} {y : α} : y ∈ sortDedup xs ↔ y ∈ xs := by
  rw [sortDedup_eq, List.mem_dedup, List.mem_insertionSort]

lemma sortDedup_nodup (xs : List α) : (sortDedup xs).Nodup := by
  rw [sortDedup_eq]
  exact List.nodup_dedup _

lemma sortDedup_pairwise (xs : List α) : (sortDedup xs).Pairwise (· ≤ ·) := by
  rw [sortDedup_eq]
  exact (List.pairwise_insertionSort (· ≤ ·) xs).sublist (List.dedup_sublist _)

/-- The first of the entries in order is the least. -/
lemma sortDedup_least {xs rest : List α} {least : α} (h : sortDedup xs = least :: rest) :
    least ∈ xs ∧ ∀ y ∈ xs, least ≤ y := by
  have hpair := sortDedup_pairwise xs
  rw [h, List.pairwise_cons] at hpair
  refine ⟨mem_sortDedup.mp (h ▸ List.mem_cons_self), fun y hy => ?_⟩
  rw [← mem_sortDedup, h, List.mem_cons] at hy
  rcases hy with rfl | hy
  · exact le_rfl
  · exact hpair.1 y hy

lemma mem_sortDown_collect {xs : List α} {y : α} : y ∈ sortDown (collect xs) ↔ y ∈ xs :=
  (sortDown_perm _).mem_iff.trans mem_collect

/-- **Collecting and sorting agree with sorting and dropping** on lists with the same
entries, and on no others. -/
theorem sortDown_collect_eq_iff (xs ys : List α) :
    sortDown (collect xs) = sortDedup ys ↔ ∀ y, y ∈ xs ↔ y ∈ ys := by
  constructor
  · intro h y
    rw [← mem_sortDown_collect, h, mem_sortDedup]
  · intro h
    have hnodup : (sortDown (collect xs)).Nodup :=
      (sortDown_perm _).nodup_iff.mpr (collect_nodup xs)
    refine List.Perm.eq_of_pairwise (fun a b _ _ hab hba => le_antisymm hab hba)
      (sortDown_pairwise _) (sortDedup_pairwise ys) ?_
    rw [List.perm_ext_iff_of_nodup hnodup (sortDedup_nodup ys)]
    intro y
    rw [mem_sortDown_collect, mem_sortDedup]
    exact h y

end Distinct
