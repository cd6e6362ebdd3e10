import Mathlib.Tactic

/-!
Journals: lists of what has happened, newest entry first, that only grow.

* `Extends`: one journal is another with entries of a kind on top;
* `latest`: what the newest entry that answers a question answers; entries that do not
  answer it can be left out (`Extends.latest_eq`).
-/

namespace Machine

variable {α β : Type*}

/-- The journal `new` is `old` with entries on top, every one of them with `P`. -/
def Extends (P : α → Prop) (old new : List α) : Prop :=
  ∃ added, new = added ++ old ∧ ∀ e ∈ added, P e

namespace Extends

variable {P P' : α → Prop} {old mid new : List α}

lemma refl (P : α → Prop) (old : List α) : Extends P old old := ⟨[], rfl, by simp⟩

/-- One more entry. -/
lemma cons {e : α} (h : Extends P old new) (he : P e) : Extends P old (e :: new) := by
  obtain ⟨added, rfl, hall⟩ := h
  exact ⟨e :: added, rfl, List.forall_mem_cons.mpr ⟨he, hall⟩⟩

lemma trans (h : Extends P old mid) (h' : Extends P mid new) : Extends P old new := by
  obtain ⟨added, rfl, hall⟩ := h
  obtain ⟨added', rfl, hall'⟩ := h'
  refine ⟨added' ++ added, by rw [List.append_assoc], ?_⟩
  intro e he
  exact (List.mem_append.mp he).elim (hall' e) (hall e)

lemma mono (h : Extends P old new) (hP : ∀ e, P e → P' e) : Extends P' old new := by
  obtain ⟨added, hnew, hall⟩ := h
  exact ⟨added, hnew, fun e he => hP e (hall e he)⟩

/-- The one entry that was added. -/
lemma of_cons {e : α} (h : Extends P old (e :: old)) : P e := by
  obtain ⟨added, hadded, hall⟩ := h
  obtain rfl : [e] = added := List.append_cancel_right hadded
  exact hall e (List.mem_singleton.mpr rfl)

/-- What every new entry has, and every old one had, every entry has. -/
lemma forall_mem (h : Extends P old new) (hold : ∀ e ∈ old, P e) : ∀ e ∈ new, P e := by
  obtain ⟨added, rfl, hall⟩ := h
  intro e he
  exact (List.mem_append.mp he).elim (hall e) (hold e)

end Extends

/-- What the newest entry says that says anything about `f`. -/
def latest (f : α → Option β) (journal : List α) : Option β := journal.findSome? f

@[simp] lemma latest_nil (f : α → Option β) : latest f [] = none := rfl

/-- An entry that answers. -/
lemma latest_cons_some {f : α → Option β} {e : α} {b : β} (h : f e = some b) (old : List α) :
    latest f (e :: old) = some b := by
  rw [latest, List.findSome?_cons, h]

/-- An entry that does not. -/
lemma latest_cons_none {f : α → Option β} {e : α} (h : f e = none) (old : List α) :
    latest f (e :: old) = latest f old := by
  rw [latest, List.findSome?_cons, h]
  rfl

/-- Entries that do not answer change nothing. -/
lemma Extends.latest_eq {P : α → Prop} {old new : List α} (h : Extends P old new)
    {f : α → Option β} (hf : ∀ e, P e → f e = none) : latest f new = latest f old := by
  obtain ⟨added, rfl, hall⟩ := h
  have hnone : added.findSome? f = none :=
    List.findSome?_eq_none_iff.mpr fun e he => hf e (hall e he)
  rw [latest, List.findSome?_append, hnone, Option.none_or]
  rfl

/-- Entries that answer the same or not at all do not change the answer. -/
lemma Extends.latest_eq_some {P : α → Prop} {old new : List α} (h : Extends P old new)
    {f : α → Option β} {b : β} (hf : ∀ e, P e → f e = none ∨ f e = some b)
    (hold : latest f old = some b) : latest f new = some b := by
  obtain ⟨added, rfl, hall⟩ := h
  induction added with
  | nil => exact hold
  | cons e added ih =>
      obtain ⟨he, hrest⟩ := List.forall_mem_cons.mp hall
      rcases hf e he with hnone | hsome
      · rw [List.cons_append, latest_cons_none hnone]
        exact ih hrest
      · exact latest_cons_some hsome _

end Machine
