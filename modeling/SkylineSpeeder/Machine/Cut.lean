import Mathlib.Tactic

/-!
Texts cut at a character: `str::strip_prefix`, `str::split_once` and `str::rsplit_once`.

* `cutFront`: what follows a fixed text at the beginning;
* `splitOnce`, `rsplitOnce`: what is before and after the first, and the last, occurrence of
  a character;
* `splitOnce_eq_some_iff`, `rsplitOnce_eq_some_iff`: each of them as a decomposition.
-/

namespace Text

/-- `str::strip_prefix`. -/
def cutFront (front text : List Char) : Option (List Char) :=
  if front <+: text then some (text.drop front.length) else none

/-- `str::split_once` with a character. -/
def splitOnce (c : Char) : List Char → Option (List Char × List Char)
  | [] => none
  | d :: text => if d = c then some ([], text)
      else (splitOnce c text).map fun parts => (d :: parts.1, parts.2)

/-- `str::rsplit_once` with a character. -/
def rsplitOnce (c : Char) (text : List Char) : Option (List Char × List Char) :=
  (splitOnce c text.reverse).map fun parts => (parts.2.reverse, parts.1.reverse)

lemma cutFront_eq_some_iff {front text rest : List Char} :
    cutFront front text = some rest ↔ text = front ++ rest := by
  rw [cutFront]
  constructor
  · intro h
    split_ifs at h with hfront
    obtain ⟨t, rfl⟩ := hfront
    rw [List.drop_left, Option.some.injEq] at h
    rw [h]
  · rintro rfl
    rw [if_pos (List.prefix_append front rest), List.drop_left]

lemma splitOnce_eq_some_iff {c : Char} {text a b : List Char} :
    splitOnce c text = some (a, b) ↔ text = a ++ c :: b ∧ c ∉ a := by
  induction text generalizing a with
  | nil => simp [splitOnce]
  | cons d text ih =>
      rw [splitOnce]
      by_cases hd : d = c
      · subst hd
        rw [if_pos rfl, Option.some.injEq, Prod.mk.injEq]
        constructor
        · rintro ⟨rfl, rfl⟩
          simp
        · rintro ⟨heq, hnot⟩
          cases a with
          | nil => exact ⟨rfl, (List.cons.inj heq).2⟩
          | cons e a => exact absurd ((List.cons.inj heq).1 ▸ List.mem_cons_self) hnot
      · rw [if_neg hd, Option.map_eq_some_iff]
        constructor
        · rintro ⟨⟨a', b'⟩, hsplit, heq⟩
          obtain ⟨rfl, rfl⟩ := Prod.mk.inj heq
          obtain ⟨rfl, hnot⟩ := ih.mp hsplit
          refine ⟨rfl, fun hmem => ?_⟩
          rcases List.mem_cons.mp hmem with rfl | hmem
          · exact hd rfl
          · exact hnot hmem
        · rintro ⟨heq, hnot⟩
          cases a with
          | nil => exact absurd (List.cons.inj heq).1 hd
          | cons e a =>
              obtain ⟨rfl, htext⟩ := List.cons.inj heq
              exact ⟨(a, b), ih.mpr ⟨htext, fun h => hnot (List.mem_cons_of_mem d h)⟩, rfl⟩

lemma splitOnce_eq_none_iff {c : Char} {text : List Char} :
    splitOnce c text = none ↔ c ∉ text := by
  induction text with
  | nil => simp [splitOnce]
  | cons d text ih =>
      rw [splitOnce]
      by_cases hd : d = c
      · simp [hd]
      · rw [if_neg hd, Option.map_eq_none_iff, ih, List.mem_cons, not_or]
        exact ⟨fun h => ⟨Ne.symm hd, h⟩, fun h => h.2⟩

lemma rsplitOnce_eq_some_iff {c : Char} {text a b : List Char} :
    rsplitOnce c text = some (a, b) ↔ text = a ++ c :: b ∧ c ∉ b := by
  rw [rsplitOnce, Option.map_eq_some_iff]
  constructor
  · rintro ⟨⟨b', a'⟩, hsplit, heq⟩
    obtain ⟨rfl, rfl⟩ := Prod.mk.inj heq
    obtain ⟨htext, hnot⟩ := splitOnce_eq_some_iff.mp hsplit
    refine ⟨?_, by simpa using hnot⟩
    rw [← List.reverse_reverse text, htext]
    simp
  · rintro ⟨rfl, hnot⟩
    refine ⟨(b.reverse, a.reverse), splitOnce_eq_some_iff.mpr ⟨by simp, by simpa using hnot⟩, ?_⟩
    simp

end Text
