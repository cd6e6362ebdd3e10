import Mathlib.Data.List.TakeWhile
import SkylineSpeeder.Scrub.Utf8

/-!
Passes that look at the longest runs of some bytes.

* `runs`: the code, and `runRanges`: the ranges that a pass finds in each of them;
* `runPieces`: the same byte by byte, for what becomes of a run between two bytes;
* `runRanges_eq`: the pass finds the ranges of the pieces, if it does so in each run;
* `runPieces_append_cons`: a byte of no run, that no run looks at, cuts the text in two.
-/

namespace SkylineSpeeder.Scrub

open Redact

/-! ### The code -/

/-- `runs`, from `pos` on. -/
def runs (inRun : UInt8 → Bool) (pos : ℕ) : Str → List (ℕ × ℕ)
  | [] => []
  | b :: text =>
      if inRun b then
        (pos, pos + 1 + (text.takeWhile inRun).length) ::
          runs inRun (pos + 1 + (text.takeWhile inRun).length) (text.dropWhile inRun)
      else runs inRun (pos + 1) text
termination_by text => text.length
decreasing_by
  · have := (List.dropWhile_sublist inRun (l := text)).length_le
    rw [List.length_cons]
    omega
  · simp

/-- The `for` over the runs. -/
def runRanges (onRun : ℕ → ℕ → Option (List Range)) : List (ℕ × ℕ) → Option (List Range)
  | [] => some []
  | run :: rest => do
      let here ← onRun run.1 run.2
      let more ← runRanges onRun rest
      some (here ++ more)

/-! ### Pieces -/

/-- What becomes of a run, after a byte or at the beginning, and before a byte or at the
end. -/
abbrev OnRun := Option UInt8 → Str → Option UInt8 → List (Piece UInt8)

/-- The pieces of what follows `prev`. -/
def runPieces (inRun : UInt8 → Bool) (onRun : OnRun) (prev : Option UInt8) :
    Str → List (Piece UInt8)
  | [] => []
  | b :: text =>
      if inRun b then
        onRun prev (b :: text.takeWhile inRun) (text.dropWhile inRun).head? ++
          runPieces inRun onRun (b :: text.takeWhile inRun).getLast? (text.dropWhile inRun)
      else .keep b :: runPieces inRun onRun (some b) text
termination_by text => text.length
decreasing_by
  · have := (List.dropWhile_sublist inRun (l := text)).length_le
    rw [List.length_cons]
    omega
  · simp

section Pieces

variable {inRun : UInt8 → Bool} {onRun : OnRun}

@[simp] lemma runs_nil (pos : ℕ) : runs inRun pos [] = [] := by
  rw [runs]

@[simp] lemma runPieces_nil (prev : Option UInt8) : runPieces inRun onRun prev [] = [] := by
  rw [runPieces]

/-- A byte of no run, or a run: how the pieces of a text are made. -/
lemma runs_induction {P : Option UInt8 → Str → Prop} (hnil : ∀ prev, P prev [])
    (hkeep : ∀ prev b text, inRun b = false → P (some b) text → P prev (b :: text))
    (hrun : ∀ prev b text, inRun b = true →
      P (b :: text.takeWhile inRun).getLast? (text.dropWhile inRun) → P prev (b :: text)) :
    ∀ prev text, P prev text := by
  intro prev text
  induction hlength : text.length using Nat.strong_induction_on generalizing prev text with
  | _ n ih =>
      cases text with
      | nil => exact hnil prev
      | cons b text =>
          cases h : inRun b with
          | true =>
              refine hrun prev b text h (ih _ ?_ _ _ rfl)
              have := (List.dropWhile_sublist inRun (l := text)).length_le
              rw [← hlength, List.length_cons]
              omega
          | false => exact hkeep prev b text h (ih _ (by simp [← hlength]) _ _ rfl)

lemma runPieces_keep {prev : Option UInt8} {b : UInt8} {text : Str} (h : inRun b = false) :
    runPieces inRun onRun prev (b :: text) = .keep b :: runPieces inRun onRun (some b) text := by
  rw [runPieces, if_neg (by simp [h])]

lemma runPieces_run {prev : Option UInt8} {b : UInt8} {text : Str} (h : inRun b = true) :
    runPieces inRun onRun prev (b :: text) =
      onRun prev (b :: text.takeWhile inRun) (text.dropWhile inRun).head? ++
        runPieces inRun onRun (b :: text.takeWhile inRun).getLast? (text.dropWhile inRun) := by
  rw [runPieces, if_pos h]

/-- The pieces are those of the text, if it is so in each run. -/
lemma source_runPieces (h : ∀ prev run next, source (onRun prev run next) = run)
    (prev : Option UInt8) (text : Str) : source (runPieces inRun onRun prev text) = text := by
  induction prev, text using @runs_induction inRun with
  | hnil prev => simp
  | hkeep prev b text hb ih => simp [runPieces_keep hb, ih]
  | hrun prev b text hb ih =>
      rw [runPieces_run hb, source_append, h, ih, List.cons_append, List.takeWhile_append_dropWhile]

/-- What is cut out of a run is cut out of the text. -/
lemma mem_runPieces {prev : Option UInt8} {text : Str} {segment marker : Str}
    (h : .cut segment marker ∈ runPieces inRun onRun prev text) :
    ∃ before run next, run ≠ [] ∧ (∀ b ∈ run, inRun b = true) ∧
      .cut segment marker ∈ onRun before run next := by
  induction prev, text using @runs_induction inRun with
  | hnil prev => simp at h
  | hkeep prev b text hb ih =>
      rw [runPieces_keep hb, List.mem_cons] at h
      exact ih (h.resolve_left (by simp))
  | hrun prev b text hb ih =>
      rw [runPieces_run hb, List.mem_append] at h
      refine h.elim (fun h => ⟨_, _, _, List.cons_ne_nil _ _, ?_, h⟩) ih
      intro c hc
      rcases List.mem_cons.mp hc with rfl | hc
      · exact hb
      · exact List.mem_takeWhile_imp hc

/-- **The pass** finds the ranges of the pieces, if it does so in each run. -/
lemma runRanges_eq {code : ℕ → ℕ → Option (List Range)} {a b : Str}
    (h : ∀ front run back, a ++ b = front ++ (run ++ back) → run ≠ [] →
      (∀ c ∈ run, inRun c = true) → code front.length (front.length + run.length) =
        some (rangesFrom front.length (onRun front.getLast? run back.head?)))
    (hsource : ∀ prev run next, source (onRun prev run next) = run) :
    runRanges code (runs inRun a.length b) =
      some (rangesFrom a.length (runPieces inRun onRun a.getLast? b)) := by
  induction hprev : a.getLast?, b using @runs_induction inRun generalizing a with
  | hnil prev => simp [runRanges, rangesFrom]
  | hkeep prev b text hb ih =>
      have hrest := @ih (a ++ [b]) (by simpa using h) List.getLast?_concat
      rw [List.length_append, List.length_singleton] at hrest
      rw [runPieces_keep hb, runs, if_neg (by simp [hb]), hrest]
      rfl
  | hrun prev b text hb ih =>
      have hsplit : a ++ b :: text = a ++ (b :: text.takeWhile inRun ++ text.dropWhile inRun) := by
        rw [List.cons_append, List.takeWhile_append_dropWhile]
      have hhere := h a (b :: text.takeWhile inRun) (text.dropWhile inRun) hsplit
        (List.cons_ne_nil _ _) (by
          intro c hc
          rcases List.mem_cons.mp hc with rfl | hc
          · exact hb
          · exact List.mem_takeWhile_imp hc)
      have hrest := @ih (a ++ b :: text.takeWhile inRun)
        (by rw [List.append_assoc, ← hsplit]; exact h) (List.getLast?_append_cons _ _ _)
      have hlength : (a ++ b :: text.takeWhile inRun).length =
          a.length + 1 + (text.takeWhile inRun).length := by
        simp only [List.length_append, List.length_cons]
        omega
      have hstop : a.length + (b :: text.takeWhile inRun).length =
          a.length + 1 + (text.takeWhile inRun).length := by
        rw [List.length_cons]
        omega
      rw [hlength] at hrest
      rw [hstop, hprev] at hhere
      rw [runPieces_run hb, runs, if_pos hb, runRanges, rangesFrom_append, hsource, hstop]
      simp only [hhere, hrest, Option.bind_eq_bind, Option.bind_some]

/-- A byte of no run, which no run tells from the end of the text, cuts the text in two. -/
lemma runPieces_append_cons {s : UInt8} (hs : inRun s = false)
    (hnext : ∀ prev run, onRun prev run (some s) = onRun prev run none)
    (prev : Option UInt8) (a b : Str) :
    runPieces inRun onRun prev (a ++ s :: b) =
      runPieces inRun onRun prev a ++ .keep s :: runPieces inRun onRun (some s) b := by
  induction prev, a using @runs_induction inRun with
  | hnil prev => rw [List.nil_append, runPieces_keep hs, runPieces_nil, List.nil_append]
  | hkeep prev c a hc ih =>
      rw [List.cons_append, runPieces_keep hc, runPieces_keep hc, ih, List.cons_append]
  | hrun prev c a hc ih =>
      have hboth : (a ++ s :: b).takeWhile inRun = a.takeWhile inRun ∧
          (a ++ s :: b).dropWhile inRun = a.dropWhile inRun ++ s :: b := by
        clear ih
        induction a with
        | nil => simp [hs]
        | cons d a iha =>
            cases hd : inRun d with
            | true => simpa [hd] using iha
            | false => simp [hd]
      have hhead : onRun prev (c :: a.takeWhile inRun) (a.dropWhile inRun ++ s :: b).head? =
          onRun prev (c :: a.takeWhile inRun) (a.dropWhile inRun).head? := by
        cases a.dropWhile inRun with
        | nil => exact hnext _ _
        | cons d rest => rfl
      rw [List.cons_append, runPieces_run hc, runPieces_run hc, hboth.1, hboth.2, hhead, ih,
        List.append_assoc]

/-- The byte before matters to the first run only. -/
lemma runPieces_prev {prev prev' : Option UInt8} (h : ∀ run next, onRun prev run next =
    onRun prev' run next) (text : Str) :
    runPieces inRun onRun prev text = runPieces inRun onRun prev' text := by
  cases text with
  | nil => rw [runPieces_nil, runPieces_nil]
  | cons b text =>
      cases hb : inRun b with
      | true => rw [runPieces_run hb, runPieces_run hb, h]
      | false => rw [runPieces_keep hb, runPieces_keep hb]

end Pieces

end SkylineSpeeder.Scrub
