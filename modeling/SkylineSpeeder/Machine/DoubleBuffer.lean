import Mathlib.Logic.Function.Iterate
import SkylineSpeeder.Machine.Run

/-!
A double buffer that one writer publishes through and any number of readers copy
from, without a lock, at the granularity of single words.

The writer fills the slot that the current number does not name, word by word,
and then moves the number on; either write may fail, and the next publication
then takes the same number again.  A reader reads the number, copies the slot it
names word by word, and reads the number again.

* `Numbering`: numbers that alternate between the two slots and do not return
  within fewer than `period` steps;
* `Sys`, `step`: the writer, the readers and the memory they share, one atomic
  access a step;
* `Inv`, `step_inv`: the invariant, which every step of an interleaving keeps;
* `copy_whole`: a finished copy whose number has not moved is the value
  published last, whole, as long as fewer than `period` publications completed
  since it began;
* `step_mid`: a call keeps the number and the moment it began with.
-/

namespace Machine

namespace DoubleBuffer

/-- Numbers that go around in steps of one, alternating between two slots. -/
structure Numbering (S : Type*) where
  next : S → S
  side : S → Bool
  period : ℕ
  side_next : ∀ s, side (next s) = !side s
  next_iterate_ne : ∀ s k, 0 < k → k < period → next^[k] s ≠ s

variable {S W V ι : Type*} {n : ℕ}

/-- The writer between publications, or with `k` words of `v` written. -/
inductive Writer (V : Type*) where
  | idle
  | copying (v : V) (k : ℕ)

/-- A reader between calls, or with `k` words copied from the slot that `s`
names, in a call that began after `began` publications. -/
inductive Reader (S W : Type*) (n : ℕ) where
  | idle
  | copying (s : S) (copy : Fin n → W) (k began : ℕ)

/-- The shared memory (`slots`, `seq`), the writer with its own count `number`,
the readers, and the history of completed publications, newest first. -/
structure Sys (S W V ι : Type*) (n : ℕ) where
  slots : Bool → Fin n → W
  seq : S
  number : S
  writer : Writer V
  readers : ι → Reader S W n
  log : List V

/-- One atomic access of the writer or of one reader. -/
inductive Event (V ι : Type*) where
  | begin (v : V)
  | word
  | fail
  | publish
  | start (i : ι)
  | fetch (i : ι)
  | stop (i : ι)

/-- The first state: nothing published, nothing under way. -/
def init (slots₀ : Bool → Fin n → W) (s₀ : S) : Sys S W V ι n where
  slots := slots₀
  seq := s₀
  number := s₀
  writer := .idle
  readers := fun _ => .idle
  log := []

section Step

variable [DecidableEq ι] [Inhabited W] (N : Numbering S) (enc : V → Fin n → W)

/-- One step: `fail` ends a publication whose map write failed, at whichever
word, and `stop` ends a call, whatever it returned. -/
def step (y : Sys S W V ι n) : Event V ι → Option (Sys S W V ι n)
  | .begin v =>
      match y.writer with
      | .idle => some { y with writer := .copying v 0 }
      | .copying _ _ => none
  | .word =>
      match y.writer with
      | .idle => none
      | .copying v k =>
          if h : k < n then
            let side := N.side (N.next y.number)
            some { y with
              slots := Function.update y.slots side
                (Function.update (y.slots side) ⟨k, h⟩ (enc v ⟨k, h⟩))
              writer := .copying v (k + 1) }
          else none
  | .fail =>
      match y.writer with
      | .idle => none
      | .copying _ _ => some { y with writer := .idle }
  | .publish =>
      match y.writer with
      | .idle => none
      | .copying v k =>
          if k = n then
            some { y with
              seq := N.next y.number
              number := N.next y.number
              writer := .idle
              log := v :: y.log }
          else none
  | .start i =>
      match y.readers i with
      | .idle => some { y with
          readers := Function.update y.readers i
            (.copying y.seq (fun _ => default) 0 y.log.length) }
      | .copying _ _ _ _ => none
  | .fetch i =>
      match y.readers i with
      | .idle => none
      | .copying s copy k began =>
          if h : k < n then
            some { y with
              readers := Function.update y.readers i
                (.copying s
                  (Function.update copy ⟨k, h⟩ (y.slots (N.side s) ⟨k, h⟩)) (k + 1) began) }
          else none
  | .stop i => some { y with readers := Function.update y.readers i .idle }

/-- What each step can do, its guard included. -/
inductive Moves (y : Sys S W V ι n) : Event V ι → Sys S W V ι n → Prop where
  | begin (v : V) (hw : y.writer = .idle) :
      Moves y (.begin v) { y with writer := .copying v 0 }
  | word (v : V) (k : ℕ) (hw : y.writer = .copying v k) (hk : k < n) :
      Moves y .word { y with
        slots := Function.update y.slots (N.side (N.next y.number))
          (Function.update (y.slots (N.side (N.next y.number))) ⟨k, hk⟩ (enc v ⟨k, hk⟩))
        writer := .copying v (k + 1) }
  | fail (v : V) (k : ℕ) (hw : y.writer = .copying v k) :
      Moves y .fail { y with writer := .idle }
  | publish (v : V) (hw : y.writer = .copying v n) :
      Moves y .publish { y with
        seq := N.next y.number
        number := N.next y.number
        writer := .idle
        log := v :: y.log }
  | start (i : ι) (hr : y.readers i = .idle) :
      Moves y (.start i) { y with
        readers := Function.update y.readers i
          (.copying y.seq (fun _ => default) 0 y.log.length) }
  | fetch (i : ι) (s : S) (copy : Fin n → W) (k began : ℕ)
      (hr : y.readers i = .copying s copy k began) (hk : k < n) :
      Moves y (.fetch i) { y with
        readers := Function.update y.readers i
          (.copying s (Function.update copy ⟨k, hk⟩ (y.slots (N.side s) ⟨k, hk⟩)) (k + 1)
            began) }
  | stop (i : ι) :
      Moves y (.stop i) { y with readers := Function.update y.readers i .idle }

variable {N enc}

lemma moves_of_step {y y' : Sys S W V ι n} {e : Event V ι} (h : step N enc y e = some y') :
    Moves N enc y e y' := by
  cases e with
  | begin v =>
      cases hw : y.writer with
      | idle =>
          simp only [step, hw, Option.some.injEq] at h
          exact h ▸ .begin v hw
      | copying v' k => simp [step, hw] at h
  | word =>
      cases hw : y.writer with
      | idle => simp [step, hw] at h
      | copying v k =>
          by_cases hk : k < n
          · simp only [step, hw, dif_pos hk, Option.some.injEq] at h
            exact h ▸ .word v k hw hk
          · simp [step, hw, hk] at h
  | fail =>
      cases hw : y.writer with
      | idle => simp [step, hw] at h
      | copying v k =>
          simp only [step, hw, Option.some.injEq] at h
          exact h ▸ .fail v k hw
  | publish =>
      cases hw : y.writer with
      | idle => simp [step, hw] at h
      | copying v k =>
          by_cases hk : k = n
          · subst hk
            simp only [step, hw, if_true, Option.some.injEq] at h
            exact h ▸ .publish v hw
          · simp [step, hw, hk] at h
  | start i =>
      cases hr : y.readers i with
      | idle =>
          simp only [step, hr, Option.some.injEq] at h
          exact h ▸ .start i hr
      | copying s copy k began => simp [step, hr] at h
  | fetch i =>
      cases hr : y.readers i with
      | idle => simp [step, hr] at h
      | copying s copy k began =>
          by_cases hk : k < n
          · simp only [step, hr, dif_pos hk, Option.some.injEq] at h
            exact h ▸ .fetch i s copy k began hr hk
          · simp [step, hr, hk] at h
  | stop i =>
      simp only [step, Option.some.injEq] at h
      exact h ▸ .stop i

end Step

/-! ### The invariant -/

section Invariant

variable (N : Numbering S) (enc : V → Fin n → W) (slots₀ : Bool → Fin n → W) (s₀ : S)

/-- The words the number names: those published last, or the first content. -/
def named (log : List V) : Fin n → W :=
  match log with
  | [] => slots₀ (N.side s₀)
  | v :: _ => enc v

/-- The writer has filled the words it says it has. -/
def WriterInv (y : Sys S W V ι n) : Prop :=
  match y.writer with
  | .idle => True
  | .copying v k => ∀ j : Fin n, j.val < k → y.slots (N.side (N.next y.number)) j = enc v j

/-- A reader took its number `began` publications in, and what it has copied is
what that number names, unless a publication completed since. -/
def ReaderInv (y : Sys S W V ι n) (r : Reader S W n) : Prop :=
  match r with
  | .idle => True
  | .copying s copy k began =>
      s = N.next^[began] s₀ ∧ began ≤ y.log.length ∧
        (y.log.length = began → ∀ j : Fin n, j.val < k →
          copy j = named N enc slots₀ s₀ y.log j)

/-- The invariant: the two counts agree with the history, the named slot holds
what was published last, and the writer and every reader are where they say. -/
structure Inv (y : Sys S W V ι n) : Prop where
  number_eq : y.number = y.seq
  seq_eq : y.seq = N.next^[y.log.length] s₀
  slot_eq : y.slots (N.side y.seq) = named N enc slots₀ s₀ y.log
  writer : WriterInv N enc y
  reader : ∀ i, ReaderInv N enc slots₀ s₀ y (y.readers i)

lemma init_inv : Inv N enc slots₀ s₀ (init slots₀ s₀ : Sys S W V ι n) where
  number_eq := rfl
  seq_eq := rfl
  slot_eq := rfl
  writer := trivial
  reader := fun _ => trivial

variable {N enc slots₀ s₀}

/-- The slot being written is never the one the number names. -/
lemma Inv.side_ne {y : Sys S W V ι n} (h : Inv N enc slots₀ s₀ y) :
    N.side y.seq ≠ N.side (N.next y.number) := by
  rw [h.number_eq, N.side_next]
  cases N.side y.seq <;> simp

/-- Replacing one reader by one that meets its own invariant keeps the rest. -/
lemma Inv.setReader [DecidableEq ι] {y : Sys S W V ι n} (h : Inv N enc slots₀ s₀ y)
    (i : ι) {r : Reader S W n} (hr : ReaderInv N enc slots₀ s₀ y r) :
    Inv N enc slots₀ s₀ { y with readers := Function.update y.readers i r } := by
  refine ⟨h.number_eq, h.seq_eq, h.slot_eq, h.writer, fun j => ?_⟩
  show ReaderInv N enc slots₀ s₀ y (Function.update y.readers i r j)
  by_cases hj : j = i
  · subst hj
    rw [Function.update_self]
    exact hr
  · rw [Function.update_of_ne hj]
    exact h.reader j

/-- Once another publication has completed, a reader's invariant asks nothing
of its copy any more. -/
lemma ReaderInv.publish {y : Sys S W V ι n} {r : Reader S W n} (v : V) (q : S)
    (h : ReaderInv N enc slots₀ s₀ y r) :
    ReaderInv N enc slots₀ s₀
      { y with seq := q, number := q, writer := .idle, log := v :: y.log } r := by
  cases r with
  | idle => trivial
  | copying s copy k began =>
      obtain ⟨hs, hle, -⟩ := h
      refine ⟨hs, by simp only [List.length_cons]; omega, fun hlen => ?_⟩
      simp only [List.length_cons] at hlen
      omega

/-- Writing one more word of `v` extends what the writer has filled. -/
lemma update_word {f : Fin n → W} {v : V} {k : ℕ} (hk : k < n)
    (hf : ∀ j : Fin n, j.val < k → f j = enc v j) :
    ∀ j : Fin n, j.val < k + 1 → Function.update f ⟨k, hk⟩ (enc v ⟨k, hk⟩) j = enc v j := by
  intro j hj
  by_cases hjk : j = ⟨k, hk⟩
  · rw [hjk, Function.update_self]
  · rw [Function.update_of_ne hjk]
    have : j.val ≠ k := fun hv => hjk (Fin.ext hv)
    exact hf j (by omega)

/-- **A copy under an unmoved number is whole**: a reader that has copied every
word and still reads its number holds what was published last, and no
publication completed since it began, provided fewer than `period` did. -/
theorem copy_whole {y : Sys S W V ι n} (hy : Inv N enc slots₀ s₀ y) {i : ι} {s : S}
    {copy : Fin n → W} {began : ℕ} (hr : y.readers i = .copying s copy n began)
    (hseq : y.seq = s) (hfew : y.log.length - began < N.period) :
    y.log.length = began ∧ copy = named N enc slots₀ s₀ y.log := by
  have hri := hy.reader i
  rw [hr] at hri
  obtain ⟨hs, hle, hcopy⟩ := hri
  have hlen : y.log.length = began := by
    by_contra hne
    -- the number came back to `s` after fewer than `period` steps
    have hback : N.next^[y.log.length - began] s = s := by
      rw [hs, ← Function.iterate_add_apply, Nat.sub_add_cancel hle, ← hy.seq_eq, hseq, hs]
    exact N.next_iterate_ne s _ (by omega) hfew hback
  exact ⟨hlen, funext fun j => hcopy hlen j j.isLt⟩

variable [DecidableEq ι] [Inhabited W]

/-- **One step keeps the invariant.** -/
lemma step_inv {y y' : Sys S W V ι n} {e : Event V ι} (hy : Inv N enc slots₀ s₀ y)
    (h : step N enc y e = some y') : Inv N enc slots₀ s₀ y' := by
  have hwi := hy.writer
  cases moves_of_step h with
  | begin v hw =>
      exact ⟨hy.number_eq, hy.seq_eq, hy.slot_eq, fun j hj => absurd hj (by omega), hy.reader⟩
  | word v k hw hk =>
      rw [WriterInv, hw] at hwi
      refine ⟨hy.number_eq, hy.seq_eq, ?_, ?_, hy.reader⟩
      · -- the named slot is the other one
        show Function.update y.slots _ _ (N.side y.seq) = _
        rw [Function.update_of_ne hy.side_ne]
        exact hy.slot_eq
      · show ∀ j : Fin n, j.val < k + 1 → Function.update y.slots _ _ _ j = enc v j
        rw [Function.update_self]
        exact update_word hk hwi
  | fail v k hw => exact ⟨hy.number_eq, hy.seq_eq, hy.slot_eq, trivial, hy.reader⟩
  | publish v hw =>
      rw [WriterInv, hw] at hwi
      refine ⟨rfl, ?_, funext fun j => hwi j j.isLt, trivial,
        fun i => (hy.reader i).publish v _⟩
      show N.next y.number = N.next^[y.log.length + 1] s₀
      rw [Function.iterate_succ_apply', ← hy.seq_eq, hy.number_eq]
  | start i hr =>
      exact hy.setReader i ⟨hy.seq_eq, le_refl _, fun _ j hj => absurd hj (by omega)⟩
  | fetch i s copy k began hr hk =>
      have hri := hy.reader i
      rw [hr] at hri
      obtain ⟨hs, hle, hcopy⟩ := hri
      refine hy.setReader i ⟨hs, hle, fun hlen j hj => ?_⟩
      by_cases hjk : j = ⟨k, hk⟩
      · -- the word is fetched from the slot the number still names
        have hseq : s = y.seq := by rw [hs, ← hlen, ← hy.seq_eq]
        rw [hjk, Function.update_self, hseq, hy.slot_eq]
      · rw [Function.update_of_ne hjk]
        have : j.val ≠ k := fun hv => hjk (Fin.ext hv)
        exact hcopy hlen j (by omega)
  | stop i => exact hy.setReader i trivial

/-! ### One call of a reader -/

/-- The event neither begins nor ends a call of reader `i`. -/
def Event.Keeps (i : ι) : Event V ι → Prop
  | .start j => j ≠ i
  | .stop j => j ≠ i
  | _ => True

/-- A reader keeps the number and the moment its call began with, as long as
the call goes on. -/
lemma step_mid {y y' : Sys S W V ι n} {e : Event V ι} {i : ι} {s : S} {began : ℕ}
    (hk : e.Keeps i) (h : step N enc y e = some y')
    (hr : ∃ copy k, y.readers i = .copying s copy k began) :
    ∃ copy k, y'.readers i = .copying s copy k began := by
  obtain ⟨copy, k, hr⟩ := hr
  cases moves_of_step h with
  | begin v hw => exact ⟨copy, k, hr⟩
  | word v k' hw hk' => exact ⟨copy, k, hr⟩
  | fail v k' hw => exact ⟨copy, k, hr⟩
  | publish v hw => exact ⟨copy, k, hr⟩
  | start j hj =>
      refine ⟨copy, k, ?_⟩
      show Function.update y.readers j _ i = _
      rw [Function.update_of_ne (Ne.symm hk)]
      exact hr
  | fetch j s' copy' k' began' hr' hk' =>
      by_cases hj : i = j
      · subst hj
        rw [hr] at hr'
        injection hr' with h1 h2 h3 h4
        subst h1 h4
        exact ⟨_, _, Function.update_self ..⟩
      · refine ⟨copy, k, ?_⟩
        show Function.update y.readers j _ i = _
        rw [Function.update_of_ne hj]
        exact hr
  | stop j =>
      refine ⟨copy, k, ?_⟩
      show Function.update y.readers j _ i = _
      rw [Function.update_of_ne (Ne.symm hk)]
      exact hr

end Invariant

end DoubleBuffer

end Machine
