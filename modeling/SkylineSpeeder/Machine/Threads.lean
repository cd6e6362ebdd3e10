import SkylineSpeeder.Machine.Run
import SkylineSpeeder.Machine.Prog

/-!
Threads that share a state, and rely-guarantee reasoning about them.

Each thread runs one job after the other; a job is a program, its atomic actions are
interleaved with those of the other threads, and the outside may change the state between
any two of them.

* `Contract`, `Prog.Sat`: a program keeps an invariant and gives a guarantee with each of
  its actions, however much the others do in between that it can rely on; the rules of the
  constructs follow those of `wp`;
* `Prog.Each`: a program all of whose actions are steps of one kind;
* `Pool`, `Workload`, `Workload.step`: the threads, their jobs and the interleavings;
* `Discipline`: a contract for each thread that fits the contracts of the others;
  `Discipline.step_safe` and `Discipline.run_safe` are what one step keeps and what then holds
  in every run.
-/

namespace Machine

/-! ### Contracts -/

/-- What a thread maintains, what it relies on, and what it guarantees of its steps. -/
structure Contract (σ : Type) where
  inv : σ → Prop
  rely : σ → σ → Prop
  guar : σ → σ → Prop

namespace Prog

variable {σ ε α β : Type} {C : Contract σ}

/-- From `s` on, where the thread has just taken a step, the program keeps the invariant
and the guarantee, and ends with `Q` of its result and the state it then leaves.  Before
each action the others may have changed the state. -/
def Sat (C : Contract σ) (Q : Except ε α → σ → Prop) : Prog σ ε α → σ → Prop
  | ret a, s => Q (.ok a) s
  | fail e, s => Q (.error e) s
  | act ready next cont, s => ∀ t, C.rely s t → C.inv t → ready t = true →
      C.inv (next t) ∧ C.guar t (next t) ∧ (cont t).Sat C Q (next t)

variable {Q Q' : Except ε α → σ → Prop} {p : Prog σ ε α} {s : σ}

/-- The rule of consequence. -/
lemma sat_mono (h : p.Sat C Q s) (hQ : ∀ r t, Q r t → Q' r t) : p.Sat C Q' s := by
  induction p generalizing s with
  | ret a => exact hQ _ _ h
  | fail e => exact hQ _ _ h
  | act ready next cont ih =>
      intro t hrely hinv hready
      obtain ⟨hnext, hguar, hcont⟩ := h t hrely hinv hready
      exact ⟨hnext, hguar, ih t hcont⟩

@[simp] lemma sat_pure {a : α} : (pure a : Prog σ ε α).Sat C Q s ↔ Q (.ok a) s := Iff.rfl

@[simp] lemma sat_fail {e : ε} : (fail e : Prog σ ε α).Sat C Q s ↔ Q (.error e) s := Iff.rfl

@[simp] lemma sat_ofExcept {r : Except ε α} : (ofExcept r : Prog σ ε α).Sat C Q s ↔ Q r s := by
  cases r with
  | ok a => rfl
  | error e => rfl

/-- The rule of sequencing, with what holds in between. -/
lemma sat_bind_of {Q : Except ε β → σ → Prop} {M : Except ε α → σ → Prop}
    {f : α → Prog σ ε β} (h : p.Sat C M s) (hok : ∀ a t, M (.ok a) t → (f a).Sat C Q t)
    (herror : ∀ e t, M (.error e) t → Q (.error e) t) : (p >>= f).Sat C Q s := by
  induction p generalizing s with
  | ret a => exact hok a s h
  | fail e => exact herror e s h
  | act ready next cont ih =>
      intro t hrely hinv hready
      obtain ⟨hnext, hguar, hcont⟩ := h t hrely hinv hready
      exact ⟨hnext, hguar, ih t hcont⟩

lemma sat_attempt {Q : Except ε (Except ε α) → σ → Prop} (h : p.Sat C (fun r => Q (.ok r)) s) :
    p.attempt.Sat C Q s := by
  induction p generalizing s with
  | ret a => exact h
  | fail e => exact h
  | act ready next cont ih =>
      intro t hrely hinv hready
      obtain ⟨hnext, hguar, hcont⟩ := h t hrely hinv hready
      exact ⟨hnext, hguar, ih t hcont⟩

lemma sat_atomically {f : σ → Except ε α × σ}
    (h : ∀ t, C.rely s t → C.inv t → C.inv (f t).2 ∧ C.guar t (f t).2 ∧ Q (f t).1 (f t).2) :
    (atomically f).Sat C Q s := by
  intro t hrely hinv _
  obtain ⟨hnext, hguar, hQ⟩ := h t hrely hinv
  exact ⟨hnext, hguar, sat_ofExcept.mpr hQ⟩

lemma sat_await {Q : Except ε Unit → σ → Prop} {ready : σ → Bool} {next : σ → σ}
    (h : ∀ t, C.rely s t → C.inv t → ready t = true →
      C.inv (next t) ∧ C.guar t (next t) ∧ Q (.ok ()) (next t)) :
    (await ready next).Sat C Q s := h

lemma sat_modify {Q : Except ε Unit → σ → Prop} {next : σ → σ}
    (h : ∀ t, C.rely s t → C.inv t → C.inv (next t) ∧ C.guar t (next t) ∧ Q (.ok ()) (next t)) :
    (modify next).Sat C Q s :=
  fun t hrely hinv _ => h t hrely hinv

/-- A read is a step that changes nothing. -/
lemma sat_gets {f : σ → α} (hguar : ∀ t, C.guar t t)
    (h : ∀ t, C.rely s t → C.inv t → Q (.ok (f t)) t) : (gets f).Sat C Q s :=
  sat_atomically fun t hrely hinv => ⟨hinv, hguar t, h t hrely hinv⟩

/-- What the others do that the thread relies on does not disturb it. -/
lemma sat_rely {t : σ} (h : p.Sat C Q s) (htrans : ∀ u, C.rely t u → C.rely s u)
    (hQ : ∀ r, Q r s → Q r t) : p.Sat C Q t := by
  cases p with
  | ret a => exact hQ _ h
  | fail e => exact hQ _ h
  | act ready next cont => exact fun u hu => h u (htrans u hu)

/-- Every action of the program is a step of `R`, whatever it finds. -/
def Each (R : σ → σ → Prop) : Prog σ ε α → Prop
  | ret _ => True
  | fail _ => True
  | act ready next cont => ∀ s, ready s = true → R s (next s) ∧ (cont s).Each R

variable {R : σ → σ → Prop}

lemma each_bind {f : α → Prog σ ε β} (h : p.Each R) (hf : ∀ a, (f a).Each R) :
    (p >>= f).Each R := by
  induction p with
  | ret a => exact hf a
  | fail e => trivial
  | act ready next cont ih =>
      intro s hready
      obtain ⟨hstep, hcont⟩ := h s hready
      exact ⟨hstep, ih s hcont⟩

lemma each_attempt (h : p.Each R) : p.attempt.Each R := by
  induction p with
  | ret a => trivial
  | fail e => trivial
  | act ready next cont ih =>
      intro s hready
      obtain ⟨hstep, hcont⟩ := h s hready
      exact ⟨hstep, ih s hcont⟩

lemma each_pure {a : α} : (pure a : Prog σ ε α).Each R := trivial

lemma each_fail {e : ε} : (fail e : Prog σ ε α).Each R := trivial

lemma each_ofExcept {r : Except ε α} : (ofExcept r : Prog σ ε α).Each R := by
  cases r with
  | ok a => trivial
  | error e => trivial

lemma each_atomically {f : σ → Except ε α × σ} (h : ∀ s, R s (f s).2) :
    (atomically f).Each R :=
  fun s _ => ⟨h s, each_ofExcept⟩

lemma each_modify {next : σ → σ} (h : ∀ s, R s (next s)) :
    (modify next : Prog σ ε Unit).Each R :=
  fun s _ => ⟨h s, trivial⟩

lemma each_gets {f : σ → α} (h : ∀ s, R s s) : (gets f : Prog σ ε α).Each R :=
  each_atomically h

/-- A program of steps that keep the contract keeps it, and whatever its steps and the
others' keep it keeps as well. -/
lemma Each.sat {K : σ → σ → Prop} (h : p.Each R)
    (hstep : ∀ t u, C.inv t → R t u → C.inv u ∧ C.guar t u)
    (hrefl : ∀ s, K s s) (htrans : ∀ s t u, K s t → K t u → K s u)
    (hrely : ∀ s t, C.rely s t → K s t) (hR : ∀ s t, R s t → K s t) :
    p.Sat C (fun _ t => K s t) s := by
  induction p generalizing s with
  | ret a => exact hrefl s
  | fail e => exact hrefl s
  | act ready next cont ih =>
      intro t hst hinv hready
      obtain ⟨hnext, hcont⟩ := h t hready
      obtain ⟨hinv', hguar⟩ := hstep t _ hinv hnext
      refine ⟨hinv', hguar, sat_mono (ih t (s := next t) hcont) fun r u hu => ?_⟩
      exact htrans s _ u (htrans s t _ (hrely s t hst) (hR t _ hnext)) hu

end Prog

/-! ### Pools of threads -/

variable {τ κ ι σ ε : Type}

/-- The shared state, and what is left of each thread's job. -/
structure Pool (τ σ ε : Type) where
  shared : σ
  running : τ → Prog σ ε Unit

/-- The jobs, the thread that does each, and what the outside can do to the state. -/
structure Workload (τ κ ι σ ε : Type) where
  thread : κ → τ
  program : κ → Prog σ ε Unit
  interfere : ι → σ → σ

/-- One step of a run: a thread that is done begins a job, a thread takes an action, or
the outside interferes. -/
inductive Move (τ κ ι : Type) where
  | start (job : κ)
  | act (thread : τ)
  | interfere (how : ι)
  deriving DecidableEq

/-- Nothing is left to do. -/
def Prog.done {α : Type} : Prog σ ε α → Bool
  | .act _ _ _ => false
  | _ => true

/-- The next state, `none` if the move is not possible. -/
def Workload.step [DecidableEq τ] (W : Workload τ κ ι σ ε) (x : Pool τ σ ε) :
    Move τ κ ι → Option (Pool τ σ ε)
  | .start job =>
      if (x.running (W.thread job)).done then
        some { x with running := Function.update x.running (W.thread job) (W.program job) }
      else none
  | .act thread =>
      match x.running thread with
      | .act ready next cont =>
          if ready x.shared then
            some ⟨next x.shared, Function.update x.running thread (cont x.shared)⟩
          else none
      | _ => none
  | .interfere how => some { x with shared := W.interfere how x.shared }

/-- Nobody does anything yet. -/
def Pool.idle (s : σ) : Pool τ σ ε := ⟨s, fun _ => .ret ()⟩

/-! ### Contracts that fit together -/

/-- A contract for each thread, with what holds between its jobs; what one thread
guarantees the others rely on. -/
structure Discipline (τ σ : Type) where
  inv : σ → Prop
  rely : τ → σ → σ → Prop
  guar : τ → σ → σ → Prop
  between : τ → σ → Prop
  rely_refl : ∀ a s, rely a s s
  rely_trans : ∀ a s t u, rely a s t → rely a t u → rely a s u
  between_stable : ∀ a s t, between a s → rely a s t → between a t
  fits : ∀ a b s t, a ≠ b → guar a s t → rely b s t

namespace Discipline

variable (D : Discipline τ σ)

/-- The contract of one thread. -/
def contract (a : τ) : Contract σ := ⟨D.inv, D.rely a, D.guar a⟩

/-- The jobs that are `allowed` keep the contracts of their threads, and the outside does
nothing that a thread does not rely on. -/
structure Obeyed (W : Workload τ κ ι σ ε) (allowed : κ → Prop) : Prop where
  program : ∀ job s, allowed job → D.inv s → D.between (W.thread job) s →
    (W.program job).Sat (D.contract (W.thread job)) (fun _ => D.between (W.thread job)) s
  interfere : ∀ how s, D.inv s → D.inv (W.interfere how s) ∧ ∀ a, D.rely a s (W.interfere how s)

/-- The invariant holds, and every thread is in the middle of a job that keeps its
contract. -/
structure Safe (x : Pool τ σ ε) : Prop where
  inv : D.inv x.shared
  running : ∀ a, (x.running a).Sat (D.contract a) (fun _ => D.between a) x.shared

variable {D}

/-- A program that is done left its thread between two jobs. -/
lemma between_of_done {a : τ} {p : Prog σ ε Unit} {s : σ}
    (h : p.Sat (D.contract a) (fun _ => D.between a) s) (hdone : p.done = true) :
    D.between a s := by
  cases p with
  | ret u => exact h
  | fail e => exact h
  | act ready next cont => cases hdone

/-- A thread that the change was not made by. -/
lemma sat_undisturbed {a : τ} {p : Prog σ ε Unit} {s t : σ}
    (h : p.Sat (D.contract a) (fun _ => D.between a) s) (hrely : D.rely a s t) :
    p.Sat (D.contract a) (fun _ => D.between a) t :=
  Prog.sat_rely h (fun u hu => D.rely_trans a s t u hrely hu)
    fun _ hb => D.between_stable a s t hb hrely

variable [DecidableEq τ] {W : Workload τ κ ι σ ε} {allowed : κ → Prop}

/-- One thread has something else left to do. -/
lemma safe_update {a : τ} {p : Prog σ ε Unit} {running : τ → Prog σ ε Unit} {s : σ}
    (hinv : D.inv s) (hp : p.Sat (D.contract a) (fun _ => D.between a) s)
    (hothers : ∀ b, b ≠ a → (running b).Sat (D.contract b) (fun _ => D.between b) s) :
    D.Safe ⟨s, Function.update running a p⟩ := by
  refine ⟨hinv, fun b => ?_⟩
  dsimp only
  by_cases hb : b = a
  · subst hb
    rw [Function.update_self]
    exact hp
  · rw [Function.update_of_ne hb]
    exact hothers b hb

/-- **One step keeps every contract**, and the step of a thread gives its guarantee. -/
theorem step_safe (hobeyed : D.Obeyed W allowed) {x y : Pool τ σ ε} {move : Move τ κ ι}
    (h : D.Safe x) (hallowed : ∀ job, move = .start job → allowed job)
    (hstep : W.step x move = some y) :
    D.Safe y ∧ ∀ a, move = .act a → D.guar a x.shared y.shared := by
  cases move with
  | start job =>
      rw [Workload.step] at hstep
      split at hstep
      · rename_i hdone
        obtain rfl := Option.some.inj hstep
        have hbetween := between_of_done (h.running (W.thread job)) hdone
        have hprogram := hobeyed.program job x.shared (hallowed job rfl) h.inv hbetween
        exact ⟨safe_update h.inv hprogram fun a _ => h.running a, nofun⟩
      · cases hstep
  | act a =>
      have ha := h.running a
      rw [Workload.step] at hstep
      split at hstep
      · rename_i ready next cont hrunning
        split at hstep
        · rename_i hready
          obtain rfl := Option.some.inj hstep
          rw [hrunning] at ha
          obtain ⟨hinv, hguar, hcont⟩ := ha x.shared (D.rely_refl a x.shared) h.inv hready
          refine ⟨safe_update hinv hcont fun b hb => ?_, ?_⟩
          · exact sat_undisturbed (h.running b) (D.fits a b _ _ (Ne.symm hb) hguar)
          · rintro b hb
            obtain rfl := Move.act.inj hb
            exact hguar
        · cases hstep
      · cases hstep
  | interfere how =>
      obtain rfl := Option.some.inj hstep
      obtain ⟨hinv, hrely⟩ := hobeyed.interfere how x.shared h.inv
      exact ⟨⟨hinv, fun a => sat_undisturbed (h.running a) (hrely a)⟩, nofun⟩

/-- **In every run all contracts are kept.** -/
theorem run_safe (hobeyed : D.Obeyed W allowed) {s : σ} (hinv : D.inv s)
    (hbetween : ∀ a, D.between a s) {moves : List (Move τ κ ι)} {x : Pool τ σ ε}
    (hallowed : ∀ job, .start job ∈ moves → allowed job)
    (hrun : run? W.step (Pool.idle s) moves = some x) : D.Safe x := by
  have hidle : D.Safe (Pool.idle s : Pool τ σ ε) := ⟨hinv, hbetween⟩
  refine run?_invariant (P := fun move => ∀ job, move = .start job → allowed job)
    (fun x move y hx hmove hstep => (step_safe hobeyed hx hmove hstep).1) moves _ x hidle ?_ hrun
  rintro move hmem job rfl
  exact hallowed job hmem

end Discipline

end Machine
