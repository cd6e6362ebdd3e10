import Mathlib.Tactic

/-!
Runs of a transition function, and the rules that lift a fact about one step to
every step of a run.

* `run?`: a run of a partial step function, which stops at an event that is not
  enabled; `run?_invariant` is its invariant rule, and `Along?` with
  `along?_invariant` the same under a condition on every step;
* `Along`: a condition that holds at every step of a run of a total step
  function, a fold; `along_invariant` and `along_mono` carry an invariant and a
  second condition along it;
* `trace`: what can be observed after each step of a run; `trace_eq_of_sim` shows
  two runs alike by a relation between their states.
-/

namespace Machine

variable {σ ε : Type*}

/-! ### Partial step functions -/

/-- The state after a list of events, `none` if one of them was not enabled. -/
def run? (step : σ → ε → Option σ) : σ → List ε → Option σ
  | s, [] => some s
  | s, e :: es => (step s e).bind fun s' => run? step s' es

@[simp] lemma run?_nil (step : σ → ε → Option σ) (s : σ) : run? step s [] = some s := rfl

lemma run?_cons (step : σ → ε → Option σ) (s : σ) (e : ε) (es : List ε) :
    run? step s (e :: es) = (step s e).bind fun s' => run? step s' es := rfl

/-- A run of a list with a first event is one step and the rest. -/
lemma run?_cons_eq_some {step : σ → ε → Option σ} {s t : σ} {e : ε} {es : List ε} :
    run? step s (e :: es) = some t ↔ ∃ u, step s e = some u ∧ run? step u es = some t := by
  rw [run?_cons, Option.bind_eq_some_iff]

/-- A run of two lists, one after the other. -/
lemma run?_append {step : σ → ε → Option σ} (es es' : List ε) (s : σ) :
    run? step s (es ++ es') = (run? step s es).bind fun t => run? step t es' := by
  induction es generalizing s with
  | nil => rfl
  | cons e es ih =>
      rw [List.cons_append, run?_cons, run?_cons, Option.bind_assoc]
      exact congrArg _ (funext ih)

/-- An invariant of every step, under a condition on the events, holds after a
run of such events. -/
lemma run?_invariant {step : σ → ε → Option σ} {I : σ → Prop} {P : ε → Prop}
    (hstep : ∀ s e t, I s → P e → step s e = some t → I t) :
    ∀ (es : List ε) (s t : σ), I s → (∀ e ∈ es, P e) → run? step s es = some t → I t := by
  intro es
  induction es with
  | nil =>
      intro s t hs _ h
      rw [run?_nil, Option.some.injEq] at h
      exact h ▸ hs
  | cons e es ih =>
      intro s t hs hP h
      obtain ⟨u, hu, hrest⟩ := run?_cons_eq_some.mp h
      have hIu : I u := hstep s e u hs (hP e (by simp)) hu
      exact ih u t hIu (fun e' he' => hP e' (List.mem_cons_of_mem e he')) hrest

/-- `P` holds of the state and the event at every step of the run of `es` from `s`, up
to an event that is not enabled. -/
def Along? (step : σ → ε → Option σ) (P : σ → ε → Prop) : σ → List ε → Prop
  | _, [] => True
  | s, e :: es =>
      P s e ∧
        match step s e with
        | none => True
        | some t => Along? step P t es

/-- Whether it does can be evaluated. -/
instance Along?.decidable (step : σ → ε → Option σ) (P : σ → ε → Prop)
    [∀ s e, Decidable (P s e)] : ∀ (s : σ) (es : List ε), Decidable (Along? step P s es)
  | _, [] => isTrue trivial
  | s, e :: es =>
      match h : step s e with
      | none => decidable_of_iff (P s e) (by simp [Along?, h])
      | some t =>
          have := Along?.decidable step P t es
          decidable_of_iff (P s e ∧ Along? step P t es) (by simp [Along?, h])

/-- What every step that meets `P` preserves holds after a run all of whose steps meet
`P`. -/
lemma along?_invariant {step : σ → ε → Option σ} {I : σ → Prop} {P : σ → ε → Prop}
    (hstep : ∀ s e t, I s → P s e → step s e = some t → I t) :
    ∀ (es : List ε) (s t : σ), I s → Along? step P s es → run? step s es = some t → I t := by
  intro es
  induction es with
  | nil =>
      intro s t hs _ h
      rw [run?_nil, Option.some.injEq] at h
      exact h ▸ hs
  | cons e es ih =>
      rintro s t hs ⟨hP, hrest⟩ h
      obtain ⟨u, hu, hrun⟩ := run?_cons_eq_some.mp h
      rw [hu] at hrest
      exact ih u t (hstep s e u hs hP hu) hrest hrun

/-! ### Conditions along a run -/

/-- `P` holds of the state and the event at every step of the run of `es` from
`s`. -/
def Along (step : σ → ε → σ) (P : σ → ε → Prop) : σ → List ε → Prop
  | _, [] => True
  | s, e :: es => P s e ∧ Along step P (step s e) es

/-- Whether a condition holds along a run can be evaluated. -/
instance Along.decidable (step : σ → ε → σ) (P : σ → ε → Prop) [∀ s e, Decidable (P s e)] :
    ∀ (s : σ) (es : List ε), Decidable (Along step P s es)
  | _, [] => isTrue trivial
  | s, e :: es =>
      have := Along.decidable step P (step s e) es
      inferInstanceAs (Decidable (P s e ∧ Along step P (step s e) es))

lemma along_append {step : σ → ε → σ} {P : σ → ε → Prop} (es es' : List ε) (s : σ) :
    Along step P s (es ++ es') ↔ Along step P s es ∧ Along step P (es.foldl step s) es' := by
  induction es generalizing s with
  | nil => simp [Along]
  | cons e es ih => simp only [List.cons_append, Along, List.foldl_cons, ih, and_assoc]

/-- A condition on the events alone. -/
lemma along_of_forall {step : σ → ε → σ} {P : ε → Prop} :
    ∀ (es : List ε) (s : σ), (∀ e ∈ es, P e) → Along step (fun _ e => P e) s es := by
  intro es
  induction es with
  | nil => exact fun _ _ => trivial
  | cons e es ih =>
      exact fun s h => ⟨h e (by simp), ih _ fun e' he' => h e' (List.mem_cons_of_mem e he')⟩

/-- The invariant rule: what every step that meets `P` preserves holds after a
run all of whose steps meet `P`. -/
lemma along_invariant {step : σ → ε → σ} {P : σ → ε → Prop} {I : σ → Prop}
    (hstep : ∀ s e, I s → P s e → I (step s e)) :
    ∀ (es : List ε) (s : σ), I s → Along step P s es → I (es.foldl step s) := by
  intro es
  induction es with
  | nil => exact fun s hs _ => hs
  | cons e es ih => exact fun s hs h => ih (step s e) (hstep s e hs h.1) h.2

/-- A second condition holds at every step of a run that meets the first, if it
follows from the first in every state the invariant allows. -/
lemma along_mono {step : σ → ε → σ} {P Q : σ → ε → Prop} {I : σ → Prop}
    (hstep : ∀ s e, I s → P s e → I (step s e)) (hPQ : ∀ s e, I s → P s e → Q s e) :
    ∀ (es : List ε) (s : σ), I s → Along step P s es → Along step Q s es := by
  intro es
  induction es with
  | nil => exact fun _ _ _ => trivial
  | cons e es ih =>
      exact fun s hs h => ⟨hPQ s e hs h.1, ih (step s e) (hstep s e hs h.1) h.2⟩

/-! ### Two runs in lockstep -/

/-- The observations after each step of a run. -/
def trace {o : Type*} (step : σ → ε → σ) (obs : σ → o) : σ → List ε → List o
  | _, [] => []
  | s, e :: es => obs (step s e) :: trace step obs (step s e) es

/-- Two machines that take the same events in related states to related states,
and whose related states look the same, have the same traces. -/
lemma trace_eq_of_sim {τ o : Type*} {stepL : σ → ε → σ} {stepR : τ → ε → τ} {obsL : σ → o}
    {obsR : τ → o} {R : σ → τ → Prop} {P : ε → Prop}
    (hstep : ∀ s t e, R s t → P e → R (stepL s e) (stepR t e))
    (hobs : ∀ s t, R s t → obsL s = obsR t) :
    ∀ (es : List ε) (s : σ) (t : τ), R s t → (∀ e ∈ es, P e) →
      trace stepL obsL s es = trace stepR obsR t es := by
  intro es
  induction es with
  | nil => exact fun _ _ _ _ => rfl
  | cons e es ih =>
      intro s t hst hP
      have hnext : R (stepL s e) (stepR t e) := hstep s t e hst (hP e (by simp))
      have hrest := ih _ _ hnext fun e' he' => hP e' (List.mem_cons_of_mem e he')
      rw [trace, trace, hobs _ _ hnext, hrest]

end Machine
