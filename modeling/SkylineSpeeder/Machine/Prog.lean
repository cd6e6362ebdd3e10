import Mathlib.Tactic

/-!
Programs of one thread over a shared state, with errors.

A program is a tree of atomic actions.  An action waits until the state lets it
run (a lock that is free), changes the state, and goes on by what it found there.
What an environment decides while the program runs, such as which of its calls
fail, is a parameter of the program and not of its semantics.

* `Prog`, with `bind` for `?` and sequencing and `attempt` for an error that is
  looked at instead of returned;
* `run`: the program from start to end with nothing in between, `none` where it
  would wait for ever;
* `wp`: what holds when it ends; the rules of the constructs are its simp set, and
  `wp_mono` is the rule of consequence.
-/

namespace Machine

/-- A program over the states `σ` that ends with a value or an error. -/
inductive Prog (σ ε α : Type) where
  | ret (a : α)
  | fail (e : ε)
  | act (ready : σ → Bool) (next : σ → σ) (cont : σ → Prog σ ε α)

namespace Prog

variable {σ ε α β : Type}

/-- One program after the other; an error of the first one ends both. -/
def bind : Prog σ ε α → (α → Prog σ ε β) → Prog σ ε β
  | ret a, f => f a
  | fail e, _ => fail e
  | act ready next cont, f => act ready next fun s => (cont s).bind f

instance : Monad (Prog σ ε) where
  pure := ret
  bind := bind

/-- The program with its error as a value. -/
def attempt : Prog σ ε α → Prog σ ε (Except ε α)
  | ret a => ret (.ok a)
  | fail e => ret (.error e)
  | act ready next cont => act ready next fun s => (cont s).attempt

/-- A value or an error that is there already. -/
def ofExcept : Except ε α → Prog σ ε α
  | .ok a => ret a
  | .error e => fail e

/-- A state change with a result, in one step. -/
def atomically (f : σ → Except ε α × σ) : Prog σ ε α :=
  act (fun _ => true) (fun s => (f s).2) fun s => ofExcept (f s).1

/-- A state change in one step, as soon as the state lets it run. -/
def await (ready : σ → Bool) (next : σ → σ) : Prog σ ε Unit :=
  act ready next fun _ => ret ()

/-- A state change that cannot fail. -/
def modify (next : σ → σ) : Prog σ ε Unit := await (fun _ => true) next

/-- A read. -/
def gets (f : σ → α) : Prog σ ε α := atomically fun s => (.ok (f s), s)

/-! ### Running a program alone -/

/-- The program from start to end, `none` if it waits for what cannot come. -/
def run : Prog σ ε α → σ → Option (Except ε α × σ)
  | ret a, s => some (.ok a, s)
  | fail e, s => some (.error e, s)
  | act ready next cont, s => if ready s then (cont s).run (next s) else none

lemma run_bind (p : Prog σ ε α) (f : α → Prog σ ε β) (s : σ) :
    (p >>= f).run s = (p.run s).bind fun out =>
      match out.1 with
      | .ok a => (f a).run out.2
      | .error e => some (.error e, out.2) := by
  induction p generalizing s with
  | ret a => rfl
  | fail e => rfl
  | act ready next cont ih =>
      rw [run]
      split
      · rename_i hready
        rw [← ih s (next s)]
        exact if_pos hready
      · rename_i hready
        exact if_neg hready

lemma run_attempt (p : Prog σ ε α) (s : σ) :
    p.attempt.run s = (p.run s).map fun out => (.ok out.1, out.2) := by
  induction p generalizing s with
  | ret a => rfl
  | fail e => rfl
  | act ready next cont ih =>
      rw [attempt, run, run]
      split
      · exact ih s (next s)
      · rfl

/-! ### What holds at the end -/

/-- Whenever the program, run alone from `s`, ends, `Q` holds of its result and the
state it leaves. -/
def wp (Q : Except ε α → σ → Prop) (p : Prog σ ε α) (s : σ) : Prop :=
  ∀ r t, p.run s = some (r, t) → Q r t

variable {Q Q' : Except ε α → σ → Prop} {p : Prog σ ε α} {s : σ}

/-- The rule of consequence. -/
lemma wp_mono (h : wp Q p s) (hQ : ∀ r t, Q r t → Q' r t) : wp Q' p s :=
  fun r t hrun => hQ r t (h r t hrun)

@[simp] lemma wp_ret {a : α} : wp Q (ret a) s ↔ Q (.ok a) s := by
  refine ⟨fun h => h _ _ rfl, fun h r t hrun => ?_⟩
  obtain ⟨rfl, rfl⟩ := Prod.mk.inj (Option.some.inj hrun)
  exact h

@[simp] lemma wp_pure {a : α} : wp Q (pure a) s ↔ Q (.ok a) s := wp_ret

@[simp] lemma wp_fail {e : ε} : wp Q (fail e) s ↔ Q (.error e) s := by
  refine ⟨fun h => h _ _ rfl, fun h r t hrun => ?_⟩
  obtain ⟨rfl, rfl⟩ := Prod.mk.inj (Option.some.inj hrun)
  exact h

@[simp] lemma wp_ofExcept {r : Except ε α} : wp Q (ofExcept r) s ↔ Q r s := by
  cases r with
  | ok a => exact wp_ret
  | error e => exact wp_fail

@[simp] lemma wp_bind {Q : Except ε β → σ → Prop} {f : α → Prog σ ε β} :
    wp Q (p >>= f) s ↔ wp (fun r t =>
      match r with
      | .ok a => wp Q (f a) t
      | .error e => Q (.error e) t) p s := by
  constructor
  · intro h r t hrun
    cases r with
    | ok a =>
        intro r' t' hrun'
        apply h
        rw [run_bind, hrun]
        exact hrun'
    | error e =>
        apply h
        rw [run_bind, hrun]
        rfl
  · intro h r t hrun
    rw [run_bind, Option.bind_eq_some_iff] at hrun
    obtain ⟨⟨r', t'⟩, hfirst, hrest⟩ := hrun
    have hQ := h r' t' hfirst
    cases r' with
    | ok a => exact hQ r t hrest
    | error e =>
        obtain ⟨rfl, rfl⟩ := Prod.mk.inj (Option.some.inj hrest)
        exact hQ

/-- The rule of sequencing, with what holds in between. -/
lemma wp_bind_of {Q : Except ε β → σ → Prop} {M : Except ε α → σ → Prop}
    {f : α → Prog σ ε β} (h : wp M p s) (hok : ∀ a t, M (.ok a) t → wp Q (f a) t)
    (herror : ∀ e t, M (.error e) t → Q (.error e) t) : wp Q (p >>= f) s := by
  refine wp_bind.mpr (wp_mono h ?_)
  intro r t hr
  cases r with
  | ok a => exact hok a t hr
  | error e => exact herror e t hr

@[simp] lemma wp_attempt {Q : Except ε (Except ε α) → σ → Prop} :
    wp Q p.attempt s ↔ wp (fun r t => Q (.ok r) t) p s := by
  constructor
  · intro h r t hrun
    apply h
    rw [run_attempt, hrun]
    rfl
  · intro h r t hrun
    rw [run_attempt, Option.map_eq_some_iff] at hrun
    obtain ⟨out, hout, heq⟩ := hrun
    obtain ⟨rfl, rfl⟩ := Prod.mk.inj heq
    exact h _ _ hout

@[simp] lemma wp_atomically {f : σ → Except ε α × σ} :
    wp Q (atomically f) s ↔ Q (f s).1 (f s).2 :=
  Iff.trans Iff.rfl (wp_ofExcept (r := (f s).1) (s := (f s).2))

@[simp] lemma wp_gets {f : σ → α} : wp Q (gets f) s ↔ Q (.ok (f s)) s := wp_atomically

@[simp] lemma wp_await {Q : Except ε Unit → σ → Prop} {ready : σ → Bool} {next : σ → σ} :
    wp Q (await ready next) s ↔ (ready s = true → Q (.ok ()) (next s)) := by
  constructor
  · intro h hready
    apply h
    rw [await, run, if_pos hready]
    rfl
  · intro h r t hrun
    rw [await, run] at hrun
    split at hrun
    · rename_i hready
      obtain ⟨rfl, rfl⟩ := Prod.mk.inj (Option.some.inj hrun)
      exact h hready
    · cases hrun

@[simp] lemma wp_modify {Q : Except ε Unit → σ → Prop} {next : σ → σ} :
    wp Q (modify next) s ↔ Q (.ok ()) (next s) := by
  rw [modify, wp_await]
  simp only [forall_const]

end Prog

end Machine
