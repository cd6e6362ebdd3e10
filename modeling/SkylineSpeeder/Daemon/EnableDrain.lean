import SkylineSpeeder.Daemon.Effects

/-!
What `Enable` and `Drain` can do, run from start to end, the two requests that change
more than one part of the kernel's state.

* `EnableEffect`, `handle_enable`: an `Enable` is refused and undone, or it has published
  and could not write the default, or it is through;
* `DrainEffect`, `handle_drain`: a `Drain` could not write the default, or not the policy
  map after it, or has stopped the copies (`Stopped`), whatever comes then;
* `serve_cases`: a call is one of the two loads, or one of the requests.
-/

namespace SkylineSpeeder.Speederd

open Machine Machine.Prog Word

/-! ### Enable -/

/-- The configuration an `Enable` asks for. -/
def enableConfig (config : SkylineConfig) (modules : Option (List Module)) : SkylineConfig :=
  nextGeneration { config with enabledModules := modules.getD config.enabledModules }

/-- The state in which an `Enable` publishes. -/
def enableStart (s : Sys) (modules : Option (List Module)) : Sys :=
  (s.note (.received (.enable modules))).editConfig fun config => enableConfig config modules

/-- The daemon once it has published, with the cgroup policy switched on. -/
def enabledPolicy (o : Outcome) (d : Daemon) : Daemon :=
  { d with policy := d.policy.map fun policy => (policy.setPolicyEnabled o true).2 }

/-- The daemon of a successful `Enable`. -/
def enabledDaemon (o : Outcome) (d : Daemon) : Daemon :=
  { enabledPolicy o d with
    tc := d.tc.map fun tc => (tc.setRedundancy o d.config.redundancy true).2
    accelerating := true
    draining := false }

/-- What an `Enable` does: it is `refused` before it has published, and then has undone its
edit; or it has published and could not write the default; or it is through. -/
inductive EnableEffect (o : Outcome) (s : Sys) (modules : Option (List Module)) :
    Except DaemonError Unit → Sys → Prop where
  | refused {e : DaemonError} {t₁ : Sys}
      (hpub : PublishEffect (enableStart s modules) (.error e) t₁)
      (hvalid : (enableConfig s.daemon.config modules).Valid ∨
        t₁.journal = (enableStart s modules).journal) :
      EnableEffect o s modules (.error e)
        ((t₁.editConfig fun _ => s.daemon.config).note (.returned (.enable modules) false))
  | notDefault {e : DaemonError} {t₁ t : Sys}
      (hpub : PublishEffect (enableStart s modules) (.ok ()) t₁)
      (hvalid : (enableConfig s.daemon.config modules).Valid)
      (hattached : t₁.daemon.runtime.isSome = true)
      (hdaemon : t.daemon = enabledPolicy o t₁.daemon)
      (hjournal : t.journal = .returned (.enable modules) false ::
        .setDefault .enable skylineCcName false :: t₁.journal) :
      EnableEffect o s modules (.error e) t
  | enabled {t₁ t : Sys} {journal : List Event}
      (hpub : PublishEffect (enableStart s modules) (.ok ()) t₁)
      (hvalid : (enableConfig s.daemon.config modules).Valid)
      (hattached : t₁.daemon.runtime.isSome = true)
      (hdaemon : t.daemon = enabledDaemon o t₁.daemon)
      (hjournal : t.journal = .returned (.enable modules) true :: journal)
      (hnew : Extends (fun e => ∃ ok, e = .setDefault .enable skylineCcName ok)
        (.setDefault .enable skylineCcName true :: t₁.journal) journal) :
      EnableEffect o s modules (.ok ()) t

/-- The edit of a refused `Enable` is undone. -/
lemma enable_undo {s t : Sys} {modules : Option (List Module)} {q : Except DaemonError Unit}
    (hpub : PublishEffect (enableStart s modules) q t) :
    (t.editConfig fun config =>
      { config with
        enabledModules := s.daemon.config.enabledModules
        generation := s.daemon.config.generation })
      = t.editConfig fun _ => s.daemon.config := by
  have hconfig : t.daemon.config = enableConfig s.daemon.config modules := by
    rw [hpub.daemon]
    rfl
  rw [Sys.editConfig, Sys.editConfig, hconfig]
  rfl

/-- **What an `Enable` does.** -/
theorem handle_enable (o : Outcome) (s : Sys) (modules : Option (List Module)) :
    wp (fun q t => ∃ q', q = .ok q' ∧ EnableEffect o s modules q' t)
      (handle o (.enable modules)) s := by
  rw [wp_handle]
  refine wp_mono (Q := fun q t => EnableEffect o s modules q (settle s (.enable modules) q t)) ?_
    (fun q t h => ⟨q, rfl, h⟩)
  simp only [tryHandle, enable, wp_bind, wp_gets, wp_modify, wp_attempt]
  refine wp_mono (publishOrAttach_effect o (enableStart s modules)) ?_
  rintro q t₁ ⟨hpub, hvalid, hattached⟩
  cases q with
  | error e =>
      simp only [wp_bind, wp_modify, wp_fail]
      have hundo := enable_undo hpub
      refine Eq.mp ?_ (EnableEffect.refused (o := o) hpub (hvalid.imp id And.right))
      rw [← hundo]
      rfl
  | ok u =>
      have hvalid' : (enableConfig s.daemon.config modules).Valid :=
        hvalid.resolve_right fun h => h.1 rfl
      simp only [wp_bind, wp_attempt]
      refine wp_setPolicyEnabled fun _ t₂ _ hdaemon₂ hjournal₂ => ?_
      simp only [setDefaultCongestionControl, wp_atomically, Outcome.result]
      cases hok : o.ok .skylineDefault with
      | false =>
          refine .notDefault hpub hvalid' (hattached rfl) hdaemon₂ ?_
          simp only [settle, Sys.note, Request.isEnable, if_true, hjournal₂]
      | true =>
          refine wp_mono (wp_armAndEnforce o _) ?_
          rintro q t₃ ⟨rfl, hdaemon₃, hjournal₃⟩
          simp only [wp_modify]
          refine wp_applyRedundancy fun _ t₄ hdaemon₄ hjournal₄ => wp_pure.mpr ?_
          refine .enabled hpub hvalid' (hattached rfl) ?_ (show _ = _ :: t₄.journal from rfl) ?_
          · simp only [settle, Sys.note, hdaemon₄, hdaemon₃, hdaemon₂]
            rfl
          · rw [hjournal₄, ← hjournal₂]
            exact hjournal₃

/-! ### Drain -/

/-- What a drain notes after it has handed new connections back. -/
inductive DrainEntry : Event → Prop where
  | flowCount (read : Option UInt64) : DrainEntry (.flowCount read)
  | unregister (ok : Bool) : DrainEntry (.unregister .drain ok)

/-- The daemon once a drain has stopped the copies. -/
def drainedDaemon (o : Outcome) (d : Daemon) : Daemon :=
  { d with
    policy := d.policy.map fun policy => (policy.setPolicyEnabled o false).2
    tc := d.tc.map fun tc => (tc.setRedundancy o d.config.redundancy false).2
    accelerating := false }

/-- A drain that has stopped the copies, from there to its end. -/
structure Stopped (o : Outcome) (s : Sys) (timeoutS : UInt64) (t : Sys) : Prop where
  handed : o.ok .fallbackDefault = true
  daemon : t.daemon = { drainedDaemon o s.daemon with
    runtime := t.daemon.runtime
    draining := t.daemon.draining }
  runtime : t.daemon.runtime = s.daemon.runtime ∨ t.daemon.runtime = none
  journal : Extends DrainEntry
    (.setDefault .drain s.daemon.config.fallbackCc true :: .received (.drain timeoutS) :: s.journal)
    t.journal

/-- What a `Drain` does: its write of `fallback_cc` fails; or the policy map's write
after it; or it has stopped the copies, whatever comes then. -/
inductive DrainEffect (o : Outcome) (s : Sys) (timeoutS : UInt64) :
    Except DaemonError Unit → Sys → Prop where
  | notHanded {e : DaemonError} {t : Sys} (hok : o.ok .fallbackDefault = false)
      (hdaemon : t.daemon = s.daemon)
      (hjournal : t.journal = .returned (.drain timeoutS) false ::
        .setDefault .drain s.daemon.config.fallbackCc false ::
        .received (.drain timeoutS) :: s.journal) :
      DrainEffect o s timeoutS (.error e) t
  | policyFailed {e : DaemonError} {t : Sys} {policy : PolicyRuntime} {maps : PolicyMaps}
      (hok : o.ok .fallbackDefault = true) (hpolicy : s.daemon.policy = some policy)
      (hobject : policy.object = some maps) (hfailed : o.ok .policyEnabled = false)
      (hdaemon : t.daemon = s.daemon)
      (hjournal : t.journal = .returned (.drain timeoutS) false ::
        .setDefault .drain s.daemon.config.fallbackCc true ::
        .received (.drain timeoutS) :: s.journal) :
      DrainEffect o s timeoutS (.error e) t
  | stopped {q : Except DaemonError Unit} {t : Sys} (h : Stopped o s timeoutS t) (ok : Bool) :
      DrainEffect o s timeoutS q (t.note (.returned (.drain timeoutS) ok))

/-- A read of the flow count. -/
lemma wp_activeFlows (o : Outcome) (k : ℕ) (s : Sys) :
    wp (fun _ t => Noting DrainEntry s t) (activeFlows o k) s := by
  simp only [activeFlows, wp_atomically]
  cases s.daemon.runtime with
  | none => exact .refl _ s
  | some _ => exact (Noting.refl _ s).step (.flowCount _) rfl rfl

/-- The wait of a drain, poll by poll. -/
lemma wp_drainWait (o : Outcome) (deadline : Option ℕ) (fuel k : ℕ) (s : Sys) :
    wp (fun _ t => Noting DrainEntry s t) (drainWait o deadline fuel k) s := by
  induction fuel generalizing k s with
  | zero => simp [drainWait]
  | succ fuel ih =>
      rw [drainWait]
      refine wp_bind_of (wp_activeFlows o k s) (fun flows t h => ?_) (fun e t h => h)
      split
      · exact wp_mono (ih (k + 1) t) fun q u h' => h.trans h'
      · exact wp_pure.mpr h

/-- A drain leaves the configuration alone, so nothing is put back after its error. -/
lemma settle_error_drain {s t : Sys} {timeoutS : UInt64} {e : DaemonError}
    (hconfig : t.daemon.config = s.daemon.config) :
    settle s (.drain timeoutS) (.error e) t = t.note (.returned (.drain timeoutS) false) := by
  have hkept : (t.editConfig fun _ => s.daemon.config) = t := by
    rw [← hconfig]
    rfl
  simp only [settle, Request.isEnable, hkept, Bool.false_eq_true, if_false]

namespace Stopped

variable {o : Outcome} {s t u : Sys} {timeoutS : UInt64}

lemma noting (h : Stopped o s timeoutS t) (hn : Noting DrainEntry t u) :
    Stopped o s timeoutS u := by
  refine ⟨h.handed, ?_, ?_, h.journal.trans hn.journal⟩
  · rw [hn.daemon]
    exact h.daemon
  · rw [hn.daemon]
    exact h.runtime

/-- The flag that says a drain is going on. -/
lemma draining (h : Stopped o s timeoutS t) (flag : Bool) :
    Stopped o s timeoutS { t with daemon := { t.daemon with draining := flag } } := by
  refine ⟨h.handed, ?_, h.runtime, h.journal⟩
  rw [h.daemon]

/-- The runtime dropped. -/
lemma dropped (h : Stopped o s timeoutS t) :
    Stopped o s timeoutS { t with daemon := { t.daemon with runtime := none } } := by
  refine ⟨h.handed, ?_, .inr rfl, h.journal⟩
  rw [h.daemon]

/-- Its end, whatever it returns. -/
lemma settled (h : Stopped o s timeoutS t) (q : Except DaemonError Unit) :
    DrainEffect o s timeoutS q (settle s (.drain timeoutS) q t) := by
  cases q with
  | ok u => exact .stopped h true
  | error e =>
      have hconfig : t.daemon.config = s.daemon.config := by
        rw [h.daemon]
        rfl
      rw [settle_error_drain hconfig]
      exact .stopped h false

end Stopped

/-- Handing new connections back, under the guard's lock. -/
lemma wp_disarmAnd_fallback {Q : Except DaemonError Unit → Sys → Prop} {o : Outcome}
    {fallbackCc : String} {s : Sys}
    (h : ∀ t, t.daemon = s.daemon →
      t.journal = .setDefault .drain fallbackCc (o.ok .fallbackDefault) :: s.journal →
      Q (o.result .fallbackDefault ("set default congestion control to " ++ fallbackCc)) t) :
    wp Q (disarmAnd (setDefaultCongestionControl o .fallbackDefault .drain fallbackCc)) s := by
  simp only [disarmAnd, lockGuard, unlockGuard, setDefaultCongestionControl, wp_bind, wp_await,
    wp_modify, wp_attempt, wp_atomically, wp_ofExcept]
  intro _
  exact h _ rfl rfl

/-- The wait, and what follows it if no flow is left. -/
lemma wp_drainFlows {Q : Except DaemonError Unit → Sys → Prop} {o : Outcome} {timeoutS : UInt64}
    {fallbackCc : String} {s : Sys} (h : ∀ q t, Noting DrainEntry s t → Q q t) :
    wp Q (drainFlows o timeoutS fallbackCc) s := by
  rw [drainFlows]
  refine wp_bind_of (wp_drainWait o _ _ _ s) (fun polls t h₁ => ?_) (fun e t h₁ => h _ t h₁)
  refine wp_bind_of (wp_activeFlows o polls t) (fun flows u h₂ => ?_)
    (fun e u h₂ => h _ u (h₁.trans h₂))
  split
  · exact wp_fail.mpr (h _ u (h₁.trans h₂))
  · exact wp_pure.mpr (h _ u (h₁.trans h₂))

/-- Taking the runtime down. -/
lemma wp_drainRuntime {o : Outcome} {s t : Sys} {timeoutS : UInt64} (h : Stopped o s timeoutS t) :
    wp (fun _ u => Stopped o s timeoutS u) (drainRuntime o) t := by
  simp only [drainRuntime, wp_bind, wp_gets]
  split
  · exact wp_pure.mpr h
  · simp only [wp_bind, unregisterStructOps, dropBpfRuntime, wp_atomically, wp_modify, wp_attempt,
      wp_pure, Outcome.result]
    have hentry : ∀ ok, DrainEntry (.unregister .drain ok) := .unregister
    cases o.ok .unregister with
    | false => exact h.noting ((Noting.refl _ t).step (hentry _) rfl rfl)
    | true =>
        have h₁ : Stopped o s timeoutS
            { t with
              registered := t.registered && !true
              journal := .unregister .drain true :: t.journal } :=
          h.noting ((Noting.refl _ t).step (hentry true) rfl rfl)
        exact h₁.dropped.noting ((Noting.refl _ _).step (hentry _) rfl rfl)

/-- A policy map that could not be written is as it was. -/
lemma setPolicyEnabled_failed {o : Outcome} {policy : PolicyRuntime} {maps : PolicyMaps}
    (hobject : policy.object = some maps) (hfailed : o.ok .policyEnabled = false)
    (enabled : Bool) : (policy.setPolicyEnabled o enabled).2 = policy := by
  simp [PolicyRuntime.setPolicyEnabled, hobject, hfailed]

/-- **What a `Drain` does.** -/
theorem handle_drain (o : Outcome) (s : Sys) (timeoutS : UInt64) :
    wp (fun q t => ∃ q', q = .ok q' ∧ DrainEffect o s timeoutS q' t)
      (handle o (.drain timeoutS)) s := by
  rw [wp_handle]
  refine wp_mono (Q := fun q t => DrainEffect o s timeoutS q (settle s (.drain timeoutS) q t)) ?_
    (fun q t h => ⟨q, rfl, h⟩)
  simp only [tryHandle, drain, wp_bind, wp_gets, wp_modify]
  refine wp_disarmAnd_fallback fun t₁ hdaemon₁ hjournal₁ => ?_
  have hdaemon : t₁.daemon = s.daemon := hdaemon₁
  simp only [Outcome.result]
  -- the default is handed over first; if that fails nothing else is done
  cases hok : o.ok .fallbackDefault with
  | false =>
      rw [hok] at hjournal₁
      simp only [Bool.false_eq_true, if_false]
      rw [settle_error_drain (by rw [hdaemon])]
      refine .notHanded hok hdaemon ?_
      rw [Sys.note, hjournal₁]
      rfl
  | true =>
      rw [hok] at hjournal₁
      refine wp_setPolicyEnabled fun q t₂ hq hdaemon₂ hjournal₂ => ?_
      cases q with
      | error e =>
          obtain ⟨policy, maps, hpolicy, hobject, hfailed⟩ :=
            (hq.resolve_left (by simp)).resolve_right (by simp)
          -- the policy refused, and has changed nothing
          have hkept : t₂.daemon = s.daemon := by
            rw [hdaemon₂, hpolicy, Option.map_some, setPolicyEnabled_failed hobject hfailed,
              ← hpolicy]
            exact hdaemon
          dsimp only
          rw [settle_error_drain (by rw [hkept])]
          refine .policyFailed hok (hdaemon ▸ hpolicy) hobject hfailed hkept ?_
          rw [Sys.note, hjournal₂, hjournal₁]
          rfl
      | ok u =>
          refine wp_applyRedundancy fun q t₃ hdaemon₃ hjournal₃ => ?_
          -- acceleration is off: what comes now is waiting and unloading
          have hstopped : Stopped o s timeoutS t₃ := by
            refine ⟨hok, ?_, .inl ?_, ?_⟩
            · rw [hdaemon₃, hdaemon₂, hdaemon]
              rfl
            · rw [hdaemon₃, hdaemon₂, hdaemon]
            · rw [hjournal₃, hjournal₂, hjournal₁]
              exact .refl _ _
          cases q with
          | error e => exact hstopped.settled _
          | ok u =>
              refine wp_drainFlows fun q t₄ hn => ?_
              have ht : Stopped o s timeoutS t₄ := (hstopped.draining true).noting hn
              cases q with
              | error e => exact ht.settled _
              | ok u =>
                  refine wp_mono (wp_drainRuntime ht) fun q t₅ hv => ?_
                  cases q with
                  | error e => exact hv.settled _
                  | ok u => exact (hv.draining false).settled (.ok ())

/-! ### The calls -/

/-- What a call does. -/
inductive Served (o : Outcome) (s : Sys) : Call → Sys → Prop where
  | idle (call : Call) : Served o s call s
  | policyLoaded (h : s.daemon.policy = none) :
      Served o s .startPolicy { s with daemon := { s.daemon with policy := some (.load o) } }
  | tcLoaded {tc : TcRuntime} (h : s.daemon.tc = none)
      (hload : TcRuntime.load o s.daemon.config = .ok tc) :
      Served o s .startTc { s with daemon := { s.daemon with tc := some tc } }
  | settled {r : Request} {q : Except DaemonError Unit} {t : Sys} (hr : r.isEnable = false)
      (h : Settled o s r q t) : Served o s (.request r) t
  | enabled {modules : Option (List Module)} {q : Except DaemonError Unit} {t : Sys}
      (h : EnableEffect o s modules q t) : Served o s (.request (.enable modules)) t
  | drained {timeoutS : UInt64} {q : Except DaemonError Unit} {t : Sys}
      (h : DrainEffect o s timeoutS q t) : Served o s (.request (.drain timeoutS)) t

/-- The requests that are no `Enable`. -/
lemma isEnable_eq_false {r : Request} (hr : ∀ modules, r ≠ .enable modules) :
    r.isEnable = false := by
  cases r with
  | enable modules => exact absurd rfl (hr modules)
  | _ => rfl

/-- A request, by its kind. -/
lemma handle_served (o : Outcome) (s : Sys) (r : Request) :
    wp (fun _ t => Served o s (.request r) t) (handle o r) s := by
  by_cases hr : ∀ modules, r ≠ .enable modules
  · by_cases hr' : ∀ timeoutS, r ≠ .drain timeoutS
    · exact wp_mono (handle_settled o s r hr hr') fun q t ⟨q', _, h⟩ =>
        .settled (isEnable_eq_false hr) h
    · push Not at hr'
      obtain ⟨timeoutS, rfl⟩ := hr'
      exact wp_mono (handle_drain o s timeoutS) fun q t ⟨q', _, h⟩ => .drained h
  · push Not at hr
    obtain ⟨modules, rfl⟩ := hr
    exact wp_mono (handle_enable o s modules) fun q t ⟨q', _, h⟩ => .enabled h

/-- **What a call does**, the two loads and every request. -/
theorem serve_cases {s t : Sys} {call : Call} {o : Outcome} (h : serve s (call, o) = some t) :
    Served o s call t := by
  have hwp : wp (fun _ t => Served o s call t) (call.program o) s := by
    cases call with
    | startPolicy =>
        simp only [Call.program, startPolicy, wp_modify]
        cases hp : s.daemon.policy with
        | none => exact .policyLoaded hp
        | some policy => exact .idle _
    | startTc =>
        simp only [Call.program, startTc, wp_modify]
        cases htc : s.daemon.tc with
        | none =>
            cases hload : TcRuntime.load o s.daemon.config with
            | ok tc => exact .tcLoaded htc hload
            | error e => exact .idle _
        | some tc => exact .idle _
    | request r =>
        refine wp_bind_of (handle_served o s r) (fun q u hu => wp_pure.mpr hu) fun e u hu => hu
  obtain ⟨out, hrun, rfl⟩ := Option.map_eq_some_iff.mp h
  exact hwp out.1 out.2 hrun

end SkylineSpeeder.Speederd
