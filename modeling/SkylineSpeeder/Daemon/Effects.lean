import SkylineSpeeder.Machine.Journal
import SkylineSpeeder.Daemon.Requests

/-!
What a request of the daemon can do, run from start to end: an inversion lemma for the
requests that edit the configuration, and one for each operation they are made of.  The
invariants of the daemon are derived from these.

* `wp_handle`: a request is `tryHandle` between its two journal entries, with the
  configuration put back after an error;
* `Noting`: a stretch of a call that only talks to the kernel;
* `Edits`, `Settled`, `handle_settled`: the requests that edit the configuration and
  push one part of it to the kernel, and the ones that change nothing;
* `BpfRuntime.Runs`, `PublishEffect`, `updateConfig_effect`, `publishOrAttach_effect`: a
  publication or an attach, and what the runtime runs after it;
* `PushEffect`, `push_effect`: what every push leaves alone.
-/

namespace SkylineSpeeder.Speederd

open Machine Machine.Prog Word

/-! ### A request around `tryHandle` -/

/-- What `handle` makes of a request's end: the state `t` in which `tryHandle` left off,
after it was called on `s`. -/
def settle (s : Sys) (r : Request) (q : Except DaemonError Unit) (t : Sys) : Sys :=
  match q with
  | .ok () => t.note (.returned r true)
  | .error _ =>
      (if r.isEnable then t else t.editConfig fun _ => s.daemon.config).note (.returned r false)

/-- **A request is `tryHandle` between its two entries.** -/
theorem wp_handle {Q : Except DaemonError (Except DaemonError Unit) → Sys → Prop} {o : Outcome}
    {r : Request} {s : Sys} :
    wp Q (handle o r) s ↔
      wp (fun q t => Q (.ok q) (settle s r q t)) (tryHandle o r) (s.note (.received r)) := by
  simp only [handle, wp_bind, wp_modify, wp_gets, wp_attempt]
  refine ⟨fun h => wp_mono h ?_, fun h => wp_mono h ?_⟩
  all_goals
    intro q t hq
    cases q with
    | ok u => simpa [settle] using hq
    | error e => simpa [settle, Sys.note] using hq

/-- From `s` to `t` the daemon's own state has not changed, and nothing was noted but
entries with `P`. -/
structure Noting (P : Event → Prop) (s t : Sys) : Prop where
  daemon : t.daemon = s.daemon
  journal : Extends P s.journal t.journal

lemma Noting.refl (P : Event → Prop) (s : Sys) : Noting P s s := ⟨rfl, .refl P s.journal⟩

/-- One more operation on the kernel. -/
lemma Noting.step {P : Event → Prop} {s t u : Sys} {event : Event} (h : Noting P s t)
    (hentry : P event) (hdaemon : u.daemon = t.daemon)
    (hjournal : u.journal = event :: t.journal) : Noting P s u := by
  refine ⟨hdaemon.trans h.daemon, ?_⟩
  rw [hjournal]
  exact h.journal.cons hentry

lemma Noting.trans {P : Event → Prop} {s t u : Sys} (h : Noting P s t) (h' : Noting P t u) :
    Noting P s u :=
  ⟨h'.daemon.trans h.daemon, h.journal.trans h'.journal⟩

/-! ### The requests that edit the configuration -/

/-- The part of the kernel's state that a request pushes. -/
inductive Target where
  | cc | rto | dscp | redundancy

/-- The push. -/
def Target.push (o : Outcome) : Target → Job Unit
  | .cc => updateConfig o
  | .rto => setRtoTuning o
  | .dscp => applyRetransmitDscp o
  | .redundancy => applyRedundancy o

/-- The configuration a request makes of the one in `d`, and what it pushes of it.  The
`Set` requests and `ResetModuleConfig` have checked it. -/
inductive Edits (d : Daemon) : Request → SkylineConfig → Target → Prop where
  | disableModule (m : Module) :
      Edits d (.disableModule m)
        (nextGeneration { d.config with enabledModules := d.config.enabledModules.filter (· ≠ m) })
        .cc
  | setRackRto (rto : RackRtoConfig) (h : { d.config with rackRto := rto }.Valid) :
      Edits d (.setRackRto rto) (nextGeneration { d.config with rackRto := rto }) .rto
  | resetRackRto :
      Edits d .resetRackRto (nextGeneration { d.config with rackRto := d.rackRtoDefaults }) .rto
  | setModuleConfig (tuning : ModuleTuningConfig) (h : (tuning.applyTo d.config).Valid) :
      Edits d (.setModuleConfig tuning) (nextGeneration (tuning.applyTo d.config)) .cc
  | resetModuleConfig (h : (d.moduleTuningDefaults.applyTo d.config).Valid) :
      Edits d .resetModuleConfig (nextGeneration (d.moduleTuningDefaults.applyTo d.config)) .cc
  | setRetransmitDscp (dscp : RetransmitDscpConfig)
      (h : { d.config with retransmitDscp := dscp }.Valid) :
      Edits d (.setRetransmitDscp dscp) { d.config with retransmitDscp := dscp } .dscp
  | resetRetransmitDscp :
      Edits d .resetRetransmitDscp { d.config with retransmitDscp := d.retransmitDscpDefaults }
        .dscp
  | setRedundancy (redundancy : RedundancyConfig)
      (h : { d.config with redundancy := redundancy }.Valid) :
      Edits d (.setRedundancy redundancy) { d.config with redundancy := redundancy } .redundancy
  | resetRedundancy :
      Edits d .resetRedundancy { d.config with redundancy := d.redundancyDefaults } .redundancy

/-- The state in which an edited configuration is pushed. -/
def pushStart (s : Sys) (r : Request) (config : SkylineConfig) : Sys :=
  (s.note (.received r)).editConfig fun _ => config

/-- What a request other than `Enable` and `Drain` does: nothing, or an edit of the
configuration that is pushed, and undone if the push fails. -/
inductive Settled (o : Outcome) (s : Sys) (r : Request) : Except DaemonError Unit → Sys → Prop where
  | idle : Settled o s r (.ok ()) ((s.note (.received r)).note (.returned r true))
  | refused (e : DaemonError) :
      Settled o s r (.error e) ((s.note (.received r)).note (.returned r false))
  | pushed {config : SkylineConfig} {target : Target} {t : Sys}
      (hedit : Edits s.daemon r config target)
      (hrun : (target.push o).run (pushStart s r config) = some (.ok (), t)) :
      Settled o s r (.ok ()) (t.note (.returned r true))
  | pushFailed {config : SkylineConfig} {target : Target} {e : DaemonError} {t : Sys}
      (hedit : Edits s.daemon r config target)
      (hrun : (target.push o).run (pushStart s r config) = some (.error e, t)) :
      Settled o s r (.error e) ((t.editConfig fun _ => s.daemon.config).note (.returned r false))

/-- A push of an edited configuration, and what `handle` makes of its end. -/
lemma wp_push {o : Outcome} {s : Sys} {r : Request} (target : Target) (hr : r.isEnable = false)
    {config : SkylineConfig} (hedit : Edits s.daemon r config target) :
    wp (fun q t => Settled o s r q (settle s r q t)) (target.push o)
      (pushStart s r config) := by
  intro q t hrun
  cases q with
  | ok u => exact .pushed hedit hrun
  | error e =>
      rw [settle, hr]
      exact .pushFailed hedit hrun

/-- An error before the push, whatever was left in the configuration. -/
lemma settled_refused {o : Outcome} {s : Sys} {r : Request} (hr : r.isEnable = false)
    (e : DaemonError) {t : Sys}
    (ht : t.editConfig (fun _ => s.daemon.config) = s.note (.received r)) :
    Settled o s r (.error e) (settle s r (.error e) t) := by
  simp only [settle, hr, ht, Bool.false_eq_true, if_false]
  exact .refused e

/-- The check after an edit, and what follows it. -/
lemma wp_validateOr {Q : Except DaemonError Unit → Sys → Prop}
    {restore : SkylineConfig → SkylineConfig} {s : Sys}
    (hok : s.daemon.config.Valid → Q (.ok ()) s)
    (herror : ∀ e, Q (.error e) (s.editConfig restore)) : wp Q (validateOr restore) s := by
  simp only [validateOr, validateConfig, wp_bind, wp_attempt, wp_atomically]
  cases hv : s.daemon.config.validate with
  | ok u => simpa [Except.mapError] using hok (s.daemon.config.validate_eq_ok_iff.mp hv)
  | error e => simpa [Except.mapError] using herror (.config e)

/-- The check that is not undone where it stands. -/
lemma wp_validateConfig {Q : Except DaemonError Unit → Sys → Prop} {s : Sys}
    (hok : s.daemon.config.Valid → Q (.ok ()) s) (herror : ∀ e, Q (.error e) s) :
    wp Q validateConfig s := by
  rw [validateConfig, wp_atomically]
  cases hv : s.daemon.config.validate with
  | ok u => exact hok (s.daemon.config.validate_eq_ok_iff.mp hv)
  | error e => exact herror (.config e)

/-- **What a request other than `Enable` and `Drain` does.** -/
theorem handle_settled (o : Outcome) (s : Sys) (r : Request)
    (hr : ∀ modules, r ≠ .enable modules) (hr' : ∀ timeoutS, r ≠ .drain timeoutS) :
    wp (fun q t => ∃ q', q = .ok q' ∧ Settled o s r q' t) (handle o r) s := by
  rw [wp_handle]
  refine wp_mono (Q := fun q t => Settled o s r q (settle s r q t)) ?_
    (fun q t h => ⟨q, rfl, h⟩)
  cases r with
  | enable modules => exact absurd rfl (hr modules)
  | drain timeoutS => exact absurd rfl (hr' timeoutS)
  | status => exact wp_pure.mpr .idle
  | flows => exact wp_pure.mpr .idle
  | shutdown => exact wp_pure.mpr .idle
  | snapshot =>
      rw [tryHandle, wp_ofExcept, Outcome.result]
      split
      · exact .idle
      · exact .refused _
  | validate =>
      simp only [tryHandle, wp_bind]
      refine wp_validateConfig (fun _ => ?_) fun e => .refused e
      simp only [wp_gets, wp_ofExcept]
      cases validateCapabilities (s.note _).daemon.capabilities with
      | ok u => exact .idle
      | error e => exact .refused e
  | disableModule m =>
      simp only [tryHandle, wp_bind, wp_modify]
      exact wp_push .cc rfl (.disableModule m)
  | setRackRto rto =>
      simp only [tryHandle, wp_bind, wp_gets, wp_modify]
      refine wp_validateOr (fun hv => ?_) fun e => settled_refused rfl e rfl
      exact wp_push .rto rfl (.setRackRto rto hv)
  | resetRackRto =>
      simp only [tryHandle, wp_bind, wp_gets, wp_modify]
      exact wp_push .rto rfl .resetRackRto
  | setModuleConfig tuning =>
      simp only [tryHandle, wp_bind, wp_gets, wp_modify]
      refine wp_validateOr (fun hv => ?_) fun e => settled_refused rfl e rfl
      exact wp_push .cc rfl (.setModuleConfig tuning hv)
  | resetModuleConfig =>
      simp only [tryHandle, wp_bind, wp_gets, wp_modify]
      refine wp_validateConfig (fun hv => ?_) fun e => settled_refused rfl e rfl
      exact wp_push .cc rfl (.resetModuleConfig hv)
  | setRetransmitDscp dscp =>
      simp only [tryHandle, wp_bind, wp_gets, wp_modify]
      refine wp_validateOr (fun hv => ?_) fun e => settled_refused rfl e rfl
      exact wp_push .dscp rfl (.setRetransmitDscp dscp hv)
  | resetRetransmitDscp =>
      simp only [tryHandle, wp_bind, wp_gets, wp_modify]
      exact wp_push .dscp rfl .resetRetransmitDscp
  | setRedundancy redundancy =>
      simp only [tryHandle, wp_bind, wp_gets, wp_modify, wp_attempt]
      refine wp_validateOr (fun hv => ?_) fun e => settled_refused rfl e rfl
      -- the roll-back of a failed push is made twice, here and in `handle`
      refine wp_mono (wp_push .redundancy rfl (.setRedundancy redundancy hv)) ?_
      intro q t hq
      cases q with
      | ok u => exact wp_pure.mpr hq
      | error e =>
          simp only [wp_bind, wp_modify, wp_fail]
          exact hq
  | resetRedundancy =>
      simp only [tryHandle, wp_bind, wp_gets, wp_modify]
      exact wp_push .redundancy rfl .resetRedundancy

/-! ### The pushes -/

lemma wp_updateConfig {Q : Except DaemonError Unit → Sys → Prop} {o : Outcome} {s : Sys}
    (hnone : s.daemon.runtime = none → Q (.ok ()) s)
    (hsome : ∀ runtime, s.daemon.runtime = some runtime →
      Q (runtime.updateConfig o s.daemon.config).1
        { s with
          daemon := { s.daemon with runtime := some (runtime.updateConfig o s.daemon.config).2 }
          journal := .updateConfigMaps s.daemon.config (runtime.configSeq + 1) :: s.journal }) :
    wp Q (updateConfig o) s := by
  rw [updateConfig, wp_atomically]
  cases h : s.daemon.runtime with
  | none => exact hnone h
  | some runtime => exact hsome runtime h

lemma wp_setRtoTuning {Q : Except DaemonError Unit → Sys → Prop} {o : Outcome} {s : Sys}
    (hnone : s.daemon.policy = none → ∀ e, Q (.error e) s)
    (hsome : ∀ policy, s.daemon.policy = some policy →
      Q (policy.setRtoTuning o s.daemon.config.rackRto s.daemon.config.generation).1
        { s with daemon := { s.daemon with
          policy := some (policy.setRtoTuning o s.daemon.config.rackRto
            s.daemon.config.generation).2 } }) :
    wp Q (setRtoTuning o) s := by
  rw [setRtoTuning, wp_atomically]
  cases h : s.daemon.policy with
  | none => exact hnone h _
  | some policy => exact hsome policy h

lemma wp_applyRetransmitDscp {Q : Except DaemonError Unit → Sys → Prop} {o : Outcome} {s : Sys}
    (hon : s.daemon.tc = none → ∀ e, Q (.error e) s)
    (hoff : s.daemon.tc = none → s.daemon.config.retransmitDscp.enabled = false → Q (.ok ()) s)
    (hsome : ∀ tc, s.daemon.tc = some tc →
      Q (tc.setRetransmitDscp o s.daemon.config.retransmitDscp).1
        { s with daemon := { s.daemon with
          tc := some (tc.setRetransmitDscp o s.daemon.config.retransmitDscp).2 } }) :
    wp Q (applyRetransmitDscp o) s := by
  simp only [applyRetransmitDscp, wp_atomically]
  cases h : s.daemon.tc with
  | none =>
      cases henabled : s.daemon.config.retransmitDscp.enabled with
      | true => exact hon h _
      | false => exact hoff h henabled
  | some tc => exact hsome tc h

/-- Switching the policy off fails for one reason. -/
lemma setPolicyEnabled_result (o : Outcome) (policy : PolicyRuntime) (enabled : Bool) :
    (policy.setPolicyEnabled o enabled).1 = .ok () ∨
      (∃ maps, policy.object = some maps ∧ o.ok .policyEnabled = false) ∨ enabled = true := by
  rw [PolicyRuntime.setPolicyEnabled.eq_def]
  cases policy.object with
  | none =>
      cases enabled with
      | true => exact .inr (.inr rfl)
      | false => exact .inl rfl
  | some maps =>
      cases o.ok .policyEnabled with
      | true => exact .inl rfl
      | false => exact .inr (.inl ⟨maps, rfl, rfl⟩)

/-- Switching the cgroup policy changes that object alone. -/
lemma wp_setPolicyEnabled {Q : Except DaemonError Unit → Sys → Prop} {o : Outcome}
    {enabled : Bool} {s : Sys}
    (h : ∀ q t,
      (q = .ok () ∨ (∃ policy maps, s.daemon.policy = some policy ∧
        policy.object = some maps ∧ o.ok .policyEnabled = false) ∨ enabled = true) →
      t.daemon = { s.daemon with
        policy := s.daemon.policy.map fun policy => (policy.setPolicyEnabled o enabled).2 } →
      t.journal = s.journal → Q q t) :
    wp Q (setPolicyEnabled o enabled) s := by
  simp only [setPolicyEnabled, wp_atomically]
  cases hp : s.daemon.policy with
  | none =>
      have hsame : s.daemon = { s.daemon with
          policy := s.daemon.policy.map fun policy => (policy.setPolicyEnabled o enabled).2 } := by
        rw [hp, Option.map_none, ← hp]
      exact h _ _ (.inl rfl) hsame rfl
  | some policy =>
      refine h _ _ ?_ ?_ rfl
      · rcases setPolicyEnabled_result o policy enabled with hok | ⟨maps, hobject, hfailed⟩ | hon
        · exact .inl hok
        · exact .inr (.inl ⟨policy, maps, hp, hobject, hfailed⟩)
        · exact .inr (.inr hon)
      · rw [hp, Option.map_some]

/-- A push of the redundancy table changes the TC object alone. -/
lemma wp_applyRedundancy {Q : Except DaemonError Unit → Sys → Prop} {o : Outcome} {s : Sys}
    (h : ∀ q t,
      t.daemon = { s.daemon with
        tc := s.daemon.tc.map fun tc =>
          (tc.setRedundancy o s.daemon.config.redundancy s.daemon.accelerating).2 } →
      t.journal = s.journal → Q q t) :
    wp Q (applyRedundancy o) s := by
  simp only [applyRedundancy, wp_atomically]
  cases htc : s.daemon.tc with
  | none =>
      have hsame : s.daemon = { s.daemon with
          tc := s.daemon.tc.map fun tc =>
            (tc.setRedundancy o s.daemon.config.redundancy s.daemon.accelerating).2 } := by
        rw [htc, Option.map_none, ← htc]
      split_ifs
      · exact h _ _ hsame rfl
      · exact h _ _ hsame rfl
  | some tc =>
      refine h _ _ ?_ rfl
      rw [htc, Option.map_some]

/-! ### The guard's sections -/

/-- A guard pass on behalf of `who` writes nothing but `skyline_cc`, and leaves the
daemon alone. -/
lemma wp_enforceCongestionControl (o : Outcome) (who : Writer) (s : Sys) :
    wp (fun q t => q = .ok () ∧ Noting (fun e => ∃ ok, e = .setDefault who skylineCcName ok) s t)
      (enforceCongestionControl o who) s := by
  simp only [enforceCongestionControl, setDefaultCongestionControl, wp_bind, wp_attempt,
    wp_atomically, Outcome.result]
  cases o.ok .readDefault with
  | false => exact wp_pure.mpr ⟨rfl, .refl _ s⟩
  | true =>
      simp only [Except.map, if_true]
      split
      · exact wp_pure.mpr ⟨rfl, .refl _ s⟩
      · simp only [wp_bind, wp_attempt, wp_atomically]
        cases hw : o.ok .restoreDefault with
        | false => exact wp_pure.mpr ⟨rfl, (Noting.refl _ s).step ⟨_, rfl⟩ rfl rfl⟩
        | true => exact wp_modify.mpr ⟨rfl, (Noting.refl _ s).step ⟨_, rfl⟩ rfl rfl⟩

/-- Arming the guard, with its first pass. -/
lemma wp_armAndEnforce (o : Outcome) (s : Sys) :
    wp (fun q t => q = .ok () ∧
        Noting (fun e => ∃ ok, e = .setDefault .enable skylineCcName ok) s t)
      (armAndEnforce o) s := by
  simp only [armAndEnforce, lockGuard, unlockGuard, wp_bind, wp_await, wp_modify]
  intro _
  refine wp_mono (wp_enforceCongestionControl o .enable _) ?_
  rintro q t ⟨rfl, hdaemon, hjournal⟩
  exact ⟨trivial, hdaemon, hjournal⟩

/-! ### A publication or an attach -/

/-- The runtime's number is the one in the map, which names `kc`. -/
structure BpfRuntime.Runs (runtime : BpfRuntime) (kc : KernelConfig) : Prop where
  configSeq : runtime.maps.configSeq = runtime.configSeq
  effective : runtime.maps.effective = kc

/-- A publication puts the new configuration in force, or leaves the old one there. -/
lemma BpfRuntime.Runs.updateConfig {runtime : BpfRuntime} {kc : KernelConfig}
    (h : runtime.Runs kc) (o : Outcome) (config : SkylineConfig) :
    ((runtime.updateConfig o config).1 = .ok () ∧
      (runtime.updateConfig o config).2.Runs config.kernelConfig) ∨
    ((∃ e, (runtime.updateConfig o config).1 = .error e) ∧
      (runtime.updateConfig o config).2.Runs kc) := by
  obtain ⟨number, maps⟩ := runtime
  obtain ⟨hseq, heff⟩ := h
  obtain rfl : maps.configSeq = number := hseq
  rcases updateConfigMaps_next o maps config with ⟨hok, heff', hseq'⟩ | ⟨⟨e, herror⟩, heff', hseq'⟩
  · left
    rw [BpfRuntime.updateConfig]
    generalize updateConfigMaps o maps config _ = out at hok heff' hseq' ⊢
    obtain ⟨q, maps'⟩ := out
    subst hok
    exact ⟨rfl, hseq', heff'⟩
  · right
    rw [BpfRuntime.updateConfig]
    generalize updateConfigMaps o maps config _ = out at herror heff' hseq' ⊢
    obtain ⟨q, maps'⟩ := out
    subst herror
    exact ⟨⟨e, rfl⟩, hseq', heff'.trans heff⟩

/-- What a publication or an attach of the configuration in `s` may note. -/
inductive LoadEntry (s : Sys) : Event → Prop where
  | publish (seq : UInt32) : LoadEntry s (.updateConfigMaps s.daemon.config seq)
  | baseline (ok : Bool) (h : s.daemon.runtime = none) :
      LoadEntry s (.setDefault .enable s.daemon.config.fallbackCc ok)
  | attach (ok : Bool) : LoadEntry s (.attachStructOps ok)
  | drop (ok : Bool) : LoadEntry s (.unregister .enable ok)

/-- The threads of a runtime are not part of the state. -/
lemma wp_startThreads {Q : Except DaemonError Unit → Sys → Prop} {o : Outcome} {eventLog : Bool}
    {s : Sys} (h : ∀ q, Q q s) : wp Q (startThreads o eventLog) s := by
  rw [startThreads]
  split
  · simp only [wp_bind, wp_ofExcept]
    split
    · exact h _
    · exact h _
  · exact wp_ofExcept.mpr (h _)

/-- The first publication, into fresh maps. -/
lemma updateConfigMaps_fresh (o : Outcome) (config : SkylineConfig)
    (h : (updateConfigMaps o .fresh config 1).1 = .ok ()) :
    (BpfRuntime.mk 1 (updateConfigMaps o .fresh config 1).2).Runs config.kernelConfig := by
  rcases updateConfigMaps_next o .fresh config with ⟨-, heff, hseq⟩ | ⟨⟨e, herror⟩, -⟩
  · exact ⟨hseq, heff⟩
  · rw [show ConfigMaps.fresh.configSeq + 1 = 1 from rfl, h] at herror
    cases herror

/-- **`BpfRuntime::load`**: the daemon's own state is untouched, and a runtime that
loads runs the configuration it was loaded with. -/
lemma wp_bpfRuntimeLoad (o : Outcome) (s : Sys) (hnone : s.daemon.runtime = none) :
    wp (fun q t => Noting (LoadEntry s) s t ∧
        ∀ runtime, q = .ok runtime → runtime.Runs s.daemon.config.kernelConfig)
      (bpfRuntimeLoad o) s := by
  simp only [bpfRuntimeLoad, wp_bind (p := gets _), wp_gets]
  refine wp_bind_of (M := fun _ t => Noting (LoadEntry s) s t) ?_ (fun _ t₁ h₁ => ?_)
    (fun e t h => ⟨h, by simp⟩)
  · exact wp_atomically.mpr ((Noting.refl _ s).step (.baseline _ hnone) rfl rfl)
  refine wp_bind_of (M := fun _ t => Noting (LoadEntry s) s t) (wp_ofExcept.mpr h₁)
    (fun _ t₂ h₂ => ?_) (fun e t h => ⟨h, by simp⟩)
  refine wp_bind_of (M := fun q t => Noting (LoadEntry s) s t ∧
    ∀ maps, q = .ok maps → (BpfRuntime.mk 1 maps).Runs s.daemon.config.kernelConfig) ?_
    (fun maps t₃ h₃ => ?_) (fun e t h => ⟨h.1, by simp⟩)
  · refine wp_atomically.mpr ⟨h₂.step (.publish 1) rfl rfl, ?_⟩
    intro maps hmaps
    have hfirst := updateConfigMaps_fresh o s.daemon.config
    generalize updateConfigMaps o .fresh s.daemon.config 1 = out at hfirst hmaps
    obtain ⟨_ | ⟨⟨⟩⟩, maps'⟩ := out
    · cases hmaps
    · obtain rfl : maps' = maps := Except.ok.inj hmaps
      exact hfirst rfl
  obtain ⟨hload₃, hruns⟩ := h₃
  refine wp_bind_of (M := fun _ t => Noting (LoadEntry s) s t) ?_ (fun _ t₄ h₄ => ?_)
    (fun e t h => ⟨h, by simp⟩)
  · exact wp_atomically.mpr (hload₃.step (.attach _) rfl rfl)
  refine wp_bind_of (M := fun _ t => Noting (LoadEntry s) s t) ?_ (fun started t₅ h₅ => ?_)
    (fun e t h => ⟨h, by simp⟩)
  · exact wp_attempt.mpr (wp_startThreads fun _ => h₄)
  cases started with
  | ok u => exact wp_pure.mpr ⟨h₅, fun runtime hq => Except.ok.inj hq ▸ hruns maps rfl⟩
  | error e =>
      simp only [dropBpfRuntime, unregisterStructOps, wp_bind, wp_attempt, wp_atomically, wp_pure,
        wp_fail]
      exact ⟨h₅.step (.drop _) rfl rfl, by simp⟩

/-- What publishing the configuration of `s` does, to the runtime and to nothing else of
the daemon: if all went well the runtime runs it, else what it ran before. -/
structure PublishEffect (s : Sys) (q : Except DaemonError Unit) (t : Sys) : Prop where
  daemon : t.daemon = { s.daemon with runtime := t.daemon.runtime }
  journal : Extends (LoadEntry s) s.journal t.journal
  keeps : s.daemon.runtime.isSome = true → t.daemon.runtime.isSome = true
  absent : ∀ e, q = .error e → s.daemon.runtime = none → t.daemon.runtime = none
  runs : q = .ok () → ∀ kc, (∀ rt, s.daemon.runtime = some rt → rt.Runs kc) →
    ∀ rt, t.daemon.runtime = some rt → rt.Runs s.daemon.config.kernelConfig
  stays : ∀ e, q = .error e → ∀ kc, (∀ rt, s.daemon.runtime = some rt → rt.Runs kc) →
    ∀ rt, t.daemon.runtime = some rt → rt.Runs kc

/-- Nothing done. -/
lemma PublishEffect.refused (s : Sys) (e : DaemonError) : PublishEffect s (.error e) s where
  daemon := rfl
  journal := .refl _ _
  keeps := id
  absent := fun _ _ h => h
  runs := nofun
  stays := fun _ _ _ h => h

/-- A publication to the runtime, if there is one. -/
lemma updateConfig_effect (o : Outcome) (s : Sys) :
    wp (PublishEffect s) (updateConfig o) s := by
  refine wp_updateConfig (fun hnone => ?_) fun runtime hsome => ?_
  · refine ⟨rfl, .refl _ _, id, nofun, fun _ kc _ rt hrt => ?_, nofun⟩
    rw [hnone] at hrt
    cases hrt
  · refine ⟨rfl, (Extends.refl _ _).cons (.publish _), fun _ => rfl, fun _ _ hnone => ?_,
      fun hok kc h rt hrt => ?_, fun e he kc h rt hrt => ?_⟩
    · rw [hsome] at hnone
      cases hnone
    · obtain rfl := Option.some.inj hrt
      rcases (h runtime hsome).updateConfig o s.daemon.config with ⟨-, hruns⟩ | ⟨⟨e, he⟩, -⟩
      · exact hruns
      · rw [hok] at he
        cases he
    · obtain rfl := Option.some.inj hrt
      rcases (h runtime hsome).updateConfig o s.daemon.config with ⟨hok, -⟩ | ⟨-, hruns⟩
      · rw [he] at hok
        cases hok
      · exact hruns

/-- A publication or an attach, by `Enable`. -/
lemma publishOrAttach_effect (o : Outcome) (s : Sys) :
    wp (fun q t => PublishEffect s q t ∧
        (s.daemon.config.Valid ∨ (q ≠ .ok () ∧ t.journal = s.journal)) ∧
        (q = .ok () → t.daemon.runtime.isSome = true))
      (publishOrAttach o) s := by
  simp only [publishOrAttach, wp_bind]
  refine wp_validateConfig (fun hvalid => ?_) fun e =>
    ⟨.refused s e, .inr ⟨by simp, rfl⟩, by simp⟩
  simp only [wp_gets, wp_ofExcept]
  cases validateCapabilities s.daemon.capabilities with
  | error e => exact ⟨.refused s e, .inl hvalid, by simp⟩
  | ok u =>
      cases hrt : s.daemon.runtime with
      | some runtime =>
          refine wp_mono (updateConfig_effect o s) fun q t h => ⟨h, .inl hvalid, fun _ => ?_⟩
          exact h.keeps (by rw [hrt]; rfl)
      | none =>
          refine wp_bind_of (wp_bpfRuntimeLoad o s hrt) (fun loaded t hloaded => ?_)
            (fun e t hfailed => ?_)
          · obtain ⟨hload, hruns⟩ := hloaded
            refine wp_modify.mpr ⟨⟨?_, hload.journal, fun _ => rfl, by simp, ?_, by simp⟩,
              .inl hvalid, fun _ => rfl⟩
            · rw [← hload.daemon]
            · rintro - kc - rt hloaded
              obtain rfl := Option.some.inj hloaded
              exact hruns _ rfl
          · obtain ⟨hload, -⟩ := hfailed
            refine ⟨⟨?_, hload.journal, ?_, ?_, by simp, ?_⟩, .inl hvalid, by simp⟩
            · rw [← hload.daemon]
            · rw [hload.daemon]
              exact id
            · rw [hload.daemon]
              exact fun _ _ h => h
            · rw [hload.daemon]
              exact fun _ _ _ h => h

/-- What a push leaves alone: everything of the daemon but its three objects. -/
structure PushEffect (s t : Sys) : Prop where
  daemon : t.daemon = { s.daemon with
    runtime := t.daemon.runtime
    tc := t.daemon.tc
    policy := t.daemon.policy }
  journal : Extends (LoadEntry s) s.journal t.journal

lemma push_effect (o : Outcome) (target : Target) (s : Sys) :
    wp (fun _ t => PushEffect s t) (target.push o) s := by
  cases target with
  | cc =>
      refine wp_mono (updateConfig_effect o s) fun q t h => ⟨?_, h.journal⟩
      rw [h.daemon]
  | rto =>
      refine wp_setRtoTuning (fun _ _ => ?_) (fun _ _ => ?_)
      · exact ⟨rfl, .refl _ _⟩
      · exact ⟨rfl, .refl _ _⟩
  | dscp =>
      refine wp_applyRetransmitDscp (fun _ _ => ?_) (fun _ _ => ?_) (fun _ _ => ?_)
      · exact ⟨rfl, .refl _ _⟩
      · exact ⟨rfl, .refl _ _⟩
      · exact ⟨rfl, .refl _ _⟩
  | redundancy =>
      refine wp_applyRedundancy fun q t hdaemon hjournal => ⟨?_, ?_⟩
      · rw [hdaemon]
      · rw [hjournal]
        exact .refl _ _

end SkylineSpeeder.Speederd
