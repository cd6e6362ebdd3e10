import SkylineSpeeder.Machine.Run
import SkylineSpeeder.Daemon.EnableDrain

/-!
What the daemon reports as running is what the kernel runs: between `self.config` and
the maps of the three loaded objects, after every call and whichever operations fail.

A request writes the kernel last, so that its failure leaves the kernel as it was, and
`handle` puts the configuration back; an `Enable` puts its own edit back, and only as
long as the kernel does not run it.

* `Daemon.effective`, `Daemon.rtoSlot`, `Daemon.dscpSlot`: what the kernel runs;
* `Faithful`: the agreement; `Unchanged`: the same kernel state and configuration;
* `push_faithful`: a push of an edited configuration, whether it succeeds or not;
* `serve_faithful`, `settled_faithful`: one call, and a request that failed among them;
* `daemon_reports_kernel`: the result.
-/

namespace SkylineSpeeder.Speederd

open Machine Machine.Prog Word

/-! ### What the kernel runs -/

/-- The congestion control's configuration in force. -/
def Daemon.effective (d : Daemon) : Option KernelConfig := d.runtime.map (·.maps.effective)

/-- The `rto_tuning` slot of a loaded policy object. -/
def PolicyRuntime.rtoSlot (policy : PolicyRuntime) : Option KernelRtoTuning :=
  policy.object.map (·.rtoTuning)

@[inherit_doc PolicyRuntime.rtoSlot]
def Daemon.rtoSlot (d : Daemon) : Option KernelRtoTuning := d.policy.bind (·.rtoSlot)

/-- The `retransmit_dscp_config` slot of a loaded TC object. -/
def TcRuntime.dscpSlot (tc : TcRuntime) : Option KernelRetransmitDscpConfig :=
  tc.object.map (·.retransmitDscp)

@[inherit_doc TcRuntime.dscpSlot]
def Daemon.dscpSlot (d : Daemon) : Option KernelRetransmitDscpConfig := d.tc.bind (·.dscpSlot)

/-- The slot is on exactly when the table is, and then holds it; without a loaded object
the table is off. -/
def RtoFaithful (slot : Option KernelRtoTuning) (config : RackRtoConfig) : Prop :=
  match slot with
  | none => config.enabled = false
  | some slot => slot.enabled = u32OfBool config.enabled ∧
      (config.enabled = true → ∃ generation, slot = config.kernelConfig generation)

@[inherit_doc RtoFaithful]
def DscpFaithful (slot : Option KernelRetransmitDscpConfig) (config : RetransmitDscpConfig) :
    Prop :=
  match slot with
  | none => config.enabled = false
  | some slot => slot.enabled = u32OfBool config.enabled ∧
      (config.enabled = true → slot.dscpValue = config.dscpValue.toUInt32)

/-- The slot that holds the table. -/
lemma rtoFaithful_of_eq {slot : Option KernelRtoTuning} {config : RackRtoConfig}
    {generation : UInt32} (h : slot = some (config.kernelConfig generation)) :
    RtoFaithful slot config := by
  subst h
  exact ⟨rfl, fun _ => ⟨generation, rfl⟩⟩

/-- What the daemon's configuration says is what the kernel runs, up to generations. -/
structure Faithful (d : Daemon) : Prop where
  cc : ∀ runtime, d.runtime = some runtime →
    ∃ generation, runtime.Runs { d.config.kernelConfig with generation := generation }
  rto : RtoFaithful d.rtoSlot d.config.rackRto
  dscp : DscpFaithful d.dscpSlot d.config.retransmitDscp

/-- The configuration and what the kernel runs are the same. -/
structure Unchanged (d d' : Daemon) : Prop where
  config : d'.config = d.config
  effective : d'.effective = d.effective
  rtoSlot : d'.rtoSlot = d.rtoSlot
  dscpSlot : d'.dscpSlot = d.dscpSlot

/-! ### What the operations do to the slots -/

/-- The policy switch is another map than the tuning. -/
lemma setPolicyEnabled_rtoSlot (o : Outcome) (policy : PolicyRuntime) (enabled : Bool) :
    (policy.setPolicyEnabled o enabled).2.rtoSlot = policy.rtoSlot := by
  obtain ⟨_ | maps⟩ := policy
  · cases enabled <;> rfl
  · simp only [PolicyRuntime.setPolicyEnabled]
    split <;> rfl

/-- The redundancy slot is another map than the DSCP slot. -/
lemma setRedundancy_dscpSlot (o : Outcome) (tc : TcRuntime) (config : RedundancyConfig)
    (active : Bool) : (tc.setRedundancy o config active).2.dscpSlot = tc.dscpSlot := by
  obtain ⟨_ | maps, redundancyActive⟩ := tc
  · simp only [TcRuntime.setRedundancy]
    split <;> rfl
  · simp only [TcRuntime.setRedundancy]
    split <;> rfl

/-- A write of the tuning: the slot holds it, or nothing has happened. -/
lemma setRtoTuning_result (o : Outcome) (policy : PolicyRuntime) (config : RackRtoConfig)
    (generation : UInt32) :
    ((policy.setRtoTuning o config generation).1 = .ok () ∧
      (policy.setRtoTuning o config generation).2.rtoSlot
        = some (config.kernelConfig generation)) ∨
    ((∃ e, (policy.setRtoTuning o config generation).1 = .error e) ∧
      (policy.setRtoTuning o config generation).2 = policy) := by
  obtain ⟨_ | maps⟩ := policy
  · exact .inr ⟨⟨_, rfl⟩, rfl⟩
  · simp only [PolicyRuntime.setRtoTuning]
    split
    · exact .inl ⟨rfl, rfl⟩
    · exact .inr ⟨⟨_, rfl⟩, rfl⟩

/-- A write of the marking: the slot holds it, or marking is off where nothing could
mark, or nothing has happened. -/
lemma setRetransmitDscp_result (o : Outcome) (tc : TcRuntime) (config : RetransmitDscpConfig) :
    ((tc.setRetransmitDscp o config).1 = .ok () ∧
      DscpFaithful (tc.setRetransmitDscp o config).2.dscpSlot config) ∨
    ((∃ e, (tc.setRetransmitDscp o config).1 = .error e) ∧
      (tc.setRetransmitDscp o config).2 = tc) := by
  obtain ⟨_ | maps, redundancyActive⟩ := tc
  · simp only [TcRuntime.setRetransmitDscp]
    split
    · exact .inr ⟨⟨_, rfl⟩, rfl⟩
    · rename_i hoff
      exact .inl ⟨rfl, Bool.eq_false_of_not_eq_true hoff⟩
  · simp only [TcRuntime.setRetransmitDscp]
    split
    · exact .inl ⟨rfl, rfl, fun _ => rfl⟩
    · exact .inr ⟨⟨_, rfl⟩, rfl⟩

/-! ### A push of an edited configuration -/

/-- What an edit leaves alone, by the target it is pushed to. -/
lemma edits_keep {d : Daemon} {r : Request} {config : SkylineConfig} {target : Target}
    (hedit : Edits d r config target) :
    (target ≠ .cc → config.kernelConfig
      = { d.config.kernelConfig with generation := config.generation }) ∧
    (target ≠ .rto → config.rackRto = d.config.rackRto) ∧
    (target ≠ .dscp → config.retransmitDscp = d.config.retransmitDscp) := by
  cases hedit with
  | disableModule _ => exact ⟨fun h => absurd rfl h, fun _ => rfl, fun _ => rfl⟩
  | setModuleConfig _ _ => exact ⟨fun h => absurd rfl h, fun _ => rfl, fun _ => rfl⟩
  | resetModuleConfig _ => exact ⟨fun h => absurd rfl h, fun _ => rfl, fun _ => rfl⟩
  | setRackRto _ _ => exact ⟨fun _ => rfl, fun h => absurd rfl h, fun _ => rfl⟩
  | resetRackRto => exact ⟨fun _ => rfl, fun h => absurd rfl h, fun _ => rfl⟩
  | setRetransmitDscp _ _ => exact ⟨fun _ => rfl, fun _ => rfl, fun h => absurd rfl h⟩
  | resetRetransmitDscp => exact ⟨fun _ => rfl, fun _ => rfl, fun h => absurd rfl h⟩
  | setRedundancy _ _ => exact ⟨fun _ => rfl, fun _ => rfl, fun _ => rfl⟩
  | resetRedundancy => exact ⟨fun _ => rfl, fun _ => rfl, fun _ => rfl⟩

/-- What a push did not touch of the daemon `d`, and what it may have. -/
lemma faithful_of {d d' : Daemon} (config : SkylineConfig) (h : Faithful d)
    (hcc : (∀ runtime, d'.runtime = some runtime → runtime.Runs config.kernelConfig) ∨
      (d'.runtime = d.runtime ∧
        config.kernelConfig = { d.config.kernelConfig with generation := config.generation }))
    (hrto : RtoFaithful d'.rtoSlot config.rackRto ∨
      (d'.rtoSlot = d.rtoSlot ∧ config.rackRto = d.config.rackRto))
    (hdscp : DscpFaithful d'.dscpSlot config.retransmitDscp ∨
      (d'.dscpSlot = d.dscpSlot ∧ config.retransmitDscp = d.config.retransmitDscp))
    (hconfig : d'.config = config) : Faithful d' := by
  subst hconfig
  refine ⟨fun runtime hsome => ?_, ?_, ?_⟩
  · rcases hcc with hruns | ⟨hsame, hkernel⟩
    · exact ⟨_, hruns runtime hsome⟩
    · obtain ⟨generation, hruns⟩ := h.cc runtime (hsame ▸ hsome)
      refine ⟨generation, ?_⟩
      rw [hkernel]
      exact hruns
  · rcases hrto with hrto | ⟨hsame, htable⟩
    · exact hrto
    · rw [hsame, htable]
      exact h.rto
  · rcases hdscp with hdscp | ⟨hsame, htable⟩
    · exact hdscp
    · rw [hsame, htable]
      exact h.dscp

/-- The runtime before a push has one configuration in force. -/
lemma Faithful.runs {d : Daemon} (h : Faithful d) :
    ∃ kc, ∀ runtime, d.runtime = some runtime → runtime.Runs kc := by
  cases hr : d.runtime with
  | none => exact ⟨.zero, nofun⟩
  | some runtime =>
      obtain ⟨generation, hruns⟩ := h.cc runtime hr
      refine ⟨{ d.config.kernelConfig with generation := generation }, fun runtime' hsome => ?_⟩
      obtain rfl := Option.some.inj hsome
      exact hruns

/-- A publication that fails leaves what is in force. -/
lemma PublishEffect.effective {s t : Sys} {e : DaemonError} (heff : PublishEffect s (.error e) t)
    (h : ∃ kc, ∀ runtime, s.daemon.runtime = some runtime → runtime.Runs kc) :
    t.daemon.effective = s.daemon.effective := by
  obtain ⟨kc, hruns⟩ := h
  rw [Daemon.effective, Daemon.effective]
  cases hs : s.daemon.runtime with
  | none => rw [heff.absent e rfl hs]
  | some runtime =>
      obtain ⟨runtime', ht⟩ := Option.isSome_iff_exists.mp (heff.keeps (by rw [hs]; rfl))
      have hbefore := hruns runtime hs
      have hafter := heff.stays e rfl kc hruns runtime' ht
      rw [ht, Option.map_some, Option.map_some, hbefore.effective, hafter.effective]

/-- What the kernel runs for `d'` is what it ran for `d`. -/
structure KernelKept (d d' : Daemon) : Prop where
  effective : d'.effective = d.effective
  runs : ∀ kc, (∀ rt, d.runtime = some rt → rt.Runs kc) → ∀ rt, d'.runtime = some rt → rt.Runs kc
  rtoSlot : d'.rtoSlot = d.rtoSlot
  dscpSlot : d'.dscpSlot = d.dscpSlot

/-- What a push does to the kernel, for a daemon that was faithful. -/
def PushFaithful (s : Sys) (q : Except DaemonError Unit) (t : Sys) : Prop :=
  (q = .ok () → Faithful t.daemon) ∧ ∀ e, q = .error e → KernelKept s.daemon t.daemon

/-- A publication. -/
lemma push_cc {o : Outcome} {s : Sys} {r : Request} {config : SkylineConfig}
    (h : Faithful s.daemon) (hrto : config.rackRto = s.daemon.config.rackRto)
    (hdscp : config.retransmitDscp = s.daemon.config.retransmitDscp) :
    wp (PushFaithful s) (updateConfig o) (pushStart s r config) := by
  refine wp_mono (updateConfig_effect o (pushStart s r config)) fun q t heff => ⟨?_, ?_⟩
  · rintro rfl
    obtain ⟨kc, hruns⟩ := h.runs
    refine faithful_of config h (.inl (heff.runs rfl kc hruns)) ?_ ?_ ?_
    · exact .inr ⟨by rw [heff.daemon]; rfl, hrto⟩
    · exact .inr ⟨by rw [heff.daemon]; rfl, hdscp⟩
    · rw [heff.daemon]
      rfl
  · rintro e rfl
    refine ⟨heff.effective h.runs, heff.stays e rfl, ?_, ?_⟩
    · rw [heff.daemon]
      rfl
    · rw [heff.daemon]
      rfl

/-- A write of the RTO tuning. -/
lemma push_rto {o : Outcome} {s : Sys} {r : Request} {config : SkylineConfig}
    (h : Faithful s.daemon)
    (hkernel : config.kernelConfig
      = { s.daemon.config.kernelConfig with generation := config.generation })
    (hdscp : config.retransmitDscp = s.daemon.config.retransmitDscp) :
    wp (PushFaithful s) (setRtoTuning o) (pushStart s r config) := by
  refine wp_setRtoTuning (fun _ e => ⟨nofun, fun _ _ => ⟨rfl, fun _ h => h, rfl, rfl⟩⟩)
    fun policy hp => ?_
  rcases setRtoTuning_result o policy config.rackRto config.generation with
    ⟨hok, hslot⟩ | ⟨⟨e, herror⟩, hsame⟩
  · refine ⟨fun _ => ?_, fun e he => absurd (hok.symm.trans he) nofun⟩
    refine faithful_of config h (.inr ⟨rfl, hkernel⟩) (.inl ?_) (.inr ⟨rfl, hdscp⟩) rfl
    exact rtoFaithful_of_eq hslot
  · refine ⟨fun hq => absurd (hq.symm.trans herror) nofun, fun _ _ => ⟨rfl, fun _ h => h, ?_, rfl⟩⟩
    have hp' : s.daemon.policy = some policy := hp
    rw [Daemon.rtoSlot, Daemon.rtoSlot, hp']
    exact congrArg PolicyRuntime.rtoSlot hsame

/-- A write of the marking. -/
lemma push_dscp {o : Outcome} {s : Sys} {r : Request} {config : SkylineConfig}
    (h : Faithful s.daemon)
    (hkernel : config.kernelConfig
      = { s.daemon.config.kernelConfig with generation := config.generation })
    (hrto : config.rackRto = s.daemon.config.rackRto) :
    wp (PushFaithful s) (applyRetransmitDscp o) (pushStart s r config) := by
  refine wp_applyRetransmitDscp (fun _ e => ⟨nofun, fun _ _ => ⟨rfl, fun _ h => h, rfl, rfl⟩⟩)
    (fun htc hoff => ⟨fun _ => ?_, nofun⟩) fun tc htc => ?_
  · refine faithful_of config h (.inr ⟨rfl, hkernel⟩) (.inr ⟨rfl, hrto⟩) (.inl ?_) rfl
    rw [Daemon.dscpSlot, htc]
    exact hoff
  · rcases setRetransmitDscp_result o tc config.retransmitDscp with
      ⟨hok, hslot⟩ | ⟨⟨e, herror⟩, hsame⟩
    · refine ⟨fun _ => ?_, fun e he => absurd (hok.symm.trans he) nofun⟩
      exact faithful_of config h (.inr ⟨rfl, hkernel⟩) (.inr ⟨rfl, hrto⟩) (.inl hslot) rfl
    · refine ⟨fun hq => absurd (hq.symm.trans herror) nofun, fun _ _ => ?_⟩
      refine ⟨rfl, fun _ h => h, rfl, ?_⟩
      have htc' : s.daemon.tc = some tc := htc
      rw [Daemon.dscpSlot, Daemon.dscpSlot, htc']
      exact congrArg TcRuntime.dscpSlot hsame

/-- The DSCP slot of the daemon, after a write of the redundancy slot. -/
lemma dscpSlot_setRedundancy (o : Outcome) (tc : Option TcRuntime) (config : RedundancyConfig)
    (active : Bool) :
    (tc.map fun tc => (tc.setRedundancy o config active).2).bind (·.dscpSlot)
      = tc.bind (·.dscpSlot) := by
  cases tc with
  | none => rfl
  | some tc => exact setRedundancy_dscpSlot o tc config active

/-- The RTO slot of the daemon, after the policy was switched. -/
lemma rtoSlot_setPolicyEnabled (o : Outcome) (policy : Option PolicyRuntime) (enabled : Bool) :
    (policy.map fun policy => (policy.setPolicyEnabled o enabled).2).bind (·.rtoSlot)
      = policy.bind (·.rtoSlot) := by
  cases policy with
  | none => rfl
  | some policy => exact setPolicyEnabled_rtoSlot o policy enabled

/-- A write of the redundancy slot. -/
lemma push_redundancy {o : Outcome} {s : Sys} {r : Request} {config : SkylineConfig}
    (h : Faithful s.daemon)
    (hkernel : config.kernelConfig
      = { s.daemon.config.kernelConfig with generation := config.generation })
    (hrto : config.rackRto = s.daemon.config.rackRto)
    (hdscp : config.retransmitDscp = s.daemon.config.retransmitDscp) :
    wp (PushFaithful s) (applyRedundancy o) (pushStart s r config) := by
  refine wp_applyRedundancy fun q t hdaemon _ => ?_
  have hslot : t.daemon.dscpSlot = s.daemon.dscpSlot := by
    rw [Daemon.dscpSlot, hdaemon]
    exact dscpSlot_setRedundancy o _ _ _
  have hruntime : t.daemon.runtime = s.daemon.runtime := by
    rw [hdaemon]
    rfl
  have hrtoSlot : t.daemon.rtoSlot = s.daemon.rtoSlot := by
    rw [hdaemon]
    rfl
  refine ⟨fun _ => ?_, fun _ _ => ⟨?_, ?_, hrtoSlot, hslot⟩⟩
  · refine faithful_of config h (.inr ⟨hruntime, hkernel⟩) (.inr ⟨hrtoSlot, hrto⟩)
      (.inr ⟨hslot, hdscp⟩) ?_
    rw [hdaemon]
    rfl
  · rw [Daemon.effective, hruntime]
    rfl
  · rw [hruntime]
    exact fun _ h => h

/-- **A push of an edited configuration** that succeeds makes the kernel run it, and one
that fails leaves what the kernel runs. -/
lemma push_faithful {o : Outcome} {s : Sys} {r : Request} {config : SkylineConfig}
    {target : Target} (h : Faithful s.daemon) (hedit : Edits s.daemon r config target) :
    wp (PushFaithful s) (target.push o) (pushStart s r config) := by
  obtain ⟨hkernel, hrto, hdscp⟩ := edits_keep hedit
  cases target with
  | cc => exact push_cc h (hrto nofun) (hdscp nofun)
  | rto => exact push_rto h (hkernel nofun) (hdscp nofun)
  | dscp => exact push_dscp h (hkernel nofun) (hrto nofun)
  | redundancy => exact push_redundancy h (hkernel nofun) (hrto nofun) (hdscp nofun)

/-! ### One call -/

/-- A configuration that was put back, where the kernel was left alone. -/
lemma KernelKept.faithful {d d' : Daemon} (h : Faithful d) (hkept : KernelKept d d') :
    Faithful { d' with config := d.config } := by
  refine ⟨fun runtime hsome => ?_, ?_, ?_⟩
  · cases hd : d.runtime with
    | none =>
        have heffective : d'.effective = none := by
          rw [hkept.effective, Daemon.effective, hd]
          rfl
        have hsome' : d'.runtime = some runtime := hsome
        rw [Daemon.effective, hsome'] at heffective
        cases heffective
    | some before =>
        obtain ⟨generation, hruns⟩ := h.cc before hd
        refine ⟨generation, hkept.runs _ (fun rt hrt => ?_) runtime hsome⟩
        obtain rfl : before = rt := Option.some.inj (hd.symm.trans hrt)
        exact hruns
  · have hslot := h.rto
    rw [← hkept.rtoSlot] at hslot
    exact hslot
  · have hslot := h.dscp
    rw [← hkept.dscpSlot] at hslot
    exact hslot

/-- The requests that edit the configuration: the daemon stays faithful, and one that
fails has changed nothing. -/
lemma settled_faithful {o : Outcome} {s t : Sys} {r : Request} {q : Except DaemonError Unit}
    (h : Faithful s.daemon) (heff : Settled o s r q t) :
    Faithful t.daemon ∧ (∀ e, q = .error e → Unchanged s.daemon t.daemon) := by
  cases heff with
  | idle => exact ⟨h, nofun⟩
  | refused e => exact ⟨h, fun _ _ => ⟨rfl, rfl, rfl, rfl⟩⟩
  | pushed hedit hrun => exact ⟨(push_faithful h hedit _ _ hrun).1 rfl, nofun⟩
  | @pushFailed config target e t₁ hedit hrun =>
      have hkept : KernelKept s.daemon t₁.daemon := (push_faithful h hedit _ _ hrun).2 e rfl
      exact ⟨hkept.faithful h, fun _ _ => ⟨rfl, hkept.effective, hkept.rtoSlot, hkept.dscpSlot⟩⟩

/-- `Enable`: the kernel runs the new configuration, or the edit is undone. -/
lemma enable_faithful {o : Outcome} {s t : Sys} {modules : Option (List Module)}
    {q : Except DaemonError Unit} (h : Faithful s.daemon)
    (heff : EnableEffect o s modules q t) : Faithful t.daemon := by
  have hstart : ∃ kc, ∀ runtime, (enableStart s modules).daemon.runtime = some runtime →
      runtime.Runs kc := h.runs
  cases heff with
  | @refused e t₁ hpub _ =>
      have hkept : KernelKept s.daemon t₁.daemon := by
        refine ⟨hpub.effective hstart, hpub.stays e rfl, ?_, ?_⟩
        · rw [hpub.daemon]
          rfl
        · rw [hpub.daemon]
          rfl
      exact hkept.faithful h
  | @notDefault e t₁ t hpub _ _ hdaemon _ =>
      obtain ⟨kc, hruns⟩ := hstart
      refine faithful_of (enableConfig s.daemon.config modules) h (.inl ?_)
        (.inr ⟨?_, rfl⟩) (.inr ⟨?_, rfl⟩) ?_
      · rw [hdaemon]
        exact hpub.runs rfl kc hruns
      · rw [hdaemon, enabledPolicy, hpub.daemon]
        exact rtoSlot_setPolicyEnabled o _ true
      · rw [hdaemon, enabledPolicy, hpub.daemon]
        rfl
      · rw [hdaemon, enabledPolicy, hpub.daemon]
        rfl
  | @enabled t₁ t new hpub _ _ hdaemon _ _ =>
      obtain ⟨kc, hruns⟩ := hstart
      refine faithful_of (enableConfig s.daemon.config modules) h (.inl ?_)
        (.inr ⟨?_, rfl⟩) (.inr ⟨?_, rfl⟩) ?_
      · rw [hdaemon]
        exact hpub.runs rfl kc hruns
      · rw [hdaemon, enabledDaemon, enabledPolicy, hpub.daemon]
        exact rtoSlot_setPolicyEnabled o _ true
      · rw [hdaemon, enabledDaemon, enabledPolicy, hpub.daemon]
        exact dscpSlot_setRedundancy o _ _ true
      · rw [hdaemon, enabledDaemon, enabledPolicy, hpub.daemon]
        rfl

/-- `Drain`: the configuration stays, and so does the runtime as long as there is one. -/
lemma drain_faithful {o : Outcome} {s t : Sys} {timeoutS : UInt64} {q : Except DaemonError Unit}
    (h : Faithful s.daemon) (heff : DrainEffect o s timeoutS q t) : Faithful t.daemon := by
  cases heff with
  | notHanded _ hdaemon _ => exact hdaemon ▸ h
  | policyFailed _ _ _ _ hdaemon _ => exact hdaemon ▸ h
  | @stopped _ t₁ hstopped ok =>
      have hconfig : t₁.daemon.config = s.daemon.config := by
        rw [hstopped.daemon]
        rfl
      refine ⟨fun runtime hsome => ?_, ?_, ?_⟩
      · rcases hstopped.runtime with hsame | hnone
        · obtain ⟨generation, hruns⟩ := h.cc runtime (hsame ▸ hsome)
          exact ⟨generation, hconfig ▸ hruns⟩
        · exact absurd (hnone.symm.trans hsome) nofun
      · have hslot : t₁.daemon.rtoSlot = s.daemon.rtoSlot := by
          rw [hstopped.daemon]
          exact rtoSlot_setPolicyEnabled o _ false
        have hrto := h.rto
        rw [← hslot, ← hconfig] at hrto
        exact hrto
      · have hslot : t₁.daemon.dscpSlot = s.daemon.dscpSlot := by
          rw [hstopped.daemon]
          exact dscpSlot_setRedundancy o _ _ false
        have hdscp := h.dscp
        rw [← hslot, ← hconfig] at hdscp
        exact hdscp

/-- A freshly loaded policy object tunes nothing. -/
lemma load_rtoFaithful (o : Outcome) {config : RackRtoConfig} (hoff : config.enabled = false) :
    RtoFaithful (PolicyRuntime.load o).rtoSlot config := by
  rw [PolicyRuntime.load, PolicyRuntime.rtoSlot]
  cases o.ok .loadPolicy with
  | false => exact hoff
  | true =>
      refine ⟨?_, fun hon => absurd (hoff.symm.trans hon) nofun⟩
      rw [hoff]
      cases o.ok .rtoTuning <;> rfl

/-- A freshly loaded TC object marks nothing. -/
lemma load_dscpFaithful {o : Outcome} {config : SkylineConfig} {tc : TcRuntime}
    (hload : TcRuntime.load o config = .ok tc) {dscp : RetransmitDscpConfig}
    (hoff : dscp.enabled = false) : DscpFaithful tc.dscpSlot dscp := by
  rw [TcRuntime.load] at hload
  split at hload
  · obtain rfl := Except.ok.inj hload
    exact hoff
  · split at hload
    · obtain rfl := Except.ok.inj hload
      cases hobject : o.ok .loadTc with
      | false =>
          simp only [TcRuntime.dscpSlot, Bool.false_eq_true, if_false]
          exact hoff
      | true =>
          refine ⟨?_, fun hon => absurd (hoff.symm.trans hon) nofun⟩
          rw [hoff]
          cases o.ok .retransmitDscp <;> rfl
    · cases hload

/-- **One call keeps the daemon faithful.** -/
lemma serve_faithful {s t : Sys} {call : Call × Outcome} (h : Faithful s.daemon)
    (hserve : serve s call = some t) : Faithful t.daemon := by
  obtain ⟨call, o⟩ := call
  cases serve_cases hserve with
  | idle => exact h
  | policyLoaded hnone =>
      refine ⟨h.cc, load_rtoFaithful o ?_, h.dscp⟩
      have hrto := h.rto
      rw [Daemon.rtoSlot, hnone] at hrto
      exact hrto
  | tcLoaded hnone hload =>
      refine ⟨h.cc, h.rto, load_dscpFaithful hload ?_⟩
      have hdscp := h.dscp
      rw [Daemon.dscpSlot, hnone] at hdscp
      exact hdscp
  | settled _ heff => exact (settled_faithful h heff).1
  | enabled heff => exact enable_faithful h heff
  | drained heff => exact drain_faithful h heff

/-- A daemon that was just made runs nothing, and its configuration says so. -/
lemma boot_faithful (config : SkylineConfig) (capabilities : CapabilityReport)
    (congestionControl : String) :
    Faithful (Sys.boot config capabilities congestionControl).daemon :=
  ⟨nofun, rfl, rfl⟩

/-- **What the daemon reports as running is what the kernel runs**, after any calls and
whichever operations fail: the slot that `config_seq` names while there is a runtime, the
RTO slot of a loaded policy object and the DSCP slot of a loaded TC object.  And a request
other than `Enable` and `Drain` that returns an error leaves the configuration and what
the kernel runs exactly as they were. -/
theorem daemon_reports_kernel (config : SkylineConfig) (capabilities : CapabilityReport)
    (congestionControl : String) (calls : List (Call × Outcome)) (s : Sys)
    (hrun : run? serve (.boot config capabilities congestionControl) calls = some s) :
    (∀ effective, s.daemon.effective = some effective →
      ∃ generation, effective = { s.daemon.config.kernelConfig with generation := generation }) ∧
    (∀ slot, s.daemon.rtoSlot = some slot →
      slot.enabled = u32OfBool s.daemon.config.rackRto.enabled ∧
        (s.daemon.config.rackRto.enabled = true →
          ∃ generation, slot = s.daemon.config.rackRto.kernelConfig generation)) ∧
    (s.daemon.rtoSlot = none → s.daemon.config.rackRto.enabled = false) ∧
    (∀ slot, s.daemon.dscpSlot = some slot →
      slot.enabled = u32OfBool s.daemon.config.retransmitDscp.enabled ∧
        (s.daemon.config.retransmitDscp.enabled = true →
          slot.dscpValue = s.daemon.config.retransmitDscp.dscpValue.toUInt32)) ∧
    (∀ o r e t, (∀ modules, r ≠ .enable modules) → (∀ timeoutS, r ≠ .drain timeoutS) →
      (handle o r).run s = some (.ok (.error e), t) →
      t.daemon.config = s.daemon.config ∧ t.daemon.effective = s.daemon.effective ∧
        t.daemon.rtoSlot = s.daemon.rtoSlot ∧ t.daemon.dscpSlot = s.daemon.dscpSlot) := by
  have h : Faithful s.daemon :=
    run?_invariant (I := fun s => Faithful s.daemon) (P := fun _ => True)
      (fun _ _ _ hs _ hstep => serve_faithful hs hstep) calls _ s
      (boot_faithful config capabilities congestionControl) (fun _ _ => trivial) hrun
  refine ⟨fun effective heff => ?_, fun slot hslot => ?_, fun hslot => ?_, fun slot hslot => ?_,
    fun o r e t hr hr' hreq => ?_⟩
  · obtain ⟨runtime, hruntime, rfl⟩ := Option.map_eq_some_iff.mp heff
    obtain ⟨generation, hruns⟩ := h.cc runtime hruntime
    exact ⟨generation, hruns.effective⟩
  · have hrto := h.rto
    rw [hslot] at hrto
    exact hrto
  · have hrto := h.rto
    rw [hslot] at hrto
    exact hrto
  · have hdscp := h.dscp
    rw [hslot] at hdscp
    exact hdscp
  · obtain ⟨q, hq, heff⟩ := handle_settled o s r hr hr' _ _ hreq
    obtain rfl := Except.ok.inj hq
    obtain ⟨hconfig, heffective, hrto, hdscp⟩ := (settled_faithful h heff).2 e rfl
    exact ⟨hconfig, heffective, hrto, hdscp⟩

/-- A daemon that runs everything, and loses a publication between its two writes. -/
def halfPublishedCalls : List (Call × Outcome) :=
  [(.startPolicy, .allWell), (.startTc, .allWell), (.request (.enable none), .allWell),
    (.request .resetRackRto, .allWell), (.request (.setRetransmitDscp ⟨true, 10⟩), .allWell),
    (.request (.disableModule .pacing), .failing .configSeq)]

theorem daemon_reports_kernel_halfPublished :
    ∃ s, run? serve (.boot .speeder .full "cubic") halfPublishedCalls = some s ∧
      s.daemon.config.enabledModules.length = 4 ∧ s.daemon.config.rackRto.enabled = true ∧
      (∃ generation, s.daemon.effective
        = some { s.daemon.config.kernelConfig with generation := generation }) ∧
      ∀ o r e t, (∀ modules, r ≠ .enable modules) → (∀ timeoutS, r ≠ .drain timeoutS) →
        (handle o r).run s = some (.ok (.error e), t) → t.daemon.config = s.daemon.config := by
  have hends : (run? serve (.boot .speeder .full "cubic") halfPublishedCalls).any (fun s =>
      s.daemon.effective.isSome && s.daemon.config.rackRto.enabled &&
        s.daemon.config.enabledModules.length == 4) = true := by decide +kernel
  obtain ⟨s, hs, hall⟩ := (Option.any_eq_true _ _).mp hends
  rw [Bool.and_eq_true, Bool.and_eq_true, beq_iff_eq] at hall
  obtain ⟨⟨hsome, hrto⟩, hlength⟩ := hall
  obtain ⟨heff, -, -, -, hfailed⟩ :=
    daemon_reports_kernel .speeder .full "cubic" halfPublishedCalls s hs
  obtain ⟨effective, heffective⟩ := Option.isSome_iff_exists.mp hsome
  obtain ⟨generation, rfl⟩ := heff effective heffective
  exact ⟨s, hs, hlength, hrto, ⟨generation, heffective⟩,
    fun o r e t hr hr' hreq => (hfailed o r e t hr hr' hreq).1⟩

end SkylineSpeeder.Speederd
