import SkylineSpeeder.Machine.Run
import SkylineSpeeder.Daemon.EnableDrain

/-!
Everything the daemon runs and publishes is valid: `self.config` passes `validate` after
every call, and every configuration handed to `update_config_maps` has what the BPF side
relies on.

Some requests check the edited configuration and some do not.  Those that do not either
shrink the module set or put back a table of the startup configuration, whose own checks
are independent of the rest.

* `Sound`: the invariant, with the startup tables that the `Reset` requests put back;
* `edits_valid`: every edit of a request leads to a valid configuration;
* `serve_sound`, `run_sound`: one call, and any number of them;
* `config_always_valid`: the result.
-/

namespace SkylineSpeeder.Speederd

open Machine Machine.Prog Word

/-- A publication among the entries is one of a valid configuration. -/
def Event.Sound : Event → Prop
  | .updateConfigMaps config _ => config.Valid
  | _ => True

/-- The configuration is valid, so is each startup table on its own, and so was every
configuration handed to `update_config_maps`. -/
structure Sound (s : Sys) : Prop where
  config : s.daemon.config.Valid
  rackRto : s.daemon.rackRtoDefaults.validate = .ok ()
  retransmitDscp : s.daemon.retransmitDscpDefaults.validate = .ok ()
  redundancy : s.daemon.redundancyDefaults.validate = .ok ()
  journal : ∀ e ∈ s.journal, e.Sound

/-! ### The start -/

/-- Dynamic RTO switched off passes its checks. -/
lemma rackRto_validate_off (rto : RackRtoConfig) :
    { rto with enabled := false }.validate = .ok () := rfl

/-- Marking switched off passes its checks if it passed them on. -/
lemma retransmitDscp_validate_off {dscp : RetransmitDscpConfig} (h : dscp.validate = .ok ()) :
    { dscp with enabled := false }.validate = .ok () := by
  simp only [RetransmitDscpConfig.validate, bind_eq_ok_iff, check_eq_ok_iff] at h ⊢
  exact ⟨rfl, h.2⟩

/-- A daemon made from a valid configuration. -/
lemma boot_sound {config : SkylineConfig} (h : config.Valid) (capabilities : CapabilityReport)
    (congestionControl : String) : Sound (.boot config capabilities congestionControl) where
  config :=
    { fallback := h.fallback
      finite := h.finite
      limits := h.limits
      ratios := h.ratios
      rackTuning := h.rackTuning
      rackRto := rackRto_validate_off config.rackRto
      retransmitDscp := retransmitDscp_validate_off h.retransmitDscp
      redundancy := h.redundancy
      guard := h.guard }
  rackRto := h.rackRto
  retransmitDscp := h.retransmitDscp
  redundancy := h.redundancy
  journal := by simp [Sys.boot]

/-! ### The edits -/

/-- **Every edit of a request leads to a valid configuration**, the ones that are not
checked included. -/
lemma edits_valid {s : Sys} (h : Sound s) {r : Request} {config : SkylineConfig}
    {target : Target} (hedit : Edits s.daemon r config target) : config.Valid := by
  cases hedit with
  | disableModule m =>
      refine SkylineConfig.Valid.nextGeneration { h.config with limits := ?_ }
      refine SkylineConfig.validateLimits_modules h.config.limits fun x hx => ?_
      exact (List.mem_filter.mp hx).1
  | setRackRto rto hv => exact hv.nextGeneration
  | resetRackRto =>
      exact SkylineConfig.Valid.nextGeneration { h.config with rackRto := h.rackRto }
  | setModuleConfig tuning hv => exact hv.nextGeneration
  | resetModuleConfig hv => exact hv.nextGeneration
  | setRetransmitDscp dscp hv => exact hv
  | resetRetransmitDscp => exact { h.config with retransmitDscp := h.retransmitDscp }
  | setRedundancy redundancy hv => exact hv
  | resetRedundancy => exact { h.config with redundancy := h.redundancy }

/-! ### One call -/

/-- A write of the default is no publication. -/
lemma setDefault_sound (who : Writer) (name : String) (ok : Bool) :
    (Event.setDefault who name ok).Sound := trivial

/-- The publications of a valid configuration. -/
lemma LoadEntry.sound {s : Sys} (hvalid : s.daemon.config.Valid) {e : Event}
    (h : LoadEntry s e) : e.Sound := by
  cases h with
  | publish _ => exact hvalid
  | baseline _ _ => trivial
  | attach _ => trivial
  | drop _ => trivial

/-- A drain publishes nothing. -/
lemma DrainEntry.sound {e : Event} (h : DrainEntry e) : e.Sound := by
  cases h with
  | flowCount _ => trivial
  | unregister _ => trivial

/-- The startup tables, which no call changes. -/
def Daemon.startup (d : Daemon) : RackRtoConfig × RetransmitDscpConfig × RedundancyConfig :=
  (d.rackRtoDefaults, d.retransmitDscpDefaults, d.redundancyDefaults)

/-- What a step has to show. -/
lemma Sound.step {s t : Sys} (h : Sound s) (hconfig : t.daemon.config.Valid)
    (hstartup : t.daemon.startup = s.daemon.startup)
    (hjournal : Extends Event.Sound s.journal t.journal) : Sound t := by
  obtain ⟨hrto, hrest⟩ := Prod.mk.inj hstartup
  obtain ⟨hdscp, hredundancy⟩ := Prod.mk.inj hrest
  exact ⟨hconfig, hrto ▸ h.rackRto, hdscp ▸ h.retransmitDscp, hredundancy ▸ h.redundancy,
    hjournal.forall_mem h.journal⟩

/-- The journal between a request's two entries. -/
lemma sound_between {s : Sys} {r : Request} {journal : List Event}
    (h : Extends Event.Sound (.received r :: s.journal) journal) (ok : Bool) :
    Extends Event.Sound s.journal (.returned r ok :: journal) := by
  have hreceived : Extends Event.Sound s.journal (.received r :: s.journal) :=
    (Extends.refl _ _).cons trivial
  exact (hreceived.trans h).cons trivial

/-- The requests that edit the configuration. -/
lemma settled_sound {o : Outcome} {s t : Sys} {r : Request} {q : Except DaemonError Unit}
    (h : Sound s) (heff : Settled o s r q t) : Sound t := by
  cases heff with
  | idle => exact h.step h.config rfl (sound_between (.refl _ _) true)
  | refused e => exact h.step h.config rfl (sound_between (.refl _ _) false)
  | @pushed config target t₁ hedit hrun =>
      have hvalid : config.Valid := edits_valid h hedit
      have hpush := push_effect o target _ _ _ hrun
      have hjournal := hpush.journal.mono fun _ he => he.sound hvalid
      refine h.step ?_ ?_ (sound_between hjournal true)
      · rw [Sys.note, hpush.daemon]
        exact hvalid
      · rw [Sys.note, hpush.daemon]
        rfl
  | @pushFailed config target e t₁ hedit hrun =>
      have hvalid : config.Valid := edits_valid h hedit
      have hpush := push_effect o target _ _ _ hrun
      have hjournal := hpush.journal.mono fun _ he => he.sound hvalid
      refine h.step h.config ?_ (sound_between hjournal false)
      rw [Sys.note, Sys.editConfig, hpush.daemon]
      rfl

/-- `Enable`: refused before its edit was checked it has noted nothing, and afterwards the
edit is valid. -/
lemma enable_sound {o : Outcome} {s t : Sys} {modules : Option (List Module)}
    {q : Except DaemonError Unit} (h : Sound s) (heff : EnableEffect o s modules q t) :
    Sound t := by
  cases heff with
  | @refused e t₁ hpub hvalid =>
      have hjournal : Extends Event.Sound (enableStart s modules).journal t₁.journal := by
        rcases hvalid with hvalid | hnone
        · exact hpub.journal.mono fun _ he => he.sound hvalid
        · rw [hnone]
          exact .refl _ _
      refine h.step h.config ?_ (sound_between hjournal false)
      rw [Sys.note, Sys.editConfig, hpub.daemon]
      rfl
  | @notDefault e t₁ t hpub hvalid _ hdaemon hjournal =>
      have hload := hpub.journal.mono fun _ he => he.sound hvalid
      refine h.step ?_ ?_ ?_
      · rw [hdaemon, enabledPolicy, hpub.daemon]
        exact hvalid
      · rw [hdaemon, enabledPolicy, hpub.daemon]
        rfl
      · rw [hjournal]
        exact sound_between (hload.cons (setDefault_sound _ _ _)) false
  | @enabled t₁ t journal hpub hvalid _ hdaemon hjournal hnew =>
      have hload := hpub.journal.mono fun _ he => he.sound hvalid
      have hpass : Extends Event.Sound (.setDefault .enable skylineCcName true :: t₁.journal)
          journal := by
        refine hnew.mono ?_
        rintro e ⟨ok, rfl⟩
        exact setDefault_sound _ _ ok
      refine h.step ?_ ?_ ?_
      · rw [hdaemon, enabledDaemon, enabledPolicy, hpub.daemon]
        exact hvalid
      · rw [hdaemon, enabledDaemon, enabledPolicy, hpub.daemon]
        rfl
      · rw [hjournal]
        exact sound_between ((hload.cons (setDefault_sound _ _ _)).trans hpass) true

/-- `Drain` leaves the configuration alone and publishes nothing. -/
lemma drain_sound {o : Outcome} {s t : Sys} {timeoutS : UInt64} {q : Except DaemonError Unit}
    (h : Sound s) (heff : DrainEffect o s timeoutS q t) : Sound t := by
  cases heff with
  | notHanded _ hdaemon hjournal =>
      refine h.step (hdaemon ▸ h.config) (by rw [hdaemon]) ?_
      rw [hjournal]
      exact sound_between ((Extends.refl _ _).cons (setDefault_sound _ _ _)) false
  | policyFailed _ _ _ _ hdaemon hjournal =>
      refine h.step (hdaemon ▸ h.config) (by rw [hdaemon]) ?_
      rw [hjournal]
      exact sound_between ((Extends.refl _ _).cons (setDefault_sound _ _ _)) false
  | @stopped _ t₁ hstopped ok =>
      have hwrite : Extends Event.Sound (.received (.drain timeoutS) :: s.journal)
          (.setDefault .drain s.daemon.config.fallbackCc true ::
            .received (.drain timeoutS) :: s.journal) := (Extends.refl _ _).cons trivial
      have hjournal := hwrite.trans (hstopped.journal.mono fun _ he => he.sound)
      refine h.step ?_ ?_ (sound_between hjournal ok)
      · rw [Sys.note, hstopped.daemon]
        exact h.config
      · rw [Sys.note, hstopped.daemon]
        rfl

/-- **One call keeps everything valid.** -/
lemma serve_sound {s t : Sys} {call : Call × Outcome} (h : Sound s)
    (hserve : serve s call = some t) : Sound t := by
  obtain ⟨call, o⟩ := call
  cases serve_cases hserve with
  | idle => exact h
  | policyLoaded _ => exact h.step h.config rfl (.refl _ _)
  | tcLoaded _ _ => exact h.step h.config rfl (.refl _ _)
  | settled _ heff => exact settled_sound h heff
  | enabled heff => exact enable_sound h heff
  | drained heff => exact drain_sound h heff

/-- Any number of calls. -/
lemma run_sound {s t : Sys} {calls : List (Call × Outcome)} (h : Sound s)
    (hrun : run? serve s calls = some t) : Sound t :=
  run?_invariant (P := fun _ => True) (fun _ _ _ hs _ hstep => serve_sound hs hstep) calls s t h
    (fun _ _ => trivial) hrun

/-- **Everything the daemon runs and publishes is valid**: from any configuration that
passes `validate`, after any calls and whichever operations of the kernel fail,
`self.config` passes `validate` and every configuration that was handed to
`update_config_maps` has what the BPF side relies on. -/
theorem config_always_valid {config : SkylineConfig} (hvalid : config.validate = .ok ())
    (capabilities : CapabilityReport) (congestionControl : String)
    (calls : List (Call × Outcome)) (s : Sys)
    (hrun : run? serve (.boot config capabilities congestionControl) calls = some s) :
    s.daemon.config.validate = .ok () ∧
      ∀ published seq, .updateConfigMaps published seq ∈ s.journal → published.Publishable := by
  have hboot := boot_sound ((SkylineConfig.validate_eq_ok_iff config).mp hvalid) capabilities
    congestionControl
  have hsound := run_sound hboot hrun
  refine ⟨(SkylineConfig.validate_eq_ok_iff _).mpr hsound.config, fun published seq hmem => ?_⟩
  exact SkylineConfig.publishable_of_validate (hsound.journal _ hmem)

/-- A daemon that is enabled, loses a publication half way, has its RTO table put back,
and drains. -/
def turbulentCalls : List (Call × Outcome) :=
  [(.startPolicy, .allWell), (.startTc, .allWell), (.request (.enable none), .allWell),
    (.request (.disableModule .pacing), .failing .configSeq),
    (.request .resetRackRto, .allWell), (.request (.drain 0), .allWell)]

theorem config_always_valid_turbulent :
    ∃ s, run? serve (.boot .speeder .full "cubic") turbulentCalls = some s ∧
      s.daemon.config.validate = .ok () ∧
      ∀ published seq, .updateConfigMaps published seq ∈ s.journal → published.Publishable := by
  have hends : (run? serve (.boot .speeder .full "cubic") turbulentCalls).isSome = true := by
    decide +kernel
  obtain ⟨s, hs⟩ := Option.isSome_iff_exists.mp hends
  exact ⟨s, hs, config_always_valid (by decide +kernel) .full "cubic" _ s hs⟩

end SkylineSpeeder.Speederd
