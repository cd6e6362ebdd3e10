import SkylineSpeeder.Machine.Run
import SkylineSpeeder.Daemon.EnableDrain

/-!
First-flight copying and the drain: the `redundancy_config` slot is on only while new
connections are handed to skyline_cc.

A drain writes `fallback_cc` first and stops the copies two steps later.  Between the two
it switches the cgroup policy off, and returns if that write fails; the daemon then keeps
copying, and what it says of itself (`accelerating`), until the next drain.  In every run
without such a drain the copies stop with the first write.

* `drained`, `lastDefault`: what the journal says about the last drain and the last
  write of the default by a request;
* `Gated`: the invariant;
* `leavesCopying`: the calls that break it;
* `redundancy_stops_with_drain`: the result, and a run that shows the condition is needed.
-/

namespace SkylineSpeeder.Speederd

open Machine Machine.Prog Word

/-! ### What the journal says -/

/-- A drain that has handed new connections back, or an `Enable` that is through. -/
def Event.drainMark : Event → Option Bool
  | .setDefault .drain _ true => some true
  | .returned (.enable _) true => some false
  | _ => none

/-- The name that an `Enable` or a `Drain` has written to the sysctl. -/
def Event.requestDefault : Event → Option String
  | .setDefault .enable name true => some name
  | .setDefault .drain name true => some name
  | _ => none

/-- A drain has handed new connections to `fallback_cc`, and no `Enable` has succeeded
since. -/
def drained (journal : List Event) : Bool := (latest Event.drainMark journal).getD false

/-- What the last `Enable` or `Drain` to have written `tcp_congestion_control` wrote. -/
def lastDefault (journal : List Event) : Option String := latest Event.requestDefault journal

/-- The entry says nothing about either. -/
def Event.Silent (e : Event) : Prop := e.drainMark = none ∧ e.requestDefault = none

/-- Silent entries change neither. -/
lemma silent_extends {old new : List Event} (h : Extends Event.Silent old new) :
    drained new = drained old ∧ lastDefault new = lastDefault old := by
  refine ⟨?_, h.latest_eq fun _ he => he.2⟩
  rw [drained, drained, h.latest_eq fun _ he => he.1]

lemma silent_received (r : Request) : (Event.received r).Silent := ⟨rfl, rfl⟩

/-- The end of a request that did not enable anything. -/
lemma silent_returned {r : Request} {ok : Bool} (h : r.isEnable = false ∨ ok = false) :
    (Event.returned r ok).Silent := by
  refine ⟨?_, rfl⟩
  cases r with
  | enable modules =>
      obtain rfl : ok = false := h.resolve_left nofun
      rfl
  | _ => rfl

/-- What a publication notes is silent where there is a runtime already. -/
lemma LoadEntry.silent {s : Sys} (hruntime : s.daemon.runtime.isSome = true) {e : Event}
    (h : LoadEntry s e) : e.Silent := by
  cases h with
  | publish _ => exact ⟨rfl, rfl⟩
  | baseline _ hnone =>
      rw [hnone] at hruntime
      cases hruntime
  | attach _ => exact ⟨rfl, rfl⟩
  | drop _ => exact ⟨rfl, rfl⟩

/-- The entries of a drain after its write are silent. -/
lemma DrainEntry.silent {e : Event} (h : DrainEntry e) : e.Silent := by
  cases h with
  | flowCount _ => exact ⟨rfl, rfl⟩
  | unregister _ => exact ⟨rfl, rfl⟩

/-! ### The slot -/

/-- The `redundancy_config` slot of a loaded TC object. -/
def TcRuntime.redundancySlot (tc : TcRuntime) : Option KernelRedundancyConfig :=
  tc.object.map (·.redundancy)

@[inherit_doc TcRuntime.redundancySlot]
def Daemon.redundancySlot (d : Daemon) : Option KernelRedundancyConfig :=
  d.tc.bind (·.redundancySlot)

/-- Nothing is copied. -/
def CopiesOff (slot : Option KernelRedundancyConfig) : Prop :=
  ∀ config, slot = some config → config.enabled = 0

/-- A write of the slot while skyline_cc is not enabled switches it off. -/
lemma setRedundancy_off {o : Outcome} (hok : o.ok .redundancy = true) (tc : TcRuntime)
    (config : RedundancyConfig) : CopiesOff (tc.setRedundancy o config false).2.redundancySlot := by
  obtain ⟨_ | maps, redundancyActive⟩ := tc
  · simp only [TcRuntime.setRedundancy, Bool.and_false]
    exact nofun
  · simp only [TcRuntime.setRedundancy, hok, if_true]
    intro slot hslot
    obtain rfl := Option.some.inj hslot
    simp [RedundancyConfig.kernelConfig, u32OfBool]

/-- The same for the daemon's TC object. -/
lemma setRedundancy_off_map {o : Outcome} (hok : o.ok .redundancy = true) (tc : Option TcRuntime)
    (config : RedundancyConfig) :
    CopiesOff ((tc.map fun tc => (tc.setRedundancy o config false).2).bind (·.redundancySlot)) := by
  cases tc with
  | none => exact nofun
  | some tc => exact setRedundancy_off hok tc config

/-- The DSCP slot is another map. -/
lemma setRetransmitDscp_redundancySlot (o : Outcome) (tc : TcRuntime)
    (config : RetransmitDscpConfig) :
    (tc.setRetransmitDscp o config).2.redundancySlot = tc.redundancySlot := by
  obtain ⟨_ | maps, redundancyActive⟩ := tc
  · simp only [TcRuntime.setRetransmitDscp]
    split <;> rfl
  · simp only [TcRuntime.setRetransmitDscp]
    split <;> rfl

/-- A freshly loaded TC object copies nothing. -/
lemma load_copiesOff {o : Outcome} {config : SkylineConfig} {tc : TcRuntime}
    (hload : TcRuntime.load o config = .ok tc) : CopiesOff tc.redundancySlot := by
  rw [TcRuntime.load] at hload
  split at hload
  · obtain rfl := Except.ok.inj hload
    exact nofun
  · split at hload
    · obtain rfl := Except.ok.inj hload
      intro slot hslot
      simp only [TcRuntime.redundancySlot] at hslot
      split at hslot
      · obtain rfl := Option.some.inj hslot
        cases o.ok .redundancy <;> rfl
      · cases hslot
    · cases hload

/-! ### The invariant -/

/-- Copies are on only while skyline_cc is enabled; and then it is attached, the last
default written is skyline_cc, and no drain has begun. -/
structure Gated (s : Sys) : Prop where
  off : s.daemon.accelerating = false → CopiesOff s.daemon.redundancySlot
  on : s.daemon.accelerating = true → s.daemon.runtime.isSome = true ∧
    lastDefault s.journal = some skylineCcName ∧ drained s.journal = false

/-- A daemon that was just made. -/
lemma boot_gated (config : SkylineConfig) (capabilities : CapabilityReport)
    (congestionControl : String) : Gated (.boot config capabilities congestionControl) :=
  ⟨fun _ => nofun, nofun⟩

/-- A step that leaves the flag alone, does not take the runtime away, and notes nothing
but silent entries while there is one. -/
lemma Gated.step {s t : Sys} (h : Gated s)
    (hflag : t.daemon.accelerating = s.daemon.accelerating)
    (hoff : s.daemon.accelerating = false → CopiesOff t.daemon.redundancySlot)
    (hruntime : s.daemon.runtime.isSome = true →
      t.daemon.runtime.isSome = true ∧ Extends Event.Silent s.journal t.journal) : Gated t := by
  refine ⟨fun hf => hoff (hflag ▸ hf), fun hf => ?_⟩
  obtain ⟨hsome, hdefault, hdrained⟩ := h.on (hflag ▸ hf)
  obtain ⟨hsome', hjournal⟩ := hruntime hsome
  obtain ⟨hdrained', hdefault'⟩ := silent_extends hjournal
  exact ⟨hsome', hdefault'.trans hdefault, hdrained'.trans hdrained⟩

/-- The journal between the two entries of a request that enables nothing. -/
lemma silent_between {s : Sys} {r : Request} {ok : Bool} {journal : List Event}
    (hr : r.isEnable = false ∨ ok = false)
    (h : Extends Event.Silent (.received r :: s.journal) journal) :
    Extends Event.Silent s.journal (.returned r ok :: journal) := by
  have hreceived : Extends Event.Silent s.journal (.received r :: s.journal) :=
    (Extends.refl _ _).cons (silent_received r)
  exact (hreceived.trans h).cons (silent_returned hr)

/-! ### The requests that edit the configuration -/

/-- A push leaves the slot off, and the runtime where it is. -/
lemma push_gated {o : Outcome} (hok : o.ok .redundancy = true) (target : Target) {s : Sys}
    (h : s.daemon.accelerating = false → CopiesOff s.daemon.redundancySlot) :
    wp (fun _ t => (s.daemon.accelerating = false → CopiesOff t.daemon.redundancySlot) ∧
        (s.daemon.runtime.isSome = true → t.daemon.runtime.isSome = true))
      (target.push o) s := by
  cases target with
  | cc =>
      refine wp_mono (updateConfig_effect o s) fun q t heff => ⟨fun hf => ?_, heff.keeps⟩
      rw [heff.daemon]
      exact h hf
  | rto => exact wp_setRtoTuning (fun _ _ => ⟨h, id⟩) fun _ _ => ⟨h, id⟩
  | dscp =>
      refine wp_applyRetransmitDscp (fun _ _ => ⟨h, id⟩) (fun _ _ => ⟨h, id⟩) fun tc htc =>
        ⟨fun hf => ?_, id⟩
      have hslot : CopiesOff s.daemon.redundancySlot := h hf
      rw [Daemon.redundancySlot, htc, Option.bind_some,
        ← setRetransmitDscp_redundancySlot o tc s.daemon.config.retransmitDscp] at hslot
      exact hslot
  | redundancy =>
      refine wp_applyRedundancy fun q t hdaemon _ => ⟨fun hf => ?_, fun hsome => ?_⟩
      · rw [hdaemon, hf]
        exact setRedundancy_off_map hok _ _
      · rw [hdaemon]
        exact hsome

/-- The requests other than `Enable` and `Drain`. -/
lemma settled_gated {o : Outcome} (hok : o.ok .redundancy = true) {s t : Sys} {r : Request}
    {q : Except DaemonError Unit} (h : Gated s) (hr : r.isEnable = false)
    (heff : Settled o s r q t) : Gated t := by
  cases heff with
  | idle =>
      exact h.step rfl h.off fun hsome => ⟨hsome, silent_between (.inl hr) (.refl _ _)⟩
  | refused e =>
      exact h.step rfl h.off fun hsome => ⟨hsome, silent_between (.inl hr) (.refl _ _)⟩
  | @pushed config target t₁ hedit hrun =>
      have hpush := push_effect o target _ _ _ hrun
      obtain ⟨hoff, hkeeps⟩ := push_gated hok target (s := pushStart s r config) h.off _ _ hrun
      refine h.step ?_ hoff fun hsome => ⟨hkeeps hsome, silent_between (.inl hr) ?_⟩
      · rw [Sys.note, hpush.daemon]
        rfl
      · exact hpush.journal.mono fun _ => LoadEntry.silent (s := pushStart s r config) hsome
  | @pushFailed config target e t₁ hedit hrun =>
      have hpush := push_effect o target _ _ _ hrun
      obtain ⟨hoff, hkeeps⟩ := push_gated hok target (s := pushStart s r config) h.off _ _ hrun
      refine h.step ?_ hoff fun hsome => ⟨hkeeps hsome, silent_between (.inl hr) ?_⟩
      · rw [Sys.note, Sys.editConfig, hpush.daemon]
        rfl
      · exact hpush.journal.mono fun _ => LoadEntry.silent (s := pushStart s r config) hsome

/-! ### Enable and Drain -/

/-- A write of the default that failed. -/
lemma silent_notWritten (who : Writer) (name : String) :
    (Event.setDefault who name false).Silent := by
  cases who <;> exact ⟨rfl, rfl⟩

/-- `Enable`: nothing has changed, or skyline_cc is attached and the default. -/
lemma enable_gated {o : Outcome} {s t : Sys} {modules : Option (List Module)}
    {q : Except DaemonError Unit} (h : Gated s) (heff : EnableEffect o s modules q t) :
    Gated t := by
  cases heff with
  | @refused e t₁ hpub _ =>
      refine h.step ?_ (fun hf => ?_) fun hsome =>
        ⟨hpub.keeps hsome, silent_between (.inr rfl) ?_⟩
      · rw [Sys.note, Sys.editConfig, hpub.daemon]
        rfl
      · rw [Sys.note, Sys.editConfig, hpub.daemon]
        exact h.off hf
      · exact hpub.journal.mono fun _ => LoadEntry.silent (s := enableStart s modules) hsome
  | @notDefault e t₁ t hpub _ hattached hdaemon hjournal =>
      refine h.step ?_ (fun hf => ?_) fun hsome => ⟨?_, ?_⟩
      · rw [hdaemon, enabledPolicy, hpub.daemon]
        rfl
      · rw [hdaemon, enabledPolicy, hpub.daemon]
        exact h.off hf
      · rw [hdaemon]
        exact hattached
      · have hload := hpub.journal.mono fun _ =>
          LoadEntry.silent (s := enableStart s modules) hsome
        rw [hjournal]
        exact silent_between (.inr rfl) (hload.cons (silent_notWritten _ _))
  | @enabled t₁ t journal hpub _ hattached hdaemon hjournal hnew =>
      have hflag : t.daemon.accelerating = true := by
        rw [hdaemon]
        rfl
      refine ⟨fun hf => absurd (hflag.symm.trans hf) (by simp), fun _ => ⟨?_, ?_, ?_⟩⟩
      · rw [hdaemon]
        exact hattached
      · -- the guard's first pass writes nothing but skyline_cc either
        have hwritten : latest Event.requestDefault
            (.setDefault .enable skylineCcName true :: t₁.journal) = some skylineCcName := rfl
        rw [hjournal, lastDefault, latest_cons_none rfl]
        refine hnew.latest_eq_some ?_ hwritten
        rintro e ⟨ok, rfl⟩
        cases ok with
        | false => exact .inl rfl
        | true => exact .inr rfl
      · rw [hjournal]
        rfl

/-- A drain that is given up after it has written `fallback_cc` and before it stops the
copies: skyline_cc was enabled, and the write of the policy object's map fails. -/
def leavesCopying (s : Sys) (call : Call × Outcome) : Bool :=
  match call.1 with
  | .request (.drain _) =>
      s.daemon.accelerating && (s.daemon.policy.bind (·.object)).isSome &&
        call.2.ok .fallbackDefault && !call.2.ok .policyEnabled
  | _ => false

/-- `Drain`: it has not begun, or the copies have stopped. -/
lemma drain_gated {o : Outcome} (hok : o.ok .redundancy = true) {s t : Sys} {timeoutS : UInt64}
    {q : Except DaemonError Unit} (h : Gated s)
    (hstops : leavesCopying s (.request (.drain timeoutS), o) = false)
    (heff : DrainEffect o s timeoutS q t) : Gated t := by
  cases heff with
  | notHanded _ hdaemon hjournal =>
      refine h.step (by rw [hdaemon]) (hdaemon ▸ h.off) fun hsome => ⟨hdaemon ▸ hsome, ?_⟩
      rw [hjournal]
      exact silent_between (.inl rfl) ((Extends.refl _ _).cons (silent_notWritten _ _))
  | policyFailed hfallback hpolicy hobject hfailed hdaemon hjournal =>
      have hflag : s.daemon.accelerating = false := by
        simpa [leavesCopying, hpolicy, hobject, hfallback, hfailed] using hstops
      refine ⟨fun _ => hdaemon ▸ h.off hflag, fun hon => ?_⟩
      rw [hdaemon, hflag] at hon
      cases hon
  | @stopped _ t₁ hstopped ok =>
      have hflag : t₁.daemon.accelerating = false := by
        rw [hstopped.daemon]
        rfl
      refine ⟨fun _ => ?_, fun hon => absurd (hflag.symm.trans hon) nofun⟩
      rw [Sys.note, hstopped.daemon]
      exact setRedundancy_off_map hok _ _

/-! ### Runs -/

/-- What is asked of a call: the redundancy map can be written, and a drain is not given
up in between. -/
def StopsCopying (s : Sys) (call : Call × Outcome) : Prop :=
  call.2.ok .redundancy = true ∧ leavesCopying s call = false

instance (s : Sys) (call : Call × Outcome) : Decidable (StopsCopying s call) :=
  inferInstanceAs (Decidable (_ ∧ _))

/-- **One call keeps the copies gated.** -/
lemma serve_gated {s t : Sys} {call : Call × Outcome} (h : Gated s)
    (hcall : StopsCopying s call) (hserve : serve s call = some t) : Gated t := by
  obtain ⟨call, o⟩ := call
  obtain ⟨hok, hstops⟩ := hcall
  cases serve_cases hserve with
  | idle => exact h
  | policyLoaded _ => exact ⟨h.off, h.on⟩
  | tcLoaded _ hload => exact ⟨fun _ => load_copiesOff hload, h.on⟩
  | settled hr heff => exact settled_gated hok h hr heff
  | enabled heff => exact enable_gated h heff
  | drained heff => exact drain_gated hok h hstops heff

/-- **First-flight copying stops with the drain**, in every run without a drain that is
given up between its write of `fallback_cc` and the end of the copies: once a drain has
handed new connections back, and until the next `Enable` that succeeds, the daemon is not
accelerating and the slot of a loaded TC object is off; and the slot is on only if the
last `Enable` or `Drain` to have written the default wrote skyline_cc. -/
theorem redundancy_stops_with_drain (config : SkylineConfig) (capabilities : CapabilityReport)
    (congestionControl : String) (calls : List (Call × Outcome)) (s : Sys)
    (hcalls : Along? serve StopsCopying (.boot config capabilities congestionControl) calls)
    (hrun : run? serve (.boot config capabilities congestionControl) calls = some s) :
    (drained s.journal = true → s.daemon.accelerating = false ∧
      ∀ slot, s.daemon.redundancySlot = some slot → slot.enabled = 0) ∧
    ∀ slot, s.daemon.redundancySlot = some slot → slot.enabled = 1 →
      lastDefault s.journal = some skylineCcName := by
  have h : Gated s := along?_invariant (fun _ _ _ => serve_gated) calls _ s
    (boot_gated config capabilities congestionControl) hcalls hrun
  refine ⟨fun hdrained => ?_, fun slot hslot hon => ?_⟩
  · have hflag : s.daemon.accelerating = false := by
      refine Bool.eq_false_of_not_eq_true fun hf => ?_
      rw [(h.on hf).2.2] at hdrained
      cases hdrained
    exact ⟨hflag, h.off hflag⟩
  · have hflag : s.daemon.accelerating = true := by
      refine Bool.eq_true_of_not_eq_false fun hf => ?_
      rw [h.off hf slot hslot] at hon
      cases hon
    exact (h.on hflag).2.1

/-- The shipped configuration enabled, and then a drain that returns with its timeout. -/
def drainTimeoutCalls : List (Call × Outcome) :=
  [(.startPolicy, .allWell), (.startTc, .allWell), (.request (.enable none), .allWell),
    (.request (.drain 0), { Outcome.allWell with flowCount := fun _ => some 3 })]

theorem redundancy_stops_with_drain_timeout :
    ∃ s, run? serve (.boot .speeder .full "cubic") drainTimeoutCalls = some s ∧
      s.daemon.runtime.isSome = true ∧ s.daemon.redundancySlot.isSome = true ∧
      s.daemon.accelerating = false ∧
      ∀ slot, s.daemon.redundancySlot = some slot → slot.enabled = 0 := by
  have hends : (run? serve (.boot .speeder .full "cubic") drainTimeoutCalls).any (fun s =>
      s.daemon.runtime.isSome && s.daemon.redundancySlot.isSome && drained s.journal) = true := by
    decide +kernel
  obtain ⟨s, hs, hall⟩ := (Option.any_eq_true _ _).mp hends
  rw [Bool.and_eq_true, Bool.and_eq_true] at hall
  obtain ⟨⟨hruntime, hslot⟩, hdrained⟩ := hall
  obtain ⟨hstops, -⟩ := redundancy_stops_with_drain .speeder .full "cubic" drainTimeoutCalls s
    (by decide +kernel) hs
  exact ⟨s, hs, hruntime, hslot, hstops hdrained⟩

/-- The same with a drain whose write of the policy map fails: the connections after it
are `fallback_cc` connections, and the host keeps copying for them. -/
def drainGivenUpCalls : List (Call × Outcome) :=
  [(.startPolicy, .allWell), (.startTc, .allWell), (.request (.enable none), .allWell),
    (.request (.drain 0), .failing .policyEnabled)]

theorem redundancy_outlives_drain :
    (∀ call ∈ drainGivenUpCalls, call.2.ok .redundancy = true) ∧
      ∃ s slot, run? serve (.boot .speeder .full "cubic") drainGivenUpCalls = some s ∧
        drained s.journal = true ∧ s.daemon.accelerating = true ∧
        s.daemon.redundancySlot = some slot ∧ slot.enabled = 1 ∧
        lastDefault s.journal = some "cubic" := by
  have hends : (run? serve (.boot .speeder .full "cubic") drainGivenUpCalls).any (fun s =>
      drained s.journal && s.daemon.accelerating &&
        s.daemon.redundancySlot.any (·.enabled == 1) &&
        lastDefault s.journal == some "cubic") = true := by decide +kernel
  obtain ⟨s, hs, hall⟩ := (Option.any_eq_true _ _).mp hends
  simp only [Bool.and_eq_true, beq_iff_eq, Option.any_eq_true] at hall
  obtain ⟨⟨⟨hdrained, hflag⟩, slot, hslot, hon⟩, hdefault⟩ := hall
  exact ⟨by decide, s, slot, hs, hdrained, hflag, hslot, hon, hdefault⟩

end SkylineSpeeder.Speederd
