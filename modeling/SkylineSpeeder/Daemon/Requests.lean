import SkylineSpeeder.Daemon.State

/-!
What `skyline-speederd` does: the requests of `Daemon::try_handle`, the guard of
`crates/skyline-speederd/src/guard.rs` and the two loads at start, as programs over
`Sys` whose atomic actions are single operations on the kernel or on the daemon's own
state.

* `setDefaultCongestionControl`, `bpfRuntimeLoad`, `updateConfig`,
  `unregisterStructOps`, `activeFlows`: the operations on the congestion control;
* `armAndEnforce`, `disarmAnd`, `periodicPass`: the sections under the guard's lock;
* `applyRedundancy`, `applyRetransmitDscp`, `setRtoTuning`: the pushes to the other two
  objects;
* `tryHandle`, `handle`: the requests, and what undoes a failed one;
* `Call`, `Call.program`: one call of the daemon, a request or one of the two loads.
-/

namespace SkylineSpeeder.Speederd

open Machine Machine.Prog Word

/-- A program of the daemon. -/
abbrev Job := Prog Sys DaemonError

/-- The configuration edited in place. -/
def Sys.editConfig (s : Sys) (edit : SkylineConfig → SkylineConfig) : Sys :=
  { s with daemon := { s.daemon with config := edit s.daemon.config } }

/-- One more entry in the journal. -/
def Sys.note (s : Sys) (event : Event) : Sys := { s with journal := event :: s.journal }

/-- `self.config.generation = self.config.generation.saturating_add(1)`. -/
def nextGeneration (config : SkylineConfig) : SkylineConfig :=
  { config with generation := U32.saturatingAdd config.generation 1 }

/-- `self.config.validate()?`. -/
def validateConfig : Job Unit :=
  atomically fun s => (s.daemon.config.validate.mapError .config, s)

/-! ### The sysctl and the guard -/

/-- `set_default_congestion_control`. -/
def setDefaultCongestionControl (o : Outcome) (op : KernelOp) (who : Writer) (name : String) :
    Job Unit :=
  atomically fun s =>
    (o.result op ("set default congestion control to " ++ name),
      { s with
        congestionControl := if o.ok op then name else s.congestionControl
        journal := .setDefault who name (o.ok op) :: s.journal })

/-- `lock(&self.state)`, which waits for the other holder. -/
def lockGuard (thread : Thread) : Job Unit :=
  await (fun s => s.guard.holder == none) fun s =>
    { s with guard := { s.guard with holder := some thread } }

/-- The end of the section that holds the lock. -/
def unlockGuard : Job Unit :=
  modify fun s => { s with guard := { s.guard with holder := none } }

/-- `enforce_congestion_control`, the part of a guard pass that writes the sysctl; it
reads first, and what it could not do goes to the report. -/
def enforceCongestionControl (o : Outcome) (who : Writer) : Job Unit := do
  let read ← attempt (atomically fun s =>
    ((o.result .readDefault "read tcp_congestion_control").map fun _ => s.congestionControl, s))
  match read with
  | .error _ => pure ()
  | .ok current =>
      if current == skylineCcName then pure ()
      else do
        let written ← attempt (setDefaultCongestionControl o .restoreDefault who skylineCcName)
        match written with
        | .error _ => pure ()
        | .ok () => modify fun s =>
            { s with guard :=
              { s.guard with ccRestored := U64.saturatingAdd s.guard.ccRestored 1 } }

/-- `Guard::arm_and_enforce`. -/
def armAndEnforce (o : Outcome) : Job Unit := do
  lockGuard .requests
  modify fun s => { s with guard := { s.guard with armed := true } }
  enforceCongestionControl o .enable
  unlockGuard

/-- `Guard::disarm_and`; the lock is held while `inside` runs and released whatever it
returns. -/
def disarmAnd (inside : Job Unit) : Job Unit := do
  lockGuard .requests
  modify fun s => { s with guard := { s.guard with armed := false } }
  let result ← attempt inside
  unlockGuard
  ofExcept result

/-- `periodic_pass`: one tick of the guard's thread. -/
def periodicPass (o : Outcome) : Job Unit := do
  lockGuard .guard
  let armed ← gets (·.guard.armed)
  if armed then do
    modify fun s =>
      { s with guard := { s.guard with checks := U64.saturatingAdd s.guard.checks 1 } }
    enforceCongestionControl o .periodic
  unlockGuard

/-! ### The congestion control -/

/-- `map.attach_struct_ops()`. -/
def attachStructOps (o : Outcome) : Job Unit :=
  atomically fun s =>
    (o.result .attachStructOps "attach skyline_cc struct_ops",
      { s with
        registered := s.registered || o.ok .attachStructOps
        journal := .attachStructOps (o.ok .attachStructOps) :: s.journal })

/-- `BpfRuntime::unregister_struct_ops`, of a drain or of a dropped runtime. -/
def unregisterStructOps (o : Outcome) (op : KernelOp) (who : Writer) : Job Unit :=
  atomically fun s =>
    (o.result op "unregister skyline_cc struct_ops",
      { s with
        registered := s.registered && !o.ok op
        journal := .unregister who (o.ok op) :: s.journal })

/-- `BpfRuntime::drop`: the unregister is tried, whatever comes of it. -/
def dropBpfRuntime (o : Outcome) (who : Writer) : Job Unit := do
  let _ ← attempt (unregisterStructOps o .dropUnregister who)

/-- The first publication, `update_config_maps(&mut cc_object, config, 1)`, into the maps
of the object just loaded. -/
def publishFirst (o : Outcome) (config : SkylineConfig) : Job ConfigMaps :=
  atomically fun s =>
    let out := updateConfigMaps o .fresh config 1
    (out.1.map fun _ => out.2, s.note (.updateConfigMaps config 1))

/-- The threads a runtime starts once it is attached: the event reader, when the event
log is on, and the metrics sampler. -/
def startThreads (o : Outcome) (eventLog : Bool) : Job Unit := do
  if eventLog then ofExcept (o.result .eventReader "start the event reader")
  ofExcept (o.result .metricsSampler "open the metrics map for the sampler")

/-- `BpfRuntime::load`: the baseline first, the attach after the first publication; a
runtime that fails after its attach is dropped. -/
def bpfRuntimeLoad (o : Outcome) : Job BpfRuntime := do
  let config ← gets (·.daemon.config)
  let eventLog ← gets (·.daemon.eventLog)
  setDefaultCongestionControl o .baseline .enable config.fallbackCc
  ofExcept (o.result .loadCcObject "load skyline_cc.bpf.o")
  let maps ← publishFirst o config
  attachStructOps o
  let started ← attempt (startThreads o eventLog)
  match started with
  | .ok () => pure ⟨1, maps⟩
  | .error e => do
      dropBpfRuntime o .enable
      fail e

/-- `if let Some(runtime) = &mut self.runtime { runtime.update_config(&self.config)? }`. -/
def updateConfig (o : Outcome) : Job Unit :=
  atomically fun s =>
    match s.daemon.runtime with
    | none => (.ok (), s)
    | some runtime =>
        let out := runtime.updateConfig o s.daemon.config
        (out.1,
          { s with
            daemon := { s.daemon with runtime := some out.2 }
            journal := .updateConfigMaps s.daemon.config (runtime.configSeq + 1) :: s.journal })

/-- `Daemon::active_flows`, the `k`-th read of this call: a failed lookup counts as no
flow. -/
def activeFlows (o : Outcome) (k : ℕ) : Job UInt64 :=
  atomically fun s =>
    match s.daemon.runtime with
    | none => (.ok 0, s)
    | some _ => (.ok ((o.flowCount k).getD 0), s.note (.flowCount (o.flowCount k)))

/-! ### The other two objects -/

/-- `if let Some(policy) = &mut self.policy { policy.set_policy_enabled(enabled)? }`. -/
def setPolicyEnabled (o : Outcome) (enabled : Bool) : Job Unit :=
  atomically fun s =>
    match s.daemon.policy with
    | none => (.ok (), s)
    | some policy =>
        let out := policy.setPolicyEnabled o enabled
        (out.1, { s with daemon := { s.daemon with policy := some out.2 } })

/-- The push of `[rack_rto]` that ends `SetRackRto` and `ResetRackRto`. -/
def setRtoTuning (o : Outcome) : Job Unit :=
  atomically fun s =>
    match s.daemon.policy with
    | none => (.error (.refused "policy runtime is not available; check capabilities notes"), s)
    | some policy =>
        let out := policy.setRtoTuning o s.daemon.config.rackRto s.daemon.config.generation
        (out.1, { s with daemon := { s.daemon with policy := some out.2 } })

/-- `Daemon::apply_redundancy`. -/
def applyRedundancy (o : Outcome) : Job Unit :=
  atomically fun s =>
    match s.daemon.tc with
    | none =>
        if s.daemon.accelerating && s.daemon.config.redundancy.enabled then
          (.error (.refused ("TC runtime is not loaded, so nothing can be copied; check " ++
            "runtime.tc_interface and tc_error in status")), s)
        else (.ok (), s)
    | some tc =>
        let out := tc.setRedundancy o s.daemon.config.redundancy s.daemon.accelerating
        (out.1, { s with daemon := { s.daemon with tc := some out.2 } })

/-- `Daemon::apply_retransmit_dscp`. -/
def applyRetransmitDscp (o : Outcome) : Job Unit :=
  atomically fun s =>
    match s.daemon.tc with
    | none =>
        if s.daemon.config.retransmitDscp.enabled then
          (.error (.refused
            "TC runtime is not loaded; check runtime.tc_interface and tc_error in status"), s)
        else (.ok (), s)
    | some tc =>
        let out := tc.setRetransmitDscp o s.daemon.config.retransmitDscp
        (out.1, { s with daemon := { s.daemon with tc := some out.2 } })

/-! ### The requests -/

/-- `Daemon::publish_or_attach`. -/
def publishOrAttach (o : Outcome) : Job Unit := do
  validateConfig
  let capabilities ← gets (·.daemon.capabilities)
  ofExcept (validateCapabilities capabilities)
  let runtime ← gets (·.daemon.runtime)
  match runtime with
  | some _ => updateConfig o
  | none => do
      let loaded ← bpfRuntimeLoad o
      modify fun s => { s with daemon := { s.daemon with runtime := some loaded } }

/-- `Request::Enable`. -/
def enable (o : Outcome) (modules : Option (List Module)) : Job Unit := do
  let previous ← gets (·.daemon.config)
  modify (·.editConfig fun config =>
    nextGeneration { config with enabledModules := modules.getD config.enabledModules })
  let published ← attempt (publishOrAttach o)
  match published with
  | .error e => do
      modify (·.editConfig fun config =>
        { config with
          enabledModules := previous.enabledModules
          generation := previous.generation })
      fail e
  | .ok () => do
      -- the cgroup's own switch is no reason to fail an enable
      let _ ← attempt (setPolicyEnabled o true)
      setDefaultCongestionControl o .skylineDefault .enable skylineCcName
      armAndEnforce o
      modify fun s => { s with daemon := { s.daemon with accelerating := true, draining := false } }
      -- nor is a redundancy that did not start
      let _ ← attempt (applyRedundancy o)

/-- `Instant::now().checked_add(Duration::from_secs(timeout_s))`: no deadline when the
seconds do not fit in an `i64`. -/
def drainDeadline (now : ℕ) (timeoutS : UInt64) : Option ℕ :=
  let deadline := now + timeoutS.toNat * 10 ^ 9
  if deadline / 10 ^ 9 < 2 ^ 63 then some deadline else none

/-- The loop of a drain, from poll `k` on, which ends without a flow or at the deadline
and returns the number of the next poll.  A wait that goes on after `fuel` polls is left
there. -/
def drainWait (o : Outcome) (deadline : Option ℕ) : ℕ → ℕ → Job ℕ
  | 0, k => do
      await (fun _ => false) id
      pure k
  | fuel + 1, k => do
      let flows ← activeFlows o k
      if flows > 0 ∧ deadline.all (o.now (k + 1) < ·) then drainWait o deadline fuel (k + 1)
      else pure (k + 1)

/-- The part of a drain that waits for the connections still on skyline_cc. -/
def drainFlows (o : Outcome) (timeoutS : UInt64) (fallbackCc : String) : Job Unit := do
  let polls ← drainWait o (drainDeadline (o.now 0) timeoutS) o.polls 0
  let flows ← activeFlows o polls
  if flows > 0 then
    fail (.refused ("drain timeout expired; struct_ops remains attached, but the default " ++
      "congestion control is already back on " ++ fallbackCc ++
      " so no new connection is using it"))
  else pure ()

/-- The part of a drain that takes the runtime down: unregister, then drop. -/
def drainRuntime (o : Outcome) : Job Unit := do
  let runtime ← gets (·.daemon.runtime)
  match runtime with
  | none => pure ()
  | some _ => do
      unregisterStructOps o .unregister .drain
      modify fun s => { s with daemon := { s.daemon with runtime := none } }
      dropBpfRuntime o .drain

/-- `Request::Drain`. -/
def drain (o : Outcome) (timeoutS : UInt64) : Job Unit := do
  let fallbackCc ← gets (·.daemon.config.fallbackCc)
  disarmAnd (setDefaultCongestionControl o .fallbackDefault .drain fallbackCc)
  setPolicyEnabled o false
  modify fun s => { s with daemon := { s.daemon with accelerating := false } }
  applyRedundancy o
  modify fun s => { s with daemon := { s.daemon with draining := true } }
  drainFlows o timeoutS fallbackCc
  drainRuntime o
  modify fun s => { s with daemon := { s.daemon with draining := false } }

/-- The check after an edit, `if let Err(error) = self.config.validate()`, which puts the
edited part back by `restore` before it returns the error. -/
def validateOr (restore : SkylineConfig → SkylineConfig) : Job Unit := do
  let checked ← attempt validateConfig
  match checked with
  | .ok () => pure ()
  | .error e => do
      modify (·.editConfig restore)
      fail e

/-- `Daemon::try_handle`. -/
def tryHandle (o : Outcome) : Request → Job Unit
  | .validate => do
      validateConfig
      let capabilities ← gets (·.daemon.capabilities)
      ofExcept (validateCapabilities capabilities)
  | .enable modules => enable o modules
  | .disableModule module => do
      modify (·.editConfig fun config =>
        nextGeneration { config with
          enabledModules := config.enabledModules.filter (· ≠ module) })
      updateConfig o
  | .status => pure ()
  | .flows => pure ()
  | .snapshot => ofExcept (o.result .writeSnapshot "write snapshot")
  | .drain timeoutS => drain o timeoutS
  | .setRackRto rackRto => do
      let previous ← gets (·.daemon.config.rackRto)
      modify (·.editConfig fun config => { config with rackRto := rackRto })
      validateOr fun config => { config with rackRto := previous }
      modify (·.editConfig nextGeneration)
      setRtoTuning o
  | .resetRackRto => do
      let defaults ← gets (·.daemon.rackRtoDefaults)
      modify (·.editConfig fun config => nextGeneration { config with rackRto := defaults })
      setRtoTuning o
  | .setModuleConfig tuning => do
      let previous ← gets fun s => ModuleTuningConfig.fromConfig s.daemon.config
      modify (·.editConfig tuning.applyTo)
      validateOr previous.applyTo
      modify (·.editConfig nextGeneration)
      updateConfig o
  | .resetModuleConfig => do
      let defaults ← gets (·.daemon.moduleTuningDefaults)
      modify (·.editConfig defaults.applyTo)
      validateConfig
      modify (·.editConfig nextGeneration)
      updateConfig o
  | .setRetransmitDscp dscp => do
      let previous ← gets (·.daemon.config.retransmitDscp)
      modify (·.editConfig fun config => { config with retransmitDscp := dscp })
      validateOr fun config => { config with retransmitDscp := previous }
      applyRetransmitDscp o
  | .resetRetransmitDscp => do
      let defaults ← gets (·.daemon.retransmitDscpDefaults)
      modify (·.editConfig fun config => { config with retransmitDscp := defaults })
      applyRetransmitDscp o
  | .setRedundancy redundancy => do
      let previous ← gets (·.daemon.config.redundancy)
      modify (·.editConfig fun config => { config with redundancy := redundancy })
      validateOr fun config => { config with redundancy := previous }
      let applied ← attempt (applyRedundancy o)
      match applied with
      | .ok () => pure ()
      | .error e => do
          modify (·.editConfig fun config => { config with redundancy := previous })
          fail e
  | .resetRedundancy => do
      let defaults ← gets (·.daemon.redundancyDefaults)
      modify (·.editConfig fun config => { config with redundancy := defaults })
      applyRedundancy o
  | .shutdown => pure ()

/-- `matches!(request, Request::Enable { .. })`. -/
def Request.isEnable : Request → Bool
  | .enable _ => true
  | _ => false

/-- `Daemon::handle`, less the status it replies with: a request that fails leaves the
configuration as it was, except `Enable`, which sees to it itself. -/
def handle (o : Outcome) (request : Request) : Job (Except DaemonError Unit) := do
  modify (·.note (.received request))
  let previous ← gets (·.daemon.config)
  let result ← attempt (tryHandle o request)
  match result with
  | .ok () => modify (·.note (.returned request true))
  | .error _ =>
      modify fun s =>
        (if request.isEnable then s else s.editConfig fun _ => previous).note
          (.returned request false)
  pure result

/-! ### The calls -/

/-- `Daemon::start_policy`. -/
def startPolicy (o : Outcome) : Job Unit :=
  modify fun s =>
    match s.daemon.policy with
    | some _ => s
    | none => { s with daemon := { s.daemon with policy := some (.load o) } }

/-- `Daemon::start_tc`; the error becomes `tc_error`. -/
def startTc (o : Outcome) : Job Unit :=
  modify fun s =>
    match s.daemon.tc with
    | some _ => s
    | none =>
        match TcRuntime.load o s.daemon.config with
        | .ok tc => { s with daemon := { s.daemon with tc := some tc } }
        | .error _ => s

/-- What the request thread is given to do: the two loads of `serve`, and requests. -/
inductive Call where
  | startPolicy
  | startTc
  | request (r : Request)
  deriving DecidableEq

/-- The program of a call.  The error of a request is its reply. -/
def Call.program (o : Outcome) : Call → Job Unit
  | .startPolicy => Speederd.startPolicy o
  | .startTc => Speederd.startTc o
  | .request r => do
      let _ ← handle o r

/-- One call from start to end with nothing in between, and what the environment
answered in it; a drain that waits for ever does not end. -/
def serve (s : Sys) (call : Call × Outcome) : Option Sys :=
  ((call.1.program call.2).run s).map (·.2)

end SkylineSpeeder.Speederd
