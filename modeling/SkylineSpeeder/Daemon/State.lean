import SkylineSpeeder.Machine.Prog
import SkylineSpeeder.Config.Validate
import SkylineSpeeder.Cc.Publish

/-!
The state of `skyline-speederd` (`crates/skyline-speederd/src/main.rs`) and of what it
drives: the BPF maps of its three objects, the guard's flag and lock, the congestion
control sysctl and the registration of the struct_ops.

* `ConfigMaps`, `updateConfigMaps`: the two slots and `config_seq` of the congestion
  control object, and a publication into them, either write of which may fail;
* `PolicyRuntime`, `TcRuntime`: the other two objects, with the slots the daemon
  writes;
* `Daemon`, `Daemon.new`: the daemon's own state;
* `Outcome`: what the kernel and the clock answer during one call, which operations
  fail among it;
* `Sys`: all of it, with the journal of what the daemon has asked of the kernel.
-/

namespace SkylineSpeeder.Speederd

open Machine Word

/-! ### What the environment decides -/

/-- The operations that may fail, one constructor for each place in a call where the
daemon depends on the kernel. -/
inductive KernelOp where
  /-- The write of `fallback_cc` that `BpfRuntime::load` starts with. -/
  | baseline
  | loadCcObject | configSlot | configSeq | attachStructOps
  | eventReader | metricsSampler
  /-- The unregister that dropping a `BpfRuntime` tries. -/
  | dropUnregister
  /-- `Enable`'s write of `skyline_cc`, and `Drain`'s of `fallback_cc`. -/
  | skylineDefault | fallbackDefault
  /-- The guard's read of the sysctl, and its write of `skyline_cc`. -/
  | readDefault | restoreDefault
  | policyEnabled | rtoTuning | retransmitDscp | redundancy
  | unregister
  | writeSnapshot
  | loadPolicy | requireEthernet | loadTc
  deriving DecidableEq, Repr

/-- What the environment answers during one call: which operations succeed, what the
lookups of `flow_count` return (a failed one nothing), the clock in nanoseconds, and
after how many polls a drain that still waits is left waiting. -/
structure Outcome where
  ok : KernelOp → Bool
  flowCount : ℕ → Option UInt64
  now : ℕ → ℕ
  polls : ℕ

/-- All goes well, and no connection is left. -/
def Outcome.allWell : Outcome := ⟨fun _ => true, fun _ => some 0, fun _ => 0, 1⟩

/-- The same with one operation that fails. -/
def Outcome.failing (op : KernelOp) : Outcome := { Outcome.allWell with ok := fun x => x ≠ op }

/-- An error of a request: of the configuration's check, one the daemon states itself,
or an operation that failed, with the context the code gives it. -/
inductive DaemonError where
  | config (error : ConfigError)
  | refused (text : String)
  | kernel (op : KernelOp) (context : String)
  deriving DecidableEq

/-- The result of an operation that the kernel may refuse. -/
def Outcome.result (o : Outcome) (op : KernelOp) (context : String) : Except DaemonError Unit :=
  if o.ok op then .ok () else .error (.kernel op context)

/-! ### The congestion control object -/

/-- The maps `config_slots` and `config_seq`. -/
structure ConfigMaps where
  slot0 : KernelConfig
  slot1 : KernelConfig
  configSeq : UInt32
  deriving DecidableEq

namespace ConfigMaps

/-- The maps of a freshly loaded object. -/
def fresh : ConfigMaps := ⟨.zero, .zero, 0⟩

/-- The slot that a number names. -/
def slot (maps : ConfigMaps) (seq : UInt32) : KernelConfig :=
  if seqSide seq then maps.slot1 else maps.slot0

/-- The configuration in force: the slot that `config_seq` names. -/
def effective (maps : ConfigMaps) : KernelConfig := maps.slot maps.configSeq

/-- The element `seq & 1` written. -/
def writeSlot (maps : ConfigMaps) (seq : UInt32) (config : KernelConfig) : ConfigMaps :=
  if seqSide seq then { maps with slot1 := config } else { maps with slot0 := config }

@[simp] lemma writeSlot_configSeq (maps : ConfigMaps) (seq : UInt32) (config : KernelConfig) :
    (maps.writeSlot seq config).configSeq = maps.configSeq := by
  unfold writeSlot
  split <;> rfl

lemma slot_writeSlot (maps : ConfigMaps) (seq : UInt32) (config : KernelConfig) :
    (maps.writeSlot seq config).slot seq = config := by
  unfold slot writeSlot
  split <;> rfl

/-- The slot of the next number is not the one in force. -/
lemma effective_writeSlot_next (maps : ConfigMaps) (config : KernelConfig) :
    (maps.writeSlot (maps.configSeq + 1) config).effective = maps.effective := by
  unfold effective slot
  rw [writeSlot_configSeq, writeSlot, seqSide_add_one]
  cases seqSide maps.configSeq <;> rfl

end ConfigMaps

/-- `update_config_maps`: into the slot of the new number, and only then into
`config_seq`. -/
def updateConfigMaps (o : Outcome) (maps : ConfigMaps) (config : SkylineConfig) (seq : UInt32) :
    Except DaemonError Unit × ConfigMaps :=
  if o.ok .configSlot then
    let maps := maps.writeSlot seq config.kernelConfig
    if o.ok .configSeq then (.ok (), { maps with configSeq := seq })
    else (.error (.kernel .configSeq "update map config_seq"), maps)
  else (.error (.kernel .configSlot "update inactive config slot"), maps)

/-- A publication that succeeds puts the configuration in force; one that fails leaves
what was in force, and its number. -/
lemma updateConfigMaps_next (o : Outcome) (maps : ConfigMaps) (config : SkylineConfig) :
    ((updateConfigMaps o maps config (maps.configSeq + 1)).1 = .ok () ∧
      (updateConfigMaps o maps config (maps.configSeq + 1)).2.effective = config.kernelConfig ∧
      (updateConfigMaps o maps config (maps.configSeq + 1)).2.configSeq = maps.configSeq + 1) ∨
    ((∃ e, (updateConfigMaps o maps config (maps.configSeq + 1)).1 = .error e) ∧
      (updateConfigMaps o maps config (maps.configSeq + 1)).2.effective = maps.effective ∧
      (updateConfigMaps o maps config (maps.configSeq + 1)).2.configSeq = maps.configSeq) := by
  unfold updateConfigMaps
  split_ifs
  · exact .inl ⟨rfl, ConfigMaps.slot_writeSlot maps _ _, rfl⟩
  · exact .inr ⟨⟨_, rfl⟩, ConfigMaps.effective_writeSlot_next maps _,
      ConfigMaps.writeSlot_configSeq maps _ _⟩
  · exact .inr ⟨⟨_, rfl⟩, rfl, rfl⟩

/-- `BpfRuntime`: the attached congestion control, the number of the configuration
published last and the maps of its object. -/
structure BpfRuntime where
  configSeq : UInt32
  maps : ConfigMaps
  deriving DecidableEq

/-- `BpfRuntime::update_config`. -/
def BpfRuntime.updateConfig (o : Outcome) (runtime : BpfRuntime) (config : SkylineConfig) :
    Except DaemonError Unit × BpfRuntime :=
  let nextSeq := runtime.configSeq + 1
  match updateConfigMaps o runtime.maps config nextSeq with
  | (.ok (), maps) => (.ok (), ⟨nextSeq, maps⟩)
  | (.error e, maps) => (.error e, ⟨runtime.configSeq, maps⟩)

/-! ### The policy object and the TC object -/

/-- The maps of the policy object that the daemon writes. -/
structure PolicyMaps where
  policyEnabled : UInt32
  rtoTuning : KernelRtoTuning
  deriving DecidableEq

/-- `PolicyRuntime`; `none` is an object that did not load. -/
structure PolicyRuntime where
  object : Option PolicyMaps
  deriving DecidableEq

/-- `PolicyRuntime::load`: both maps are written off, and a failed write leaves the
fresh map's zero. -/
def PolicyRuntime.load (o : Outcome) : PolicyRuntime where
  object :=
    if o.ok .loadPolicy then
      some {
        policyEnabled := 0
        rtoTuning :=
          if o.ok .rtoTuning then RackRtoConfig.disabled.kernelConfig 0 else .zero }
    else none

/-- `PolicyRuntime::set_policy_enabled`. -/
def PolicyRuntime.setPolicyEnabled (o : Outcome) (policy : PolicyRuntime) (enabled : Bool) :
    Except DaemonError Unit × PolicyRuntime :=
  match policy.object with
  | some maps =>
      if o.ok .policyEnabled then
        (.ok (), ⟨some { maps with policyEnabled := u32OfBool enabled }⟩)
      else (.error (.kernel .policyEnabled "update map policy_enabled"), policy)
  | none =>
      if enabled then (.error (.refused "policy object is not loaded"), policy)
      else (.ok (), policy)

/-- `PolicyRuntime::set_rto_tuning`. -/
def PolicyRuntime.setRtoTuning (o : Outcome) (policy : PolicyRuntime) (config : RackRtoConfig)
    (generation : UInt32) : Except DaemonError Unit × PolicyRuntime :=
  match policy.object with
  | some maps =>
      if o.ok .rtoTuning then
        (.ok (), ⟨some { maps with rtoTuning := config.kernelConfig generation }⟩)
      else (.error (.kernel .rtoTuning "update rto_tuning map"), policy)
  | none => (.error (.refused "policy object is not loaded"), policy)

/-- The maps of the TC object that the daemon writes. -/
structure TcMaps where
  retransmitDscp : KernelRetransmitDscpConfig
  redundancy : KernelRedundancyConfig
  deriving DecidableEq

/-- `TcRuntime`, with at most one object. -/
structure TcRuntime where
  object : Option TcMaps
  redundancyActive : Bool
  deriving DecidableEq

/-- `TcRuntime::load`: an interface that carries no Ethernet is refused; both maps are
written off, and a failed write leaves the fresh map's zero. -/
def TcRuntime.load (o : Outcome) (config : SkylineConfig) : Except DaemonError TcRuntime :=
  match config.runtime.tcInterface with
  | none => .ok ⟨none, false⟩
  | some _ =>
      if o.ok .requireEthernet then
        .ok {
          object :=
            if o.ok .loadTc then
              some {
                retransmitDscp :=
                  if o.ok .retransmitDscp then RetransmitDscpConfig.disabled.kernelConfig
                  else .zero
                redundancy :=
                  if o.ok .redundancy then RedundancyConfig.disabled.kernelConfig false
                  else .zero }
            else none
          redundancyActive := false }
      else .error (.kernel .requireEthernet "not an Ethernet device; skyline_tc is not attached")

/-- `TcRuntime::set_retransmit_dscp`. -/
def TcRuntime.setRetransmitDscp (o : Outcome) (tc : TcRuntime) (config : RetransmitDscpConfig) :
    Except DaemonError Unit × TcRuntime :=
  match tc.object with
  | some maps =>
      if o.ok .retransmitDscp then
        (.ok (), { tc with object := some { maps with retransmitDscp := config.kernelConfig } })
      else (.error (.kernel .retransmitDscp "update retransmit_dscp_config map"), tc)
  | none =>
      if config.enabled then
        (.error (.refused "TC object is not loaded (runtime.tc_interface unset?)"), tc)
      else (.ok (), tc)

/-- `TcRuntime::set_redundancy`. -/
def TcRuntime.setRedundancy (o : Outcome) (tc : TcRuntime) (config : RedundancyConfig)
    (active : Bool) : Except DaemonError Unit × TcRuntime :=
  match tc.object with
  | some maps =>
      if o.ok .redundancy then
        (.ok (), {
          object := some { maps with redundancy := config.kernelConfig active }
          redundancyActive := config.enabled && active })
      else (.error (.kernel .redundancy "update redundancy_config map"), tc)
  | none =>
      if config.enabled && active then
        (.error (.refused "TC object is not loaded (runtime.tc_interface unset?)"), tc)
      else (.ok (), { tc with redundancyActive := config.enabled && active })

/-! ### The daemon -/

/-- The fields of `CapabilityReport` that `validate_capabilities` reads. -/
structure CapabilityReport where
  btf : Bool
  bpffs : Bool
  cgroupV2 : Bool
  fqAvailable : Bool
  structOps : Bool
  fallbackCcAvailable : Bool
  deriving DecidableEq

/-- A kernel that has all of it. -/
def CapabilityReport.full : CapabilityReport := ⟨true, true, true, true, true, true⟩

/-- `validate_capabilities`. -/
def validateCapabilities (report : CapabilityReport) : Except DaemonError Unit :=
  if !report.btf then .error (.refused "kernel BTF is unavailable")
  else if !report.bpffs then .error (.refused "bpffs is unavailable")
  else if !report.cgroupV2 then .error (.refused "cgroup v2 is unavailable")
  else if !report.fqAvailable then .error (.refused "sch_fq is unavailable")
  else if !report.structOps then .error (.refused "BPF struct_ops support was not detected")
  else if !report.fallbackCcAvailable then
    .error (.refused ("configured fallback congestion control is unavailable: set fallback_cc " ++
      "to one this kernel has (see the capability notes, or " ++
      "/proc/sys/net/ipv4/tcp_available_congestion_control)"))
  else .ok ()

/-- `Daemon`, less what only `status` reads; the guard is in `Sys`, since its thread
shares it. -/
structure Daemon where
  config : SkylineConfig
  capabilities : CapabilityReport
  runtime : Option BpfRuntime
  tc : Option TcRuntime
  policy : Option PolicyRuntime
  rackRtoDefaults : RackRtoConfig
  moduleTuningDefaults : ModuleTuningConfig
  retransmitDscpDefaults : RetransmitDscpConfig
  redundancyDefaults : RedundancyConfig
  accelerating : Bool
  draining : Bool
  eventLog : Bool
  deriving DecidableEq

/-- `Daemon::new`: dynamic RTO and DSCP marking start off, whatever the file says; the
file's values stay in the defaults. -/
def Daemon.new (config : SkylineConfig) (capabilities : CapabilityReport) : Daemon where
  config :=
    { config with
      rackRto := { config.rackRto with enabled := false }
      retransmitDscp := { config.retransmitDscp with enabled := false } }
  capabilities := capabilities
  runtime := none
  tc := none
  policy := none
  rackRtoDefaults := config.rackRto
  moduleTuningDefaults := .fromConfig config
  retransmitDscpDefaults := config.retransmitDscp
  redundancyDefaults := config.redundancy
  accelerating := false
  draining := false
  eventLog := config.runtime.eventsMaxMib != 0

/-! ### The whole system -/

/-- `Request`. -/
inductive Request where
  | validate
  | enable (modules : Option (List Module))
  | disableModule (module : Module)
  | status
  | flows
  | snapshot
  | drain (timeoutS : UInt64)
  | setRackRto (config : RackRtoConfig)
  | resetRackRto
  | setModuleConfig (config : ModuleTuningConfig)
  | resetModuleConfig
  | setRetransmitDscp (config : RetransmitDscpConfig)
  | resetRetransmitDscp
  | setRedundancy (config : RedundancyConfig)
  | resetRedundancy
  | shutdown
  deriving DecidableEq

/-- Who writes `tcp_congestion_control` or unregisters the struct_ops: an `Enable`
(its attach and its first guard pass included), a `Drain`, or a periodic pass of the
guard. -/
inductive Writer where
  | enable | drain | periodic
  deriving DecidableEq, Repr

/-- What is noted in the journal. -/
inductive Event where
  | received (request : Request)
  | setDefault (who : Writer) (name : String) (ok : Bool)
  | updateConfigMaps (config : SkylineConfig) (seq : UInt32)
  | attachStructOps (ok : Bool)
  | unregister (who : Writer) (ok : Bool)
  | flowCount (read : Option UInt64)
  | returned (request : Request) (ok : Bool)
  deriving DecidableEq

/-- The threads that share the guard's lock. -/
inductive Thread where
  | requests | guard
  deriving DecidableEq, Repr

/-- `GuardState` under its mutex: the flag, the holder and the two counters. -/
structure GuardState where
  armed : Bool
  holder : Option Thread
  checks : UInt64
  ccRestored : UInt64
  deriving DecidableEq

/-- The daemon, its guard, the sysctl `tcp_congestion_control`, whether the struct_ops
is registered, and the journal, newest entry first. -/
structure Sys where
  daemon : Daemon
  guard : GuardState
  congestionControl : String
  registered : Bool
  journal : List Event

/-- A daemon that has just been made, on a host that runs some algorithm. -/
def Sys.boot (config : SkylineConfig) (capabilities : CapabilityReport)
    (congestionControl : String) : Sys where
  daemon := .new config capabilities
  guard := ⟨false, none, 0, 0⟩
  congestionControl := congestionControl
  registered := false
  journal := []

end SkylineSpeeder.Speederd
