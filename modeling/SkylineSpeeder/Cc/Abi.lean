import Mathlib.Tactic

/-!
`bpf/include/skyline_abi.h`: the layouts the daemon and the congestion control
share, and the per-socket state of the congestion control.

* `KernelConfig`: `struct skyline_config`, which `skyline-common` mirrors under
  this name, and the feature bits of its mask;
* `KernelConfig.toWords`, `KernelConfig.ofWords`: the struct as the twenty
  32-bit words of a `config_slots` element; `ofWords_toWords` says that the
  words determine the struct;
* `FlowState`: `struct skyline_flow_state`, in three groups of fields that
  different parts of the program own; its zero value is what fresh socket
  storage holds;
* `Report`: what a callback leaves in the `metrics`, `events` and `flow_count`
  maps.
-/

namespace SkylineSpeeder

/-- `SKYLINE_ABI_VERSION`. -/
def abiVersion : UInt32 := 8

/-! ### The feature bits (`enum skyline_feature`) -/

/-- `SKYLINE_FEATURE_EARLY_LOSS` (M1). -/
def featureEarlyLoss : UInt32 := 1

/-- `SKYLINE_FEATURE_ADAPTIVE_CWND` (M2). -/
def featureAdaptiveCwnd : UInt32 := 2

/-- `SKYLINE_FEATURE_LOSS_CLASSIFIER` (M3). -/
def featureLossClassifier : UInt32 := 4

/-- `SKYLINE_FEATURE_PACING` (M4). -/
def featurePacing : UInt32 := 8

/-- `SKYLINE_FEATURE_PRR`. -/
def featurePrr : UInt32 := 16

/-- `SKYLINE_FEATURE_AUTO_PACING`. -/
def featureAutoPacing : UInt32 := 32

/-! ### The published configuration -/

/-- `struct skyline_config`, `KernelConfig` on the Rust side. -/
structure KernelConfig where
  abiVersion : UInt32
  generation : UInt32
  featureMask : UInt32
  initialCwndPackets : UInt32
  maxPacingBps : UInt64
  maxCwndPackets : UInt32
  maxQueueDelayUs : UInt32
  maxQueueDelayPermille : UInt32
  minRttWindowUs : UInt32
  bwWindowRtts : UInt32
  startupPlateauRtts : UInt32
  startupGrowthPermille : UInt32
  startupGainPermille : UInt32
  cruiseInflightPermille : UInt32
  cruisePacingPermille : UInt32
  lossInflationMaxPermille : UInt32
  guardrailGainPermille : UInt32
  minCwndPackets : UInt32
  reserved : UInt32
  deriving DecidableEq, Repr

namespace KernelConfig

/-- The value of a map element nothing has written yet. -/
def zero : KernelConfig :=
  ⟨0, 0, 0, 0, 0, 0, 0, 0, 0, 0, 0, 0, 0, 0, 0, 0, 0, 0, 0⟩

/-- What `config/speeder.toml` is lowered to. -/
def speeder : KernelConfig where
  abiVersion := 8
  generation := 1
  featureMask := 63
  initialCwndPackets := 100
  maxPacingBps := 1200000000
  maxCwndPackets := 50000
  maxQueueDelayUs := 70000
  maxQueueDelayPermille := 600
  minRttWindowUs := 30000000
  bwWindowRtts := 6
  startupPlateauRtts := 5
  startupGrowthPermille := 200
  startupGainPermille := 3000
  cruiseInflightPermille := 3000
  cruisePacingPermille := 1250
  lossInflationMaxPermille := 100
  guardrailGainPermille := 800
  minCwndPackets := 32
  reserved := 0

/-- `config->feature_mask & bit` as a condition. -/
def has (config : KernelConfig) (bit : UInt32) : Bool :=
  config.featureMask &&& bit != 0

/-- The struct as it lies in memory, word by word; `max_pacing_bps` takes two
words, the low one first. -/
def toWords (config : KernelConfig) : Fin 20 → UInt32 :=
  ![config.abiVersion, config.generation, config.featureMask,
    config.initialCwndPackets, config.maxPacingBps.toUInt32,
    (config.maxPacingBps >>> 32).toUInt32, config.maxCwndPackets,
    config.maxQueueDelayUs, config.maxQueueDelayPermille, config.minRttWindowUs,
    config.bwWindowRtts, config.startupPlateauRtts, config.startupGrowthPermille,
    config.startupGainPermille, config.cruiseInflightPermille,
    config.cruisePacingPermille, config.lossInflationMaxPermille,
    config.guardrailGainPermille, config.minCwndPackets, config.reserved]

/-- The struct read back from its words. -/
def ofWords (words : Fin 20 → UInt32) : KernelConfig where
  abiVersion := words 0
  generation := words 1
  featureMask := words 2
  initialCwndPackets := words 3
  maxPacingBps := (words 4).toUInt64 + (words 5).toUInt64 <<< 32
  maxCwndPackets := words 6
  maxQueueDelayUs := words 7
  maxQueueDelayPermille := words 8
  minRttWindowUs := words 9
  bwWindowRtts := words 10
  startupPlateauRtts := words 11
  startupGrowthPermille := words 12
  startupGainPermille := words 13
  cruiseInflightPermille := words 14
  cruisePacingPermille := words 15
  lossInflationMaxPermille := words 16
  guardrailGainPermille := words 17
  minCwndPackets := words 18
  reserved := words 19

/-- A 64-bit value is determined by its two halves. -/
lemma halves_eq (x : UInt64) :
    x.toUInt32.toUInt64 + (x >>> 32).toUInt32.toUInt64 <<< 32 = x := by
  apply UInt64.toNat.inj
  have hx := x.toNat_lt
  simp only [UInt64.toNat_add, UInt64.toNat_shiftLeft, UInt64.toNat_shiftRight,
    UInt32.toNat_toUInt64, UInt64.toNat_toUInt32, UInt64.reduceToNat, Nat.reduceMod,
    Nat.shiftRight_eq_div_pow, Nat.shiftLeft_eq]
  omega

/-- **The words determine the struct**: reading back what was written gives
the configuration itself. -/
theorem ofWords_toWords (config : KernelConfig) : ofWords config.toWords = config := by
  cases config with
  | mk abi gen mask iw bps cap qd qp rttw bww plateau growth sg ci cp li gg floor res =>
      exact congrArg (fun b => KernelConfig.mk abi gen mask iw b cap qd qp rttw bww plateau
        growth sg ci cp li gg floor res) (halves_eq bps)

end KernelConfig

/-- The shipped configuration with M2 off. -/
def withoutM2 : KernelConfig := { KernelConfig.speeder with featureMask := 61 }

/-! ### The state of one connection -/

/-- `enum skyline_mode`. -/
inductive Mode where
  | startup | cruise
  deriving DecidableEq, Repr

/-- The fields of `struct skyline_flow_state` that say what the connection runs on. -/
structure FlowConfig where
  configSeq : UInt32
  counted : Bool
  config : KernelConfig
  deriving DecidableEq

/-- The fields of `struct skyline_flow_state` that model the path: rounds, the two
RTT minima, the bandwidth window, the loss average, the guardrail and the mode. -/
structure FlowPath where
  mode : Mode
  plateauRounds : UInt32
  lastDeliveredCe : UInt32
  lastLossDelivered : UInt32
  minRttUs : UInt64
  minRttStampUs : UInt64
  minSrttUs : UInt64
  minSrttStampUs : UInt64
  bwBps : UInt64
  priorRoundBwBps : UInt64
  roundRateBps : UInt64
  bwSamples : Fin 10 → UInt64
  nextRoundDelivered : UInt64
  lossRatePermille : UInt32
  lastLost : UInt32
  lastLossRateDelivered : UInt32
  queueClamped : Bool
  deriving DecidableEq

/-- The fields of `struct skyline_flow_state` that the window of the path without
M2 is computed from: the CUBIC epoch, PRR and the reduction episode. -/
structure FlowCubic where
  priorCwnd : UInt32
  wMax : UInt32
  epochKMs : UInt32
  epochStartNs : UInt64
  prrDelivered : UInt32
  tcpCwnd : UInt32
  ackCnt : UInt32
  recoveryActive : Bool
  deriving DecidableEq

/-- `struct skyline_flow_state`, its fields grouped by what they are for. -/
structure FlowState extends FlowConfig, FlowPath, FlowCubic
  deriving DecidableEq

/-- Fresh socket storage is zero, which reads as `STARTUP` without a
configuration. -/
def FlowState.zero : FlowState where
  configSeq := 0
  mode := .startup
  counted := false
  plateauRounds := 0
  priorCwnd := 0
  wMax := 0
  lastDeliveredCe := 0
  lastLossDelivered := 0
  minRttUs := 0
  minRttStampUs := 0
  minSrttUs := 0
  minSrttStampUs := 0
  bwBps := 0
  priorRoundBwBps := 0
  roundRateBps := 0
  bwSamples := fun _ => 0
  epochKMs := 0
  nextRoundDelivered := 0
  epochStartNs := 0
  prrDelivered := 0
  tcpCwnd := 0
  ackCnt := 0
  recoveryActive := false
  lossRatePermille := 0
  lastLost := 0
  lastLossRateDelivered := 0
  queueClamped := false
  config := KernelConfig.zero

/-! ### What a callback reports -/

/-- The counters of `struct skyline_metrics`. -/
inductive Metric where
  | ackEvents | deliveredPackets | lossEvents | stateTransitions | pacingUpdates
  | guardrailHits | hypotheticalEarlyLoss | prrAdjustments | guardrailRounds | cwndCapHits
  deriving DecidableEq, Repr

/-- `struct skyline_event` without its time stamp and cookie, by
`enum skyline_event_type`. -/
inductive SkylineEvent where
  | state (next : Mode) (before after : Mode)
  | loss (mode : Mode) (losses : Int32)
  | guardrail (mode : Mode) (queueDelay maxQueueDelay : UInt64)
  | undoCwnd (mode : Mode) (priorCwnd restored : UInt32)
  | generationSwitch (mode : Mode) (before after : UInt32)
  deriving DecidableEq, Repr

/-- One update a callback makes outside the socket and its storage: a counter
of `metrics`, an event for the ring buffer, or the shared `flow_count`. -/
inductive Report where
  | metric (counter : Metric) (amount : UInt64)
  | emit (event : SkylineEvent)
  | flowCountAdd
  | flowCountSub
  deriving DecidableEq, Repr

end SkylineSpeeder
