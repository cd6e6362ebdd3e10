import Mathlib.Tactic
import SkylineSpeeder.Word.Arith
import SkylineSpeeder.Cc.Abi

/-!
The configuration of the daemon (`crates/skyline-common/src/lib.rs`) and what the
kernel gets of it.

* `F64`: the values of an `f64` coefficient, the finite ones read as exact
  rationals;
* `SkylineConfig`: the configuration, with its tables; `ModuleTuningConfig` is the
  part that `set-module-config` replaces;
* `SkylineConfig.featureMask`, `SkylineConfig.kernelConfig`: the module set as
  feature bits and the configuration as `KernelConfig`;
* `RackRtoConfig.kernelConfig`, `RetransmitDscpConfig.kernelConfig`,
  `RedundancyConfig.kernelConfig`: the three single map slots;
* `has_pacing_iff`: the pacing bit is set exactly when M4 is in the module set.
-/

namespace SkylineSpeeder

open Word

/-! ### Floating-point coefficients -/

/-- A value of type `f64`. -/
inductive F64 where
  | finite (q : ℚ)
  | infinite (negative : Bool)
  | nan
  deriving DecidableEq

namespace F64

/-- `f64::is_finite`. -/
def isFinite : F64 → Bool
  | finite _ => true
  | _ => false

/-- `(lo..=hi).contains(&self)`; a NaN compares false with everything. -/
def within (lo hi : ℚ) : F64 → Bool
  | finite q => decide (lo ≤ q) && decide (q ≤ hi)
  | _ => false

/-- `self < 0.0`. -/
def isNegative : F64 → Bool
  | finite q => decide (q < 0)
  | infinite negative => negative
  | nan => false

end F64

/-- `f64::round`: to the nearest integer, halves away from zero. -/
def roundHalfAway (q : ℚ) : ℤ :=
  if 0 ≤ q then ⌊q + 1 / 2⌋ else -⌊-q + 1 / 2⌋

/-- `permille`: `(value * 1000.0).round().clamp(0.0, u32::MAX as f64) as u32`. -/
def permille : F64 → UInt32
  | .finite q => UInt32.ofNat (min (max (roundHalfAway (q * 1000)) 0) 0xffffffff).toNat
  | .infinite negative => if negative then 0 else 0xffffffff
  | .nan => 0

/-- A coefficient between two whole numbers of permille stays between them. -/
lemma permille_within {lo hi : ℕ} (hhi : hi < 2 ^ 32) {value : F64}
    (h : value.within (lo / 1000) (hi / 1000) = true) :
    lo ≤ (permille value).toNat ∧ (permille value).toNat ≤ hi := by
  cases value with
  | infinite _ => simp [F64.within] at h
  | nan => simp [F64.within] at h
  | finite q =>
      rw [F64.within, Bool.and_eq_true, decide_eq_true_eq, decide_eq_true_eq] at h
      have hlo : (lo : ℚ) ≤ q * 1000 := by linarith [h.1]
      have hle : q * 1000 ≤ (hi : ℚ) := by linarith [h.2]
      have hpos : (0 : ℚ) ≤ q * 1000 := le_trans (Nat.cast_nonneg lo) hlo
      have hround : (lo : ℤ) ≤ roundHalfAway (q * 1000) ∧ roundHalfAway (q * 1000) ≤ hi := by
        rw [roundHalfAway, if_pos hpos]
        refine ⟨Int.le_floor.mpr ?_, Int.lt_add_one_iff.mp (Int.floor_lt.mpr ?_)⟩
        · push_cast
          linarith
        · push_cast
          linarith
      have hclamp : (min (max (roundHalfAway (q * 1000)) 0) 0xffffffff).toNat
          = (roundHalfAway (q * 1000)).toNat := by omega
      rw [permille, hclamp, UInt32.toNat_ofNat', Nat.mod_eq_of_lt (by omega)]
      omega

/-! ### Modules and features -/

/-- `Module`: the four modules an operator switches on and off. -/
inductive Module where
  | earlyLoss | adaptiveCwnd | lossClassifier | pacing
  deriving DecidableEq, Repr

/-- `Module::bit`. -/
def Module.bit : Module → UInt32
  | .earlyLoss => featureEarlyLoss
  | .adaptiveCwnd => featureAdaptiveCwnd
  | .lossClassifier => featureLossClassifier
  | .pacing => featurePacing

/-! ### The tables of the configuration -/

/-- `[adaptive_cwnd]`. -/
structure AdaptiveCwndConfig where
  minRttWindowS : UInt32
  bwWindowRtts : UInt32
  startupPlateauRtts : UInt32
  startupGrowthRatio : F64
  startupGain : F64
  cruiseInflightGain : F64
  cruisePacingGain : F64
  guardrailGain : F64
  deriving DecidableEq

/-- `[loss_classifier]`. -/
structure LossClassifierConfig where
  lossInflationMaxRatio : F64
  deriving DecidableEq

/-- `[rack_tuning]`; a field that is `none` is not the daemon's to set. -/
structure RackTuningConfig where
  tcpRecovery : Option UInt32
  tcpReordering : Option UInt32
  tcpEarlyRetrans : Option UInt32
  deriving DecidableEq

/-- `[rack_rto]`. -/
structure RackRtoConfig where
  enabled : Bool
  srttPermille : UInt32
  floorUs : UInt32
  ceilingUs : UInt32
  warmupSamples : UInt32
  rtoMaxNormalPermille : UInt32
  rtoMaxCongestedPermille : UInt32
  rtoMaxCongestionRatioPermille : UInt32
  deriving DecidableEq

/-- `[retransmit_dscp]`. -/
structure RetransmitDscpConfig where
  enabled : Bool
  dscpValue : UInt8
  deriving DecidableEq

/-- `[redundancy]`. -/
structure RedundancyConfig where
  enabled : Bool
  firstKib : UInt32
  delayMs : UInt32
  deriving DecidableEq

/-- `[guard]`. -/
structure GuardConfig where
  intervalS : UInt32
  qdisc : Bool
  deriving DecidableEq

/-- `[runtime]`, less the paths. -/
structure RuntimeConfig where
  eventsMaxMib : UInt32
  tcInterface : Option String
  deriving DecidableEq

/-- `SkylineConfig`. -/
structure SkylineConfig where
  generation : UInt32
  enabledModules : List Module
  prrPacingEnabled : Bool
  autoPacingEnabled : Bool
  fallbackCc : String
  maxPacingMbps : UInt64
  maxCwndPackets : UInt32
  maxQueueDelayMs : UInt32
  maxQueueDelayRatio : F64
  initialCwndPackets : UInt32
  minCwndPackets : UInt32
  adaptiveCwnd : AdaptiveCwndConfig
  lossClassifier : LossClassifierConfig
  rackTuning : RackTuningConfig
  rackRto : RackRtoConfig
  retransmitDscp : RetransmitDscpConfig
  redundancy : RedundancyConfig
  guard : GuardConfig
  runtime : RuntimeConfig
  deriving DecidableEq

/-- `ModuleTuningConfig`: the payload of `SetModuleConfig`, every coefficient of
M2, M3 and M4 and the top-level limits. -/
structure ModuleTuningConfig where
  maxPacingMbps : UInt64
  maxCwndPackets : UInt32
  maxQueueDelayMs : UInt32
  maxQueueDelayRatio : F64
  initialCwndPackets : UInt32
  minCwndPackets : UInt32
  minRttWindowS : UInt32
  bwWindowRtts : UInt32
  startupPlateauRtts : UInt32
  startupGrowthRatio : F64
  startupGain : F64
  cruiseInflightGain : F64
  cruisePacingGain : F64
  guardrailGain : F64
  lossInflationMaxRatio : F64
  prrPacingEnabled : Bool
  autoPacingEnabled : Bool
  deriving DecidableEq

namespace ModuleTuningConfig

/-- `ModuleTuningConfig::from_config`. -/
def fromConfig (config : SkylineConfig) : ModuleTuningConfig where
  maxPacingMbps := config.maxPacingMbps
  maxCwndPackets := config.maxCwndPackets
  maxQueueDelayMs := config.maxQueueDelayMs
  maxQueueDelayRatio := config.maxQueueDelayRatio
  initialCwndPackets := config.initialCwndPackets
  minCwndPackets := config.minCwndPackets
  minRttWindowS := config.adaptiveCwnd.minRttWindowS
  bwWindowRtts := config.adaptiveCwnd.bwWindowRtts
  startupPlateauRtts := config.adaptiveCwnd.startupPlateauRtts
  startupGrowthRatio := config.adaptiveCwnd.startupGrowthRatio
  startupGain := config.adaptiveCwnd.startupGain
  cruiseInflightGain := config.adaptiveCwnd.cruiseInflightGain
  cruisePacingGain := config.adaptiveCwnd.cruisePacingGain
  guardrailGain := config.adaptiveCwnd.guardrailGain
  lossInflationMaxRatio := config.lossClassifier.lossInflationMaxRatio
  prrPacingEnabled := config.prrPacingEnabled
  autoPacingEnabled := config.autoPacingEnabled

/-- `ModuleTuningConfig::apply_to`. -/
def applyTo (tuning : ModuleTuningConfig) (config : SkylineConfig) : SkylineConfig :=
  { config with
    maxPacingMbps := tuning.maxPacingMbps
    maxCwndPackets := tuning.maxCwndPackets
    maxQueueDelayMs := tuning.maxQueueDelayMs
    maxQueueDelayRatio := tuning.maxQueueDelayRatio
    initialCwndPackets := tuning.initialCwndPackets
    minCwndPackets := tuning.minCwndPackets
    adaptiveCwnd := {
      minRttWindowS := tuning.minRttWindowS
      bwWindowRtts := tuning.bwWindowRtts
      startupPlateauRtts := tuning.startupPlateauRtts
      startupGrowthRatio := tuning.startupGrowthRatio
      startupGain := tuning.startupGain
      cruiseInflightGain := tuning.cruiseInflightGain
      cruisePacingGain := tuning.cruisePacingGain
      guardrailGain := tuning.guardrailGain }
    lossClassifier := { lossInflationMaxRatio := tuning.lossInflationMaxRatio }
    prrPacingEnabled := tuning.prrPacingEnabled
    autoPacingEnabled := tuning.autoPacingEnabled }

end ModuleTuningConfig

/-! ### What the kernel gets -/

namespace SkylineConfig

/-- The bits of a module list, `iter().fold(FeatureMask::empty(), |mask, m| mask | m.bit())`. -/
def moduleBits (modules : List Module) : UInt32 :=
  modules.foldl (fun mask m => mask ||| m.bit) 0

/-- `SkylineConfig::feature_mask`. -/
def featureMask (config : SkylineConfig) : UInt32 :=
  let mask := moduleBits config.enabledModules
  let mask := if config.prrPacingEnabled then mask ||| featurePrr else mask
  if config.autoPacingEnabled then mask ||| featureAutoPacing else mask

/-- `SkylineConfig::kernel_config`. -/
def kernelConfig (config : SkylineConfig) : KernelConfig where
  abiVersion := abiVersion
  generation := config.generation
  featureMask := config.featureMask
  initialCwndPackets := config.initialCwndPackets
  maxPacingBps := U64.saturatingMul config.maxPacingMbps 1000000
  maxCwndPackets := config.maxCwndPackets
  maxQueueDelayUs := U32.saturatingMul config.maxQueueDelayMs 1000
  maxQueueDelayPermille := permille config.maxQueueDelayRatio
  minRttWindowUs := U32.saturatingMul config.adaptiveCwnd.minRttWindowS 1000000
  bwWindowRtts := config.adaptiveCwnd.bwWindowRtts
  startupPlateauRtts := config.adaptiveCwnd.startupPlateauRtts
  startupGrowthPermille := permille config.adaptiveCwnd.startupGrowthRatio
  startupGainPermille := permille config.adaptiveCwnd.startupGain
  cruiseInflightPermille := permille config.adaptiveCwnd.cruiseInflightGain
  cruisePacingPermille := permille config.adaptiveCwnd.cruisePacingGain
  lossInflationMaxPermille := permille config.lossClassifier.lossInflationMaxRatio
  guardrailGainPermille := permille config.adaptiveCwnd.guardrailGain
  minCwndPackets := config.minCwndPackets
  reserved := 0

/-! ### The pacing bit -/

/-- The bit of M4 among those of a module list, collected after `mask`. -/
lemma foldl_pacing (modules : List Module) (mask : UInt32) :
    modules.foldl (fun mask m => mask ||| m.bit) mask &&& featurePacing
      = if .pacing ∈ modules then featurePacing else mask &&& featurePacing := by
  induction modules generalizing mask with
  | nil => rfl
  | cons m modules ih =>
      have hbit : m.bit &&& featurePacing = if m = .pacing then featurePacing else 0 := by
        cases m <;> rfl
      rw [List.foldl_cons, ih, U32.and_or_distrib_right, hbit]
      by_cases hm : m = .pacing
      · subst hm
        simp [U32.and_or_self_right]
      · simp [hm, Ne.symm hm]

/-- The two flags outside the module set add bits of their own. -/
lemma featureMask_pacing (config : SkylineConfig) :
    config.featureMask &&& featurePacing
      = if .pacing ∈ config.enabledModules then featurePacing else 0 := by
  have hprr : featurePrr &&& featurePacing = 0 := rfl
  have hauto : featureAutoPacing &&& featurePacing = 0 := rfl
  have hzero : 0 &&& featurePacing = 0 := rfl
  rw [featureMask, moduleBits]
  split_ifs <;> simp_all [U32.and_or_distrib_right, foldl_pacing]

/-- **The pacing bit is set exactly while M4 is in the module set.** -/
theorem has_pacing_iff (config : SkylineConfig) :
    config.kernelConfig.has featurePacing = true ↔ .pacing ∈ config.enabledModules := by
  have hmask : config.kernelConfig.featureMask = config.featureMask := rfl
  rw [KernelConfig.has, hmask, featureMask_pacing]
  split <;> simp_all [featurePacing]

end SkylineConfig

/-! ### The single slots -/

/-- `KernelRtoTuning`, the element of the `rto_tuning` map. -/
structure KernelRtoTuning where
  abiVersion : UInt32
  generation : UInt32
  enabled : UInt32
  srttPermille : UInt32
  floorUs : UInt32
  ceilingUs : UInt32
  warmupSamples : UInt32
  rtoMaxNormalPermille : UInt32
  rtoMaxCongestedPermille : UInt32
  rtoMaxCongestionRatioPermille : UInt32
  reserved : UInt32
  deriving DecidableEq

/-- `KernelRetransmitDscpConfig`, the element of the `retransmit_dscp_config` map. -/
structure KernelRetransmitDscpConfig where
  abiVersion : UInt32
  enabled : UInt32
  dscpValue : UInt32
  reserved : UInt32
  deriving DecidableEq

/-- `KernelRedundancyConfig`, the element of the `redundancy_config` map. -/
structure KernelRedundancyConfig where
  abiVersion : UInt32
  enabled : UInt32
  bytes : UInt32
  delayUs : UInt32
  deriving DecidableEq

/-- The elements of maps nothing has written yet. -/
def KernelRtoTuning.zero : KernelRtoTuning := ⟨0, 0, 0, 0, 0, 0, 0, 0, 0, 0, 0⟩

@[inherit_doc KernelRtoTuning.zero]
def KernelRetransmitDscpConfig.zero : KernelRetransmitDscpConfig := ⟨0, 0, 0, 0⟩

@[inherit_doc KernelRtoTuning.zero]
def KernelRedundancyConfig.zero : KernelRedundancyConfig := ⟨0, 0, 0, 0⟩

/-- `u32::from` of a flag. -/
def u32OfBool (flag : Bool) : UInt32 := if flag then 1 else 0

/-- `SKYLINE_RTO_MIN_KERNEL_DEFAULT_US`. -/
def rtoMinKernelDefaultUs : UInt32 := 200000

/-- `RackRtoConfig::disabled`. -/
def RackRtoConfig.disabled : RackRtoConfig where
  enabled := false
  srttPermille := 1000
  floorUs := 5000
  ceilingUs := 200000
  warmupSamples := 8
  rtoMaxNormalPermille := 0
  rtoMaxCongestedPermille := 0
  rtoMaxCongestionRatioPermille := 0

/-- `RackRtoConfig::kernel_config`. -/
def RackRtoConfig.kernelConfig (config : RackRtoConfig) (generation : UInt32) :
    KernelRtoTuning where
  abiVersion := 2
  generation := generation
  enabled := u32OfBool config.enabled
  srttPermille := config.srttPermille
  floorUs := config.floorUs
  ceilingUs := minT config.ceilingUs rtoMinKernelDefaultUs
  warmupSamples := config.warmupSamples
  rtoMaxNormalPermille := config.rtoMaxNormalPermille
  rtoMaxCongestedPermille := config.rtoMaxCongestedPermille
  rtoMaxCongestionRatioPermille := config.rtoMaxCongestionRatioPermille
  reserved := 0

/-- `RetransmitDscpConfig::disabled`. -/
def RetransmitDscpConfig.disabled : RetransmitDscpConfig := ⟨false, 0⟩

/-- `RetransmitDscpConfig::kernel_config`. -/
def RetransmitDscpConfig.kernelConfig (config : RetransmitDscpConfig) :
    KernelRetransmitDscpConfig where
  abiVersion := 2
  enabled := u32OfBool config.enabled
  dscpValue := config.dscpValue.toUInt32
  reserved := 0

/-- `RedundancyConfig::disabled`. -/
def RedundancyConfig.disabled : RedundancyConfig := ⟨false, 64, 10⟩

/-- `RedundancyConfig::kernel_config`; `active` is whether skyline_cc is enabled. -/
def RedundancyConfig.kernelConfig (config : RedundancyConfig) (active : Bool) :
    KernelRedundancyConfig where
  abiVersion := 1
  enabled := u32OfBool (config.enabled && active)
  bytes := U32.saturatingMul config.firstKib 1024
  delayUs := U32.saturatingMul config.delayMs 1000

/-! ### The shipped configuration -/

/-- `config/speeder.toml`. -/
def SkylineConfig.speeder : SkylineConfig where
  generation := 1
  enabledModules := [.earlyLoss, .adaptiveCwnd, .lossClassifier, .pacing]
  prrPacingEnabled := true
  autoPacingEnabled := true
  fallbackCc := "cubic"
  maxPacingMbps := 1200
  maxCwndPackets := 50000
  maxQueueDelayMs := 70
  maxQueueDelayRatio := .finite (6 / 10)
  initialCwndPackets := 100
  minCwndPackets := 32
  adaptiveCwnd := {
    minRttWindowS := 30
    bwWindowRtts := 6
    startupPlateauRtts := 5
    startupGrowthRatio := .finite (2 / 10)
    startupGain := .finite 3
    cruiseInflightGain := .finite 3
    cruisePacingGain := .finite (125 / 100)
    guardrailGain := .finite (8 / 10) }
  lossClassifier := { lossInflationMaxRatio := .finite (1 / 10) }
  rackTuning := ⟨none, none, none⟩
  rackRto := {
    enabled := true
    srttPermille := 1100
    floorUs := 20000
    ceilingUs := 200000
    warmupSamples := 4
    rtoMaxNormalPermille := 3000
    rtoMaxCongestedPermille := 6000
    rtoMaxCongestionRatioPermille := 0 }
  retransmitDscp := ⟨false, 0⟩
  redundancy := ⟨true, 64, 10⟩
  guard := ⟨5, true⟩
  runtime := ⟨8, some "data0"⟩

example : SkylineConfig.speeder.kernelConfig = KernelConfig.speeder := by decide +kernel

end SkylineSpeeder
