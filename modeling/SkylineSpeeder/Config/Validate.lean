import SkylineSpeeder.Config.Skyline

/-!
`SkylineConfig::validate`: the checks a configuration has to pass, in the order and
with the texts of `crates/skyline-common/src/lib.rs`, and what they give the kernel.

* `ConfigError`: the errors of a check, with the field they name;
* `SkylineConfig.validate`: the checks, the ones of a table by a function of that
  table alone;
* `validate_eq_ok_iff`: a configuration is valid exactly when each group of checks
  passes, so that a request that replaces one table has that table to look at;
* `Publishable`, `publishable_of_validate`: what the BPF side relies on, and that a
  valid configuration has it.
-/

namespace SkylineSpeeder

open Word

/-- `SKYLINE_CC_NAME`. -/
def skylineCcName : String := "skyline_cc"

/-- The errors of `validate`: a ratio's name, its largest value and the value given; a
mode gain's; a float that is not a number; a value outside its range; and a text. -/
inductive ConfigError where
  | ratio (name : String) (max : ℚ) (value : F64)
  | gain (name : String) (value : F64)
  | notFinite (name : String) (value : F64)
  | range (name range : String) (value : UInt32)
  | invalid (text : String)
  deriving DecidableEq

/-- `if bad { return Err(error); }`. -/
def check (bad : Bool) (error : ConfigError) : Except ConfigError Unit :=
  if bad then .error error else .ok ()

lemma check_eq_ok_iff {bad : Bool} {error : ConfigError} :
    check bad error = .ok () ↔ bad = false := by
  cases bad <;> simp [check]

/-- A sequence of checks passes when the first and the rest do. -/
lemma bind_eq_ok_iff {first : Except ConfigError Unit} {rest : Unit → Except ConfigError Unit} :
    (first >>= rest) = .ok () ↔ first = .ok () ∧ rest () = .ok () := by
  cases first with
  | error e => exact ⟨fun h => (nomatch h), fun h => (nomatch h.1)⟩
  | ok u => exact ⟨fun h => ⟨rfl, h⟩, fun h => h.2⟩

/-- A loop of checks passes when every one does. -/
lemma forM_check_eq_ok_iff {α : Type*} {bad : α → Bool} {error : α → ConfigError}
    (xs : List α) :
    (xs.forM fun x => check (bad x) (error x)) = .ok () ↔ ∀ x ∈ xs, bad x = false := by
  induction xs with
  | nil => exact iff_of_true rfl (by simp)
  | cons x xs ih =>
      rw [List.forM, bind_eq_ok_iff, check_eq_ok_iff, ih, List.forall_mem_cons]

/-! ### The checks of the tables -/

/-- The checks of `[rack_tuning]`. -/
def RackTuningConfig.validate (tuning : RackTuningConfig) : Except ConfigError Unit := do
  if let some value := tuning.tcpRecovery then
    check (!(value == 1 || value == 3 || value == 5 || value == 7))
      (.range "tcp_recovery" "one of 1, 3, 5, 7" value)
  if let some value := tuning.tcpReordering then
    check (!(1 ≤ value && value ≤ 300)) (.range "tcp_reordering" "1..=300" value)
  if let some value := tuning.tcpEarlyRetrans then
    check (4 < value) (.range "tcp_early_retrans" "0..=4" value)

/-- The checks of `[rack_rto]`, made while it is enabled. -/
def RackRtoConfig.validate (rto : RackRtoConfig) : Except ConfigError Unit := do
  if rto.enabled then
    check (rto.srttPermille == 0)
      (.invalid "rack_rto.srtt_permille must be non-zero while enabled")
    check (rto.floorUs == 0) (.invalid "rack_rto.floor_us must be non-zero")
    check (rto.ceilingUs < rto.floorUs)
      (.invalid "rack_rto.ceiling_us must be >= rack_rto.floor_us")
    check (rtoMinKernelDefaultUs < rto.ceilingUs)
      (.range "rack_rto.ceiling_us" "<=200000 (kernel TCP_RTO_MIN)" rto.ceilingUs)
    check (rto.rtoMaxCongestedPermille < rto.rtoMaxNormalPermille)
      (.invalid "rack_rto.rto_max_congested_permille must be >= rto_max_normal_permille")

/-- The checks of `[retransmit_dscp]`. -/
def RetransmitDscpConfig.validate (dscp : RetransmitDscpConfig) : Except ConfigError Unit := do
  check (dscp.enabled && dscp.dscpValue == 0)
    (.invalid "retransmit_dscp.enabled requires a non-zero dscp_value (0 = unset)")
  check (63 < dscp.dscpValue)
    (.range "retransmit_dscp.dscp_value" "0..=63" dscp.dscpValue.toUInt32)

/-- The checks of `[redundancy]`. -/
def RedundancyConfig.validate (redundancy : RedundancyConfig) : Except ConfigError Unit := do
  check (redundancy.enabled && !(1 ≤ redundancy.firstKib && redundancy.firstKib ≤ 1024))
    (.range "redundancy.first_kib" "1..=1024 while redundancy is enabled" redundancy.firstKib)
  check (100 < redundancy.delayMs) (.range "redundancy.delay_ms" "0..=100" redundancy.delayMs)

/-- The check of `[guard]`. -/
def GuardConfig.validate (guard : GuardConfig) : Except ConfigError Unit :=
  check (3600 < guard.intervalS)
    (.range "guard.interval_s" "0..=3600 (0 = no periodic re-check)" guard.intervalS)

namespace SkylineConfig

/-! ### The checks of the top level and of the coefficients -/

/-- The generation, and the algorithm a drain falls back to. -/
def validateFallback (config : SkylineConfig) : Except ConfigError Unit := do
  check (config.generation == 0) (.invalid "generation must be non-zero")
  check (config.fallbackCc.isEmpty || 16 ≤ config.fallbackCc.utf8ByteSize)
    (.invalid "fallback_cc must contain between 1 and 15 bytes")
  check (config.fallbackCc == skylineCcName)
    (.invalid "fallback_cc must name another algorithm than skyline_cc")

/-- Every float is a number. -/
def validateFinite (config : SkylineConfig) : Except ConfigError Unit :=
  [("max_queue_delay_ratio", config.maxQueueDelayRatio),
    ("startup_growth_ratio", config.adaptiveCwnd.startupGrowthRatio),
    ("startup_gain", config.adaptiveCwnd.startupGain),
    ("cruise_inflight_gain", config.adaptiveCwnd.cruiseInflightGain),
    ("cruise_pacing_gain", config.adaptiveCwnd.cruisePacingGain),
    ("guardrail_gain", config.adaptiveCwnd.guardrailGain),
    ("loss_inflation_max_ratio", config.lossClassifier.lossInflationMaxRatio)].forM
    fun (name, value) => check (!value.isFinite) (.notFinite name value)

/-- The windows and the pacing cap. -/
def validateLimits (config : SkylineConfig) : Except ConfigError Unit := do
  check (config.maxCwndPackets < 4) (.invalid "max_cwnd_packets must be at least 4")
  check (config.maxCwndPackets < config.initialCwndPackets)
    (.invalid "initial_cwnd_packets must not exceed max_cwnd_packets")
  check (!(1 ≤ config.adaptiveCwnd.minRttWindowS && config.adaptiveCwnd.minRttWindowS ≤ 4294))
    (.range "min_rtt_window_s" "1..=4294" config.adaptiveCwnd.minRttWindowS)
  check (config.minCwndPackets < 4) (.invalid "min_cwnd_packets must be at least 4")
  check (config.maxCwndPackets < config.minCwndPackets)
    (.invalid "min_cwnd_packets must not exceed max_cwnd_packets")
  check (!(1 ≤ config.adaptiveCwnd.bwWindowRtts && config.adaptiveCwnd.bwWindowRtts ≤ 10))
    (.invalid "bw_window_rtts must be between 1 and 10")
  check (config.featureMask &&& featurePacing == featurePacing && config.maxPacingMbps == 0)
    (.invalid "max_pacing_mbps must be non-zero while pacing is enabled")

/-- The ratios and the gains; `MAX_MODE_GAIN` is 1000. -/
def validateRatios (config : SkylineConfig) : Except ConfigError Unit := do
  check (!config.adaptiveCwnd.startupGrowthRatio.within 0 1)
    (.ratio "startup_growth_ratio" 1 config.adaptiveCwnd.startupGrowthRatio)
  check (!config.lossClassifier.lossInflationMaxRatio.within 0 (1 / 2))
    (.ratio "loss_inflation_max_ratio" (1 / 2) config.lossClassifier.lossInflationMaxRatio)
  [("startup_gain", config.adaptiveCwnd.startupGain),
    ("cruise_inflight_gain", config.adaptiveCwnd.cruiseInflightGain),
    ("cruise_pacing_gain", config.adaptiveCwnd.cruisePacingGain)].forM
    fun (name, gain) => check (!gain.within 1 1000) (.gain name gain)
  check (!config.adaptiveCwnd.guardrailGain.within 0 1)
    (.ratio "guardrail_gain" 1 config.adaptiveCwnd.guardrailGain)
  check config.maxQueueDelayRatio.isNegative
    (.invalid "max_queue_delay_ratio must be non-negative")

/-- `SkylineConfig::validate`. -/
def validate (config : SkylineConfig) : Except ConfigError Unit := do
  config.validateFallback
  config.validateFinite
  config.validateLimits
  config.validateRatios
  config.rackTuning.validate
  config.rackRto.validate
  config.retransmitDscp.validate
  config.redundancy.validate
  config.guard.validate

/-- The checks of a configuration, a group at a time. -/
structure Valid (config : SkylineConfig) : Prop where
  fallback : config.validateFallback = .ok ()
  finite : config.validateFinite = .ok ()
  limits : config.validateLimits = .ok ()
  ratios : config.validateRatios = .ok ()
  rackTuning : config.rackTuning.validate = .ok ()
  rackRto : config.rackRto.validate = .ok ()
  retransmitDscp : config.retransmitDscp.validate = .ok ()
  redundancy : config.redundancy.validate = .ok ()
  guard : config.guard.validate = .ok ()

/-- **A configuration is valid exactly when each group of checks passes.** -/
theorem validate_eq_ok_iff (config : SkylineConfig) :
    config.validate = .ok () ↔ config.Valid := by
  simp only [validate, bind_eq_ok_iff]
  refine ⟨?_, ?_⟩
  · rintro ⟨h₁, h₂, h₃, h₄, h₅, h₆, h₇, h₈, h₉⟩
    exact ⟨h₁, h₂, h₃, h₄, h₅, h₆, h₇, h₈, h₉⟩
  · rintro ⟨h₁, h₂, h₃, h₄, h₅, h₆, h₇, h₈, h₉⟩
    exact ⟨h₁, h₂, h₃, h₄, h₅, h₆, h₇, h₈, h₉⟩

example : SkylineConfig.speeder.validate = .ok () := by decide +kernel

/-! ### The groups that depend on the module set or on the generation -/

/-- The fallback algorithm is another one. -/
lemma Valid.fallbackCc_ne {config : SkylineConfig} (h : config.Valid) :
    config.fallbackCc ≠ skylineCcName := by
  have hall := h.fallback
  simp only [validateFallback, bind_eq_ok_iff, check_eq_ok_iff] at hall
  exact beq_eq_false_iff_ne.mp hall.2.2

/-- A group about the top level does not look at the generation, as long as it is not
zero. -/
lemma validateFallback_generation {config : SkylineConfig}
    (h : config.validateFallback = .ok ()) {generation : UInt32} (hgen : generation ≠ 0) :
    { config with generation := generation }.validateFallback = .ok () := by
  simp only [validateFallback, bind_eq_ok_iff, check_eq_ok_iff] at h ⊢
  exact ⟨beq_eq_false_iff_ne.mpr hgen, h.2⟩

/-- A smaller module set keeps to the limits: it needs the pacing cap no more than
before. -/
lemma validateLimits_modules {config : SkylineConfig} (h : config.validateLimits = .ok ())
    {modules : List Module} (hsub : ∀ m ∈ modules, m ∈ config.enabledModules) :
    { config with enabledModules := modules }.validateLimits = .ok () := by
  simp only [validateLimits, bind_eq_ok_iff, check_eq_ok_iff, featureMask_pacing] at h ⊢
  obtain ⟨h₁, h₂, h₃, h₄, h₅, h₆, h₇⟩ := h
  refine ⟨h₁, h₂, h₃, h₄, h₅, h₆, ?_⟩
  by_cases hm : Module.pacing ∈ modules
  · rw [if_pos hm]
    rwa [if_pos (hsub _ hm)] at h₇
  · rw [if_neg hm]
    rfl

/-- The next generation of a valid configuration is valid. -/
lemma Valid.nextGeneration {config : SkylineConfig} (h : config.Valid) :
    { config with generation := U32.saturatingAdd config.generation 1 }.Valid :=
  { fallback := validateFallback_generation h.fallback (U32.saturatingAdd_one_ne_zero _)
    finite := h.finite
    limits := h.limits
    ratios := h.ratios
    rackTuning := h.rackTuning
    rackRto := h.rackRto
    retransmitDscp := h.retransmitDscp
    redundancy := h.redundancy
    guard := h.guard }

/-! ### What the BPF side relies on -/

/-- What `bpf/skyline_cc.bpf.c` takes for granted of a configuration it adopts. -/
structure Publishable (config : SkylineConfig) : Prop where
  abiVersion : config.kernelConfig.abiVersion = SkylineSpeeder.abiVersion
  generation : config.kernelConfig.generation ≠ 0
  floor : 4 ≤ config.kernelConfig.minCwndPackets
  cap : config.kernelConfig.minCwndPackets ≤ config.kernelConfig.maxCwndPackets
  initial : config.kernelConfig.initialCwndPackets ≤ config.kernelConfig.maxCwndPackets
  bwWindow : 1 ≤ config.kernelConfig.bwWindowRtts ∧ config.kernelConfig.bwWindowRtts ≤ 10
  startupGain : 1000 ≤ config.kernelConfig.startupGainPermille ∧
    config.kernelConfig.startupGainPermille ≤ 1000000
  cruiseInflight : 1000 ≤ config.kernelConfig.cruiseInflightPermille ∧
    config.kernelConfig.cruiseInflightPermille ≤ 1000000
  cruisePacing : 1000 ≤ config.kernelConfig.cruisePacingPermille ∧
    config.kernelConfig.cruisePacingPermille ≤ 1000000
  lossInflation : config.kernelConfig.lossInflationMaxPermille ≤ 500
  guardrail : config.kernelConfig.guardrailGainPermille ≤ 1000
  minRttWindow : config.kernelConfig.minRttWindowUs ≠ 0 ∧
    config.kernelConfig.minRttWindowUs.toNat = config.adaptiveCwnd.minRttWindowS.toNat * 10 ^ 6
  pacing : config.kernelConfig.has featurePacing = true → 0 < config.kernelConfig.maxPacingBps

/-- A gain that `validateRatios` lets through, in permille. -/
lemma gain_permille {gain : F64} (h : gain.within 1 1000 = true) :
    1000 ≤ permille gain ∧ permille gain ≤ 1000000 := by
  have h' : gain.within ((1000 : ℕ) / 1000) ((1000000 : ℕ) / 1000) = true := by
    norm_num
    exact h
  rw [UInt32.le_iff_toNat_le, UInt32.le_iff_toNat_le]
  exact permille_within (by decide) h'

/-- A ratio that `validateRatios` lets through, in permille. -/
lemma ratio_permille {ratio : F64} {most : ℕ} (hmost : most < 2 ^ 32)
    (h : ratio.within 0 (most / 1000) = true) : (permille ratio).toNat ≤ most := by
  have h' : ratio.within ((0 : ℕ) / 1000) (most / 1000) = true := by simpa using h
  exact (permille_within hmost h').2

/-- **What the BPF side relies on holds of every valid configuration.** -/
theorem publishable_of_validate {config : SkylineConfig} (h : config.Valid) :
    config.Publishable := by
  have hfallback := h.fallback
  have hlimits := h.limits
  have hratios := h.ratios
  simp only [validateFallback, validateLimits, validateRatios, bind_eq_ok_iff, check_eq_ok_iff,
    forM_check_eq_ok_iff, List.forall_mem_cons, Bool.not_eq_false', Bool.and_eq_true,
    decide_eq_true_eq, decide_eq_false_iff_not] at hfallback hlimits hratios
  obtain ⟨-, hinitial, ⟨hwindow, hwindow'⟩, hfloor, hcap, hbw, hpacing⟩ := hlimits
  obtain ⟨-, hloss, ⟨hstartup, hinflight, hcruise, -⟩, hguardrail, -⟩ := hratios
  have hloss' : config.lossClassifier.lossInflationMaxRatio.within 0 ((500 : ℕ) / 1000) = true := by
    norm_num
    exact hloss
  have hguardrail' : config.adaptiveCwnd.guardrailGain.within 0 ((1000 : ℕ) / 1000) = true := by
    norm_num
    exact hguardrail
  -- the window in microseconds does not saturate
  have hfits : config.adaptiveCwnd.minRttWindowS.toNat * (1000000 : UInt32).toNat < 2 ^ 32 := by
    rw [UInt32.le_iff_toNat_le] at hwindow'
    calc config.adaptiveCwnd.minRttWindowS.toNat * (1000000 : UInt32).toNat
        ≤ 4294 * (1000000 : UInt32).toNat := Nat.mul_le_mul_right _ hwindow'
      _ < 2 ^ 32 := by decide
  have hexact : config.kernelConfig.minRttWindowUs.toNat
      = config.adaptiveCwnd.minRttWindowS.toNat * 10 ^ 6 := U32.toNat_saturatingMul_of_lt hfits
  refine
    { abiVersion := rfl
      generation := beq_eq_false_iff_ne.mp hfallback.1
      floor := UInt32.not_lt.mp hfloor
      cap := UInt32.not_lt.mp hcap
      initial := UInt32.not_lt.mp hinitial
      bwWindow := hbw
      startupGain := gain_permille hstartup
      cruiseInflight := gain_permille hinflight
      cruisePacing := gain_permille hcruise
      lossInflation := ?_
      guardrail := ?_
      minRttWindow := ⟨?_, hexact⟩
      pacing := ?_ }
  · rw [UInt32.le_iff_toNat_le]
    exact ratio_permille (by decide) hloss'
  · rw [UInt32.le_iff_toNat_le]
    exact ratio_permille (by decide) hguardrail'
  · intro hzero
    rw [hzero] at hexact
    rw [UInt32.le_iff_toNat_le, UInt32.toNat_one] at hwindow
    simp only [UInt32.toNat_zero] at hexact
    omega
  · intro hhas
    rw [has_pacing_iff] at hhas
    rw [featureMask_pacing, if_pos hhas, beq_self_eq_true, Bool.true_and] at hpacing
    have hpos : 0 < config.maxPacingMbps.toNat := by
      rw [Nat.pos_iff_ne_zero]
      intro hzero
      exact beq_eq_false_iff_ne.mp hpacing (UInt64.toNat.inj hzero)
    rw [UInt64.lt_iff_toNat_lt]
    exact U64.saturatingMul_pos hpos (by decide)

end SkylineConfig

end SkylineSpeeder
