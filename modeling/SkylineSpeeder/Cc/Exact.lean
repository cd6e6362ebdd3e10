import SkylineSpeeder.Cc.LossHistory
import SkylineSpeeder.Config.Validate

/-!
M2's window and M4's pacing rate against the values they stand for, computed over
the unbounded integers, for every configuration that passes
`SkylineConfig::validate`.

* `exactInflation`, `exactTarget`: M3's factor and M2's target; `inflatedPackets_toNat`
  says that no 64-bit product of the target wraps;
* `cwndTarget_exact_iff`: the window is the clamped target exactly when the
  conversion of the target to 32 bits, which comes before the cap, does no harm;
* `exactPacingGain`, `exactPacingFloor`: M4's gain and its floor;
* `pacing_exact`: the rate is the clamped product, and not below the clamped floor.
-/

namespace SkylineSpeeder

open Word (maxT)

/-- M3's factor in permille. -/
def exactInflation (flow : FlowState) (config : KernelConfig) : ℕ :=
  if config.has featureLossClassifier ∧ config.lossInflationMaxPermille ≠ 0 then
    1000000 /
      (1000 - min (min flow.lossRatePermille.toNat config.lossInflationMaxPermille.toNat) 500)
  else 1000

lemma inflation_eq_exact (flow : FlowState) (config : KernelConfig) :
    (skylineLossInflationPermille flow config).toNat = exactInflation flow config := by
  rw [exactInflation]
  by_cases hon : config.has featureLossClassifier = true
  · by_cases hmax : config.lossInflationMaxPermille = 0
    · simp [skylineLossInflationPermille, hmax]
    · rw [inflation_toNat hon hmax, compensated_toNat, if_pos ⟨hon, hmax⟩]
  · simp [skylineLossInflationPermille, hon]

lemma exactInflation_le (flow : FlowState) (config : KernelConfig) :
    exactInflation flow config ≤ 2000 :=
  inflation_eq_exact flow config ▸ inflation_le_two flow config

/-! ### The window -/

/-- M2's target in packets. -/
def exactTarget (tp : TcpSock) (flow : FlowState) (config : KernelConfig) : ℕ :=
  flow.bwBps.toNat * max flow.minRttUs.toNat flow.minSrttUs.toNat / 8000000
    * (cwndGain flow config).toNat / 1000 * exactInflation flow config / 1000
    / max tp.mssCache.toNat 1

lemma mss_toNat (tp : TcpSock) :
    (maxT tp.mssCache 1).toUInt64.toNat = max tp.mssCache.toNat 1 := by
  rw [UInt32.toNat_toUInt64, Word.U32.toNat_maxT]
  rfl

/-- A product by a factor in permille, as long as it fits. -/
lemma scale_toNat {x factor : UInt64} (h : x.toNat * factor.toNat < 2 ^ 64) :
    (x * factor / 1000).toNat = x.toNat * factor.toNat / 1000 := by
  rw [UInt64.toNat_div, Word.U64.toNat_mul_of_lt h]
  rfl

/-- The bytes of one gain: below `2^64 / 8000000` times a gain of at most 1000 and an
inflation of at most 2, which leaves room. -/
lemma inflatedPackets_toNat {tp : TcpSock} {flow : FlowState} {config : KernelConfig}
    (hgain : (cwndGain flow config).toNat ≤ 1000000)
    (hfits : flow.bwBps.toNat * max flow.minRttUs.toNat flow.minSrttUs.toNat < 2 ^ 64) :
    (inflatedPackets tp flow config (cwndGain flow config)).toNat =
      exactTarget tp flow config := by
  have hinflation := exactInflation_le flow config
  have hbytes : (flow.bwBps * skylineBaseRttUs flow / (8 * 1000000)).toNat =
      flow.bwBps.toNat * max flow.minRttUs.toNat flow.minSrttUs.toNat / 8000000 := by
    rw [UInt64.toNat_div, Word.U64.toNat_mul_of_lt (by rwa [baseRtt_toNat]), baseRtt_toNat]
    rfl
  set bytes := flow.bwBps.toNat * max flow.minRttUs.toNat flow.minSrttUs.toNat / 8000000
  have hle : bytes ≤ 2305843009214 := by omega
  have hmul : bytes * (cwndGain flow config).toNat ≤ 2305843009214 * 1000000 :=
    Nat.mul_le_mul hle hgain
  have hgained : (bdpBytes flow (cwndGain flow config)).toNat =
      bytes * (cwndGain flow config).toNat / 1000 := by
    rw [bdpBytes, scale_toNat (by rw [hbytes, UInt32.toNat_toUInt64]; omega), hbytes,
      UInt32.toNat_toUInt64]
  set gained := bytes * (cwndGain flow config).toNat / 1000
  have hmul' : gained * exactInflation flow config ≤ 2305843009214000 * 2000 :=
    Nat.mul_le_mul (by omega) hinflation
  rw [inflatedPackets, UInt64.toNat_div, mss_toNat, scale_toNat, hgained, UInt32.toNat_toUInt64,
    inflation_eq_exact]
  · rfl
  · rw [hgained, UInt32.toNat_toUInt64, inflation_eq_exact]
    omega

/-- Validation bounds every gain M2 can pick. -/
lemma cwndGain_le {config : SkylineConfig} (h : config.Publishable) (flow : FlowState) :
    (cwndGain flow config.kernelConfig).toNat ≤ 1000000 := by
  have hstartup := UInt32.le_iff_toNat_le.mp h.startupGain.2
  have hcruise := UInt32.le_iff_toNat_le.mp h.cruiseInflight.2
  have hguardrail := UInt32.le_iff_toNat_le.mp h.guardrail
  simp only [UInt32.reduceToNat] at hstartup hcruise hguardrail
  rw [cwndGain, guardrailGain]
  split_ifs
  · omega
  · decide
  · omega
  · omega

/-- What M2 sets, with an estimate: the target's low 32 bits, clamped. -/
lemma setCwndTarget_toNat {config : SkylineConfig} (h : config.Publishable) (K : Kernel)
    (tp : TcpSock) {flow : FlowState} (hest : HasEstimate flow)
    (hfits : flow.bwBps.toNat * max flow.minRttUs.toNat flow.minSrttUs.toNat < 2 ^ 64)
    (acked : UInt32) (afterRto : Bool) :
    (skylineSetCwndTarget K tp flow config.kernelConfig acked afterRto).sndCwnd.toNat =
      min config.kernelConfig.maxCwndPackets.toNat
        (max config.kernelConfig.minCwndPackets.toNat
          (exactTarget tp flow config.kernelConfig % 2 ^ 32)) := by
  have hfloor := UInt32.le_iff_toNat_le.mp h.floor
  have hcap := UInt32.le_iff_toNat_le.mp h.cap
  simp only [UInt32.reduceToNat] at hfloor
  have hmin : (skylineMinCwnd config.kernelConfig).toNat =
      config.kernelConfig.minCwndPackets.toNat := by
    have hfour : skylineMinCwndFloor.toNat = 4 := rfl
    rw [skylineMinCwnd, Word.U32.toNat_maxT, hfour]
    omega
  have hzero : config.kernelConfig.maxCwndPackets ≠ 0 := by
    intro hzero
    rw [hzero, UInt32.toNat_zero] at hcap
    omega
  rw [skylineSetCwndTarget, if_neg (not_or.mpr hest)]
  dsimp only
  rw [capFloor_toNat, if_neg hzero, bdpPackets_eq flow hest, Word.U32.toNat_maxT, hmin,
    UInt64.toNat_toUInt32, inflatedPackets_toNat (cwndGain_le h flow) hfits]
  omega

/-- More bandwidth, no smaller target. -/
lemma exactTarget_mono (tp : TcpSock) (flow : FlowState) (config : KernelConfig) {bw : UInt64}
    (h : flow.bwBps ≤ bw) :
    exactTarget tp flow config ≤ exactTarget tp { flow with bwBps := bw } config := by
  rw [UInt64.le_iff_toNat_le] at h
  have hgain : cwndGain { flow with bwBps := bw } config = cwndGain flow config := rfl
  have hinflation : exactInflation { flow with bwBps := bw } config = exactInflation flow config :=
    rfl
  rw [exactTarget, exactTarget, hgain, hinflation]
  gcongr

/-- What the window takes to be the clamped target: the conversion to 32 bits loses
nothing, or leaves at least the cap, or there is only one window to choose. -/
def Unharmed (tp : TcpSock) (flow : FlowState) (config : KernelConfig) : Prop :=
  exactTarget tp flow config < 2 ^ 32 ∨
    config.maxCwndPackets.toNat ≤ exactTarget tp flow config % 2 ^ 32 ∨
    config.minCwndPackets = config.maxCwndPackets

instance (tp : TcpSock) (flow : FlowState) (config : KernelConfig) :
    Decidable (Unharmed tp flow config) :=
  inferInstanceAs (Decidable (_ ∨ _ ∨ _))

/-- **When M2's window is the clamped target**: with an estimate, under every validated
configuration, exactly when the conversion to 32 bits does no harm; and then a larger
estimate gives no smaller window. -/
theorem cwndTarget_exact_iff (config : SkylineConfig) (hvalid : config.validate = .ok ())
    (K : Kernel) (tp : TcpSock) (flow : FlowState) (hbw : 0 < flow.bwBps)
    (hrtt : 0 < flow.minRttUs)
    (hfits : flow.bwBps.toNat * max flow.minRttUs.toNat flow.minSrttUs.toNat < 2 ^ 64)
    (acked : UInt32) (afterRto : Bool) :
    ((skylineSetCwndTarget K tp flow config.kernelConfig acked afterRto).sndCwnd.toNat =
        min config.kernelConfig.maxCwndPackets.toNat
          (max config.kernelConfig.minCwndPackets.toNat
            (exactTarget tp flow config.kernelConfig)) ↔
      Unharmed tp flow config.kernelConfig) ∧
    (Unharmed tp flow config.kernelConfig → ∀ bw ≤ flow.bwBps, 0 < bw →
      (skylineSetCwndTarget K tp { flow with bwBps := bw } config.kernelConfig acked
          afterRto).sndCwnd ≤
        (skylineSetCwndTarget K tp flow config.kernelConfig acked afterRto).sndCwnd) := by
  have hpub := SkylineConfig.publishable_of_validate
    ((SkylineConfig.validate_eq_ok_iff config).mp hvalid)
  have hcap := UInt32.le_iff_toNat_le.mp hpub.cap
  have hlt := config.kernelConfig.maxCwndPackets.toNat_lt
  have hest : HasEstimate flow := ⟨UInt64.pos_iff_ne_zero.mp hbw, UInt64.pos_iff_ne_zero.mp hrtt⟩
  have hsame : config.kernelConfig.minCwndPackets = config.kernelConfig.maxCwndPackets ↔
      config.kernelConfig.minCwndPackets.toNat = config.kernelConfig.maxCwndPackets.toNat :=
    UInt32.toNat_inj.symm
  refine ⟨?_, ?_⟩
  · rw [setCwndTarget_toNat hpub K tp hest hfits, Unharmed, hsame]
    omega
  · intro hok bw hle hpos
    have hmono : exactTarget tp { flow with bwBps := bw } config.kernelConfig ≤
        exactTarget tp flow config.kernelConfig :=
      exactTarget_mono tp { flow with bwBps := bw } config.kernelConfig hle
    have hest' : HasEstimate { flow with bwBps := bw } :=
      ⟨UInt64.pos_iff_ne_zero.mp hpos, hest.2⟩
    have hfits' : bw.toNat * max flow.minRttUs.toNat flow.minSrttUs.toNat < 2 ^ 64 :=
      lt_of_le_of_lt (Nat.mul_le_mul_right _ (UInt64.le_iff_toNat_le.mp hle)) hfits
    rw [Unharmed, hsame] at hok
    rw [UInt32.le_iff_toNat_le, setCwndTarget_toNat hpub K tp hest' hfits',
      setCwndTarget_toNat hpub K tp hest hfits]
    omega

/-- The shipped configuration with the largest `startup_gain` that is allowed. -/
def SkylineConfig.steepest : SkylineConfig :=
  { SkylineConfig.speeder with
    adaptiveCwnd := { SkylineConfig.speeder.adaptiveCwnd with startupGain := .finite 1000 } }

/-- A flow that measured `bw` bits per second at 100 ms. -/
def FlowState.measured (bw : UInt64) : FlowState :=
  { FlowState.zero with bwBps := bw, minRttUs := 100000, minSrttUs := 100000 }

/-- A connection with segments of 50 bytes. -/
def TcpSock.smallSegments : TcpSock := { TcpSock.established with mssCache := 50 }

/-- 17.2 Gbit/s at 100 ms in segments of 50 bytes make a target of `2^32 + 4` packets: the
window drops to the floor, where 17.1 Gbit/s fill it to the cap. -/
theorem steepest_window_collapses :
    SkylineConfig.steepest.validate = .ok () ∧
    SkylineConfig.steepest.kernelConfig.has featureAdaptiveCwnd = true ∧
    17179869200 * 100000 < 2 ^ 64 ∧
    exactTarget .smallSegments (.measured 17179869200) SkylineConfig.steepest.kernelConfig =
      2 ^ 32 + 4 ∧
    (skylineSetCwndTarget .linux .smallSegments (.measured 17179869200)
      SkylineConfig.steepest.kernelConfig 10 false).sndCwnd = 32 ∧
    (skylineSetCwndTarget .linux .smallSegments (.measured 17100000000)
      SkylineConfig.steepest.kernelConfig 10 false).sndCwnd = 50000 ∧
    ¬ ((skylineSetCwndTarget .linux .smallSegments (.measured 17179869200)
      SkylineConfig.steepest.kernelConfig 10 false).sndCwnd.toNat =
        min SkylineConfig.steepest.kernelConfig.maxCwndPackets.toNat
          (max SkylineConfig.steepest.kernelConfig.minCwndPackets.toNat
            (exactTarget .smallSegments (.measured 17179869200)
              SkylineConfig.steepest.kernelConfig))) := by
  decide +kernel

/-- The condition holds of the same flow a little slower, which is at the cap. -/
theorem steepest_window_capped :
    (skylineSetCwndTarget .linux .smallSegments (.measured 17100000000)
      SkylineConfig.steepest.kernelConfig 10 false).sndCwnd.toNat = 50000 := by
  have h := cwndTarget_exact_iff SkylineConfig.steepest (by decide +kernel) .linux .smallSegments
    (.measured 17100000000) (by decide) (by decide) (by decide) 10 false
  rw [h.1.mpr (by decide +kernel)]
  decide +kernel

/-! ### The pacing rate -/

/-- M4's gain by mode, before the inflation. -/
def pacingModeGain (flow : FlowState) (config : KernelConfig) : UInt32 :=
  if config.has featureAdaptiveCwnd ∧ flow.mode = .startup then config.startupGainPermille
  else config.cruisePacingPermille

/-- M4's gain. -/
def exactPacingGain (flow : FlowState) (config : KernelConfig) : ℕ :=
  if flow.queueClamped then (guardrailGain config).toNat
  else (pacingModeGain flow config).toNat * exactInflation flow config / 1000

/-- One minimum window per base RTT, or per smoothed RTT where there is none. -/
def exactPacingFloor (tp : TcpSock) (flow : FlowState) (config : KernelConfig) : ℕ :=
  let baseRtt := max flow.minRttUs.toNat flow.minSrttUs.toNat
  let rtt := if baseRtt = 0 then tp.srttUs.toNat / 8 else baseRtt
  let packets := if config.has featureAdaptiveCwnd then config.minCwndPackets.toNat else 4
  if rtt = 0 then 0 else packets * max tp.mssCache.toNat 1 * 8000000 / rtt

lemma pacingModeGain_le {config : SkylineConfig} (h : config.Publishable) (flow : FlowState) :
    (pacingModeGain flow config.kernelConfig).toNat ≤ 1000000 := by
  have hstartup := UInt32.le_iff_toNat_le.mp h.startupGain.2
  have hcruise := UInt32.le_iff_toNat_le.mp h.cruisePacing.2
  simp only [UInt32.reduceToNat] at hstartup hcruise
  rw [pacingModeGain]
  split_ifs
  · omega
  · omega

/-- The 32-bit product of gain and inflation stays below `2^32`. -/
lemma modeGain_mul_inflation_lt {config : SkylineConfig} (h : config.Publishable)
    (flow : FlowState) :
    (pacingModeGain flow config.kernelConfig).toNat *
      (skylineLossInflationPermille flow config.kernelConfig).toNat < 2 ^ 32 := by
  calc _ ≤ 1000000 * 2000 := Nat.mul_le_mul (pacingModeGain_le h flow) (inflation_le_two _ _)
    _ < 2 ^ 32 := by norm_num

lemma pacingGain_toNat {config : SkylineConfig} (h : config.Publishable) (flow : FlowState) :
    (pacingGain flow config.kernelConfig).toNat = exactPacingGain flow config.kernelConfig := by
  have heq : pacingGain flow config.kernelConfig = if flow.queueClamped then
      guardrailGain config.kernelConfig else pacingModeGain flow config.kernelConfig *
        skylineLossInflationPermille flow config.kernelConfig / 1000 := rfl
  rw [heq, exactPacingGain]
  split_ifs
  · rfl
  · rw [UInt32.toNat_div, UInt32.toNat_mul, Nat.mod_eq_of_lt (modeGain_mul_inflation_lt h flow),
      inflation_eq_exact]
    rfl

lemma exactPacingGain_le {config : SkylineConfig} (h : config.Publishable) (flow : FlowState) :
    exactPacingGain flow config.kernelConfig ≤ 2000000 := by
  have hguardrail := UInt32.le_iff_toNat_le.mp h.guardrail
  simp only [UInt32.reduceToNat] at hguardrail
  rw [exactPacingGain, guardrailGain]
  split_ifs
  · omega
  · decide
  · have hmul := Nat.mul_le_mul (pacingModeGain_le h flow)
      (exactInflation_le flow config.kernelConfig)
    omega

/-- The packets of the floor. -/
lemma floorPackets_toNat {config : SkylineConfig} (h : config.Publishable) :
    (if config.kernelConfig.has featureAdaptiveCwnd then skylineMinCwnd config.kernelConfig
      else skylineMinCwndFloor).toNat =
    if config.kernelConfig.has featureAdaptiveCwnd then config.kernelConfig.minCwndPackets.toNat
      else 4 := by
  have hfloor := UInt32.le_iff_toNat_le.mp h.floor
  have hfour : skylineMinCwndFloor.toNat = 4 := rfl
  simp only [UInt32.reduceToNat] at hfloor
  rw [apply_ite UInt32.toNat, skylineMinCwnd, Word.U32.toNat_maxT, hfour]
  split_ifs
  · omega
  · rfl

/-- The round trip of the floor. -/
lemma floorRtt_toNat (tp : TcpSock) (flow : FlowState) :
    (if skylineBaseRttUs flow = 0 then (tp.srttUs >>> 3).toUInt64
      else skylineBaseRttUs flow).toNat =
    if max flow.minRttUs.toNat flow.minSrttUs.toNat = 0 then tp.srttUs.toNat / 8
      else max flow.minRttUs.toNat flow.minSrttUs.toNat := by
  have hbase : skylineBaseRttUs flow = 0 ↔ max flow.minRttUs.toNat flow.minSrttUs.toNat = 0 := by
    rw [← baseRtt_toNat, ← UInt64.toNat_inj]
    rfl
  rw [apply_ite UInt64.toNat, baseRtt_toNat, srtt_toNat]
  simp only [hbase]

/-- The floor of 2^20 packets of 65535 bytes still fits its 64-bit product. -/
lemma pacingFloor_toNat {config : SkylineConfig} (h : config.Publishable) {tp : TcpSock}
    (flow : FlowState) (hmin : config.kernelConfig.minCwndPackets.toNat ≤ 2 ^ 20)
    (hmss : tp.mssCache.toNat ≤ 65535) :
    (skylinePacingFloorBps tp flow config.kernelConfig).toNat =
      exactPacingFloor tp flow config.kernelConfig := by
  have hnat := floorPackets_toNat h
  have hrtt := floorRtt_toNat tp flow
  rw [skylinePacingFloorBps, exactPacingFloor]
  generalize (if config.kernelConfig.has featureAdaptiveCwnd then
    skylineMinCwnd config.kernelConfig else skylineMinCwndFloor) = packets at hnat ⊢
  generalize (if skylineBaseRttUs flow = 0 then (tp.srttUs >>> 3).toUInt64
    else skylineBaseRttUs flow) = rtt at hrtt ⊢
  rw [← hnat, ← hrtt]
  have hle : packets.toNat ≤ 2 ^ 20 := by
    rw [hnat]
    split_ifs
    · exact hmin
    · norm_num
  have hbits : packets.toNat * max tp.mssCache.toNat 1 ≤ 2 ^ 20 * 65535 :=
    Nat.mul_le_mul hle (by omega)
  have hproduct : (packets.toUInt64 * (maxT tp.mssCache 1).toUInt64 * 8 * 1000000).toNat =
      packets.toNat * max tp.mssCache.toNat 1 * 8000000 := by
    rw [UInt64.toNat_mul, UInt64.toNat_mul, UInt64.toNat_mul, UInt32.toNat_toUInt64, mss_toNat]
    simp only [UInt64.reduceToNat]
    omega
  have hzero : rtt = 0 ↔ rtt.toNat = 0 := by
    rw [← UInt64.toNat_inj]
    rfl
  rw [apply_ite UInt64.toNat, UInt64.toNat_div, hproduct]
  simp only [hzero]
  rfl

/-- **M4's rate is the exact clamped product and never stalls a flow**: the 32-bit product
of gain and inflation does not wrap, the rate is the product of estimate and gain, not
below the floor, capped by the configuration and by the socket, and so it is not below the
floor under the same two caps. -/
theorem pacing_exact (config : SkylineConfig) (hvalid : config.validate = .ok ())
    (hpacing : config.kernelConfig.has featurePacing = true) (tp : TcpSock) (flow : FlowState)
    (hbw : 0 < flow.bwBps) (hbw' : flow.bwBps.toNat ≤ 2 ^ 43)
    (hmin : config.kernelConfig.minCwndPackets.toNat ≤ 2 ^ 20)
    (hmss : tp.mssCache.toNat ≤ 65535) :
    (pacingModeGain flow config.kernelConfig).toNat *
      (skylineLossInflationPermille flow config.kernelConfig).toNat < 2 ^ 32 ∧
    (skylineApplyPacing tp flow config.kernelConfig).1.skPacingRate.toNat =
      min tp.skMaxPacingRate.toNat
        (min config.kernelConfig.maxPacingBps.toNat
          (max (exactPacingFloor tp flow config.kernelConfig)
            (flow.bwBps.toNat * exactPacingGain flow config.kernelConfig / 1000)) / 8) ∧
    min tp.skMaxPacingRate.toNat
        (min (exactPacingFloor tp flow config.kernelConfig)
          config.kernelConfig.maxPacingBps.toNat / 8) ≤
      (skylineApplyPacing tp flow config.kernelConfig).1.skPacingRate.toNat := by
  have hpub := SkylineConfig.publishable_of_validate
    ((SkylineConfig.validate_eq_ok_iff config).mp hvalid)
  have hcap : config.kernelConfig.maxPacingBps ≠ 0 :=
    UInt64.pos_iff_ne_zero.mp (hpub.pacing hpacing)
  have hfits : flow.bwBps.toNat * (pacingGain flow config.kernelConfig).toUInt64.toNat <
      2 ^ 64 := by
    rw [UInt32.toNat_toUInt64, pacingGain_toNat hpub]
    calc _ ≤ 2 ^ 43 * 2000000 := Nat.mul_le_mul hbw' (exactPacingGain_le hpub flow)
      _ < 2 ^ 64 := by norm_num
  have hrate : (skylineApplyPacing tp flow config.kernelConfig).1.skPacingRate.toNat =
      min tp.skMaxPacingRate.toNat
        (min config.kernelConfig.maxPacingBps.toNat
          (max (exactPacingFloor tp flow config.kernelConfig)
            (flow.bwBps.toNat * exactPacingGain flow config.kernelConfig / 1000)) / 8) := by
    rw [← pacingFloor_toNat hpub flow hmin hmss, ← pacingGain_toNat hpub,
      ← UInt32.toNat_toUInt64 (pacingGain flow config.kernelConfig), ← scale_toNat hfits]
    simp only [skylineApplyPacing, hpacing, Bool.not_true, Bool.false_eq_true, if_false,
      UInt64.pos_iff_ne_zero.mp hbw, hcap, ne_eq, not_false_eq_true, true_and]
    simp only [Word.U64.toNat_limit, UInt64.toNat_div, Word.U64.toNat_floor, UInt64.reduceToNat]
  refine ⟨modeGain_mul_inflation_lt hpub flow, hrate, ?_⟩
  rw [hrate]
  refine min_le_min_left _ (Nat.div_le_div_right (le_min (min_le_right _ _) ?_))
  exact (min_le_left _ _).trans (le_max_left _ _)

/-- The shipped configuration on a flow of 100 Mbit/s at 100 ms: STARTUP paces it at three
times the estimate. -/
theorem speeder_paces_startup :
    (skylineApplyPacing .established (.measured 100000000)
      SkylineConfig.speeder.kernelConfig).1.skPacingRate.toNat = 37500000 := by
  have h := pacing_exact SkylineConfig.speeder (by decide +kernel) (by decide +kernel)
    .established (.measured 100000000) (by decide) (by decide) (by decide +kernel) (by decide)
  rw [h.2.1]
  decide +kernel

end SkylineSpeeder
