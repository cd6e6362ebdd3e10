import SkylineSpeeder.Config.Validate
import SkylineSpeeder.Cc.Window

/-!
What a valid configuration means to the BPF side once `kernel_config` has lowered it.

* `permille_near`, `permille_eq_zero_iff`, `permille_far`: the rounding of a ratio that is
  not negative, up to where `permille` saturates and beyond;
* `Near`, `guardrailMeaning`: a coefficient of the BPF side within half a permille of the
  configured one, and what a guardrail gain is configured to mean;
* `Keeps`: a lowering that keeps the meaning of every coefficient and limit;
* `lowering_keeps_iff`: it does exactly when no ratio is so small that it rounds to the
  zero the BPF side reads as unset, and the queue-delay ratio is not so large that it
  saturates.
-/

namespace SkylineSpeeder

open Word

/-! ### The rounding of a ratio -/

/-- Where `permille` stops being exact: half a permille above the largest `u32`. -/
def permilleLimit : ℚ := 8589934591 / 2000

/-- A ratio that is not negative is rounded to the nearest permille, and cut at the largest
`u32`. -/
lemma permille_toNat {q : ℚ} (hq : 0 ≤ q) :
    (permille (.finite q)).toNat = min (round (q * 1000)).toNat 0xffffffff := by
  have hpos : (0 : ℚ) ≤ q * 1000 := by linarith
  have hround : roundHalfAway (q * 1000) = round (q * 1000) := by
    rw [roundHalfAway, if_pos hpos, round_eq]
  rw [permille, hround, UInt32.toNat_ofNat', Nat.mod_eq_of_lt (by omega)]
  omega

/-- The rounding of a scaled ratio, as a bound from both sides. -/
lemma round_bounds (x : ℚ) : (round x : ℚ) - 1 / 2 ≤ x ∧ x < (round x : ℚ) + 1 / 2 := by
  rw [round_eq]
  have hle := Int.floor_le (x + 1 / 2)
  have hlt := Int.lt_floor_add_one (x + 1 / 2)
  exact ⟨by linarith, by linarith⟩

/-- Up to the limit the rounding is off by half a permille at most. -/
lemma permille_near {q : ℚ} (hq : 0 ≤ q) (hle : q ≤ permilleLimit) :
    |((permille (.finite q)).toNat : ℚ) / 1000 - q| ≤ 1 / 2000 := by
  obtain ⟨hlow, hhigh⟩ := round_bounds (q * 1000)
  rw [permilleLimit] at hle
  have hnonneg : 0 ≤ round (q * 1000) := by
    have : (-1 : ℚ) < round (q * 1000) := by linarith
    have : (-1 : ℤ) < round (q * 1000) := by exact_mod_cast this
    omega
  rw [permille_toNat hq, abs_le]
  obtain hfits | hcut := Nat.le_total (round (q * 1000)).toNat 0xffffffff
  · have hcast : (((round (q * 1000)).toNat : ℕ) : ℚ) = (round (q * 1000) : ℚ) := by
      exact_mod_cast Int.toNat_of_nonneg hnonneg
    rw [min_eq_left hfits, hcast]
    constructor <;> linarith
  · -- the ratio is half a permille above the largest value
    have hge : (0xffffffff : ℤ) ≤ round (q * 1000) := by omega
    have hge' : (0xffffffff : ℚ) ≤ round (q * 1000) := by exact_mod_cast hge
    rw [min_eq_right hcut]
    push_cast
    constructor <;> linarith

/-- Below half a permille a ratio rounds to zero. -/
lemma permille_eq_zero_iff {q : ℚ} (hq : 0 ≤ q) :
    permille (.finite q) = 0 ↔ q < 1 / 2000 := by
  obtain ⟨hlow, hhigh⟩ := round_bounds (q * 1000)
  have hzero : permille (.finite q) = 0 ↔ (round (q * 1000)).toNat = 0 := by
    rw [← UInt32.toNat_inj, permille_toNat hq, UInt32.toNat_zero]
    omega
  rw [hzero, Int.toNat_eq_zero]
  constructor
  · intro hle
    have hle' : (round (q * 1000) : ℚ) ≤ 0 := by exact_mod_cast hle
    linarith
  · intro hlt
    have hlt' : (round (q * 1000) : ℚ) < 1 := by linarith
    have : round (q * 1000) < 1 := by exact_mod_cast hlt'
    omega

/-- Beyond the limit the rounding saturates, and is off by more. -/
lemma permille_far {q : ℚ} (hlt : permilleLimit < q) :
    ¬ |((permille (.finite q)).toNat : ℚ) / 1000 - q| ≤ 1 / 2000 := by
  rw [permilleLimit] at hlt
  have hle : (permille (.finite q)).toNat ≤ 0xffffffff := by
    rw [permille_toNat (by linarith)]
    exact Nat.min_le_right _ _
  have hle' : ((permille (.finite q)).toNat : ℚ) ≤ 0xffffffff := by exact_mod_cast hle
  rw [abs_le]
  rintro ⟨hlow, -⟩
  linarith

/-! ### What a lowering has to keep -/

/-- A coefficient in permille is within half a permille of the configured one. -/
def Near (coefficient : UInt32) : F64 → Prop
  | .finite q => |(coefficient.toNat : ℚ) / 1000 - q| ≤ 1 / 2000
  | _ => False

/-- What a guardrail gain is configured to mean: zero is unset, the neutral gain. -/
def guardrailMeaning (gain : F64) : F64 := if gain = .finite 0 then .finite 1 else gain

/-- A lowering that keeps the meaning of a configuration.  `guardrailGain` applies the
zero rule of `skyline_apply_pacing` and `skyline_set_cwnd_target`; a ceiling or a ratio of
zero that is read as off is the same as one of zero. -/
structure Keeps (config : SkylineConfig) : Prop where
  startupGain : Near config.kernelConfig.startupGainPermille config.adaptiveCwnd.startupGain
  cruiseInflight :
    Near config.kernelConfig.cruiseInflightPermille config.adaptiveCwnd.cruiseInflightGain
  cruisePacing :
    Near config.kernelConfig.cruisePacingPermille config.adaptiveCwnd.cruisePacingGain
  startupGrowth :
    Near config.kernelConfig.startupGrowthPermille config.adaptiveCwnd.startupGrowthRatio
  lossInflation : Near config.kernelConfig.lossInflationMaxPermille
    config.lossClassifier.lossInflationMaxRatio
  queueDelayRatio : Near config.kernelConfig.maxQueueDelayPermille config.maxQueueDelayRatio
  guardrail :
    Near (guardrailGain config.kernelConfig) (guardrailMeaning config.adaptiveCwnd.guardrailGain)
  lossUnset : config.kernelConfig.lossInflationMaxPermille = 0 →
    config.lossClassifier.lossInflationMaxRatio = .finite 0
  queueUnset : config.kernelConfig.maxQueueDelayPermille = 0 →
    config.maxQueueDelayRatio = .finite 0
  guardrailUnset : config.kernelConfig.guardrailGainPermille = 0 →
    config.adaptiveCwnd.guardrailGain = .finite 0
  pacingCap :
    config.kernelConfig.maxPacingBps.toNat = config.maxPacingMbps.toNat * 10 ^ 6 ∨
      ∀ rate : UInt64, ¬ rate > config.kernelConfig.maxPacingBps
  queueDelay :
    config.kernelConfig.maxQueueDelayUs.toNat = config.maxQueueDelayMs.toNat * 10 ^ 3 ∨
      ∀ (tp : TcpSock) (flow : FlowState),
        ¬ skylineQueueDelayUs tp flow > skylineMaxQueueDelayUs flow config.kernelConfig
  minRttWindow :
    config.kernelConfig.minRttWindowUs.toNat = config.adaptiveCwnd.minRttWindowS.toNat * 10 ^ 6

/-- A ratio whose zero means unset is zero, or rounds to something else. -/
def ClearOfUnset (ratio : F64) : Prop :=
  ratio = .finite 0 ∨ ∃ q, ratio = .finite q ∧ 1 / 2000 ≤ q

/-- What a valid configuration needs for its lowering to keep its meaning. -/
structure Lowerable (config : SkylineConfig) : Prop where
  loss : ClearOfUnset config.lossClassifier.lossInflationMaxRatio
  queue : ClearOfUnset config.maxQueueDelayRatio
  guardrail : ClearOfUnset config.adaptiveCwnd.guardrailGain
  queueLimit : ∃ q, config.maxQueueDelayRatio = .finite q ∧ q ≤ permilleLimit

/-! ### The coefficients -/

/-- A ratio that passed a range check is a number in that range. -/
lemma F64.exists_of_within {lo hi : ℚ} {value : F64} (h : value.within lo hi = true) :
    ∃ q, value = .finite q ∧ lo ≤ q ∧ q ≤ hi := by
  cases value with
  | finite q =>
      rw [F64.within, Bool.and_eq_true, decide_eq_true_eq, decide_eq_true_eq] at h
      exact ⟨q, rfl, h⟩
  | infinite _ => simp [F64.within] at h
  | nan => simp [F64.within] at h

/-- A ratio with a range check keeps its value. -/
lemma near_of_within {lo hi : ℚ} {value : F64} (hlo : 0 ≤ lo) (hhi : hi ≤ 1000)
    (h : value.within lo hi = true) : Near (permille value) value := by
  obtain ⟨q, rfl, hge, hle⟩ := F64.exists_of_within h
  refine permille_near (by linarith) ?_
  rw [permilleLimit]
  linarith

/-- A ratio lowers to the zero that means unset only if it is zero, exactly when it is
clear of it. -/
lemma clear_iff_of_nonneg {q : ℚ} (hq : 0 ≤ q) :
    (permille (.finite q) = 0 → F64.finite q = .finite 0) ↔ ClearOfUnset (.finite q) := by
  rw [permille_eq_zero_iff hq]
  constructor
  · intro h
    obtain hlt | hge := lt_or_ge q (1 / 2000)
    · exact .inl (h hlt)
    · exact .inr ⟨q, rfl, hge⟩
  · rintro (hzero | ⟨p, hp, hge⟩) hlt
    · exact hzero
    · have heq : q = p := F64.finite.inj hp
      exact absurd (heq ▸ hge) (not_le.mpr hlt)

/-- The zero rule gives a guardrail gain that is clear of it its meaning. -/
lemma guardrail_near {config : SkylineConfig}
    (h : config.adaptiveCwnd.guardrailGain.within 0 1 = true)
    (hclear : config.kernelConfig.guardrailGainPermille = 0 →
      config.adaptiveCwnd.guardrailGain = .finite 0) :
    Near (guardrailGain config.kernelConfig)
      (guardrailMeaning config.adaptiveCwnd.guardrailGain) := by
  have hlowered : config.kernelConfig.guardrailGainPermille =
      permille config.adaptiveCwnd.guardrailGain := rfl
  rw [guardrailGain, guardrailMeaning]
  by_cases hzero : config.kernelConfig.guardrailGainPermille = 0
  · rw [if_neg (not_not_intro hzero), if_pos (hclear hzero)]
    show |((1000 : ℕ) : ℚ) / 1000 - 1| ≤ 1 / 2000
    norm_num
  · rw [if_pos hzero, if_neg, hlowered]
    · exact near_of_within le_rfl (by norm_num) h
    · intro hvalue
      rw [hlowered, hvalue] at hzero
      exact hzero (by decide +kernel)

/-! ### The limits -/

/-- A pacing cap that does not fit becomes one that no rate exceeds. -/
lemma pacingCap_kept (config : SkylineConfig) :
    config.kernelConfig.maxPacingBps.toNat = config.maxPacingMbps.toNat * 10 ^ 6 ∨
      ∀ rate : UInt64, ¬ rate > config.kernelConfig.maxPacingBps := by
  have hcap : config.kernelConfig.maxPacingBps =
      U64.saturatingMul config.maxPacingMbps 1000000 := rfl
  rw [hcap, U64.saturatingMul]
  split_ifs with hfits
  · exact .inl (U64.toNat_mul_of_lt hfits)
  · refine .inr fun rate => ?_
    have hlt := rate.toNat_lt
    rw [gt_iff_lt, UInt64.lt_iff_toNat_lt, show (0xffffffffffffffff : UInt64).toNat = 2 ^ 64 - 1
      from rfl]
    omega

/-- The queue delay is less than the smoothed RTT, which the kernel keeps in 32 bits. -/
lemma queueDelay_lt (tp : TcpSock) (flow : FlowState) :
    (skylineQueueDelayUs tp flow).toNat < 2 ^ 29 := by
  have hsrtt : (tp.srttUs >>> 3).toUInt64.toNat < 2 ^ 29 := by
    have hlt := tp.srttUs.toNat_lt
    rw [UInt32.toNat_toUInt64, UInt32.toNat_shiftRight, Nat.shiftRight_eq_div_pow]
    show tp.srttUs.toNat / 8 < 2 ^ 29
    omega
  rw [skylineQueueDelayUs]
  split_ifs with hgt
  · have hle : skylineBaseRttUs flow ≤ (tp.srttUs >>> 3).toUInt64 := by
      rw [gt_iff_lt, UInt64.lt_iff_toNat_lt] at hgt
      rw [UInt64.le_iff_toNat_le]
      exact hgt.le
    rw [UInt64.toNat_sub_of_le _ _ hle]
    omega
  · decide

/-- So a threshold that does not fit becomes one that no queue delay exceeds. -/
lemma queueDelay_kept (config : SkylineConfig) :
    config.kernelConfig.maxQueueDelayUs.toNat = config.maxQueueDelayMs.toNat * 10 ^ 3 ∨
      ∀ (tp : TcpSock) (flow : FlowState),
        ¬ skylineQueueDelayUs tp flow > skylineMaxQueueDelayUs flow config.kernelConfig := by
  have hcap : config.kernelConfig.maxQueueDelayUs =
      U32.saturatingMul config.maxQueueDelayMs 1000 := rfl
  by_cases hfits : config.maxQueueDelayMs.toNat * (1000 : UInt32).toNat < 2 ^ 32
  · exact .inl (hcap ▸ U32.toNat_saturatingMul_of_lt hfits)
  · refine .inr fun tp flow => ?_
    have hsaturated : config.kernelConfig.maxQueueDelayUs = 0xffffffff := by
      rw [hcap, U32.saturatingMul, if_neg hfits]
    have hdelay := queueDelay_lt tp flow
    have hleast : 0xffffffff ≤ (skylineMaxQueueDelayUs flow config.kernelConfig).toNat := by
      rw [skylineMaxQueueDelayUs, hsaturated]
      split_ifs
      · decide
      · rw [U64.toNat_maxT]
        exact Nat.le_max_left _ _
    rw [gt_iff_lt, UInt64.lt_iff_toNat_lt]
    omega

/-! ### The condition -/

/-- **Lowering a configuration keeps its meaning exactly when it is lowerable**: every
coefficient the BPF side acts on is within half a permille of the configured one, zero
stands for unset only where zero was configured, and the limits are exact or permissive,
if and only if no ratio whose zero means unset lies strictly between zero and half a permille
and the queue-delay ratio is at most half a permille above the largest `u32` permille. -/
theorem lowering_keeps_iff (config : SkylineConfig) (h : config.validate = .ok ()) :
    Keeps config ↔ Lowerable config := by
  have hvalid := (SkylineConfig.validate_eq_ok_iff config).mp h
  have hpublishable := SkylineConfig.publishable_of_validate hvalid
  have hfinite := hvalid.finite
  have hratios := hvalid.ratios
  simp only [SkylineConfig.validateFinite, SkylineConfig.validateRatios, bind_eq_ok_iff,
    check_eq_ok_iff, forM_check_eq_ok_iff, List.forall_mem_cons, Bool.not_eq_false']
    at hfinite hratios
  obtain ⟨hgrowth, hloss, ⟨hstartup, hinflight, hcruise, -⟩, hguardrail, hnegative⟩ := hratios
  obtain ⟨l, hl, hl0, -⟩ := F64.exists_of_within hloss
  obtain ⟨g, hg, hg0, -⟩ := F64.exists_of_within hguardrail
  -- the queue-delay ratio has no upper bound
  obtain ⟨r, hr, hr0⟩ : ∃ r, config.maxQueueDelayRatio = .finite r ∧ 0 ≤ r := by
    have hnumber := hfinite.1
    cases hvalue : config.maxQueueDelayRatio with
    | finite r =>
        rw [hvalue, F64.isNegative, decide_eq_false_iff_not, not_lt] at hnegative
        exact ⟨r, rfl, hnegative⟩
    | infinite negative => simp [hvalue, F64.isFinite] at hnumber
    | nan => simp [hvalue, F64.isFinite] at hnumber
  have hlossClear := clear_iff_of_nonneg hl0
  have hqueueClear := clear_iff_of_nonneg hr0
  have hguardrailClear := clear_iff_of_nonneg hg0
  rw [← hl] at hlossClear
  rw [← hr] at hqueueClear
  rw [← hg] at hguardrailClear
  constructor
  · intro hkeeps
    refine ⟨hlossClear.mp hkeeps.lossUnset, hqueueClear.mp hkeeps.queueUnset,
      hguardrailClear.mp hkeeps.guardrailUnset, r, hr, ?_⟩
    by_contra hlarge
    have hnear : Near (permille config.maxQueueDelayRatio) config.maxQueueDelayRatio :=
      hkeeps.queueDelayRatio
    rw [hr] at hnear
    exact permille_far (not_le.mp hlarge) hnear
  · intro hlower
    have hqueue : Near (permille config.maxQueueDelayRatio) config.maxQueueDelayRatio := by
      obtain ⟨q, hq, hle⟩ := hlower.queueLimit
      have heq : r = q := F64.finite.inj (hr.symm.trans hq)
      rw [hr]
      exact permille_near hr0 (heq ▸ hle)
    exact
      { startupGain := near_of_within zero_le_one le_rfl hstartup
        cruiseInflight := near_of_within zero_le_one le_rfl hinflight
        cruisePacing := near_of_within zero_le_one le_rfl hcruise
        startupGrowth := near_of_within le_rfl (by norm_num) hgrowth
        lossInflation := near_of_within le_rfl (by norm_num) hloss
        queueDelayRatio := hqueue
        guardrail := guardrail_near hguardrail (hguardrailClear.mpr hlower.guardrail)
        lossUnset := hlossClear.mpr hlower.loss
        queueUnset := hqueueClear.mpr hlower.queue
        guardrailUnset := hguardrailClear.mpr hlower.guardrail
        pacingCap := pacingCap_kept config
        queueDelay := queueDelay_kept config
        minRttWindow := hpublishable.minRttWindow.2 }

/-- The shipped configuration keeps its meaning. -/
theorem lowering_keeps_speeder :
    SkylineConfig.speeder.validate = .ok () ∧ Keeps SkylineConfig.speeder := by
  refine ⟨by decide +kernel, (lowering_keeps_iff .speeder (by decide +kernel)).mpr ?_⟩
  exact
    { loss := .inr ⟨1 / 10, rfl, by norm_num⟩
      queue := .inr ⟨6 / 10, rfl, by norm_num⟩
      guardrail := .inr ⟨8 / 10, rfl, by norm_num⟩
      queueLimit := ⟨6 / 10, rfl, by rw [permilleLimit]; norm_num⟩ }

/-- The shipped configuration with the hardest cut a guardrail can be asked for, short of
none. -/
def SkylineConfig.hardestCut : SkylineConfig :=
  { SkylineConfig.speeder with
    adaptiveCwnd := { SkylineConfig.speeder.adaptiveCwnd with
      guardrailGain := .finite (4 / 10000) } }

/-- A guardrail gain of 0.0004 is valid, rounds to the zero that means unset, and the BPF
side does not cut at all. -/
theorem lowering_drops_guardrail :
    SkylineConfig.hardestCut.validate = .ok () ∧
      guardrailGain SkylineConfig.hardestCut.kernelConfig = 1000 ∧
      ¬ Keeps SkylineConfig.hardestCut := by
  refine ⟨by decide +kernel, by decide +kernel, fun h => ?_⟩
  have hzero : SkylineConfig.hardestCut.kernelConfig.guardrailGainPermille = 0 := by
    decide +kernel
  exact absurd (h.guardrailUnset hzero) (by decide +kernel)

end SkylineSpeeder
