import SkylineSpeeder.Cc.RoundConfig
import SkylineSpeeder.Config.Validate

/-!
The window cap: what `skyline_init`, `skyline_cong_control` and `skyline_set_state`
store to `tp->snd_cwnd`, against `max_cwnd_packets`.

Slow start, CUBIC growth and M2's target each apply the cap.  The two stores of
the path without M2 that end or govern a reduction do not: the snap to
`snd_ssthresh` in `skyline_set_state`, and PRR.

* `ValidCap`, `validCap_of_validate`: what validation promises of a configuration here;
* `CapKept`: a stored window is within the cap; one lemma for each function that
  stores one;
* `SnapWithin`, `PrrWithin`: when the two uncapped stores stay within it;
* `CapConn`, `CapEvent`, `capStep`: a connection with the kernel's own part in a
  reduction, its end and its undo;
* `windowCap_holds`: every run that meets the two conditions keeps the cap;
* `windowCap_broken_by_undo`: a run that does not.
-/

namespace SkylineSpeeder

open Machine
open Word (minT maxT)

/-- What a validated configuration promises about the window. -/
structure ValidCap (config : KernelConfig) : Prop where
  abi : config.abiVersion = abiVersion
  floor : 4 ≤ config.minCwndPackets
  floor_le : config.minCwndPackets ≤ config.maxCwndPackets
  initial_le : config.initialCwndPackets ≤ config.maxCwndPackets

/-- Every configuration that passes `validate` keeps the promise. -/
lemma validCap_of_validate {config : SkylineConfig} (h : config.validate = .ok ()) :
    ValidCap config.kernelConfig := by
  have hpub := SkylineConfig.publishable_of_validate ((SkylineConfig.validate_eq_ok_iff _).mp h)
  exact ⟨hpub.abiVersion, hpub.floor, hpub.cap, hpub.initial⟩

/-- The window the callback stored, if it stored one, is within the cap. -/
def CapKept (config : KernelConfig) (sk : TcpSock) : Prop :=
  sk.cwndStored = true → sk.sndCwnd ≤ config.maxCwndPackets

instance (config : KernelConfig) (sk : TcpSock) : Decidable (CapKept config sk) :=
  inferInstanceAs (Decidable (_ → _))

section Stores

variable {config : KernelConfig}

lemma ValidCap.four_le (h : ValidCap config) : 4 ≤ config.maxCwndPackets :=
  UInt32.le_trans h.floor h.floor_le

lemma ValidCap.minCwnd_le (h : ValidCap config) :
    skylineMinCwnd config ≤ config.maxCwndPackets := by
  have hfloor := UInt32.le_iff_toNat_le.mp h.floor_le
  have hfour := UInt32.le_iff_toNat_le.mp h.four_le
  rw [skylineMinCwnd, UInt32.le_iff_toNat_le, Word.U32.toNat_maxT, skylineMinCwndFloor]
  omega

/-- The cap where it is applied. -/
lemma capCwnd_le (h : ValidCap config) (tp : TcpSock) :
    (tp.capCwnd config.maxCwndPackets).sndCwnd ≤ config.maxCwndPackets := by
  have hfour := UInt32.le_iff_toNat_le.mp h.four_le
  rw [TcpSock.capCwnd]
  split_ifs with hover
  · exact UInt32.le_refl _
  · have hne : config.maxCwndPackets ≠ 0 := by
      intro h0
      rw [h0] at hfour
      exact absurd hfour (by decide)
    exact UInt32.not_lt.mp fun hgt => hover ⟨hne, hgt⟩

/-- A floor within the cap does not undo it. -/
lemma floorCwnd_le {tp : TcpSock} {least cap : UInt32} (htp : tp.sndCwnd ≤ cap)
    (hleast : least ≤ cap) : (tp.floorCwnd least).sndCwnd ≤ cap := by
  rw [TcpSock.floorCwnd]
  split_ifs
  · exact hleast
  · exact htp

/-- M2's window, with or without an estimate. -/
lemma setCwndTarget_le (h : ValidCap config) (K : Kernel) (tp : TcpSock) (flow : FlowState)
    (acked : UInt32) (afterRto : Bool) :
    (skylineSetCwndTarget K tp flow config acked afterRto).sndCwnd ≤ config.maxCwndPackets := by
  rw [skylineSetCwndTarget]
  split
  · dsimp only
    split
    · exact floorCwnd_le (capCwnd_le h _) h.minCwnd_le
    · exact capCwnd_le h _
  · exact floorCwnd_le (capCwnd_le h _) h.minCwnd_le

lemma growAvoid_le (h : ValidCap config) (K : Kernel) (tp : TcpSock) (flow : FlowState)
    (acked : UInt32) (nowNs : UInt64) :
    (growAvoid K tp flow config acked nowNs).1.sndCwnd ≤ config.maxCwndPackets := by
  rw [growAvoid]
  exact floorCwnd_le (capCwnd_le h _) h.four_le

/-- CUBIC growth: the window is left alone or within the cap. -/
lemma growCwnd_capKept (h : ValidCap config) (K : Kernel) {tp : TcpSock}
    (htp : tp.cwndStored = false) (flow : FlowState) (acked : UInt32) (nowNs : UInt64) :
    CapKept config (skylineGrowCwnd K tp flow config acked nowNs).1 := by
  have hkept : CapKept config tp := by
    intro hstored
    exact absurd (htp.symm.trans hstored) (by simp)
  rw [skylineGrowCwnd]
  by_cases hacked : acked = 0
  · rw [if_pos hacked]
    exact hkept
  rw [if_neg hacked]
  split
  · exact hkept
  split
  · dsimp only
    split
    · exact fun _ => capCwnd_le h _
    · exact fun _ => growAvoid_le h K _ flow _ nowNs
  · exact fun _ => growAvoid_le h K tp flow acked nowNs

/-! ### PRR -/

/-- What PRR needs to stay within the cap, with `room` packets between what is in
flight and the cap: one packet of room for the first segment of an episode; above
`snd_ssthresh`, a proportional share of what was delivered within what was sent
and the room; at or below it, `snd_ssthresh` within the cap or what the slow-start
bound sends within the room. -/
def PrrWithin (config : KernelConfig) (tp : TcpSock) (flow : FlowState) (sample : RateSample)
    (flag : UInt32) : Prop :=
  let room : ℤ := config.maxCwndPackets.toNat - prrInFlight tp
  let delivered : ℤ := (flow.prrDelivered + sample.ackedSacked).toNat
  let bonus : ℤ := if flag &&& flagSndUnaAdvanced ≠ 0 ∧ sample.losses ≤ 0 then 1 else 0
  (tp.prrOut = 0 → 1 ≤ room) ∧
    (if (tp.sndSsthresh.toNat : ℤ) < prrInFlight tp then
      tp.sndSsthresh.toNat * delivered ≤ flow.priorCwnd.toNat * (tp.prrOut.toNat + room)
    else
      tp.sndSsthresh ≤ config.maxCwndPackets ∨
        (delivered + bonus ≤ tp.prrOut.toNat + room ∧ sample.ackedSacked.toNat + bonus ≤ room))

instance (config : KernelConfig) (tp : TcpSock) (flow : FlowState) (sample : RateSample)
    (flag : UInt32) : Decidable (PrrWithin config tp flow sample flag) :=
  inferInstanceAs (Decidable (_ ∧ _))

/-- A small value is its own `__s64`. -/
lemma s64_eq {x : ℤ} (hlow : -2 ^ 63 ≤ x) (hhigh : x < 2 ^ 63) : s64 x = x := by
  rw [s64]
  exact Int.bmod_eq_of_le (by norm_num at hlow ⊢; omega) (by norm_num at hhigh ⊢; omega)

/-- The dividend of PRR's proportional part does not leave 64 bits. -/
lemma prr_dividend_toNat (ss d pc : UInt32) (hpc : pc ≠ 0) :
    (ss.toUInt64 * d.toUInt64 + pc.toUInt64 - 1).toNat = ss.toNat * d.toNat + pc.toNat - 1 := by
  have hss := ss.toNat_lt
  have hd := d.toNat_lt
  have hpc' := pc.toNat_lt
  have hpos : 0 < pc.toNat := by
    rw [Nat.pos_iff_ne_zero]
    exact fun h0 => hpc (UInt32.toNat.inj h0)
  have hmul : ss.toNat * d.toNat ≤ (2 ^ 32 - 1) * (2 ^ 32 - 1) :=
    Nat.mul_le_mul (by omega) (by omega)
  rw [UInt64.toNat_sub, UInt64.toNat_add, UInt64.toNat_mul, UInt32.toNat_toUInt64,
    UInt32.toNat_toUInt64, UInt32.toNat_toUInt64, UInt64.toNat_one]
  generalize ss.toNat * d.toNat = product at hmul ⊢
  omega

/-- PRR's proportional part is at most `most` if the exact share is. -/
lemma prr_share_le {ss d pc : UInt32} (hpc : pc ≠ 0) {most : ℤ} (hmost : 0 ≤ most)
    (h : (ss.toNat : ℤ) * d.toNat ≤ pc.toNat * most) :
    (((ss.toUInt64 * d.toUInt64 + pc.toUInt64 - 1) / pc.toUInt64).toNat : ℤ) ≤ most := by
  obtain ⟨m, rfl⟩ := Int.eq_ofNat_of_zero_le hmost
  have hpos : 0 < pc.toNat := by
    rw [Nat.pos_iff_ne_zero]
    exact fun h0 => hpc (UInt32.toNat.inj h0)
  have hnat : ss.toNat * d.toNat ≤ pc.toNat * m := by exact_mod_cast h
  rw [UInt64.toNat_div, prr_dividend_toNat ss d pc hpc, UInt32.toNat_toUInt64, Nat.cast_le]
  refine Nat.le_of_lt_succ ((Nat.div_lt_iff_lt_mul hpos).mpr ?_)
  have hsucc : m.succ * pc.toNat = pc.toNat * m + pc.toNat := by
    rw [Nat.succ_mul, Nat.mul_comm]
  rw [hsucc]
  omega

/-- Within the bound, PRR sends no more than the room below the cap. -/
lemma prrSndcnt_le {tp : TcpSock} {flow : FlowState} {sample : RateSample} {flag : UInt32}
    (hpc : flow.priorCwnd ≠ 0)
    (hflight : prrInFlight tp ≤ config.maxCwndPackets.toNat)
    (hwithin : PrrWithin config tp flow sample flag) :
    prrSndcnt tp { flow with prrDelivered := flow.prrDelivered + sample.ackedSacked } sample flag
      ≤ config.maxCwndPackets.toNat - prrInFlight tp := by
  obtain ⟨hfirst, hshare⟩ := hwithin
  have hmax := config.maxCwndPackets.toNat_lt
  have hout := tp.prrOut.toNat_lt
  have hzero : 0 ≤ prrInFlight tp := le_max_right _ _
  simp only [prrSndcnt]
  set room : ℤ := config.maxCwndPackets.toNat - prrInFlight tp with hroom
  set delivered := flow.prrDelivered + sample.ackedSacked
  -- both parts of PRR, before the first segment is forced out
  have hcount : ∀ count : ℤ, count ≤ room →
      (if (if count < (if tp.prrOut ≠ 0 then 0 else 1) then (if tp.prrOut ≠ 0 then 0 else 1)
          else count) < (0 : ℤ) then 0
        else if count < (if tp.prrOut ≠ 0 then 0 else 1) then (if tp.prrOut ≠ 0 then 0 else 1)
          else count) ≤ room := by
    intro count hle
    by_cases h0 : tp.prrOut = 0
    · have := hfirst h0
      simp only [h0, ne_eq, not_true_eq_false, if_false]
      split_ifs <;> omega
    · simp only [ne_eq, h0, not_false_eq_true, if_true]
      split_ifs <;> omega
  apply hcount
  by_cases hbelow : (tp.sndSsthresh.toNat : ℤ) < prrInFlight tp
  · rw [if_pos hbelow] at hshare
    rw [if_pos (by omega)]
    have hq := prr_share_le hpc (by omega) hshare
    rw [s64_eq (x := ((_ : ℕ) : ℤ)) (by omega) (by omega), s64_eq (by omega) (by omega)]
    omega
  · rw [if_neg hbelow] at hshare
    rw [if_neg (by omega)]
    rw [UInt32.le_iff_toNat_le] at hshare
    by_cases hbonus : flag &&& flagSndUnaAdvanced ≠ 0 ∧ sample.losses ≤ 0
    · simp only [if_pos hbonus] at hshare ⊢
      split_ifs <;> omega
    · simp only [if_neg hbonus] at hshare ⊢
      split_ifs <;> omega

/-- The last step of PRR takes no negative count. -/
lemma prrSndcnt_nonneg (tp : TcpSock) (flow : FlowState) (sample : RateSample) (flag : UInt32) :
    0 ≤ prrSndcnt tp flow sample flag := by
  have hclamp : ∀ count : ℤ, 0 ≤ if count < 0 then 0 else count := by
    intro count
    split_ifs <;> omega
  exact hclamp _

/-- PRR within its bound keeps the cap. -/
lemma applyPrr_capKept (h : ValidCap config) {tp : TcpSock} (htp : tp.cwndStored = false)
    {flow : FlowState} {sample : RateSample} {flag : UInt32}
    (hflight : prrInFlight tp ≤ config.maxCwndPackets.toNat)
    (hwithin : sample.ackedSacked ≠ 0 → flow.priorCwnd ≠ 0 →
      PrrWithin config tp flow sample flag) :
    CapKept config (skylineApplyPrr tp flow sample flag).1 := by
  rw [skylineApplyPrr]
  by_cases hskip : sample.ackedSacked = 0 ∨ flow.priorCwnd = 0
  · simp only [if_pos hskip]
    intro hstored
    exact absurd (htp.symm.trans hstored) (by simp)
  · simp only [if_neg hskip]
    rw [not_or] at hskip
    intro _
    have hle := prrSndcnt_le hskip.2 hflight (hwithin hskip.1 hskip.2)
    have hfour := UInt32.le_iff_toNat_le.mp h.four_le
    have hmax := config.maxCwndPackets.toNat_lt
    have hzero : 0 ≤ prrInFlight tp := le_max_right _ _
    have hpos := prrSndcnt_nonneg tp
      { flow with prrDelivered := flow.prrDelivered + sample.ackedSacked } sample flag
    show maxT (UInt32.ofInt _) skylineMinCwndFloor ≤ config.maxCwndPackets
    rw [UInt32.le_iff_toNat_le, Word.U32.toNat_maxT, skylineMinCwndFloor]
    set sent := prrInFlight tp + prrSndcnt tp
      { flow with prrDelivered := flow.prrDelivered + sample.ackedSacked } sample flag
    have hof : (UInt32.ofInt sent).toNat = sent.toNat := by
      rw [UInt32.ofInt, UInt32.toNat_ofNat', Int.emod_eq_of_lt (by omega) (by omega)]
      omega
    rw [hof]
    have : (4 : UInt32).toNat = 4 := rfl
    omega

/-! ### The callbacks -/

lemma markAppLimited_capKept {K : Kernel} {sk : TcpSock} (h : CapKept config sk) :
    CapKept config (skylineMarkAppLimited K sk) := by
  rw [skylineMarkAppLimited]
  dsimp only
  split_ifs
  all_goals exact h

/-- When PRR is due in `skyline_cong_control`, for a flow that runs on `config`. -/
def PrrDue (config : KernelConfig) (sk : TcpSock) (flow : FlowState) (input : AckInput) : Prop :=
  config.has featureAdaptiveCwnd = false ∧ config.has featurePrr = true ∧
    (sk.icskCaState = .cwr ∨ sk.icskCaState = .recovery) ∧
    input.sample.ackedSacked ≠ 0 ∧ flow.priorCwnd ≠ 0

instance (config : KernelConfig) (sk : TcpSock) (flow : FlowState) (input : AckInput) :
    Decidable (PrrDue config sk flow input) :=
  inferInstanceAs (Decidable (_ ∧ _))

/-- `PrrWithin` reads the CUBIC group of the flow, and what pacing leaves alone. -/
lemma PrrWithin.congr {tp tp' : TcpSock} {flow flow' : FlowState} {sample : RateSample}
    {flag : UInt32} (htp : PacingFrame tp tp') (hflow : flow'.toFlowCubic = flow.toFlowCubic)
    (h : PrrWithin config tp flow sample flag) : PrrWithin config tp' flow' sample flag := by
  rw [PrrWithin] at h ⊢
  rw [htp.ssthresh, htp.flight, htp.out,
    show flow'.prrDelivered = flow.prrDelivered from congrArg FlowCubic.prrDelivered hflow,
    show flow'.priorCwnd = flow.priorCwnd from congrArg FlowCubic.priorCwnd hflow]
  exact h

/-- The second part of `skyline_cong_control`. -/
lemma congControlRun_capKept (h : ValidCap config) (K : Kernel) {sk : TcpSock}
    (hsk : sk.cwndStored = false) {flow : FlowState} (hflow : flow.config = config)
    {input : AckInput} (hflight : prrInFlight sk ≤ config.maxCwndPackets.toNat)
    (hwithin : PrrDue config sk flow input → PrrWithin config sk flow input.sample input.flag) :
    CapKept config (congControlRun K sk flow input).1 := by
  have hpaced := applyPacing_frame sk (modelled sk flow input) flow.config
  have hconfig : (modelled sk flow input).config = config :=
    (congrArg FlowConfig.config (modelled_config sk flow input)).trans hflow
  have hcubic := modelled_cubic sk flow input
  have hwindow : CapKept config (setWindow K
      (skylineApplyPacing sk (modelled sk flow input) flow.config).1
      (modelled sk flow input) input).1 := by
    have hstored := hpaced.stored.trans hsk
    rw [setWindow, hconfig]
    by_cases hm2 : config.has featureAdaptiveCwnd
    · rw [if_pos hm2]
      exact fun _ => setCwndTarget_le h K _ _ _ _
    · rw [if_neg hm2]
      split
      case isTrue hca =>
        split
        case isTrue hprr =>
          refine applyPrr_capKept h hstored (hpaced.flight ▸ hflight) fun hacked hprior => ?_
          refine PrrWithin.congr hpaced hcubic (hwithin ⟨by simpa using hm2, hprr, ?_, hacked, ?_⟩)
          · rw [hpaced.state] at hca
            exact hca
          · rw [← show (modelled sk flow input).priorCwnd = flow.priorCwnd from
              congrArg FlowCubic.priorCwnd hcubic]
            exact hprior
        case isFalse =>
          intro hs
          exact absurd (hstored.symm.trans hs) (by simp)
      case isFalse => exact growCwnd_capKept h K hstored _ _ _
  rw [congControlRun_sock]
  dsimp only
  split
  · exact markAppLimited_capKept hwindow
  · exact hwindow

/-- When the snap to `snd_ssthresh` in `skyline_set_state` stays within the cap. -/
def SnapWithin (config : KernelConfig) (s : SockState) (newState : CaState) : Prop :=
  (newState = .opened ∨ newState = .disorder) → s.flow.recoveryActive = true →
    skylineHasConfig s.flow = true → config.has featureAdaptiveCwnd = false →
    s.sk.sndSsthresh ≤ config.maxCwndPackets

instance (config : KernelConfig) (s : SockState) (newState : CaState) :
    Decidable (SnapWithin config s newState) :=
  inferInstanceAs (Decidable (_ → _))

/-- The same for PRR in `skyline_cong_control`, whose first part may have started the
flow over. -/
def PrrStoreWithin (config : KernelConfig) (s : SockState) (input : AckInput) : Prop :=
  ∀ taken ∈ congControlAdopt s.sk s.flow input, PrrDue config s.sk taken.1 input →
    PrrWithin config s.sk taken.1 input.sample input.flag

instance (config : KernelConfig) (s : SockState) (input : AckInput) :
    Decidable (PrrStoreWithin config s input) :=
  inferInstanceAs (Decidable (∀ taken ∈ congControlAdopt s.sk s.flow input, _))

/-- When the stores of a callback that do not apply the cap stay within it. -/
def StoresWithin (config : KernelConfig) (s : SockState) : Callback → Prop
  | .setState _ newState => SnapWithin config s newState
  | .congControl _ input => PrrStoreWithin config s input
  | _ => True

instance (config : KernelConfig) (s : SockState) :
    ∀ c, Decidable (StoresWithin config s c)
  | .setState _ newState => inferInstanceAs (Decidable (SnapWithin config s newState))
  | .congControl _ input => inferInstanceAs (Decidable (PrrStoreWithin config s input))
  | .init .. | .ssthresh .. | .undoCwnd .. | .cwndEvent .. | .cwndEventTxStart .. | .release =>
      isTrue trivial

lemma endReduction_capKept (h : ValidCap config) {s : SockState} (hs : s.sk.cwndStored = false)
    (hconfig : skylineHasConfig s.flow = true → s.flow.config = config)
    (hsnap : s.flow.recoveryActive = true → skylineHasConfig s.flow = true →
      config.has featureAdaptiveCwnd = false → s.sk.sndSsthresh ≤ config.maxCwndPackets) :
    CapKept config (endReduction s s.flow).sk := by
  have hkept : CapKept config s.sk := by
    intro hstored
    exact absurd (hs.symm.trans hstored) (by simp)
  rw [endReduction]
  by_cases hactive : s.flow.recoveryActive
  · simp only [hactive, Bool.not_true, Bool.false_eq_true, if_false]
    split
    case isTrue hoff =>
      intro _
      obtain ⟨hhas, hm2⟩ := hoff
      rw [hconfig hhas, Bool.not_eq_true'] at hm2
      have hle := UInt32.le_iff_toNat_le.mp (hsnap hactive hhas hm2)
      have hfour := UInt32.le_iff_toNat_le.mp h.four_le
      show maxT s.sk.sndSsthresh skylineMinCwndFloor ≤ config.maxCwndPackets
      rw [UInt32.le_iff_toNat_le, Word.U32.toNat_maxT, skylineMinCwndFloor]
      omega
    case isFalse => exact hkept
  · simp only [hactive, Bool.not_false, if_true]
    exact hkept

lemma setState_capKept (h : ValidCap config) {s : SockState} (hs : s.sk.cwndStored = false)
    (hconfig : skylineHasConfig s.flow = true → s.flow.config = config) (allocated : Bool)
    {newState : CaState} (hsnap : SnapWithin config s newState) :
    CapKept config (skylineSetState s allocated newState).sk := by
  have hkept : CapKept config s.sk := by
    intro hstored
    exact absurd (hs.symm.trans hstored) (by simp)
  rw [skylineSetState]
  obtain ⟨hget, -⟩ | hget := flowGet_cases s allocated
  · rw [hget]
    exact hkept
  · rw [hget]
    cases newState with
    | loss => exact hkept
    | recovery => exact hkept
    | cwr => exact hkept
    | opened => exact endReduction_capKept h hs hconfig (hsnap (.inl rfl))
    | disorder => exact endReduction_capKept h hs hconfig (hsnap (.inr rfl))

lemma init_capKept (h : ValidCap config) {s : SockState} (hs : s.sk.cwndStored = false)
    (allocated : Bool) {read : ConfigRead} {nowNs : UInt64}
    (hread : (Callback.init allocated read nowNs).ReadsFrom {config}) :
    CapKept config (skylineInit s allocated read nowNs).1.sk := by
  have hkept : CapKept config s.sk := by
    intro hstored
    exact absurd (hs.symm.trans hstored) (by simp)
  have heff := initEffect s allocated read nowNs
  generalize (skylineInit s allocated read nowNs).1 = s' at heff ⊢
  cases heff with
  | unallocated _ => exact hkept
  | refused _ _ => exact hkept
  | adopted flow sk _ hok hflow hsk =>
      have hconfig : flow.config = config := by
        rw [hflow]
        exact adopt_published hread hok
      rw [hsk, hconfig]
      split_ifs
      · exact fun _ => h.initial_le
      · exact hkept

lemma congControl_capKept (h : ValidCap config) (K : Kernel) {s : SockState}
    (hs : s.sk.cwndStored = false) (hpub : HasPublished {config} s) (allocated : Bool)
    {input : AckInput} (hread : (Callback.congControl allocated input).ReadsFrom {config})
    (hflight : prrInFlight s.sk ≤ config.maxCwndPackets.toNat)
    (hwithin : PrrStoreWithin config s input) :
    CapKept config (skylineCongControl K s allocated input).1.sk := by
  have hkept : CapKept config s.sk := by
    intro hstored
    exact absurd (hs.symm.trans hstored) (by simp)
  rw [skylineCongControl]
  obtain ⟨hget, -⟩ | hget := flowGet_cases s allocated
  · rw [hget]
    exact hkept
  · rw [hget]
    dsimp only
    cases htaken : congControlAdopt s.sk s.flow input with
    | none =>
        -- the kernel's own growth is no store of the callback
        exact fun hstored => absurd (hs.symm.trans hstored) (by simp)
    | some taken =>
        -- whatever it took or kept, it runs on the one published configuration
        have hused : usedConfig s (.congControl allocated input) = some taken.1.config := by
          simp [usedConfig, hget, htaken]
        have hconfig : taken.1.config = config :=
          Set.mem_singleton_iff.mp (usedConfig_published hpub hread hused)
        exact congControlRun_capKept h K hs hconfig hflight (hwithin taken htaken)

/-- **One callback** that meets the conditions stores no window above the cap. -/
theorem exec_capKept (h : ValidCap config) (K : Kernel) {s : SockState}
    (hs : s.sk.cwndStored = false) (hpub : HasPublished {config} s) {c : Callback}
    (hread : c.ReadsFrom {config}) (hflight : prrInFlight s.sk ≤ config.maxCwndPackets.toNat)
    (hwithin : StoresWithin config s c) : CapKept config (c.exec K s).state.sk := by
  have hclear : ({ s with sk := { s.sk with cwndStored := false } } : SockState) = s := by
    rw [← hs]
  -- a callback that leaves the socket alone has stored nothing
  have hquiet : ∀ sk : TcpSock, sk = s.sk → CapKept config sk := by
    rintro _ rfl hstored
    exact absurd (hs.symm.trans hstored) (by simp)
  cases c with
  | init allocated read nowNs =>
      rw [exec_init K hs]
      exact init_capKept h hs allocated hread
  | congControl allocated input =>
      rw [exec_congControl K hs]
      exact congControl_capKept h K hs hpub allocated hread hflight hwithin
  | setState allocated newState =>
      rw [Callback.exec, hclear]
      exact setState_capKept h hs (fun hhas => hpub hhas) allocated hwithin
  | ssthresh allocated =>
      rw [Callback.exec, hclear]
      exact hquiet _ (ssthresh_sk s allocated)
  | undoCwnd allocated =>
      rw [Callback.exec, hclear]
      exact hquiet _ (undoCwnd_sk K s allocated)
  | cwndEvent txStart allocated nowNs =>
      rw [Callback.exec, hclear]
      cases txStart with
      | false => exact hquiet _ rfl
      | true => exact hquiet _ (txStart_sk s allocated nowNs)
  | cwndEventTxStart allocated nowNs =>
      rw [Callback.exec, hclear]
      exact hquiet _ (txStart_sk s allocated nowNs)
  | release =>
      rw [Callback.exec, hclear]
      exact hquiet _ (release_sk s)

end Stores

/-! ### The kernel's part -/

/-- A connection with the kernel's `tp->prior_ssthresh`. -/
structure CapConn where
  sock : SockState
  priorSsthresh : UInt32

/-- What happens to a connection.  `kernel` is any change the kernel makes to the
socket before it, other than to `snd_ssthresh`.  A reduction (`Recovery`, `CWR` or
`Loss`) stores `snd_ssthresh` and installs what `skyline_ssthresh` returns; an undo
takes the window `skyline_undo_cwnd` returns and the stored `snd_ssthresh` if it is
larger; each then changes the CA state. -/
inductive CapEvent where
  | call (kernel : TcpSock → TcpSock) (callback : Callback)
  | reduce (kernel : TcpSock → TcpSock) (allocated : Bool) (newState : CaState)
  | undo (kernel : TcpSock → TcpSock) (allocated : Bool)

/-- The callback an event ends with. -/
def CapEvent.callback : CapEvent → Callback
  | .call _ callback => callback
  | .reduce _ allocated newState => .setState allocated newState
  | .undo _ allocated => .setState allocated .opened

/-- The socket after a change by the kernel. -/
def SockState.moved (s : SockState) (kernel : TcpSock → TcpSock) : SockState :=
  { s with sk := { kernel s.sk with sndSsthresh := s.sk.sndSsthresh, cwndStored := false } }

/-- The connection as that callback finds it. -/
def CapEvent.before (K : Kernel) (y : CapConn) : CapEvent → CapConn
  | .call kernel _ => { y with sock := y.sock.moved kernel }
  | .reduce kernel allocated newState =>
      let s := y.sock.moved kernel
      let (t, ssthresh) := skylineSsthresh s allocated
      ⟨{ t with sk := { t.sk with sndSsthresh := ssthresh, icskCaState := newState } },
        s.sk.sndSsthresh⟩
  | .undo kernel allocated =>
      let (t, cwnd, _) := skylineUndoCwnd K (y.sock.moved kernel) allocated
      { y with
        sock := { t with
          sk := { t.sk with
            sndCwnd := cwnd
            sndSsthresh := maxT y.priorSsthresh t.sk.sndSsthresh
            icskCaState := .opened } } }

/-- One event. -/
def capStep (K : Kernel) (y : CapConn) (e : CapEvent) : CapConn :=
  { e.before K y with sock := (e.callback.exec K (e.before K y).sock).state }

/-- What a run promises at every step: adoptions read the one configuration that is
published, and what is in flight stays within the cap. -/
def KernelWithin (K : Kernel) (config : KernelConfig) (y : CapConn) (e : CapEvent) : Prop :=
  e.callback.ReadsFrom {config} ∧
    prrInFlight (e.before K y).sock.sk ≤ config.maxCwndPackets.toNat

/-- The callback finds no window stored. -/
lemma CapEvent.before_stored (K : Kernel) (y : CapConn) (e : CapEvent) :
    (e.before K y).sock.sk.cwndStored = false := by
  cases e with
  | call kernel callback => rfl
  | reduce kernel allocated newState =>
      exact congrArg TcpSock.cwndStored (ssthresh_sk (y.sock.moved kernel) allocated)
  | undo kernel allocated =>
      exact congrArg TcpSock.cwndStored (undoCwnd_sk K (y.sock.moved kernel) allocated)

/-- The kernel's part changes no configuration. -/
lemma CapEvent.before_published (K : Kernel) {published : Set KernelConfig} {y : CapConn}
    (h : HasPublished published y.sock) (e : CapEvent) :
    HasPublished published (e.before K y).sock := by
  have hquiet : ∀ s s' : SockState, HasPublished published s → QuietEffect s s' →
      HasPublished published s' := by
    intro s s' hs heff
    rw [HasPublished, skylineHasConfig, heff.config]
    exact hs
  cases e with
  | call kernel callback => exact h
  | reduce kernel allocated newState =>
      exact hquiet (y.sock.moved kernel) (skylineSsthresh (y.sock.moved kernel) allocated).1 h
        (ssthresh_quiet (y.sock.moved kernel) allocated)
  | undo kernel allocated =>
      exact hquiet (y.sock.moved kernel) (skylineUndoCwnd K (y.sock.moved kernel) allocated).1 h
        (undoCwnd_quiet K (y.sock.moved kernel) allocated)

/-- **The window cap, where it holds.**  Take a connection that has no configuration or
runs on the one published, a validated one, and any run of callbacks with the
kernel's part in reductions and undos, in flight never more than the cap.  If at
every step the snap to `snd_ssthresh` and PRR are within their conditions, no
callback stores a window above the cap. -/
theorem windowCap_holds (K : Kernel) (config : KernelConfig) (hvalid : ValidCap config)
    (y₀ : CapConn) (h₀ : HasPublished {config} y₀.sock) (es : List CapEvent)
    (hrun : Along (capStep K) (fun y e => KernelWithin K config y e ∧
      StoresWithin config (e.before K y).sock e.callback) y₀ es) :
    Along (capStep K) (fun y e => CapKept config (capStep K y e).sock.sk) y₀ es := by
  refine along_mono (I := fun y => HasPublished {config} y.sock) (fun y e hy he => ?_)
    (fun y e hy he => ?_) es y₀ h₀ hrun
  · obtain ⟨⟨hread, -⟩, -⟩ := he
    exact hasPublished_exec K (e.before_stored K y) (e.before_published K hy) hread
  · obtain ⟨⟨hread, hflight⟩, hwithin⟩ := he
    exact exec_capKept hvalid K (e.before_stored K y) (e.before_published K hy) hread hflight
      hwithin

/-! ### With and without an undo -/

/-- `config/speeder.toml` without M2. -/
def SkylineConfig.withoutM2 : SkylineConfig :=
  { SkylineConfig.speeder with enabledModules := [.earlyLoss, .lossClassifier, .pacing] }

lemma withoutM2_validCap : ValidCap withoutM2 := by
  have hlowered : SkylineConfig.withoutM2.kernelConfig = withoutM2 := by decide +kernel
  rw [← hlowered]
  exact validCap_of_validate (by decide +kernel)

/-- A connection right after its handshake. -/
def freshConn : CapConn := ⟨⟨TcpSock.established, none⟩, 0⟩

/-- `skyline_init` and a first reduction. -/
def firstReduction : List CapEvent :=
  [.call id (.init true (.of withoutM2 1) 1000000), .reduce id true .recovery]

/-- An ACK under PRR and the regular end of the reduction. -/
def regularEnd : List CapEvent :=
  [.call (fun sk => { sk with packetsOut := 90, srttUs := 320000 })
      (.congControl true (.of .tenSegments withoutM2)),
    .call id (.setState true .opened)]

/-- A regular reduction stays within the conditions, and so within the cap. -/
theorem windowCap_holds_reduction :
    Along (capStep Kernel.linux)
        (fun y e => CapKept withoutM2 (capStep Kernel.linux y e).sock.sk) freshConn
        (firstReduction ++ regularEnd) ∧
      ((firstReduction ++ regularEnd).foldl (capStep Kernel.linux) freshConn).sock.sk.sndCwnd
        = 70 := by
  refine ⟨windowCap_holds Kernel.linux withoutM2 withoutM2_validCap freshConn ?_ _ ?_,
    by decide +kernel⟩
  · intro hhas
    exact absurd hhas (by decide)
  · exact ⟨⟨⟨fun _ => ⟨_, rfl, rfl⟩, by decide +kernel⟩, by decide +kernel⟩,
      ⟨⟨trivial, by decide +kernel⟩, by decide +kernel⟩,
      ⟨⟨fun _ => ⟨_, rfl, rfl⟩, by decide +kernel⟩, by decide +kernel⟩,
      ⟨⟨trivial, by decide +kernel⟩, by decide +kernel⟩, trivial⟩

/-- The cap does not hold on every path: after an undo, which restores the
`snd_ssthresh` of `skyline_init`, `skyline_set_state` stores 0x7fffffff. -/
theorem windowCap_broken_by_undo :
    ¬ ∀ (K : Kernel) (config : KernelConfig) (y₀ : CapConn) (es : List CapEvent),
      ValidCap config → HasPublished {config} y₀.sock →
      Along (capStep K) (KernelWithin K config) y₀ es →
      Along (capStep K) (fun y e => CapKept config (capStep K y e).sock.sk) y₀ es := by
  intro h
  have hpub : HasPublished {withoutM2} freshConn.sock := fun hhas => absurd hhas (by decide)
  have hkernel : Along (capStep Kernel.linux) (KernelWithin Kernel.linux withoutM2) freshConn
      (firstReduction ++ [CapEvent.undo id true]) :=
    ⟨⟨fun _ => ⟨_, rfl, rfl⟩, by decide +kernel⟩, ⟨trivial, by decide +kernel⟩,
      ⟨trivial, by decide +kernel⟩, trivial⟩
  have hcap := h Kernel.linux withoutM2 freshConn _ withoutM2_validCap hpub hkernel
  exact absurd hcap (by decide +kernel)

end SkylineSpeeder
