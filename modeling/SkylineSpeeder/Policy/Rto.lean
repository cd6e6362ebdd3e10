import SkylineSpeeder.Config.Validate

/-!
`bpf/skyline_policy.bpf.c`: the congestion control of a new connection, and the bounds of
its retransmission timeout.

* `RtoSock`, `RtoFlow`: a socket as the program sees it, with its `rto_flows` storage;
* `rtoMinTarget`, `rtoMaxTarget`, `rtoMaxCoefficient`: the values the two halves want;
* `skylineUpdateRtoMin`, `skylineUpdateRtoMax`, `skylineUpdateRtoTuning`,
  `skylineRtoUnsubscribe`, `skylineSelectCongestionControl`: the program, from the socket
  before a callback to the one after it and what it asked of the kernel;
* `rtoMinTarget_toNat`, `rtoMaxTarget_toNat`, `rtoCongested_iff`: the wanted values and the
  congestion, over the natural numbers.

The kernel's answers to `bpf_setsockopt` are an argument of each callback.
-/

namespace SkylineSpeeder

open Word

/-! ### The socket -/

/-- `SKYLINE_RTO_TUNING_ABI_VERSION`. -/
def rtoTuningAbiVersion : UInt32 := 2

/-- `SKYLINE_RTO_MAX_FLOOR_MS`. -/
def rtoMaxFloorMs : UInt32 := 1000

/-- `SKYLINE_RTO_MAX_KERNEL_DEFAULT_MS`. -/
def rtoMaxKernelDefaultMs : UInt32 := 120000

/-- `SKYLINE_RTO_MAX_DEFAULT_CONGESTION_RATIO_PERMILLE`. -/
def rtoMaxDefaultCongestionRatioPermille : UInt32 := 2000

/-- `struct skyline_rto_flow`. -/
structure RtoFlow where
  samples : UInt32
  appliedUs : UInt32
  appliedRtoMaxMs : UInt32
  lastDeliveredCe : UInt32
  deriving DecidableEq, Repr

/-- Fresh socket storage. -/
def RtoFlow.zero : RtoFlow := ⟨0, 0, 0, 0⟩

/-- A socket: whether its callback flags hold `BPF_SOCK_OPS_RTT_CB_FLAG`, the two bounds of
its retransmission timeout, and its `rto_flows` storage. -/
structure RtoSock where
  rttCb : Bool
  rtoMinUs : UInt32
  rtoMaxMs : UInt32
  flow : Option RtoFlow
  deriving DecidableEq, Repr

/-- The two socket options, `TCP_BPF_RTO_MIN` and `TCP_RTO_MAX_MS`. -/
inductive RtoOption where
  | rtoMin | rtoMax
  deriving DecidableEq, Repr

/-- The counters of `struct skyline_rto_stats`. -/
inductive RtoStat where
  | establishedCb | subscribeOk | subscribeErr | rttCallbacks | skippedWarmup
  | applied | unchanged | rejected
  | rtoMaxApplied | rtoMaxUnchanged | rtoMaxRejected | rtoMaxCongested
  deriving DecidableEq, Repr

/-- What a callback asks of the kernel, with the answer, and what it counts. -/
inductive RtoReport where
  | sockopt (option : RtoOption) (value : UInt32) (accepted : Bool)
  | congestion
  | stat (counter : RtoStat)
  deriving DecidableEq, Repr

/-- The kernel's answers to the calls of one callback: whether it accepts a value for an
option, and whether it sets the callback flags of a new connection. -/
structure RtoAnswers where
  accepts : RtoOption → UInt32 → Bool
  setsFlags : Bool

/-- What the context of a callback holds: the address family, `args[1]`, `rtt_min`,
`is_fullsock`, whether `sk` is there, `delivered_ce` of `bpf_tcp_sock(sk)` if there is one,
and whether storage can be created. -/
structure RtoOps where
  family : UInt32
  srttArg : UInt32
  rttMin : UInt32
  isFullsock : Bool
  hasSk : Bool
  deliveredCe : Option UInt32
  allocated : Bool
  deriving DecidableEq, Repr

/-- `bpf_setsockopt` of one of the two options: a refused call leaves the socket alone. -/
def bpfSetsockopt (answers : RtoAnswers) (option : RtoOption) (value : UInt32) (sk : RtoSock) :
    RtoSock :=
  if answers.accepts option value then
    match option with
    | .rtoMin => { sk with rtoMinUs := value }
    | .rtoMax => { sk with rtoMaxMs := value }
  else sk

/-! ### What the two halves want -/

/-- `skyline_rto_config`. -/
def skylineRtoConfig (slot : Option KernelRtoTuning) : Option KernelRtoTuning :=
  match slot with
  | some tuning => if tuning.abiVersion ≠ rtoTuningAbiVersion then none else some tuning
  | none => none

/-- `ceiling` of `skyline_update_rto_min`. -/
def rtoMinCeiling (tuning : KernelRtoTuning) : UInt32 :=
  if tuning.ceilingUs < rtoMinKernelDefaultUs then tuning.ceilingUs else rtoMinKernelDefaultUs

/-- `target` of `skyline_update_rto_min`, once the two limits are applied. -/
def rtoMinTarget (tuning : KernelRtoTuning) (base : UInt32) : UInt32 :=
  let target := (base.toUInt64 * tuning.srttPermille.toUInt64 / 1000).toUInt32
  let target := if target < tuning.floorUs then tuning.floorUs else target
  if target > rtoMinCeiling tuning then rtoMinCeiling tuning else target

/-- `ratio_permille` of `skyline_update_rto_max`. -/
def rtoMaxRatio (tuning : KernelRtoTuning) : UInt32 :=
  if tuning.rtoMaxCongestionRatioPermille ≠ 0 then tuning.rtoMaxCongestionRatioPermille
  else rtoMaxDefaultCongestionRatioPermille

/-- `queueing` of `skyline_update_rto_max`. -/
def rtoQueueing (tuning : KernelRtoTuning) (srttUs minRttUs : UInt32) : Bool :=
  minRttUs != 0 &&
    decide (srttUs.toUInt64 * 1000 > minRttUs.toUInt64 * (rtoMaxRatio tuning).toUInt64)

/-- `fresh_ce || queueing` of `skyline_update_rto_max`. -/
def rtoCongested (tuning : KernelRtoTuning) (flow : RtoFlow)
    (deliveredCe srttUs minRttUs : UInt32) : Bool :=
  deliveredCe != flow.lastDeliveredCe || rtoQueueing tuning srttUs minRttUs

/-- `k` of `skyline_update_rto_max`. -/
def rtoMaxCoefficient (tuning : KernelRtoTuning) (congested : Bool) : UInt32 :=
  if congested then tuning.rtoMaxCongestedPermille else tuning.rtoMaxNormalPermille

/-- `target_ms` of `skyline_update_rto_max`, once the two limits are applied. -/
def rtoMaxTarget (base k : UInt32) : UInt32 :=
  let target := (base.toUInt64 * k.toUInt64 / 1000 / 1000).toUInt32
  let target := if target < rtoMaxFloorMs then rtoMaxFloorMs else target
  if target > rtoMaxKernelDefaultMs then rtoMaxKernelDefaultMs else target

/-! ### The program -/

/-- `skyline_rto_unsubscribe`. -/
def skylineRtoUnsubscribe (answers : RtoAnswers) (sk : RtoSock) : RtoSock × List RtoReport :=
  let sk := { sk with rttCb := false }
  let sk := bpfSetsockopt answers .rtoMin rtoMinKernelDefaultUs sk
  let sk := bpfSetsockopt answers .rtoMax rtoMaxKernelDefaultMs sk
  (sk, [.sockopt .rtoMin rtoMinKernelDefaultUs (answers.accepts .rtoMin rtoMinKernelDefaultUs),
    .sockopt .rtoMax rtoMaxKernelDefaultMs (answers.accepts .rtoMax rtoMaxKernelDefaultMs)])

/-- `skyline_update_rto_min`. -/
def skylineUpdateRtoMin (answers : RtoAnswers) (tuning : KernelRtoTuning) (base : UInt32)
    (sk : RtoSock) (flow : RtoFlow) : RtoSock × RtoFlow × List RtoReport :=
  if tuning.floorUs > rtoMinCeiling tuning then (sk, flow, [])
  else
    let target := rtoMinTarget tuning base
    if flow.appliedUs = target then (sk, flow, [.stat .unchanged])
    else if answers.accepts .rtoMin target then
      (bpfSetsockopt answers .rtoMin target sk, { flow with appliedUs := target },
        [.sockopt .rtoMin target true, .stat .applied])
    else (sk, flow, [.sockopt .rtoMin target false, .stat .rejected])

/-- The branch of `skyline_update_rto_max` while its half is off: a ceiling that was raised
is put back. -/
def restoreRtoMax (answers : RtoAnswers) (sk : RtoSock) (flow : RtoFlow) :
    RtoSock × RtoFlow × List RtoReport :=
  if flow.appliedRtoMaxMs = 0 then (sk, flow, [])
  else if answers.accepts .rtoMax rtoMaxKernelDefaultMs then
    (bpfSetsockopt answers .rtoMax rtoMaxKernelDefaultMs sk, { flow with appliedRtoMaxMs := 0 },
      [.sockopt .rtoMax rtoMaxKernelDefaultMs true])
  else (sk, flow, [.sockopt .rtoMax rtoMaxKernelDefaultMs false])

/-- `skyline_update_rto_max`. -/
def skylineUpdateRtoMax (answers : RtoAnswers) (tuning : KernelRtoTuning)
    (deliveredCe srttUs minRttUs base : UInt32) (sk : RtoSock) (flow : RtoFlow) :
    RtoSock × RtoFlow × List RtoReport :=
  let congested := rtoCongested tuning flow deliveredCe srttUs minRttUs
  let flow := { flow with lastDeliveredCe := deliveredCe }
  if tuning.rtoMaxNormalPermille = 0 then restoreRtoMax answers sk flow
  else
    let seen : List RtoReport := if congested then [.stat .rtoMaxCongested] else []
    let target := rtoMaxTarget base (rtoMaxCoefficient tuning congested)
    if flow.appliedRtoMaxMs = target then (sk, flow, seen ++ [.stat .rtoMaxUnchanged])
    else if answers.accepts .rtoMax target then
      (bpfSetsockopt answers .rtoMax target sk, { flow with appliedRtoMaxMs := target },
        seen ++ [.sockopt .rtoMax target true, .stat .rtoMaxApplied])
    else (sk, flow, seen ++ [.sockopt .rtoMax target false, .stat .rtoMaxRejected])

/-- `srtt_us` of a callback: `args[1]` is in eighths. -/
def RtoOps.srttUs (ops : RtoOps) : UInt32 := ops.srttArg >>> 3

/-- `min_rtt_us` of a callback; the kernel has none yet while `rtt_min` is all ones. -/
def RtoOps.minRttUs (ops : RtoOps) : UInt32 := if ops.rttMin = 0xffffffff then 0 else ops.rttMin

/-- `base` of a callback. -/
def RtoOps.base (ops : RtoOps) : UInt32 :=
  if ops.srttUs > ops.minRttUs then ops.srttUs else ops.minRttUs

/-- `bpf_sk_storage_get` with `BPF_SK_STORAGE_GET_F_CREATE`. -/
def rtoFlowGet (storage : Option RtoFlow) (allocated : Bool) : Option RtoFlow :=
  match storage with
  | some flow => some flow
  | none => if allocated then some .zero else none

/-- The part of `skyline_update_rto_tuning` on a flow: the warm-up, then the two halves. -/
def tuneRtoFlow (answers : RtoAnswers) (tuning : KernelRtoTuning) (ops : RtoOps)
    (deliveredCe : UInt32) (sk : RtoSock) (flow : RtoFlow) : RtoSock × List RtoReport :=
  if flow.samples < tuning.warmupSamples then
    ({ sk with flow := some { flow with samples := flow.samples + 1 } }, [.stat .skippedWarmup])
  else
    let (sk, flow, lower) := skylineUpdateRtoMin answers tuning ops.base sk flow
    let (sk, flow, upper) := skylineUpdateRtoMax answers tuning deliveredCe ops.srttUs
      ops.minRttUs ops.base sk flow
    ({ sk with flow := some flow }, lower ++ upper)

/-- `skyline_update_rto_tuning`. -/
def skylineUpdateRtoTuning (answers : RtoAnswers) (tuning : Option KernelRtoTuning)
    (ops : RtoOps) (sk : RtoSock) : RtoSock × List RtoReport :=
  match tuning with
  | none => skylineRtoUnsubscribe answers sk
  | some tuning =>
      if tuning.enabled = 0 then skylineRtoUnsubscribe answers sk
      else
        let counted : RtoReport := .stat .rttCallbacks
        if ops.base = 0 then (sk, [counted])
        else if !ops.isFullsock || !ops.hasSk then (sk, [counted])
        else
          match ops.deliveredCe, rtoFlowGet sk.flow ops.allocated with
          | some deliveredCe, some flow =>
              let (sk, reports) := tuneRtoFlow answers tuning ops deliveredCe sk flow
              (sk, counted :: reports)
          | _, _ => (sk, [counted])

/-- `skyline_is_supported_family`: `AF_INET` and `AF_INET6`. -/
def skylineIsSupportedFamily (family : UInt32) : Bool := family == 2 || family == 10

/-- The operations `skyline_select_congestion_control` knows. -/
inductive SockOp where
  | established | rtt | other
  deriving DecidableEq, Repr

/-- `skyline_select_congestion_control`; `enabled` is `policy_enabled`, `slot` the element of
`rto_tuning`. -/
def skylineSelectCongestionControl (answers : RtoAnswers) (enabled : Bool)
    (slot : Option KernelRtoTuning) (op : SockOp) (ops : RtoOps) (sk : RtoSock) :
    RtoSock × List RtoReport :=
  let tuning := skylineRtoConfig slot
  if !skylineIsSupportedFamily ops.family then (sk, [])
  else
    match op with
    | .established =>
        let reports : List RtoReport :=
          .stat .establishedCb :: (if enabled then [.congestion] else [])
        match tuning with
        | some tuning =>
            if tuning.enabled = 0 then (sk, reports)
            else if answers.setsFlags then
              ({ sk with rttCb := true }, reports ++ [.stat .subscribeOk])
            else (sk, reports ++ [.stat .subscribeErr])
        | none => (sk, reports)
    | .rtt => skylineUpdateRtoTuning answers tuning ops sk
    | .other => (sk, [])

/-! ### The documented bounds -/

/-- `clamp(x, lo, hi)` over the natural numbers. -/
def natClamp (lo hi x : ℕ) : ℕ := max lo (min hi x)

/-- The documented minimum: the RTT scaled by `srtt_permille`, within its limits. -/
def documentedRtoMin (config : RackRtoConfig) (base : ℕ) : ℕ :=
  natClamp config.floorUs.toNat (min config.ceilingUs.toNat 200000)
    (base * config.srttPermille.toNat / 1000)

/-- The documented maximum: the RTT scaled by a coefficient, between 1 s and 120 s. -/
def documentedRtoMax (base k : ℕ) : ℕ := natClamp 1000 120000 (base * k / 10 ^ 6)

lemma natClamp_mono {lo hi x y : ℕ} (h : x ≤ y) : natClamp lo hi x ≤ natClamp lo hi y :=
  max_le_max_left lo (min_le_min_left hi h)

/-- The two limits, one after the other, are a clamp. -/
lemma toNat_limits {lo hi : UInt32} (h : lo.toNat ≤ hi.toNat) (x : UInt32) :
    (if (if x < lo then lo else x) > hi then hi else if x < lo then lo else x).toNat =
      natClamp lo.toNat hi.toNat x.toNat := by
  rw [natClamp]
  split_ifs with hlow hhigh hhigh
  all_goals rw [UInt32.lt_iff_toNat_lt] at hlow
  all_goals rw [gt_iff_lt, UInt32.lt_iff_toNat_lt] at hhigh
  all_goals omega

/-- A number cut to 32 bits and then clamped is the number clamped exactly where nothing was
cut, or the clamp hides it. -/
lemma natClamp_mod_eq_iff {lo hi x : ℕ} (hle : lo ≤ hi) (hhi : hi < 2 ^ 32) :
    natClamp lo hi (x % 2 ^ 32) = natClamp lo hi x ↔
      x < 2 ^ 32 ∨ hi ≤ x % 2 ^ 32 ∨ lo = hi := by
  rw [natClamp, natClamp]
  omega

/-- A product of two 32-bit words, divided in 64 bits. -/
lemma scaled_toNat (base k : UInt32) (d : UInt64) :
    (base.toUInt64 * k.toUInt64 / d).toNat = base.toNat * k.toNat / d.toNat := by
  have hb := base.toNat_lt
  have hk := k.toNat_lt
  have hfits : base.toUInt64.toNat * k.toUInt64.toNat < 2 ^ 64 := by
    rw [UInt32.toNat_toUInt64, UInt32.toNat_toUInt64]
    calc base.toNat * k.toNat < 2 ^ 32 * 2 ^ 32 :=
          Nat.mul_lt_mul_of_lt_of_le hb hk.le (by norm_num)
      _ = 2 ^ 64 := by norm_num
  rw [UInt64.toNat_div, U64.toNat_mul_of_lt hfits, UInt32.toNat_toUInt64, UInt32.toNat_toUInt64]

/-- The value `skyline_update_rto_max` wants, cut to 32 bits. -/
lemma rtoMaxTarget_toNat (base k : UInt32) :
    (rtoMaxTarget base k).toNat =
      natClamp 1000 120000 (base.toNat * k.toNat / 10 ^ 6 % 2 ^ 32) := by
  have hscaled : (base.toUInt64 * k.toUInt64 / 1000 / 1000).toUInt32.toNat =
      base.toNat * k.toNat / 10 ^ 6 % 2 ^ 32 := by
    rw [UInt64.toNat_toUInt32, UInt64.toNat_div, scaled_toNat]
    show base.toNat * k.toNat / 1000 / 1000 % 2 ^ 32 = _
    rw [Nat.div_div_eq_div_mul, show 1000 * 1000 = 10 ^ 6 by norm_num]
  rw [← hscaled]
  exact toNat_limits (by decide) _

/-- What `validate` says of an enabled `[rack_rto]`. -/
lemma rackRto_limits {config : RackRtoConfig} (henabled : config.enabled = true)
    (hvalid : config.validate = .ok ()) :
    config.floorUs.toNat ≤ config.ceilingUs.toNat ∧ config.ceilingUs.toNat ≤ 200000 ∧
      config.rtoMaxNormalPermille.toNat ≤ config.rtoMaxCongestedPermille.toNat := by
  rw [RackRtoConfig.validate, if_pos henabled] at hvalid
  simp only [bind_eq_ok_iff, check_eq_ok_iff, decide_eq_false_iff_not, UInt32.not_lt,
    UInt32.le_iff_toNat_le] at hvalid
  obtain ⟨-, -, hfloor, hceiling, hcongested⟩ := hvalid
  exact ⟨hfloor, hceiling, hcongested⟩

/-- The ceiling of the minimum, which the slot holds cut to 200 ms already. -/
lemma rtoMinCeiling_toNat (config : RackRtoConfig) (generation : UInt32) :
    (rtoMinCeiling (config.kernelConfig generation)).toNat =
      min config.ceilingUs.toNat 200000 := by
  have hslot : (config.kernelConfig generation).ceilingUs.toNat =
      min config.ceilingUs.toNat 200000 := U32.toNat_minT _ _
  rw [rtoMinCeiling]
  split_ifs with hlt
  · exact hslot
  · rw [UInt32.lt_iff_toNat_lt, hslot] at hlt
    show 200000 = _
    have hdefault : rtoMinKernelDefaultUs.toNat = 200000 := rfl
    omega

/-- The value `skyline_update_rto_min` wants, cut to 32 bits. -/
lemma rtoMinTarget_toNat {config : RackRtoConfig} (henabled : config.enabled = true)
    (hvalid : config.validate = .ok ()) (generation base : UInt32) :
    (rtoMinTarget (config.kernelConfig generation) base).toNat =
      natClamp config.floorUs.toNat (min config.ceilingUs.toNat 200000)
        (base.toNat * config.srttPermille.toNat / 1000 % 2 ^ 32) := by
  obtain ⟨hfloor, hceiling, -⟩ := rackRto_limits henabled hvalid
  have hscaled : (base.toUInt64 * config.srttPermille.toUInt64 / 1000).toUInt32.toNat =
      base.toNat * config.srttPermille.toNat / 1000 % 2 ^ 32 := by
    rw [UInt64.toNat_toUInt32, scaled_toNat]
    rfl
  rw [← hscaled, ← rtoMinCeiling_toNat config generation]
  refine toNat_limits ?_ _
  rw [rtoMinCeiling_toNat]
  exact le_min hfloor (hfloor.trans hceiling)

/-- The congestion evidence, over the natural numbers. -/
lemma rtoCongested_iff (tuning : KernelRtoTuning) (flow : RtoFlow)
    (deliveredCe srttUs minRttUs : UInt32) :
    rtoCongested tuning flow deliveredCe srttUs minRttUs = true ↔
      deliveredCe ≠ flow.lastDeliveredCe ∨
        (minRttUs ≠ 0 ∧ minRttUs.toNat * (rtoMaxRatio tuning).toNat < srttUs.toNat * 1000) := by
  have hleft : (srttUs.toUInt64 * 1000).toNat = srttUs.toNat * 1000 := by
    have := srttUs.toNat_lt
    rw [U64.toNat_mul_of_lt, UInt32.toNat_toUInt64]
    · rfl
    · rw [UInt32.toNat_toUInt64]
      show srttUs.toNat * 1000 < 2 ^ 64
      omega
  have hright : (minRttUs.toUInt64 * (rtoMaxRatio tuning).toUInt64).toNat =
      minRttUs.toNat * (rtoMaxRatio tuning).toNat := by
    have h := scaled_toNat minRttUs (rtoMaxRatio tuning) 1
    rw [UInt64.toNat_div, UInt64.toNat_one, Nat.div_one, Nat.div_one] at h
    exact h
  rw [rtoCongested, rtoQueueing, Bool.or_eq_true, Bool.and_eq_true, bne_iff_ne, bne_iff_ne,
    decide_eq_true_eq, gt_iff_lt, UInt64.lt_iff_toNat_lt, hleft, hright]

/-- The limits that `validate` lets through do not contradict each other. -/
lemma rtoMin_limits {config : RackRtoConfig} (henabled : config.enabled = true)
    (hvalid : config.validate = .ok ()) (generation : UInt32) :
    ¬ (config.kernelConfig generation).floorUs >
      rtoMinCeiling (config.kernelConfig generation) := by
  obtain ⟨hfloor, hceiling, -⟩ := rackRto_limits henabled hvalid
  rw [gt_iff_lt, UInt32.not_lt, UInt32.le_iff_toNat_le, rtoMinCeiling_toNat]
  exact le_min hfloor (hfloor.trans hceiling)

/-- **When the minimum is the documented one**: the scaled RTT fits in 32 bits, or the clamp
hides what was cut. -/
lemma rtoMinTarget_documented_iff {config : RackRtoConfig} (henabled : config.enabled = true)
    (hvalid : config.validate = .ok ()) (generation base : UInt32) :
    (rtoMinTarget (config.kernelConfig generation) base).toNat =
        documentedRtoMin config base.toNat ↔
      base.toNat * config.srttPermille.toNat / 1000 < 2 ^ 32 ∨
        config.ceilingUs.toNat ≤ base.toNat * config.srttPermille.toNat / 1000 % 2 ^ 32 ∨
        config.floorUs = config.ceilingUs := by
  obtain ⟨hfloor, hceiling, -⟩ := rackRto_limits henabled hvalid
  have hcap : min config.ceilingUs.toNat 200000 = config.ceilingUs.toNat := min_eq_left hceiling
  rw [rtoMinTarget_toNat henabled hvalid, documentedRtoMin, hcap,
    natClamp_mod_eq_iff hfloor (by omega), UInt32.toNat_inj]

end SkylineSpeeder
