import SkylineSpeeder.Cc.Model

/-!
`bpf/skyline_cc.bpf.c`, the controls: everything that sets the pacing rate or
the window of a connection.

* `skylineApplyPacing`: M4's rate, or the kernel-equivalent one without M4;
* `skylineSetCwndTarget`: M2's window;
* `skylineGrowCwnd`, `skylineCubicTarget`, `skylineCubeRoot`: the CUBIC growth of
  the path without M2;
* `skylineApplyPrr`: the reduction of that path, RFC 6937.
-/

namespace SkylineSpeeder

open Word (minT maxT)

/-- `SKYLINE_MIN_CWND`. -/
def skylineMinCwndFloor : UInt32 := 4

/-- `skyline_min_cwnd`. -/
def skylineMinCwnd (config : KernelConfig) : UInt32 :=
  maxT config.minCwndPackets skylineMinCwndFloor

/-- `skyline_cwnd_limited`. -/
def skylineCwndLimited (tp : TcpSock) : Bool :=
  tp.isCwndLimited ||
    (decide (tp.sndCwnd < tp.sndSsthresh) && decide (tp.sndCwnd < 2 * tp.maxPacketsOut))

/-! ### Pacing -/

/-- `skyline_apply_auto_pacing_rate`. -/
def skylineApplyAutoPacingRate (tp : TcpSock) : TcpSock :=
  if tp.srttUs = 0 then tp
  else
    let ratio : UInt32 := if tp.sndCwnd < tp.sndSsthresh / 2 then 200 else 120
    let basis := maxT tp.sndCwnd tp.packetsOut
    let rate := (maxT tp.mssCache 1).toUInt64 * 80000 * ratio.toUInt64 * basis.toUInt64
    let rate := rate / tp.srttUs.toUInt64
    let rate := if rate > tp.skMaxPacingRate then tp.skMaxPacingRate else rate
    { tp with skPacingStatus := skPacingNeeded, skPacingRate := rate }

/-- `skyline_pacing_floor_bps`. -/
def skylinePacingFloorBps (tp : TcpSock) (flow : FlowState) (config : KernelConfig) : UInt64 :=
  let rttUs := skylineBaseRttUs flow
  let packets := if config.has featureAdaptiveCwnd then skylineMinCwnd config
    else skylineMinCwndFloor
  let rttUs := if rttUs = 0 then (tp.srttUs >>> 3).toUInt64 else rttUs
  if rttUs = 0 then 0
  else packets.toUInt64 * (maxT tp.mssCache 1).toUInt64 * 8 * 1000000 / rttUs

/-- `config->guardrail_gain_permille ? config->guardrail_gain_permille : 1000U`. -/
def guardrailGain (config : KernelConfig) : UInt32 :=
  if config.guardrailGainPermille ≠ 0 then config.guardrailGainPermille else 1000

/-- The gain `skyline_apply_pacing` multiplies the bandwidth estimate by. -/
def pacingGain (flow : FlowState) (config : KernelConfig) : UInt32 :=
  let gain := if config.has featureAdaptiveCwnd ∧ flow.mode = .startup then
    config.startupGainPermille else config.cruisePacingPermille
  let gain := gain * skylineLossInflationPermille flow config / 1000
  if flow.queueClamped then guardrailGain config else gain

/-- `skyline_apply_pacing`. -/
def skylineApplyPacing (tp : TcpSock) (flow : FlowState) (config : KernelConfig) :
    TcpSock × List Report :=
  if !config.has featurePacing then
    if config.has featureAutoPacing then (skylineApplyAutoPacingRate tp, [])
    else ({ tp with skPacingRate := tp.skMaxPacingRate }, [])
  else if flow.bwBps = 0 then (tp, [])
  else
    let rate := flow.bwBps * (pacingGain flow config).toUInt64 / 1000
    let floorBps := skylinePacingFloorBps tp flow config
    let rate := if rate < floorBps then floorBps else rate
    let rate := if config.maxPacingBps ≠ 0 ∧ rate > config.maxPacingBps then
      config.maxPacingBps else rate
    let rate := rate / 8
    let rate := if rate > tp.skMaxPacingRate then tp.skMaxPacingRate else rate
    ({ tp with skPacingStatus := skPacingNeeded, skPacingRate := rate },
      [.metric .pacingUpdates 1])

/-! ### M2's window -/

/-- `skyline_bdp_packets`. -/
def skylineBdpPackets (tp : TcpSock) (flow : FlowState) (config : KernelConfig)
    (gainPermille : UInt32) : UInt32 :=
  if flow.bwBps = 0 ∨ flow.minRttUs = 0 then tp.sndCwnd
  else
    let bytes := flow.bwBps * skylineBaseRttUs flow
    let bytes := bytes / (8 * 1000000)
    let bytes := bytes * gainPermille.toUInt64 / 1000
    let bytes := bytes * (skylineLossInflationPermille flow config).toUInt64 / 1000
    let packets := bytes / (maxT tp.mssCache 1).toUInt64
    maxT packets.toUInt32 (skylineMinCwnd config)

/-- The gain `skyline_set_cwnd_target` hands to `skyline_bdp_packets`. -/
def cwndGain (flow : FlowState) (config : KernelConfig) : UInt32 :=
  if flow.queueClamped then guardrailGain config
  else if flow.mode = .startup then config.startupGainPermille
  else config.cruiseInflightPermille

/-- `skyline_set_cwnd_target`: slow start up to the cap without an estimate, the
capped and floored target with one. -/
def skylineSetCwndTarget (K : Kernel) (tp : TcpSock) (flow : FlowState) (config : KernelConfig)
    (acked : UInt32) (afterRto : Bool) : TcpSock :=
  if flow.bwBps = 0 ∨ flow.minRttUs = 0 then
    let tp := if acked ≠ 0 ∧ tp.sndCwnd < tp.sndSsthresh then (K.slowStart tp acked).1 else tp
    let tp := tp.capCwnd config.maxCwndPackets
    if afterRto then tp.floorCwnd (skylineMinCwnd config) else tp
  else
    let target := skylineBdpPackets tp flow config (cwndGain flow config)
    ((tp.storeCwnd target).capCwnd config.maxCwndPackets).floorCwnd (skylineMinCwnd config)

/-! ### CUBIC growth without M2 -/

/-- The bisection loop of `skyline_cube_root`, `steps` iterations of it. -/
def cubeRootLoop (value : UInt64) : ℕ → UInt64 → UInt64 → UInt64
  | 0, low, _ => low
  | steps + 1, low, high =>
      let middle := low + ((high - low) >>> 1)
      let square := middle * middle
      let cube := square * middle
      if cube ≤ value then cubeRootLoop value steps (middle + 1) high
      else cubeRootLoop value steps low middle

/-- `skyline_cube_root`. -/
def skylineCubeRoot (value : UInt64) : UInt64 :=
  let low := cubeRootLoop value 10 0 135722
  if low ≠ 0 then low - 1 else 0

/-- The start of a growth epoch in `skyline_cubic_target`: `K` is computed once,
from the window at this moment. -/
def startEpoch (flow : FlowState) (cwnd : UInt32) (nowNs : UInt64) : FlowState :=
  if flow.epochStartNs = 0 then
    let wMax := if flow.wMax = 0 then cwnd else flow.wMax
    let difference : UInt64 := if wMax > cwnd then (wMax - cwnd).toUInt64 else 0
    let difference := minT difference 1000000
    { flow with
      epochStartNs := nowNs
      wMax := wMax
      epochKMs := (skylineCubeRoot (difference * 2500000000)).toUInt32 }
  else flow

/-- `skyline_cubic_target`. -/
def skylineCubicTarget (flow : FlowState) (cwnd : UInt32) (nowNs : UInt64) :
    FlowState × UInt32 :=
  let flow := startEpoch flow cwnd nowNs
  let elapsedMs := (nowNs - flow.epochStartNs) / 1000000
  let k := flow.epochKMs.toUInt64
  let offset := if elapsedMs > k then elapsedMs - k else k - elapsedMs
  let offset := if offset > 100000 then 100000 else offset
  let cubicDelta := 400 * offset * offset * offset / 1000000000000
  let wMax := flow.wMax.toUInt64
  (flow,
    if elapsedMs < k then
      if wMax > cubicDelta then (wMax - cubicDelta).toUInt32 else skylineMinCwndFloor
    else (wMax + cubicDelta).toUInt32)

/-- The Reno estimate of the TCP-friendly region, moved by `acked` packets. -/
def updateFriendly (tp : TcpSock) (flow : FlowState) (freshEpoch : Bool) (acked : UInt32) :
    FlowState :=
  let flow := if freshEpoch then { flow with tcpCwnd := tp.sndCwnd, ackCnt := acked }
    else { flow with ackCnt := flow.ackCnt + acked }
  let delta := tp.sndCwnd.toUInt64 * 15 / 8
  let incr := (flow.ackCnt.toUInt64 / delta).toUInt32
  if delta ≠ 0 ∧ incr ≠ 0 then
    { flow with
      tcpCwnd := flow.tcpCwnd + incr
      ackCnt := flow.ackCnt - incr * delta.toUInt32 }
  else flow

/-- How many ACKed packets one packet of growth takes. -/
def growWeight (tp : TcpSock) (flow : FlowState) (target : UInt32) : UInt32 :=
  let weight := if target > tp.sndCwnd then maxT (tp.sndCwnd / (target - tp.sndCwnd)) 2
    else maxT (tp.sndCwnd * 100) 2
  let weight :=
    if flow.tcpCwnd > tp.sndCwnd then
      let friendlyWeight := maxT (tp.sndCwnd / (flow.tcpCwnd - tp.sndCwnd)) 1
      if weight > friendlyWeight then friendlyWeight else weight
    else weight
  maxT weight 2

/-- The congestion-avoidance part of `skyline_grow_cwnd`. -/
def growAvoid (K : Kernel) (tp : TcpSock) (flow : FlowState) (config : KernelConfig)
    (acked : UInt32) (nowNs : UInt64) : TcpSock × FlowState :=
  let freshEpoch := flow.epochStartNs == 0
  let (flow, target) := skylineCubicTarget flow tp.sndCwnd nowNs
  let flow := updateFriendly tp flow freshEpoch acked
  let tp := K.congAvoidAi tp (growWeight tp flow target) acked
  ((tp.capCwnd config.maxCwndPackets).floorCwnd skylineMinCwndFloor, flow)

/-- `skyline_grow_cwnd`. -/
def skylineGrowCwnd (K : Kernel) (tp : TcpSock) (flow : FlowState) (config : KernelConfig)
    (acked : UInt32) (nowNs : UInt64) : TcpSock × FlowState :=
  if acked = 0 then (tp, flow)
  else if !skylineCwndLimited tp then (tp, flow)
  else if tp.sndCwnd < tp.sndSsthresh then
    let (tp, acked) := K.slowStart tp acked
    if acked = 0 then (tp.capCwnd config.maxCwndPackets, flow)
    else growAvoid K tp flow config acked nowNs
  else growAvoid K tp flow config acked nowNs

/-! ### PRR without M2 -/

/-- `SKYLINE_FLAG_SND_UNA_ADVANCED`. -/
def flagSndUnaAdvanced : UInt32 := 0x400

/-- A value converted to, or computed in, `__s64`. -/
def s64 (x : ℤ) : ℤ := x.bmod (2 ^ 64)

/-- `packets_in_flight` of `skyline_apply_prr`, not below zero. -/
def prrInFlight (tp : TcpSock) : ℤ :=
  max ((tp.packetsOut.toNat : ℤ) - tp.sackedOut.toNat - tp.lostOut.toNat + tp.retransOut.toNat) 0

/-- `sndcnt` of `skyline_apply_prr`, once `prr_delivered` has taken this ACK.
The only step that can leave `__s64` is the conversion of the quotient and the
subtraction after it. -/
def prrSndcnt (tp : TcpSock) (flow : FlowState) (sample : RateSample) (flag : UInt32) : ℤ :=
  let delta := (tp.sndSsthresh.toNat : ℤ) - prrInFlight tp
  let sndcnt : ℤ :=
    if delta < 0 then
      let dividend := tp.sndSsthresh.toUInt64 * flow.prrDelivered.toUInt64
        + flow.priorCwnd.toUInt64 - 1
      s64 (s64 (dividend / flow.priorCwnd.toUInt64).toNat - tp.prrOut.toNat)
    else
      let sndcnt := (flow.prrDelivered.toNat : ℤ) - tp.prrOut.toNat
      let sndcnt := if sndcnt < sample.ackedSacked.toNat then (sample.ackedSacked.toNat : ℤ)
        else sndcnt
      let sndcnt := if flag &&& flagSndUnaAdvanced ≠ 0 ∧ sample.losses ≤ 0 then sndcnt + 1
        else sndcnt
      if sndcnt > delta then delta else sndcnt
  let least : ℤ := if tp.prrOut ≠ 0 then 0 else 1
  let sndcnt := if sndcnt < least then least else sndcnt
  if sndcnt < 0 then 0 else sndcnt

/-- `skyline_apply_prr`. -/
def skylineApplyPrr (tp : TcpSock) (flow : FlowState) (sample : RateSample) (flag : UInt32) :
    TcpSock × FlowState × List Report :=
  let newlyAcked := sample.ackedSacked
  if newlyAcked = 0 ∨ flow.priorCwnd = 0 then (tp, flow, [])
  else
    let flow := { flow with prrDelivered := flow.prrDelivered + newlyAcked }
    let newCwnd := UInt32.ofInt (prrInFlight tp + prrSndcnt tp flow sample flag)
    (tp.storeCwnd (maxT newCwnd skylineMinCwndFloor), flow, [.metric .prrAdjustments 1])

end SkylineSpeeder
