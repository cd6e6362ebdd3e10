import SkylineSpeeder.Cc.Abi
import SkylineSpeeder.Cc.Sock

/-!
`bpf/skyline_cc.bpf.c`, the path model of a connection: taking a configuration,
counting rounds, and `skyline_update_model`.

* `skylineAdoptConfig`: one attempt to take the published configuration, from
  the three reads of shared memory it makes (`ConfigRead`); `adoptConfig_true`
  and `adoptConfig_false` say what it did, by what it returned;
* `skylineRoundReached`, `skylineNewRound`: round ends;
* `skylineResetGeneration`: the model started over;
* `skylineUpdateModel`: the per-ACK update, cut at its own paragraphs into the
  two minimum filters, the bandwidth window, the accepted sample, the loss
  average and the once-per-round guardrail with the end of `STARTUP`.
-/

namespace SkylineSpeeder

open Word (minT maxT)

/-! ### Taking a configuration -/

/-- `skyline_has_config`. -/
def skylineHasConfig (flow : FlowState) : Bool :=
  flow.config.abiVersion == abiVersion

/-- What one call of `skyline_adopt_config` reads: `config_seq`, the slot it
names, and `config_seq` again; `none` is a failed map lookup. -/
structure ConfigRead where
  seq : Option UInt32
  slot : Option KernelConfig
  again : UInt32
  deriving DecidableEq, Repr

/-- The reads that find `config`, whole, under number `seq`. -/
def ConfigRead.of (config : KernelConfig) (seq : UInt32) : ConfigRead :=
  ⟨some seq, some config, seq⟩

/-- `skyline_adopt_config`: the copy is kept if `config_seq` did not move and
the copy is of this object's ABI. -/
def skylineAdoptConfig (flow : FlowState) (read : ConfigRead) : FlowState × Bool :=
  match read.seq, read.slot with
  | some seq, some copy =>
      if read.again ≠ seq ∨ copy.abiVersion ≠ abiVersion then (flow, false)
      else ({ flow with config := copy, configSeq := seq }, true)
  | _, _ => (flow, false)

/-- A successful adoption: the number did not move, and the copy is of this
object's ABI. -/
lemma adoptConfig_true {flow : FlowState} {read : ConfigRead}
    (h : (skylineAdoptConfig flow read).2 = true) :
    ∃ seq copy, read = ⟨some seq, some copy, seq⟩ ∧ copy.abiVersion = abiVersion ∧
      (skylineAdoptConfig flow read).1 = { flow with config := copy, configSeq := seq } := by
  obtain ⟨seq?, slot?, again⟩ := read
  cases seq? with
  | none => simp [skylineAdoptConfig] at h
  | some seq =>
      cases slot? with
      | none => simp [skylineAdoptConfig] at h
      | some copy =>
          by_cases hc : again ≠ seq ∨ copy.abiVersion ≠ abiVersion
          · simp [skylineAdoptConfig, hc] at h
          · have hc' := hc
            simp only [not_or, ne_eq, not_not] at hc'
            obtain ⟨rfl, habi⟩ := hc'
            exact ⟨again, copy, rfl, habi, by simp [skylineAdoptConfig, habi]⟩

/-- A failed adoption changes nothing. -/
lemma adoptConfig_false {flow : FlowState} {read : ConfigRead}
    (h : (skylineAdoptConfig flow read).2 = false) : (skylineAdoptConfig flow read).1 = flow := by
  obtain ⟨seq?, slot?, again⟩ := read
  cases seq? with
  | none => rfl
  | some seq =>
      cases slot? with
      | none => rfl
      | some copy =>
          by_cases hc : again ≠ seq ∨ copy.abiVersion ≠ abiVersion
          · simp only [skylineAdoptConfig, if_pos hc]
          · simp [skylineAdoptConfig, hc] at h

/-- Whether an adoption succeeds is a matter of what it reads. -/
lemma adoptConfig_snd (flow flow' : FlowState) (read : ConfigRead) :
    (skylineAdoptConfig flow read).2 = (skylineAdoptConfig flow' read).2 := by
  rw [skylineAdoptConfig, skylineAdoptConfig]
  cases read.seq with
  | none => rfl
  | some seq =>
      cases read.slot with
      | none => rfl
      | some copy =>
          dsimp only
          split_ifs <;> rfl

/-! ### Rounds -/

/-- `skyline_round_reached`: the ACK timed a packet and
`(__s32)(prior_delivered - (__u32)next) >= 0`. -/
def skylineRoundReached (sample : RateSample) (next : UInt64) : Bool :=
  sample.priorMstamp != 0 && decide (0 ≤ (sample.priorDelivered - next.toUInt32).toInt32)

/-- `skyline_new_round`; the sum is taken in 32 bits before it is widened. -/
def skylineNewRound (tp : TcpSock) (flow : FlowState) (sample : RateSample) :
    FlowState × Bool :=
  if skylineRoundReached sample flow.nextRoundDelivered then
    ({ flow with nextRoundDelivered := (tp.delivered + tp.packetsOut).toUInt64 }, true)
  else (flow, false)

/-- `skyline_rate_sample_bps`. -/
def skylineRateSampleBps (tp : TcpSock) (sample : RateSample) : UInt64 :=
  if sample.delivered ≤ 0 ∨ sample.intervalUs ≤ 0 then 0
  else
    sample.delivered.toInt64.toUInt64 * (maxT tp.mssCache 1).toUInt64 * 8 * 1000000
      / sample.intervalUs.toUInt64

/-- `skyline_reset_generation`. -/
def skylineResetGeneration (flow : FlowState) (tp : TcpSock) (nowNs : UInt64) : FlowState :=
  { flow with
    mode := .startup
    plateauRounds := 0
    priorCwnd := tp.sndCwnd
    wMax := tp.sndCwnd
    lastDeliveredCe := tp.deliveredCe
    lastLossDelivered := tp.delivered
    minRttUs := 0
    minRttStampUs := 0
    minSrttUs := 0
    minSrttStampUs := 0
    bwBps := 0
    priorRoundBwBps := 0
    roundRateBps := 0
    bwSamples := fun _ => 0
    nextRoundDelivered := tp.delivered.toUInt64
    epochStartNs := nowNs
    epochKMs := 0
    prrDelivered := 0
    tcpCwnd := tp.sndCwnd
    ackCnt := 0
    recoveryActive := false
    lossRatePermille := 0
    lastLost := tp.lost
    lastLossRateDelivered := tp.delivered
    queueClamped := false }

/-- `skyline_transition`. -/
def skylineTransition (flow : FlowState) (next : Mode) : FlowState × List Report :=
  if flow.mode = next then (flow, [])
  else ({ flow with mode := next },
    [.emit (.state next flow.mode next), .metric .stateTransitions 1])

/-! ### What the model reads off -/

/-- `skyline_base_rtt_us`. -/
def skylineBaseRttUs (flow : FlowState) : UInt64 := maxT flow.minRttUs flow.minSrttUs

/-- `skyline_max_queue_delay_us`. -/
def skylineMaxQueueDelayUs (flow : FlowState) (config : KernelConfig) : UInt64 :=
  if config.maxQueueDelayPermille = 0 then config.maxQueueDelayUs.toUInt64
  else maxT config.maxQueueDelayUs.toUInt64
    (skylineBaseRttUs flow * config.maxQueueDelayPermille.toUInt64 / 1000)

/-- `skyline_queue_delay_us`. -/
def skylineQueueDelayUs (tp : TcpSock) (flow : FlowState) : UInt64 :=
  let srtt := (tp.srttUs >>> 3).toUInt64
  let base := skylineBaseRttUs flow
  if srtt > base then srtt - base else 0

/-- `SKYLINE_LOSS_INFLATION_MAX_PERMILLE`. -/
def lossInflationMaxPermille : UInt32 := 500

/-- `skyline_loss_inflation_permille`. -/
def skylineLossInflationPermille (flow : FlowState) (config : KernelConfig) : UInt32 :=
  if !config.has featureLossClassifier then 1000
  else if config.lossInflationMaxPermille = 0 then 1000
  else
    let p := minT flow.lossRatePermille config.lossInflationMaxPermille
    let p := minT p lossInflationMaxPermille
    1000 * 1000 / (1000 - p)

/-- `skyline_sample_measures_path`. -/
def skylineSampleMeasuresPath (tp : TcpSock) (sample : RateSample) : Bool :=
  let srttUs := (tp.srttUs >>> 3).toUInt64
  srttUs == 0 || decide (sample.intervalUs.toUInt64 ≤ 2 * srttUs)

/-- `SKYLINE_SKB_DATA_ALIGN`: rounded up to a 64-byte cache line. -/
def skbDataAlign (x : UInt32) : UInt32 := (x + 63) &&& ~~~63

/-- `skyline_mark_app_limited`. -/
def skylineMarkAppLimited (K : Kernel) (tp : TcpSock) : TcpSock :=
  let queued := tp.skWmemAlloc - 1
  let truesizeOne := 1 + skbDataAlign K.sizeofSkBuff + skbDataAlign K.sizeofSkbSharedInfo
  if tp.writeSeq - tp.sndNxt ≥ tp.mssCache then tp
  else if queued ≥ truesizeOne.toInt32 then tp
  else
    let inFlight := tp.packetsOut - (tp.sackedOut + tp.lostOut) + tp.retransOut
    if inFlight ≥ tp.sndCwnd then tp
    else
      { tp with appLimited := if tp.delivered + inFlight ≠ 0 then tp.delivered + inFlight else 1 }

/-! ### `skyline_update_model` -/

/-- The windowed minimum of the RTT samples. -/
def updateMinRtt (config : KernelConfig) (sample : RateSample) (nowUs : UInt64)
    (flow : FlowState) : FlowState :=
  if sample.rttUs > 0 ∧ (flow.minRttUs = 0 ∨ sample.rttUs.toUInt64 < flow.minRttUs ∨
      nowUs - flow.minRttStampUs > config.minRttWindowUs.toUInt64) then
    { flow with minRttUs := sample.rttUs.toUInt64, minRttStampUs := nowUs }
  else flow

/-- The windowed minimum of the smoothed RTT. -/
def updateMinSrtt (config : KernelConfig) (tp : TcpSock) (nowUs : UInt64)
    (flow : FlowState) : FlowState :=
  let srtt := (tp.srttUs >>> 3).toUInt64
  if tp.srttUs > 0 ∧ (flow.minSrttUs = 0 ∨ srtt < flow.minSrttUs ∨
      nowUs - flow.minSrttStampUs > config.minRttWindowUs.toUInt64) then
    { flow with minSrttUs := srtt, minSrttStampUs := nowUs }
  else flow

/-- The largest of the first `window` entries of `bw_samples`. -/
def bwWindowMaximum (window : UInt32) (samples : Fin 10 → UInt64) : UInt64 :=
  (List.finRange 10).foldl (fun maximum offset =>
    if offset.val < window.toNat ∧ samples offset > maximum then samples offset else maximum) 0

/-- The bandwidth window takes the round that just ended, if it measured
anything; the second component is `measured_round`. -/
def updateBwWindow (config : KernelConfig) (newRound : Bool) (flow : FlowState) :
    FlowState × Bool :=
  if newRound ∧ flow.roundRateBps ≠ 0 then
    let samples : Fin 10 → UInt64 := Fin.cons flow.roundRateBps (Fin.init flow.bwSamples)
    ({ flow with
        bwSamples := samples
        roundRateBps := 0
        bwBps := bwWindowMaximum (minT config.bwWindowRtts 10) samples }, true)
  else (flow, false)

/-- The sample of this ACK, if it is accepted, enters the running maxima. -/
def acceptSample (tp : TcpSock) (sample : RateSample) (rateBps : UInt64)
    (flow : FlowState) : FlowState :=
  if rateBps ≠ 0 ∧ !sample.isAppLimited ∧ skylineSampleMeasuresPath tp sample ∧
      (flow.bwBps ≠ 0 ∨ !sample.isRetrans) then
    { flow with
      roundRateBps := if rateBps > flow.roundRateBps then rateBps else flow.roundRateBps
      bwBps := if rateBps > flow.bwBps then rateBps else flow.bwBps }
  else flow

/-- M3's loss-rate average, moved at a round end. -/
def updateLossRate (tp : TcpSock) (newRound : Bool) (flow : FlowState) : FlowState :=
  if newRound then
    let lostDelta := tp.lost - flow.lastLost
    let deliveredDelta := tp.delivered - flow.lastLossRateDelivered
    let total := lostDelta + deliveredDelta
    let samplePermille := if total ≠ 0 then 1000 * lostDelta / total else 0
    { flow with
      lossRatePermille := (flow.lossRatePermille * 3 + samplePermille) / 4
      lastLost := tp.lost
      lastLossRateDelivered := tp.delivered }
  else flow

/-- The end-of-`STARTUP` check of a round that ended: the plateau count moves
only on a round that measured something. -/
def updateStartup (config : KernelConfig) (measuredRound : Bool) (flow : FlowState) :
    FlowState × List Report :=
  if flow.mode = .startup then
    let flow :=
      if measuredRound then
        { flow with
          plateauRounds :=
            if flow.priorRoundBwBps ≠ 0 ∧ flow.bwBps * 1000 <
                flow.priorRoundBwBps * (1000 + config.startupGrowthPermille).toUInt64 then
              flow.plateauRounds + 1
            else 0 }
      else flow
    if flow.plateauRounds ≥ config.startupPlateauRtts ∨ flow.queueClamped then
      skylineTransition flow .cruise
    else (flow, [])
  else (flow, [])

/-- The once-per-round guardrail of M2, and the end of `STARTUP`. -/
def updateGuardrail (tp : TcpSock) (config : KernelConfig) (newRound measuredRound : Bool)
    (flow : FlowState) : FlowState × List Report :=
  if newRound ∧ config.has featureAdaptiveCwnd then
    let queueDelay := skylineQueueDelayUs tp flow
    let maxQueueDelay := skylineMaxQueueDelayUs flow config
    let freshCe := tp.deliveredCe != flow.lastDeliveredCe
    let flow := { flow with
      queueClamped := (maxQueueDelay != 0 && decide (queueDelay > maxQueueDelay)) || freshCe }
    let hits : List Report :=
      if flow.queueClamped then
        [.metric .guardrailHits 1, .emit (.guardrail flow.mode queueDelay maxQueueDelay)]
      else []
    let (flow, ended) := updateStartup config measuredRound flow
    ({ flow with priorRoundBwBps := flow.bwBps, lastDeliveredCe := tp.deliveredCe },
      .metric .guardrailRounds 1 :: hits ++ ended)
  else (flow, [])

/-- `skyline_update_model`. -/
def skylineUpdateModel (tp : TcpSock) (flow : FlowState) (config : KernelConfig)
    (sample : RateSample) (nowNs : UInt64) : FlowState × List Report :=
  let nowUs := nowNs / 1000
  let rateBps := skylineRateSampleBps tp sample
  let (flow, newRound) := skylineNewRound tp flow sample
  let flow := updateMinRtt config sample nowUs flow
  let flow := updateMinSrtt config tp nowUs flow
  let (flow, measuredRound) := updateBwWindow config newRound flow
  let flow := acceptSample tp sample rateBps flow
  let flow := updateLossRate tp newRound flow
  updateGuardrail tp config newRound measuredRound flow

end SkylineSpeeder
