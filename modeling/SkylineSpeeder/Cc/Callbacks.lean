import SkylineSpeeder.Cc.Window

/-!
`bpf/skyline_cc.bpf.c`, the `struct tcp_congestion_ops` callbacks.

* `SockState`: a socket and its storage, which the first callback that asks for
  it creates (`skylineFlowGet`), unless the allocation fails;
* `skylineInit`, `skylineCongControl`, `skylineSsthresh`, `skylineUndoCwnd`,
  `skylineSetState`, `skylineTxStart`, `skylineCwndEvent`, `skylineRelease`: the
  callbacks;
* `Callback.exec`: any of them, from the socket and storage before it to the
  ones after it, what it returns and what it reports.

What a callback reads beside the socket is an argument: whether an allocation
succeeds, the clock, and shared memory (`ConfigRead`).
-/

namespace SkylineSpeeder

open Word (maxT)

/-- A socket and its `flow_states` storage. -/
structure SockState where
  sk : TcpSock
  storage : Option FlowState
  deriving DecidableEq

/-- `skyline_flow_get`: the storage, created zero if there is none yet and the
allocation succeeds. -/
def skylineFlowGet (storage : Option FlowState) (allocated : Bool) : Option FlowState :=
  match storage with
  | some flow => some flow
  | none => if allocated then some FlowState.zero else none

/-! ### `skyline_init` and `skyline_release` -/

/-- `skyline_init`. -/
def skylineInit (s : SockState) (allocated : Bool) (read : ConfigRead) (nowNs : UInt64) :
    SockState × List Report :=
  match skylineFlowGet s.storage allocated with
  | none => (s, [])
  | some flow =>
      let reports : List Report := if flow.counted then [] else [.flowCountAdd]
      let flow := { flow with counted := true }
      let (flow, adopted) := skylineAdoptConfig flow read
      if !adopted then ({ s with storage := some flow }, reports)
      else
        -- the initial window goes in first: the reset snapshots `snd_cwnd`
        let sk := if flow.config.initialCwndPackets ≠ 0 then
          s.sk.storeCwnd flow.config.initialCwndPackets else s.sk
        ({ sk := { sk with sndSsthresh := 0x7fffffff }
           storage := some (skylineResetGeneration flow sk nowNs) }, reports)

/-- `skyline_release`. -/
def skylineRelease (s : SockState) : SockState × List Report :=
  match s.storage with
  | none => (s, [])
  | some flow =>
      if !flow.counted then (s, [])
      else ({ s with storage := some { flow with counted := false } }, [.flowCountSub])

/-! ### `skyline_cong_control` -/

/-- What one `skyline_cong_control` call gets from the kernel beside the socket:
its arguments, shared memory (`seqNow` is the read of `config_seq` at a round
end) and the clock at each of its reads. -/
structure AckInput where
  ack : UInt32
  flag : UInt32
  sample : RateSample
  seqNow : Option UInt32
  read : ConfigRead
  resetNs : UInt64
  modelNs : UInt64
  growNs : UInt64
  deriving DecidableEq, Repr

/-- The ACK that brings `sample` while `config` is out under number 1, for concrete
runs. -/
def AckInput.of (sample : RateSample) (config : KernelConfig) : AckInput where
  ack := 0
  flag := 0
  sample := sample
  seqNow := some 1
  read := .of config 1
  resetNs := 2000000
  modelNs := 2000000
  growNs := 2000000

/-- The first part of `skyline_cong_control`: a flow without a configuration
takes one, a flow at a round end takes a newer one, and either starts its model
over.  `none` is a flow still without a configuration. -/
def congControlAdopt (sk : TcpSock) (flow : FlowState) (input : AckInput) :
    Option (FlowState × List Report) :=
  if !skylineHasConfig flow then
    let (flow, adopted) := skylineAdoptConfig flow input.read
    if !adopted then none
    else some (skylineResetGeneration flow sk input.resetNs, [])
  else if skylineRoundReached input.sample flow.nextRoundDelivered then
    if input.seqNow.isSome ∧ input.seqNow ≠ some flow.configSeq then
      let (taken, adopted) := skylineAdoptConfig flow input.read
      if adopted then
        some (skylineResetGeneration taken sk input.resetNs,
          [.emit (.generationSwitch flow.mode flow.config.generation taken.config.generation)])
      else some (flow, [])
    else some (flow, [])
  else some (flow, [])

/-- The loss bookkeeping of `skyline_cong_control`. -/
def recordLoss (sk : TcpSock) (flow : FlowState) (sample : RateSample) :
    FlowState × List Report :=
  if sample.losses > 0 ∧ sk.delivered ≠ flow.lastLossDelivered then
    ({ flow with lastLossDelivered := sk.delivered },
      .metric .lossEvents 1 ::
        (if flow.config.has featureEarlyLoss then [.metric .hypotheticalEarlyLoss 1] else [])
        ++ [.emit (.loss flow.mode sample.losses)])
  else (flow, [])

/-- The window of one ACK: M2's target in every CA state, or PRR in `CWR` and
`Recovery` and growth elsewhere. -/
def setWindow (K : Kernel) (sk : TcpSock) (flow : FlowState) (input : AckInput) :
    TcpSock × FlowState × List Report :=
  let config := flow.config
  if config.has featureAdaptiveCwnd then
    (skylineSetCwndTarget K sk flow config input.sample.ackedSacked
      (sk.icskCaState = .loss), flow, [])
  else if sk.icskCaState = .cwr ∨ sk.icskCaState = .recovery then
    if config.has featurePrr then skylineApplyPrr sk flow input.sample input.flag
    else (sk, flow, [])
  else
    let (sk, flow) := skylineGrowCwnd K sk flow config input.sample.ackedSacked input.growNs
    (sk, flow, [])

/-- The second part of `skyline_cong_control`, on a flow with a configuration. -/
def congControlRun (K : Kernel) (sk : TcpSock) (flow : FlowState) (input : AckInput) :
    TcpSock × FlowState × List Report :=
  let config := flow.config
  let (flow, modelReports) := skylineUpdateModel sk flow config input.sample input.modelNs
  let (flow, lossReports) := recordLoss sk flow input.sample
  let (sk, pacingReports) := skylineApplyPacing sk flow config
  let (sk, flow, windowReports) := setWindow K sk flow input
  let sk := if config.has (featureAdaptiveCwnd ||| featurePacing) then
    skylineMarkAppLimited K sk else sk
  let capReports : List Report :=
    if config.maxCwndPackets ≠ 0 ∧ sk.sndCwnd ≥ config.maxCwndPackets then
      [.metric .cwndCapHits 1] else []
  (sk, flow, modelReports ++ lossReports ++ pacingReports ++ windowReports ++
    [.metric .ackEvents 1,
      .metric .deliveredPackets (maxT input.sample.delivered 0).toInt64.toUInt64] ++ capReports)

/-- `skyline_cong_control`. -/
def skylineCongControl (K : Kernel) (s : SockState) (allocated : Bool) (input : AckInput) :
    SockState × List Report :=
  match skylineFlowGet s.storage allocated with
  | none => (s, [])
  | some flow =>
      match congControlAdopt s.sk flow input with
      | none =>
          ({ sk := K.renoCongAvoid s.sk input.ack input.sample.ackedSacked
             storage := some flow }, [])
      | some (flow, switched) =>
          let (sk, flow, reports) := congControlRun K s.sk flow input
          ({ sk := sk, storage := some flow }, switched ++ reports)

/-! ### The CA state callbacks -/

/-- `tp->snd_cwnd * SKYLINE_CUBIC_BETA_PERMILLE / 1000U`, in 32 bits, at least 2. -/
def cubicBetaCut (cwnd : UInt32) : UInt32 := maxT (cwnd * 700 / 1000) 2

/-- `skyline_ssthresh`. -/
def skylineSsthresh (s : SockState) (allocated : Bool) : SockState × UInt32 :=
  match skylineFlowGet s.storage allocated with
  | none => (s, cubicBetaCut s.sk.sndCwnd)
  | some flow =>
      if !skylineHasConfig flow then
        ({ s with storage := some flow }, cubicBetaCut s.sk.sndCwnd)
      else
        let flow := { flow with
          priorCwnd := s.sk.sndCwnd, wMax := s.sk.sndCwnd, epochStartNs := 0 }
        ({ s with storage := some flow },
          if flow.config.has featureAdaptiveCwnd then maxT s.sk.sndCwnd 2
          else cubicBetaCut s.sk.sndCwnd)

/-- `skyline_undo_cwnd`. -/
def skylineUndoCwnd (K : Kernel) (s : SockState) (allocated : Bool) :
    SockState × UInt32 × List Report :=
  let reno := K.tcpRenoUndoCwnd s.sk
  match skylineFlowGet s.storage allocated with
  | none => (s, reno, [])
  | some flow =>
      let restored := maxT flow.priorCwnd reno
      ({ s with storage := some flow }, restored,
        [.emit (.undoCwnd flow.mode flow.priorCwnd restored)])

/-- The branch of `skyline_set_state` for `Open` and `Disorder`: the end of a reduction,
if one was open, and without M2 the snap to `snd_ssthresh`. -/
def endReduction (s : SockState) (flow : FlowState) : SockState :=
  if !flow.recoveryActive then { s with storage := some flow }
  else
    let flow := { flow with recoveryActive := false }
    if skylineHasConfig flow ∧ !flow.config.has featureAdaptiveCwnd then
      { sk := s.sk.storeCwnd (maxT s.sk.sndSsthresh skylineMinCwndFloor)
        storage := some flow }
    else { s with storage := some flow }

/-- `skyline_set_state`. -/
def skylineSetState (s : SockState) (allocated : Bool) (newState : CaState) : SockState :=
  match skylineFlowGet s.storage allocated with
  | none => s
  | some flow =>
      match newState with
      | .loss => { s with storage := some { flow with recoveryActive := true } }
      | .recovery | .cwr =>
          { s with storage := some { flow with prrDelivered := 0, recoveryActive := true } }
      | .opened | .disorder => endReduction s flow

/-- `skyline_tx_start`. -/
def skylineTxStart (s : SockState) (allocated : Bool) (nowNs : UInt64) : SockState :=
  match skylineFlowGet s.storage allocated with
  | none => s
  | some flow => { s with storage := some { flow with epochStartNs := nowNs } }

/-- `skyline_cwnd_event`; `txStart` is `event == CA_EVENT_TX_START`. -/
def skylineCwndEvent (s : SockState) (txStart allocated : Bool) (nowNs : UInt64) : SockState :=
  if txStart then skylineTxStart s allocated nowNs else s

/-! ### Any callback -/

/-- A callback with what it reads beside the socket and its storage. -/
inductive Callback where
  | init (allocated : Bool) (read : ConfigRead) (nowNs : UInt64)
  | congControl (allocated : Bool) (input : AckInput)
  | ssthresh (allocated : Bool)
  | undoCwnd (allocated : Bool)
  | setState (allocated : Bool) (newState : CaState)
  | cwndEvent (txStart allocated : Bool) (nowNs : UInt64)
  | cwndEventTxStart (allocated : Bool) (nowNs : UInt64)
  | release
  deriving DecidableEq, Repr

/-- What a callback leaves: the socket and storage, the value it returns to the
kernel (`ssthresh` and `undo_cwnd`), and its reports. -/
structure Outcome where
  state : SockState
  result : Option UInt32
  reports : List Report

/-- One callback.  No window has been stored when it starts. -/
def Callback.exec (K : Kernel) (callback : Callback) (s : SockState) : Outcome :=
  let s := { s with sk := { s.sk with cwndStored := false } }
  match callback with
  | .init allocated read nowNs =>
      let (s, reports) := skylineInit s allocated read nowNs
      ⟨s, none, reports⟩
  | .congControl allocated input =>
      let (s, reports) := skylineCongControl K s allocated input
      ⟨s, none, reports⟩
  | .ssthresh allocated =>
      let (s, result) := skylineSsthresh s allocated
      ⟨s, some result, []⟩
  | .undoCwnd allocated =>
      let (s, result, reports) := skylineUndoCwnd K s allocated
      ⟨s, some result, reports⟩
  | .setState allocated newState => ⟨skylineSetState s allocated newState, none, []⟩
  | .cwndEvent txStart allocated nowNs => ⟨skylineCwndEvent s txStart allocated nowNs, none, []⟩
  | .cwndEventTxStart allocated nowNs => ⟨skylineTxStart s allocated nowNs, none, []⟩
  | .release =>
      let (s, reports) := skylineRelease s
      ⟨s, none, reports⟩

end SkylineSpeeder
