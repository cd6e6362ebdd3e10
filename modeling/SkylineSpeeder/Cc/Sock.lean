import SkylineSpeeder.Word.Arith

/-!
The kernel side `bpf/skyline_cc.bpf.c` sees: the socket, the rate sample of an
ACK and the kernel functions it calls.

* `TcpSock`: the fields of `struct tcp_sock`, and of the `struct sock` and
  `struct inet_connection_sock` it starts with, that the congestion control
  reads or writes, or that the kernel functions below read;
* `RateSample`: the fields of `struct rate_sample` it reads;
* `Kernel`: the kernel functions it calls (`__ksym`), which this repository does
  not contain: parameters of every callback below.  Each returns the fields it
  writes, so that what it leaves alone is left alone by construction.
  `Kernel.linux` holds the functions of a mainline kernel, for concrete runs.
-/

namespace SkylineSpeeder

open Word (minT maxT)

/-- `enum tcp_ca_state`. -/
inductive CaState where
  | opened | disorder | cwr | recovery | loss
  deriving DecidableEq, Repr

/-- A TCP socket.  `cwndStored` is a ghost: whether the callback now running
has stored a window of its own to `snd_cwnd`. -/
structure TcpSock where
  sndCwnd : UInt32
  sndSsthresh : UInt32
  sndCwndCnt : UInt32
  sndCwndClamp : UInt32
  priorCwnd : UInt32
  srttUs : UInt32
  delivered : UInt32
  deliveredCe : UInt32
  lost : UInt32
  appLimited : UInt32
  packetsOut : UInt32
  sackedOut : UInt32
  lostOut : UInt32
  retransOut : UInt32
  prrOut : UInt32
  maxPacketsOut : UInt32
  isCwndLimited : Bool
  mssCache : UInt32
  writeSeq : UInt32
  sndNxt : UInt32
  icskCaState : CaState
  skWmemAlloc : Int32
  skPacingRate : UInt64
  skMaxPacingRate : UInt64
  skPacingStatus : UInt32
  cwndStored : Bool
  deriving DecidableEq, Repr

/-- `SK_PACING_NEEDED` (`enum sk_pacing`). -/
def skPacingNeeded : UInt32 := 1

namespace TcpSock

/-- A store to `tp->snd_cwnd` by the callback now running. -/
def storeCwnd (tp : TcpSock) (cwnd : UInt32) : TcpSock :=
  { tp with sndCwnd := cwnd, cwndStored := true }

/-- `if (max_cwnd_packets && snd_cwnd > max_cwnd_packets) snd_cwnd = max_cwnd_packets`,
the cap as each growth path applies it. -/
def capCwnd (tp : TcpSock) (maxCwndPackets : UInt32) : TcpSock :=
  if maxCwndPackets ≠ 0 ∧ tp.sndCwnd > maxCwndPackets then tp.storeCwnd maxCwndPackets else tp

/-- `if (snd_cwnd < least) snd_cwnd = least`. -/
def floorCwnd (tp : TcpSock) (least : UInt32) : TcpSock :=
  if tp.sndCwnd < least then tp.storeCwnd least else tp

end TcpSock

/-- `struct rate_sample`. -/
structure RateSample where
  priorMstamp : UInt64
  priorDelivered : UInt32
  delivered : Int32
  intervalUs : Int64
  rttUs : Int64
  losses : Int32
  ackedSacked : UInt32
  isAppLimited : Bool
  isRetrans : Bool
  deriving DecidableEq, Repr

/-- The kernel functions and type sizes the program is linked against. -/
structure Kernel where
  /-- The new `snd_cwnd`, and what is left of `acked`. -/
  tcpSlowStart : TcpSock → UInt32 → UInt32 × UInt32
  /-- The new `snd_cwnd` and `snd_cwnd_cnt`. -/
  tcpCongAvoidAi : TcpSock → UInt32 → UInt32 → UInt32 × UInt32
  tcpRenoUndoCwnd : TcpSock → UInt32
  /-- The new `snd_cwnd` and `snd_cwnd_cnt`. -/
  tcpRenoCongAvoid : TcpSock → UInt32 → UInt32 → UInt32 × UInt32
  sizeofSkBuff : UInt32
  sizeofSkbSharedInfo : UInt32

namespace Kernel

/-- `tcp_slow_start(tp, acked)`. -/
def slowStart (K : Kernel) (tp : TcpSock) (acked : UInt32) : TcpSock × UInt32 :=
  (tp.storeCwnd (K.tcpSlowStart tp acked).1, (K.tcpSlowStart tp acked).2)

/-- `tcp_cong_avoid_ai(tp, w, acked)`. -/
def congAvoidAi (K : Kernel) (tp : TcpSock) (w acked : UInt32) : TcpSock :=
  { tp.storeCwnd (K.tcpCongAvoidAi tp w acked).1 with
    sndCwndCnt := (K.tcpCongAvoidAi tp w acked).2 }

/-- `tcp_reno_cong_avoid(sk, ack, acked)`: the kernel's own growth, so not a
store of the callback. -/
def renoCongAvoid (K : Kernel) (tp : TcpSock) (ack acked : UInt32) : TcpSock :=
  { tp with
    sndCwnd := (K.tcpRenoCongAvoid tp ack acked).1
    sndCwndCnt := (K.tcpRenoCongAvoid tp ack acked).2 }

/-! The functions as `net/ipv4/tcp_cong.c` defines them, for concrete runs. -/

/-- `tcp_slow_start`. -/
def linuxSlowStart (tp : TcpSock) (acked : UInt32) : UInt32 × UInt32 :=
  let cwnd := minT (tp.sndCwnd + acked) tp.sndSsthresh
  (minT cwnd tp.sndCwndClamp, acked - (cwnd - tp.sndCwnd))

/-- `tcp_cong_avoid_ai`. -/
def linuxCongAvoidAi (tp : TcpSock) (w acked : UInt32) : UInt32 × UInt32 :=
  let (cwnd, count) := if tp.sndCwndCnt ≥ w then (tp.sndCwnd + 1, 0)
    else (tp.sndCwnd, tp.sndCwndCnt)
  let count := count + acked
  let delta := count / w
  (minT (cwnd + delta) tp.sndCwndClamp, count - delta * w)

/-- `tcp_reno_cong_avoid`. -/
def linuxRenoCongAvoid (tp : TcpSock) (acked : UInt32) : UInt32 × UInt32 :=
  if !tp.isCwndLimited then (tp.sndCwnd, tp.sndCwndCnt)
  else if tp.sndCwnd < tp.sndSsthresh then
    let (cwnd, acked) := linuxSlowStart tp acked
    if acked = 0 then (cwnd, tp.sndCwndCnt)
    else linuxCongAvoidAi { tp with sndCwnd := cwnd } cwnd acked
  else linuxCongAvoidAi tp tp.sndCwnd acked

/-- The kernel's own functions and, on a 64-bit build, its type sizes. -/
def linux : Kernel where
  tcpSlowStart := linuxSlowStart
  tcpCongAvoidAi := linuxCongAvoidAi
  tcpRenoUndoCwnd := fun tp => maxT tp.sndCwnd tp.priorCwnd
  tcpRenoCongAvoid := fun tp _ acked => linuxRenoCongAvoid tp acked
  sizeofSkBuff := 232
  sizeofSkbSharedInfo := 320

end Kernel

/-- A connection right after its handshake, for concrete runs. -/
def TcpSock.established : TcpSock where
  sndCwnd := 10
  sndSsthresh := 0x7fffffff
  sndCwndCnt := 0
  sndCwndClamp := 0xffffffff
  priorCwnd := 0
  srttUs := 0
  delivered := 1
  deliveredCe := 0
  lost := 0
  appLimited := 0
  packetsOut := 0
  sackedOut := 0
  lostOut := 0
  retransOut := 0
  prrOut := 0
  maxPacketsOut := 0
  isCwndLimited := true
  mssCache := 1448
  writeSeq := 1
  sndNxt := 1
  icskCaState := .opened
  skWmemAlloc := 1
  skPacingRate := 0
  skMaxPacingRate := 0xffffffffffffffff
  skPacingStatus := 0
  cwndStored := false

/-- The sample of an ACK for ten new segments after 40 ms, for concrete runs. -/
def RateSample.tenSegments : RateSample where
  priorMstamp := 1000
  priorDelivered := 1
  delivered := 10
  intervalUs := 40000
  rttUs := 40000
  losses := 0
  ackedSacked := 10
  isAppLimited := false
  isRetrans := false

end SkylineSpeeder
