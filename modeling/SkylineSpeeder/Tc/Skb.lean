import Mathlib.Tactic
import SkylineSpeeder.Word.Arith

/-!
What `skyline_tc.bpf.c` sees of a packet on its way out: `struct __sk_buff`, the bytes
between `data` and `data_end`, the socket, and the maps.

* `load8`, `load16`, `load32`: a read of the frame; `none` is a read outside of it, which
  the verifier rules out and no function here may come to;
* `Sock`, `SkBuff`: the socket a packet carries and the packet itself;
* `DscpConfig`, `DscpStats`, `RedundancyConfig`, `RedundancyStats`, `TcStats`: the map values;
* `bailout`: the one counter that the parser writes.

A halfword or word of the frame is its value in network order, so `bpf_ntohs` and
`bpf_htons` are not seen.
-/

namespace SkylineSpeeder.Tc

/-! ### Reads -/

/-- Two bytes in network order. -/
def be16 (hi lo : UInt8) : UInt16 := hi.toUInt16 <<< 8 ||| lo.toUInt16

/-- Four bytes in network order. -/
def be32 (b₀ b₁ b₂ b₃ : UInt8) : UInt32 :=
  b₀.toUInt32 <<< 24 ||| b₁.toUInt32 <<< 16 ||| b₂.toUInt32 <<< 8 ||| b₃.toUInt32

def load8 (data : List UInt8) (off : ℕ) : Option UInt8 := data[off]?

def load16 (data : List UInt8) (off : ℕ) : Option UInt16 := do
  let hi ← load8 data off
  let lo ← load8 data (off + 1)
  return be16 hi lo

def load32 (data : List UInt8) (off : ℕ) : Option UInt32 := do
  let b₀ ← load8 data off
  let b₁ ← load8 data (off + 1)
  let b₂ ← load8 data (off + 2)
  let b₃ ← load8 data (off + 3)
  return be32 b₀ b₁ b₂ b₃

variable (data : List UInt8) (off : ℕ)

/-- A read inside the frame. -/
lemma exists_load8 (h : off < data.length) : ∃ b, load8 data off = some b :=
  ⟨data[off], List.getElem?_eq_getElem h⟩

lemma exists_load16 (h : off + 2 ≤ data.length) : ∃ w, load16 data off = some w := by
  obtain ⟨hi, hhi⟩ := exists_load8 data off (by omega)
  obtain ⟨lo, hlo⟩ := exists_load8 data (off + 1) (by omega)
  exact ⟨be16 hi lo, by simp [load16, hhi, hlo]⟩

lemma exists_load32 (h : off + 4 ≤ data.length) : ∃ w, load32 data off = some w := by
  obtain ⟨b₀, h₀⟩ := exists_load8 data off (by omega)
  obtain ⟨b₁, h₁⟩ := exists_load8 data (off + 1) (by omega)
  obtain ⟨b₂, h₂⟩ := exists_load8 data (off + 2) (by omega)
  obtain ⟨b₃, h₃⟩ := exists_load8 data (off + 3) (by omega)
  exact ⟨be32 b₀ b₁ b₂ b₃, by simp [load32, h₀, h₁, h₂, h₃]⟩

/-! ### Sockets and packets -/

/-- What the programs read of a full TCP socket. -/
structure TcpSk where
  sndNxt : UInt32
  sndUna : UInt32
  bytesAcked : UInt64
  /-- `icsk_ca_ops->name`, `none` if there is no `icsk_ca_ops`. -/
  caName : Option (Fin 16 → UInt8)

/-- The socket of a packet: a request or time-wait socket, or a full one, which has a TCP
part if it is a TCP socket. -/
inductive Sock where
  | mini
  | full (tcp : Option TcpSk)

/-- `bpf_tcp_sock(bpf_sk_fullsock(sk))`, and `bpf_skc_to_tcp_sock(sk)`: both are NULL unless
the socket is a full TCP socket. -/
def Sock.tcp : Sock → Option TcpSk
  | .mini => none
  | .full tcp => tcp

/-- `struct __sk_buff`.  `data` is what lies between `data` and `data_end`; `len` counts
what is not in there as well. -/
structure SkBuff where
  data : List UInt8
  len : UInt32
  gsoSegs : UInt32
  sk : Option Sock
  cb0 : UInt32
  cb1 : UInt32
  tstamp : UInt64

/-! ### Maps -/

/-- `struct skyline_tc_stats`. -/
structure TcStats where
  packets : UInt64
  bytes : UInt64
  gsoPackets : UInt64
  deriving DecidableEq

/-- `struct skyline_retransmit_dscp_config`. -/
structure DscpConfig where
  abiVersion : UInt32
  enabled : UInt32
  dscpValue : UInt32
  deriving DecidableEq

/-- `struct skyline_retransmit_dscp_stats`. -/
structure DscpStats where
  packetsSeen : UInt64
  retransmitsDetected : UInt64
  retransmitsMarked : UInt64
  csumFixups : UInt64
  abiMismatch : UInt64
  ipv6Marked : UInt64
  ipv6ChainBailout : UInt64
  deriving DecidableEq

/-- `struct skyline_redundancy_config`. -/
structure RedundancyConfig where
  abiVersion : UInt32
  enabled : UInt32
  bytes : UInt32
  delayUs : UInt32
  deriving DecidableEq

/-- `struct skyline_redundancy_stats`. -/
structure RedundancyStats where
  packets : UInt64
  bytes : UInt64
  handshakes : UInt64
  cloneFailed : UInt64
  abiMismatch : UInt64
  deriving DecidableEq

/-- `stats->ipv6_chain_bailout++`, if there are stats. -/
def bailout (stats : Option DscpStats) : Option DscpStats :=
  stats.map fun s => { s with ipv6ChainBailout := s.ipv6ChainBailout + 1 }

end SkylineSpeeder.Tc
