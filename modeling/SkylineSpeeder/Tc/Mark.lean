import SkylineSpeeder.Tc.Parse
import SkylineSpeeder.Word.Ones

/-!
Retransmit marking in `skyline_tc.bpf.c`: the two markers, the test for a retransmission and
`skyline_check_retransmit`.

* `newTos`, `newVtc`: the rewritten type of service and the rewritten first halfword of an
  IPv6 header, and what of their bits is kept (`newTos_ecn`, `newVtc_high`, `newVtc_low`),
  set (`newTos_dscp`, `newVtc_dscp`) and stable under a second rewrite;
* `skylineMarkDscpV4`, `skylineMarkDscpV6`: the markers;
* `Found`, `skylineDispatch`: the choice of the parser, shared with the copier;
* `TcpHdr`, `skylineIsRetransmit`, `skylineCheckRetransmit`: the rest.
-/

namespace SkylineSpeeder.Tc

/-! ### Writes -/

def highByte (w : UInt16) : UInt8 := (w >>> 8).toUInt8
def lowByte (w : UInt16) : UInt8 := w.toUInt8

/-- `bpf_skb_store_bytes` of a halfword. -/
def store16 (data : List UInt8) (off : ℕ) (w : UInt16) : List UInt8 :=
  (data.set off (highByte w)).set (off + 1) (lowByte w)

lemma be16_bytes (w : UInt16) : be16 (highByte w) (lowByte w) = w := by
  apply UInt16.eq_of_toBitVec_eq
  ext i hi
  interval_cases i <;> simp [be16, highByte, lowByte, -UInt16.toUInt16_toUInt8]

lemma highByte_be16 (hi lo : UInt8) : highByte (be16 hi lo) = hi := by
  apply UInt8.eq_of_toBitVec_eq
  ext i hi
  interval_cases i <;> simp [be16, highByte]

lemma lowByte_be16 (hi lo : UInt8) : lowByte (be16 hi lo) = lo := by
  apply UInt8.eq_of_toBitVec_eq
  ext i hi
  interval_cases i <;> simp [be16, lowByte]

/-- The halfword the checksum of a rewritten type of service is made with. -/
lemma be16_lowByte (hi lo lo' : UInt8) :
    (be16 hi lo &&& 0xff00) ||| lo'.toUInt16 = be16 hi lo' := by
  apply UInt16.eq_of_toBitVec_eq
  ext i hi
  interval_cases i <;> simp [be16]

/-! ### The DSCP bits -/

/-- `new_tos`: the upper six bits are the codepoint. -/
def newTos (dscpValue : UInt32) (oldTos : UInt8) : UInt8 :=
  ((oldTos.toUInt32 &&& 0x03) ||| ((dscpValue &&& 0x3f) <<< (2 : UInt32))).toUInt8

/-- `new_vtc`: bits 6 to 11 are the codepoint. -/
def newVtc (dscpValue : UInt32) (vtc : UInt16) : UInt16 :=
  (vtc &&& 0xf03f) ||| ((dscpValue &&& 0x3f).toUInt16 <<< (6 : UInt16))

section Bits

variable (dscpValue : UInt32)

lemma newTos_ecn (tos : UInt8) : newTos dscpValue tos &&& 0x03 = tos &&& 0x03 := by
  apply UInt8.eq_of_toBitVec_eq
  ext i hi
  interval_cases i <;> simp [newTos]

lemma newTos_dscp (tos : UInt8) : newTos dscpValue tos >>> 2 = (dscpValue &&& 0x3f).toUInt8 := by
  apply UInt8.eq_of_toBitVec_eq
  ext i hi
  interval_cases i <;> simp [newTos]

/-- Only the ECN bits of the old value matter. -/
lemma newTos_congr {tos tos' : UInt8} (h : tos &&& 0x03 = tos' &&& 0x03) :
    newTos dscpValue tos = newTos dscpValue tos' := by
  have hwide : ∀ t : UInt8, t.toUInt32 &&& 0x03 = (t &&& 0x03).toUInt32 := fun t => by
    rw [UInt8.toUInt32_and]
    rfl
  rw [newTos, newTos, hwide, hwide, h]

lemma newTos_newTos (tos : UInt8) :
    newTos dscpValue (newTos dscpValue tos) = newTos dscpValue tos :=
  newTos_congr dscpValue (newTos_ecn dscpValue tos)

lemma newVtc_high (hi lo : UInt8) :
    highByte (newVtc dscpValue (be16 hi lo)) &&& 0xf0 = hi &&& 0xf0 := by
  apply UInt8.eq_of_toBitVec_eq
  ext i hi
  interval_cases i <;> simp [be16, highByte, newVtc]

lemma newVtc_low (hi lo : UInt8) :
    lowByte (newVtc dscpValue (be16 hi lo)) &&& 0x3f = lo &&& 0x3f := by
  apply UInt8.eq_of_toBitVec_eq
  ext i hi
  interval_cases i <;> simp [be16, lowByte, newVtc]

lemma newVtc_dscp (vtc : UInt16) :
    ((highByte (newVtc dscpValue vtc) &&& 0x0f) <<< (2 : UInt8)) |||
      (lowByte (newVtc dscpValue vtc) >>> 6) = (dscpValue &&& 0x3f).toUInt8 := by
  apply UInt8.eq_of_toBitVec_eq
  ext i hi
  interval_cases i <;> simp [highByte, lowByte, newVtc]

lemma newVtc_newVtc (vtc : UInt16) :
    newVtc dscpValue (newVtc dscpValue vtc) = newVtc dscpValue vtc := by
  apply UInt16.eq_of_toBitVec_eq
  ext i hi
  interval_cases i <;> simp [newVtc]

end Bits

/-! ### The markers -/

/-- `bpf_l3_csum_replace` of a halfword: the incremental update of RFC 1624. -/
def bpfL3CsumReplace (data : List UInt8) (off : ℕ) (old new : UInt16) : Option (List UInt8) := do
  let check ← load16 data off
  return store16 data off (Word.incremental check old new)

/-- `skyline_mark_dscp_v4`: whether the checksum was fixed up, and the frame. -/
def skylineMarkDscpV4 (data : List UInt8) (dscpValue : UInt32) (oldTos : UInt8)
    (oldHw : UInt16) : Option (Bool × List UInt8) :=
  if newTos dscpValue oldTos = oldTos then pure (false, data)
  else do
    let newHw := (oldHw &&& 0xff00) ||| (newTos dscpValue oldTos).toUInt16
    let data ← bpfL3CsumReplace data (14 + 10) oldHw newHw
    return (true, data.set (14 + 1) (newTos dscpValue oldTos))

/-- `skyline_mark_dscp_v6`. -/
def skylineMarkDscpV6 (data : List UInt8) (dscpValue : UInt32) : Option (List UInt8) :=
  if data.length < 14 + 2 then pure data
  else do
    let vtc ← load16 data 14
    if newVtc dscpValue vtc = vtc then return data
    return store16 data 14 (newVtc dscpValue vtc)

/-! ### Where the TCP header is -/

/-- What the parsers found. -/
inductive Found where
  | ipv4 (found : Ipv4Found)
  | ipv6 (l4Off : UInt32)
  deriving DecidableEq

def Found.l4Off : Found → UInt32
  | .ipv4 found => found.l4Off
  | .ipv6 l4Off => l4Off

/-- The choice of the parser by the ethertype, at the beginning of
`skyline_check_retransmit` and of `skyline_redundancy_duplicate`. -/
def skylineDispatch (data : List UInt8) (stats : Option DscpStats) :
    Option (Option Found × Option DscpStats) :=
  if data.length < 14 then pure (none, stats)
  else do
    let proto ← load16 data 12
    if proto = ethPIp then
      let found ← skylineParseIpv4 data
      return (found.map .ipv4, stats)
    else if proto = ethPIpv6 then
      -- `l4_off` is not initialised
      let (accepted, l4Off, stats) ← skylineParseIpv6 data 0 stats
      return (if accepted then some (.ipv6 l4Off) else none, stats)
    else return (none, stats)

/-- What is read of a `struct tcphdr`. -/
structure TcpHdr where
  seq : UInt32
  doff : UInt8
  fin : Bool
  syn : Bool
  ack : Bool
  deriving DecidableEq

def loadTcp (data : List UInt8) (off : ℕ) : Option TcpHdr := do
  let seq ← load32 data (off + 4)
  let doff ← load8 data (off + 12)
  let flags ← load8 data (off + 13)
  return ⟨seq, doff >>> 4, flags &&& 0x01 ≠ 0, flags &&& 0x02 ≠ 0, flags &&& 0x10 ≠ 0⟩

/-! ### The check -/

/-- `skyline_is_retransmit`. -/
def skylineIsRetransmit (skb : SkBuff) (l4Off : UInt32) (stats : Option DscpStats) :
    Option (Bool × Option DscpStats) :=
  if skb.data.length < l4Off.toNat + 20 then pure (false, stats)
  else do
    let stats := stats.map fun s => { s with packetsSeen := s.packetsSeen + 1 }
    let tcp ← loadTcp skb.data l4Off.toNat
    let headerLen := l4Off + tcp.doff.toUInt32 * 4
    let payload := if skb.len > headerLen then skb.len - headerLen else 0
    let endSeq := tcp.seq + payload + tcp.syn.toUInt32 + tcp.fin.toUInt32
    if endSeq = tcp.seq then return (false, stats)
    match skb.sk.bind Sock.tcp with
    | none => return (false, stats)
    | some tp =>
        if (endSeq - tp.sndNxt).toInt32 > 0 then return (false, stats)
        return (true, stats.map fun s =>
          { s with retransmitsDetected := s.retransmitsDetected + 1 })

/-- `skyline_check_retransmit`. -/
def skylineCheckRetransmit (skb : SkBuff) (cfg : DscpConfig) (stats : Option DscpStats) :
    Option (SkBuff × Option DscpStats) := do
  match ← skylineDispatch skb.data stats with
  | (none, stats) => return (skb, stats)
  | (some found, stats) =>
      let (retransmit, stats) ← skylineIsRetransmit skb found.l4Off stats
      if !retransmit then return (skb, stats)
      if cfg.enabled = 0 then return (skb, stats)
      let stats := stats.map fun s => { s with retransmitsMarked := s.retransmitsMarked + 1 }
      match found with
      | .ipv6 _ =>
          let data ← skylineMarkDscpV6 skb.data cfg.dscpValue
          return ({ skb with data := data },
            stats.map fun s => { s with ipv6Marked := s.ipv6Marked + 1 })
      | .ipv4 found =>
          let (fixed, data) ← skylineMarkDscpV4 skb.data cfg.dscpValue found.oldTos found.oldHw
          return ({ skb with data := data },
            if fixed then stats.map fun s => { s with csumFixups := s.csumFixups + 1 } else stats)

end SkylineSpeeder.Tc
