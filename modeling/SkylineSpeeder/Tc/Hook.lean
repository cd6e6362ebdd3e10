import SkylineSpeeder.Tc.Mark

/-!
The egress hook: `skyline_tc_account` with first-flight redundancy, and the packets that
`bpf_clone_redirect` sends back through it.

* `Maps`, `Egress`: the maps, and what has left the device;
* `skylineRedundancyCopy`, `redundancySelects`, `skylineRedundancyDuplicate`: the copier,
  over a parameter for `bpf_clone_redirect`;
* `skylineTcAccount`: one pass of a packet;
* `cloneRedirect`, `transmit`: `bpf_clone_redirect` as it is, which sends a clone through
  the hook again, and a packet on its way out.
-/

namespace SkylineSpeeder.Tc

/-- `SKYLINE_REDUNDANCY_TAG`. -/
def redundancyTag : UInt32 := 0x5d0b1e5d

def retransmitDscpAbiVersion : UInt32 := 2
def redundancyAbiVersion : UInt32 := 1

/-- The value each `bpf_map_lookup_elem` finds; NULL is `none`. -/
structure Maps where
  tcStats : Option TcStats
  dscpConfig : Option DscpConfig
  dscpStats : Option DscpStats
  redundancyConfig : Option RedundancyConfig
  redundancyStats : Option RedundancyStats

/-- A packet that has left, and whether it was a clone. -/
structure Departure where
  skb : SkBuff
  clone : Bool

/-- The maps, and what has left so far, the newest last. -/
structure Egress where
  maps : Maps
  left : List Departure

/-- What a pass is told from outside: whether `bpf_clone_redirect` fails, and the clock. -/
structure Calls where
  refused : Bool
  nowNs : UInt64

/-! ### The copier -/

/-- `skyline_redundancy_copy`: the packet, if it was a copy. -/
def skylineRedundancyCopy (nowNs : UInt64) (skb : SkBuff) : Option SkBuff :=
  if skb.cb0 ≠ redundancyTag ∨ skb.sk.isSome then none
  else
    some { skb with
      cb0 := 0
      cb1 := 0
      tstamp := if skb.cb1 ≠ 0 then nowNs + skb.cb1.toUInt64 * 1000 else skb.tstamp }

/-- The bytes of `"skyline_cc"`, with the NUL at its end. -/
def skylineCcBytes : List UInt8 := [115, 107, 121, 108, 105, 110, 101, 95, 99, 99, 0]

/-- `skyline_runs_skyline_cc`. -/
def skylineRunsSkylineCc (tp : TcpSk) : Bool :=
  match tp.caName with
  | none => false
  | some name => (List.finRange 11).all fun i => name ⟨i, by omega⟩ = skylineCcBytes.getD i 0

/-- The tests of `skyline_redundancy_duplicate`: whether the packet is to be copied, and then
whether it is a handshake. -/
def redundancySelects (skb : SkBuff) (cfg : RedundancyConfig) : Option (Option Bool) := do
  match ← skylineDispatch skb.data none with
  | (none, _) => return none
  | (some found, _) =>
      if skb.data.length < found.l4Off.toNat + 20 then return none
      let tcp ← loadTcp skb.data found.l4Off.toNat
      match skb.sk with
      | none => return none
      | some sk =>
          if tcp.syn && tcp.ack then return some true
          match sk.tcp with
          | none => return none
          | some tp =>
              if !skylineRunsSkylineCc tp then return none
              if tcp.syn then return some true
              let headerLen := found.l4Off + tcp.doff.toUInt32 * 4
              if skb.len ≤ headerLen then return none
              if tp.bytesAcked + (tcp.seq - tp.sndUna).toUInt64 ≥ cfg.bytes.toUInt64 then
                return none
              return some false

/-- `skyline_redundancy_duplicate`; `send` is `bpf_clone_redirect`, which says whether it
failed. -/
def skylineRedundancyDuplicate (send : SkBuff → Egress → Option (Bool × Egress)) (skb : SkBuff)
    (cfg : RedundancyConfig) (e : Egress) : Option (SkBuff × Egress) := do
  match ← redundancySelects skb cfg with
  | none => return (skb, e)
  | some handshake =>
      let (refused, e) ← send { skb with cb0 := redundancyTag, cb1 := cfg.delayUs } e
      let count : RedundancyStats → RedundancyStats := fun s =>
        if refused then { s with cloneFailed := s.cloneFailed + 1 }
        else
          { s with
            packets := s.packets + 1
            bytes := s.bytes + skb.len.toUInt64
            handshakes := if handshake then s.handshakes + 1 else s.handshakes }
      return ({ skb with cb0 := 0, cb1 := 0 },
        { e with maps := { e.maps with redundancyStats := e.maps.redundancyStats.map count } })

/-! ### The hook -/

/-- The counters at the beginning of `skyline_tc_account`. -/
def countPacket (skb : SkBuff) (e : Egress) : Egress :=
  let count : TcStats → TcStats := fun s =>
    { packets := s.packets + 1
      bytes := s.bytes + skb.len.toUInt64
      gsoPackets := if skb.gsoSegs > 1 then s.gsoPackets + 1 else s.gsoPackets }
  { e with maps := { e.maps with tcStats := e.maps.tcStats.map count } }

/-- Retransmit marking, in `skyline_tc_account`. -/
def accountDscp (skb : SkBuff) (e : Egress) : Option (SkBuff × Egress) :=
  match e.maps.dscpConfig with
  | none => pure (skb, e)
  | some cfg =>
      if cfg.enabled = 0 then pure (skb, e)
      else if cfg.abiVersion ≠ retransmitDscpAbiVersion then
        let stats := e.maps.dscpStats.map fun s => { s with abiMismatch := s.abiMismatch + 1 }
        pure (skb, { e with maps := { e.maps with dscpStats := stats } })
      else do
        let (skb, stats) ← skylineCheckRetransmit skb cfg e.maps.dscpStats
        return (skb, { e with maps := { e.maps with dscpStats := stats } })

/-- Redundancy, in `skyline_tc_account`. -/
def accountRedundancy (send : SkBuff → Egress → Option (Bool × Egress)) (skb : SkBuff)
    (e : Egress) : Option (SkBuff × Egress) :=
  match e.maps.redundancyConfig with
  | none => pure (skb, e)
  | some cfg =>
      if cfg.enabled = 0 then pure (skb, e)
      else if cfg.abiVersion ≠ redundancyAbiVersion then
        pure (skb, { e with maps := { e.maps with
          redundancyStats :=
            e.maps.redundancyStats.map fun s => { s with abiMismatch := s.abiMismatch + 1 } } })
      else skylineRedundancyDuplicate send skb cfg e

/-- `skyline_tc_account`. -/
def skylineTcAccount (send : SkBuff → Egress → Option (Bool × Egress)) (nowNs : UInt64)
    (skb : SkBuff) (e : Egress) : Option (SkBuff × Egress) :=
  let e := countPacket skb e
  match skylineRedundancyCopy nowNs skb with
  | some copy => pure (copy, e)
  | none => do
      let (skb, e) ← accountDscp skb e
      accountRedundancy send skb e

/-! ### Packets on their way out -/

/-- A packet leaves. -/
def Egress.leave (e : Egress) (clone : Bool) (skb : SkBuff) : Egress :=
  { e with left := e.left ++ [⟨skb, clone⟩] }

/-- `bpf_clone_redirect` to the same device, so many levels deep at most: it fails, or it
sends a clone without a socket through the hook.  `calls` tells the passes by their depth. -/
def cloneRedirect : ℕ → (ℕ → Calls) → SkBuff → Egress → Option (Bool × Egress)
  | 0, _, _, e => pure (true, e)
  | depth + 1, calls, skb, e =>
      if (calls 0).refused then pure (true, e)
      else do
        let next := fun i => calls (i + 1)
        let (clone, e) ← skylineTcAccount (cloneRedirect depth next) (calls 1).nowNs
          { skb with sk := none } e
        return (false, e.leave true clone)

/-- A packet of the stack goes through the hook and leaves. -/
def transmit (depth : ℕ) (e : Egress) (packet : SkBuff × (ℕ → Calls)) : Option Egress := do
  let (skb, e) ← skylineTcAccount (cloneRedirect depth packet.2) (packet.2 0).nowNs packet.1 e
  return e.leave false skb

end SkylineSpeeder.Tc
