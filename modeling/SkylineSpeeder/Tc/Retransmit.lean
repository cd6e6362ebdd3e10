import SkylineSpeeder.Machine.Run
import SkylineSpeeder.Tc.Marked
import SkylineSpeeder.Tc.Pass

/-!
Retransmit marking marks exactly the retransmissions and changes nothing else.

* `span`, `resends`, `isRetransmit_eq`, `resends_iff`: the test, and what it says in
  unbounded stream offsets;
* `TcpFrame`, `checkRetransmit_eq`, `Checked`, `checkRetransmit_cases`: what
  `skyline_check_retransmit` does to a TCP frame, and to any frame;
* `retransmit_marking_exact`: the main result, over every frame and every run.
-/

namespace SkylineSpeeder.Tc

open Word

variable {data : List UInt8}

/-! ### The test for a retransmission -/

/-- The sequence numbers a segment takes up: its payload, as `skb->len` gives it, and a SYN
and a FIN. -/
def span (skb : SkBuff) (l4Off : UInt32) (tcp : TcpHdr) : ℕ :=
  (skb.len.toNat - (l4Off.toNat + tcp.doff.toNat * 4)) + tcp.syn.toNat + tcp.fin.toNat

/-- The data offset is four bits wide. -/
lemma loadTcp_doff_lt {off : ℕ} {tcp : TcpHdr} (h : loadTcp data off = some tcp) :
    tcp.doff.toNat < 16 := by
  simp only [loadTcp, Option.bind_eq_bind, Option.bind_eq_some_iff] at h
  obtain ⟨seq, -, doff, -, flags, -, h⟩ := h
  obtain rfl := Option.some.inj h
  have := doff.toNat_lt
  show (doff >>> 4).toNat < 16
  rw [UInt8.toNat_shiftRight, Nat.shiftRight_eq_div_pow]
  simp only [UInt8.reduceToNat, Nat.reduceMod, Nat.reducePow]
  omega

/-- The TCP header starts within the first 150 bytes. -/
lemma Accepts.l4Off_le {found : Found} (h : Accepts data found) : found.l4Off.toNat ≤ 150 := by
  cases found with
  | ipv4 f =>
      obtain ⟨versionIhl, -, -, hl4, -⟩ := (accepts_ipv4_iff.mp h).header
      have hlt : (versionIhl &&& 0x0f).toNat ≤ 15 := by
        rw [UInt8.toNat_and]
        exact Nat.and_le_right
      have heth : ethHlen.toNat = 14 := rfl
      show f.l4Off.toNat ≤ 150
      rw [hl4, UInt32.toNat_add, UInt32.toNat_mul, UInt8.toNat_toUInt32, heth]
      simp only [UInt32.reduceToNat]
      omega
  | ipv6 l4Off =>
      obtain ⟨-, -, nexthdr, -, hwalk⟩ := accepts_ipv6_iff.mp h
      obtain ⟨found, hfound, hiff⟩ := extensionWalk_spec data ipv6MaxExtHdrs nexthdr
        (ethHlen + 40) (by decide)
      obtain ⟨hdrlens, hchain, -, hl4⟩ :=
        (hiff l4Off).mp (Option.some.inj (hfound.symm.trans hwalk))
      exact hl4 ▸ hchain.end_le (by decide)

/-- The segment ends no later than what was sent before it, by the code's comparison. -/
def resends (skb : SkBuff) (l4Off : UInt32) (tcp : TcpHdr) : Bool :=
  span skb l4Off tcp ≠ 0 && (skb.sk.bind Sock.tcp).any fun tp =>
    ¬ 0 < (tcp.seq + UInt32.ofNat (span skb l4Off tcp) - tp.sndNxt).toInt32

section Test

variable {skb : SkBuff} {found : Found} {tcp : TcpHdr}

/-- `end_seq`, and that it is `seq` only if the segment takes up nothing. -/
lemma endSeq_eq (skb : SkBuff) {l4Off : UInt32} (hge : 26 ≤ l4Off.toNat) (hle : l4Off.toNat ≤ 150)
    (hdoff : tcp.doff.toNat < 16) :
    (tcp.seq + (if skb.len > l4Off + tcp.doff.toUInt32 * 4 then
        skb.len - (l4Off + tcp.doff.toUInt32 * 4) else 0) + tcp.syn.toUInt32 + tcp.fin.toUInt32 =
      tcp.seq + UInt32.ofNat (span skb l4Off tcp)) ∧ span skb l4Off tcp < 2 ^ 32 := by
  have hlen := skb.len.toNat_lt
  have hsyn : tcp.syn.toUInt32.toNat = tcp.syn.toNat := by cases tcp.syn <;> rfl
  have hfin : tcp.fin.toUInt32.toNat = tcp.fin.toNat := by cases tcp.fin <;> rfl
  have hsynle := Bool.toNat_le tcp.syn
  have hfinle := Bool.toNat_le tcp.fin
  have hheader : (l4Off + tcp.doff.toUInt32 * 4).toNat = l4Off.toNat + tcp.doff.toNat * 4 := by
    rw [UInt32.toNat_add, UInt32.toNat_mul, UInt8.toNat_toUInt32]
    simp only [UInt32.reduceToNat]
    omega
  have hpayload : (if skb.len > l4Off + tcp.doff.toUInt32 * 4 then
      skb.len - (l4Off + tcp.doff.toUInt32 * 4) else 0).toNat =
      skb.len.toNat - (l4Off.toNat + tcp.doff.toNat * 4) := by
    split_ifs with hmore
    · rw [gt_iff_lt, UInt32.lt_iff_toNat_lt, hheader] at hmore
      rw [UInt32.toNat_sub_of_le _ _ (UInt32.le_iff_toNat_le.mpr (by omega)), hheader]
    · rw [gt_iff_lt, UInt32.lt_iff_toNat_lt, hheader] at hmore
      rw [UInt32.toNat_zero]
      omega
  refine ⟨?_, by rw [span]; omega⟩
  apply UInt32.toNat.inj
  rw [UInt32.toNat_add, UInt32.toNat_add, UInt32.toNat_add, UInt32.toNat_add, hsyn, hfin, hpayload,
    UInt32.toNat_ofNat', span]
  omega

/-- **`skyline_is_retransmit`** on an accepted frame with a full TCP header. -/
lemma isRetransmit_eq (h : Accepts skb.data found)
    (hfull : found.l4Off.toNat + 20 ≤ skb.data.length)
    (htcp : loadTcp skb.data found.l4Off.toNat = some tcp) (stats : Option DscpStats) :
    skylineIsRetransmit skb found.l4Off stats =
      some (resends skb found.l4Off tcp, stats.map fun s =>
        { s with
          packetsSeen := s.packetsSeen + 1
          retransmitsDetected := s.retransmitsDetected +
            if resends skb found.l4Off tcp then 1 else 0 }) := by
  obtain ⟨hend, hspan⟩ := endSeq_eq skb h.l4Off_ge h.l4Off_le (loadTcp_doff_lt htcp)
  have hzero : tcp.seq + UInt32.ofNat (span skb found.l4Off tcp) = tcp.seq ↔
      span skb found.l4Off tcp = 0 := by
    have := tcp.seq.toNat_lt
    rw [← UInt32.toNat_inj, UInt32.toNat_add, UInt32.toNat_ofNat']
    omega
  rw [skylineIsRetransmit, if_neg (by omega), htcp]
  simp only [Option.bind_eq_bind, Option.bind_some, hend, hzero]
  by_cases hnone : span skb found.l4Off tcp = 0
  · have hres : resends skb found.l4Off tcp = false := by simp [resends, hnone]
    simp [hnone, hres]
  rw [if_neg hnone]
  cases hsk : skb.sk.bind Sock.tcp with
  | none =>
      have hres : resends skb found.l4Off tcp = false := by rw [resends, hsk]; simp
      simp [hres]
  | some tp =>
      by_cases hnew : 0 < (tcp.seq + UInt32.ofNat (span skb found.l4Off tcp) - tp.sndNxt).toInt32
      · have hres : resends skb found.l4Off tcp = false := by
          simp only [resends, hsk, Option.any_some, hnew, not_true_eq_false, decide_false,
            Bool.and_false]
        simp only [gt_iff_lt, hnew, if_true, hres, Bool.false_eq_true, if_false, UInt64.add_zero]
        rfl
      · have hres : resends skb found.l4Off tcp = true := by
          simp only [resends, hsk, Option.any_some, hnew, hnone, ne_eq, not_false_eq_true,
            decide_true, Bool.and_true]
        simp only [gt_iff_lt, hnew, if_false, hres, if_true, Option.map_map]
        rfl

/-- The comparison in unbounded stream offsets. -/
lemma resends_iff {l4Off : UInt32} {tp : TcpSk} (hsk : skb.sk = some (.full (some tp)))
    {start nxt : ℤ} (hstart : start ≡ tcp.seq.toNat [ZMOD 2 ^ 32])
    (hnxt : nxt ≡ tp.sndNxt.toNat [ZMOD 2 ^ 32])
    (hnear : |start + span skb l4Off tcp - nxt| < 2 ^ 31) :
    resends skb l4Off tcp = true ↔
      0 < span skb l4Off tcp ∧ start + span skb l4Off tcp ≤ nxt := by
  have hend : start + span skb l4Off tcp ≡
      (tcp.seq + UInt32.ofNat (span skb l4Off tcp)).toNat [ZMOD 2 ^ 32] := by
    rw [UInt32.toNat_add, UInt32.toNat_ofNat']
    rw [Int.ModEq] at hstart ⊢
    omega
  rw [resends, hsk, Option.bind_some, Sock.tcp, Option.any_some, Bool.and_eq_true,
    decide_eq_true_iff, decide_eq_true_iff, U32.serial_lt_iff hend hnxt hnear, not_lt,
    Nat.pos_iff_ne_zero]

end Test

/-! ### The check -/

/-- What a retransmission adds to the counters. -/
def markedStats (found : Found) (dscpValue : UInt32) (s : DscpStats) : DscpStats :=
  { s with
    packetsSeen := s.packetsSeen + 1
    retransmitsDetected := s.retransmitsDetected + 1
    retransmitsMarked := s.retransmitsMarked + 1
    csumFixups := s.csumFixups + match found with
      | .ipv4 f => if newTos dscpValue f.oldTos = f.oldTos then 0 else 1
      | .ipv6 _ => 0
    ipv6Marked := s.ipv6Marked + match found with
      | .ipv4 _ => 0
      | .ipv6 _ => 1 }

/-- What any other frame adds: a packet that was seen, or an IPv6 walk that gave up. -/
def otherStats (seen bailouts : UInt64) (s : DscpStats) : DscpStats :=
  { s with
    packetsSeen := s.packetsSeen + seen
    ipv6ChainBailout := s.ipv6ChainBailout + bailouts }

lemma otherStats_zero : otherStats 0 0 = id := by
  funext s
  simp [otherStats]

/-- The frame carries a full TCP header. -/
structure TcpFrame (data : List UInt8) (found : Found) (tcp : TcpHdr) : Prop where
  accepts : Accepts data found
  full : found.l4Off.toNat + 20 ≤ data.length
  tcp : loadTcp data found.l4Off.toNat = some tcp

section Check

variable {skb : SkBuff} {found : Found} {tcp : TcpHdr} {cfg : DscpConfig}

/-- **`skyline_check_retransmit`** on a TCP frame. -/
lemma checkRetransmit_eq (h : TcpFrame skb.data found tcp) (hcfg : cfg.enabled ≠ 0)
    (stats : Option DscpStats) :
    skylineCheckRetransmit skb cfg stats =
      if resends skb found.l4Off tcp then
        some ({ skb with data := markedFrame found skb.data cfg.dscpValue },
          stats.map (markedStats found cfg.dscpValue))
      else some (skb, stats.map (otherStats 1 0)) := by
  have hlength := h.accepts.length_ge
  simp only [skylineCheckRetransmit, h.accepts.dispatch stats, Option.bind_eq_bind,
    Option.bind_some, isRetransmit_eq h.accepts h.full h.tcp]
  cases resends skb found.l4Off tcp with
  | false => cases stats <;> simp [otherStats]
  | true =>
      simp only [Bool.not_true, Bool.false_eq_true, if_false, hcfg, if_true, Option.map_map]
      cases found with
      | ipv4 f =>
          simp only [markDscpV4_eq cfg.dscpValue (accepts_ipv4_iff.mp h.accepts), Option.bind_some]
          by_cases hsame : newTos cfg.dscpValue f.oldTos = f.oldTos
          · cases stats <;> simp [hsame, markedStats, markedFrame]
          · cases stats <;> simp [hsame, markedStats, markedFrame]
      | ipv6 l4Off =>
          simp only [markDscpV6_eq cfg.dscpValue (show 16 ≤ skb.data.length by omega),
            Option.bind_some]
          cases stats <;> simp [markedStats, markedFrame]

/-- What `skyline_check_retransmit` does to any frame. -/
inductive Checked (skb : SkBuff) (cfg : DscpConfig) (stats : Option DscpStats) :
    SkBuff × Option DscpStats → Prop
  | other (seen bailouts : UInt64) :
      Checked skb cfg stats (skb, stats.map (otherStats seen bailouts))
  | marked {found : Found} {tcp : TcpHdr} (htcp : TcpFrame skb.data found tcp)
      (hsk : (skb.sk.bind Sock.tcp).isSome = true) (hresends : resends skb found.l4Off tcp = true) :
      Checked skb cfg stats ({ skb with data := markedFrame found skb.data cfg.dscpValue },
        stats.map (markedStats found cfg.dscpValue))

lemma checkRetransmit_cases (skb : SkBuff) (hcfg : cfg.enabled ≠ 0) (stats : Option DscpStats) :
    ∃ out, skylineCheckRetransmit skb cfg stats = some out ∧ Checked skb cfg stats out := by
  have hsame : Checked skb cfg stats (skb, stats) := by
    have hother : Checked skb cfg stats (skb, stats.map (otherStats 0 0)) := .other 0 0
    rwa [otherStats_zero, Option.map_id, id] at hother
  obtain ⟨found, hspec⟩ := dispatch_spec skb.data
  obtain ⟨stats', hstats, hsame'⟩ := hspec stats
  cases found with
  | none =>
      refine ⟨(skb, stats'), ?_, ?_⟩
      · simp only [skylineCheckRetransmit, hstats, Option.bind_eq_bind, Option.bind_some]
        rfl
      · rcases hsame' with rfl | ⟨-, rfl⟩
        · exact hsame
        · have hbail : Checked skb cfg stats (skb, stats.map (otherStats 0 1)) := .other 0 1
          have hcount : stats.map (otherStats 0 1) = bailout stats := by
            cases stats <;> simp [otherStats, bailout]
          rwa [hcount] at hbail
  | some found =>
      obtain ⟨haccepts, rfl⟩ := accepts_of_dispatch hstats
      by_cases hfull : skb.data.length < found.l4Off.toNat + 20
      · refine ⟨(skb, stats'), ?_, hsame⟩
        simp only [skylineCheckRetransmit, hstats, Option.bind_eq_bind, Option.bind_some,
          skylineIsRetransmit, if_pos hfull]
        rfl
      · obtain ⟨tcp, htcp⟩ := exists_loadTcp skb.data found.l4Off.toNat
          (by omega)
        have hframe : TcpFrame skb.data found tcp := ⟨haccepts, by omega, htcp⟩
        rw [checkRetransmit_eq hframe hcfg]
        split_ifs with hresends
        · refine ⟨_, rfl, .marked hframe ?_ hresends⟩
          rw [resends, Bool.and_eq_true] at hresends
          cases hsk : skb.sk.bind Sock.tcp with
          | none =>
              rw [hsk] at hresends
              exact absurd hresends.2 (by simp)
          | some tp => rfl
        · exact ⟨_, rfl, .other 1 0⟩

end Check

/-! ### The hook -/

/-- Marking is on, under the ABI of this program. -/
structure Marks (maps : Maps) (cfg : DscpConfig) : Prop where
  config : maps.dscpConfig = some cfg
  enabled : cfg.enabled ≠ 0
  abi : cfg.abiVersion = retransmitDscpAbiVersion

/-- The counters of retransmissions stay as they are. -/
def KeepsMarks (f : DscpStats → DscpStats) : Prop :=
  ∀ s, (f s).retransmitsDetected = s.retransmitsDetected ∧
    (f s).retransmitsMarked = s.retransmitsMarked ∧
    (f s).csumFixups = s.csumFixups ∧ (f s).ipv6Marked = s.ipv6Marked

/-- What the marker does to a packet and its counters. -/
inductive Marking (skb : SkBuff) (maps : Maps) : SkBuff × Option DscpStats → Prop
  | other {f : DscpStats → DscpStats} (hf : KeepsMarks f) :
      Marking skb maps (skb, maps.dscpStats.map f)
  | marked {cfg : DscpConfig} {found : Found} {tcp : TcpHdr} {tp : TcpSk} (hcfg : Marks maps cfg)
      (htcp : TcpFrame skb.data found tcp) (hsk : skb.sk = some (.full (some tp)))
      (hresends : resends skb found.l4Off tcp = true) :
      Marking skb maps ({ skb with data := markedFrame found skb.data cfg.dscpValue },
        maps.dscpStats.map (markedStats found cfg.dscpValue))

section Hook

variable {skb : SkBuff} {e : Egress}

lemma Marking.refl (skb : SkBuff) (maps : Maps) : Marking skb maps (skb, maps.dscpStats) := by
  have hother : Marking skb maps (skb, maps.dscpStats.map id) :=
    .other fun s => ⟨rfl, rfl, rfl, rfl⟩
  rwa [Option.map_id, id] at hother

/-- With marking on, the hook runs `skyline_check_retransmit`. -/
lemma accountDscp_eq {cfg : DscpConfig} (hcfg : Marks e.maps cfg) (skb : SkBuff) :
    accountDscp skb e = (skylineCheckRetransmit skb cfg e.maps.dscpStats).map fun out =>
      (out.1, { e with maps := { e.maps with dscpStats := out.2 } }) := by
  rw [accountDscp, hcfg.config]
  simp only [hcfg.enabled, if_false, hcfg.abi, ne_eq, not_true_eq_false]
  cases skylineCheckRetransmit skb cfg e.maps.dscpStats <;> rfl

lemma accountDscp_cases (skb : SkBuff) (e : Egress) :
    ∃ out, accountDscp skb e =
        some (out.1, { e with maps := { e.maps with dscpStats := out.2 } }) ∧
      Marking skb e.maps out := by
  have hsame : accountDscp skb e = some (skb, e) → ∃ out, accountDscp skb e =
      some (out.1, { e with maps := { e.maps with dscpStats := out.2 } }) ∧
      Marking skb e.maps out := fun h => ⟨_, h, .refl skb e.maps⟩
  cases hcfg : e.maps.dscpConfig with
  | none => exact hsame (by rw [accountDscp, hcfg]; rfl)
  | some cfg =>
      by_cases hoff : cfg.enabled = 0
      · exact hsame (by simp only [accountDscp, hcfg, if_pos hoff]; rfl)
      by_cases habi : cfg.abiVersion = retransmitDscpAbiVersion
      · obtain ⟨out, hout, hchecked⟩ := checkRetransmit_cases skb hoff e.maps.dscpStats
        refine ⟨out, by rw [accountDscp_eq ⟨hcfg, hoff, habi⟩, hout]; rfl, ?_⟩
        cases hchecked with
        | other seen bailouts => exact .other fun s => ⟨rfl, rfl, rfl, rfl⟩
        | marked htcp hsk hresends =>
            obtain ⟨tp, htp⟩ := Option.isSome_iff_exists.mp hsk
            obtain ⟨sk, hsome, hfull⟩ := Option.bind_eq_some_iff.mp htp
            cases sk with
            | mini => cases hfull
            | full tcp =>
                obtain rfl : tcp = some tp := hfull
                exact .marked ⟨hcfg, hoff, habi⟩ htcp hsome hresends
      · refine ⟨(skb, e.maps.dscpStats.map fun s => { s with abiMismatch := s.abiMismatch + 1 }),
          ?_, .other fun s => ⟨rfl, rfl, rfl, rfl⟩⟩
        simp only [accountDscp, hcfg, if_neg hoff, ne_eq, habi, not_false_eq_true, if_true]
        rfl

/-- What a pass leaves alone of what the marker made of the packet. -/
structure PassFrame (mid : SkBuff × Option DscpStats) (skb' : SkBuff) (e e' : Egress) : Prop where
  data : skb'.data = mid.1.data
  dscpStats : e'.maps.dscpStats = mid.2
  dscpConfig : e'.maps.dscpConfig = e.maps.dscpConfig
  redundancyConfig : e'.maps.redundancyConfig = e.maps.redundancyConfig

/-- **A pass** marks, and then copies without a change to the frame. -/
lemma account_marking (depth : ℕ) (calls : ℕ → Calls) (nowNs : UInt64) (skb : SkBuff)
    (e : Egress) :
    ∃ skb' e' mid, skylineTcAccount (cloneRedirect depth calls) nowNs skb e = some (skb', e') ∧
      Marking skb e.maps mid ∧ PassFrame mid skb' e e' := by
  by_cases hcopy : IsCopy skb
  · exact ⟨_, _, (skb, e.maps.dscpStats), account_copy hcopy _ _ _, .refl skb e.maps,
      ⟨rfl, rfl, rfl, rfl⟩⟩
  · obtain ⟨mid, hmid, hmarking⟩ := accountDscp_cases skb (countPacket skb e)
    rw [account_eq hcopy, hmid, Option.bind_some]
    obtain ⟨⟨skb', e'⟩, hout, hdup⟩ := accountRedundancy_cases depth calls mid.1
      { countPacket skb e with maps := { (countPacket skb e).maps with dscpStats := mid.2 } }
    have hframe := hdup.frame
    refine ⟨skb', e', mid, hout, ?_, hframe.data, hframe.dscpStats, hframe.dscpConfig,
      hframe.redundancyConfig⟩
    cases hmarking with
    | other hf => exact .other hf
    | marked hcfg htcp hsk hresends =>
        exact .marked ⟨hcfg.config, hcfg.enabled, hcfg.abi⟩ htcp hsk hresends

/-- A pass of a TCP frame with a socket. -/
lemma account_tcp {cfg : DscpConfig} {found : Found} {tcp : TcpHdr} (hcfg : Marks e.maps cfg)
    (htcp : TcpFrame skb.data found tcp) (hsk : skb.sk.isSome = true) (depth : ℕ)
    (calls : ℕ → Calls) (nowNs : UInt64) :
    ∃ skb' e', skylineTcAccount (cloneRedirect depth calls) nowNs skb e = some (skb', e') ∧
      skb'.sk = skb.sk ∧ skb'.len = skb.len ∧
      if resends skb found.l4Off tcp then
        skb'.data = markedFrame found skb.data cfg.dscpValue ∧
          e'.maps.dscpStats = e.maps.dscpStats.map (markedStats found cfg.dscpValue)
      else skb'.data = skb.data ∧ e'.maps.dscpStats = e.maps.dscpStats.map (otherStats 1 0) := by
  have hcopy : ¬ IsCopy skb := fun h => by
    rw [h.2] at hsk
    cases hsk
  have hmarks : Marks (countPacket skb e).maps cfg := ⟨hcfg.config, hcfg.enabled, hcfg.abi⟩
  rw [account_eq hcopy, accountDscp_eq hmarks, checkRetransmit_eq htcp hcfg.enabled]
  cases resends skb found.l4Off tcp with
  | false =>
      simp only [Bool.false_eq_true, if_false, Option.map_some, Option.bind_some]
      obtain ⟨⟨skb', e'⟩, hout, hdup⟩ := accountRedundancy_cases depth calls skb
        { countPacket skb e with maps := { (countPacket skb e).maps with
            dscpStats := e.maps.dscpStats.map (otherStats 1 0) } }
      have hframe := hdup.frame
      exact ⟨skb', e', hout, hframe.sk, hframe.len, hframe.data, hframe.dscpStats⟩
  | true =>
      simp only [if_true, Option.map_some, Option.bind_some]
      obtain ⟨⟨skb', e'⟩, hout, hdup⟩ := accountRedundancy_cases depth calls
        { skb with data := markedFrame found skb.data cfg.dscpValue }
        { countPacket skb e with maps := { (countPacket skb e).maps with
            dscpStats := e.maps.dscpStats.map (markedStats found cfg.dscpValue) } }
      have hframe := hdup.frame
      exact ⟨skb', e', hout, hframe.sk, hframe.len, hframe.data, hframe.dscpStats⟩

/-- A frame that was marked is a TCP frame still, with the same header, and is marked the
same way. -/
lemma TcpFrame.again {found : Found} {tcp : TcpHdr} (h : TcpFrame data found tcp)
    (dscpValue : UInt32) :
    ∃ found', found'.l4Off = found.l4Off ∧
      TcpFrame (markedFrame found data dscpValue) found' tcp ∧
      markedFrame found' (markedFrame found data dscpValue) dscpValue =
        markedFrame found data dscpValue := by
  obtain ⟨found', hl4, haccepts, hsame⟩ := markedFrame_again h.accepts dscpValue
  refine ⟨found', hl4, ⟨haccepts, ?_, ?_⟩, hsame⟩
  · rw [hl4, (markedFrame_onlyDscp h.accepts dscpValue).length]
    exact h.full
  · rw [hl4, markedFrame_loadTcp h.accepts dscpValue]
    exact h.tcp

/-- **A second pass** of a packet changes nothing in its frame any more. -/
lemma account_again {cfg : DscpConfig} {found : Found} {tcp : TcpHdr} {skb' : SkBuff}
    (hcfg : Marks e.maps cfg) (htcp : TcpFrame skb.data found tcp) (hsk : skb.sk.isSome = true)
    (hsk' : skb'.sk = skb.sk) (hlen : skb'.len = skb.len)
    (hdata : skb'.data = if resends skb found.l4Off tcp then
      markedFrame found skb.data cfg.dscpValue else skb.data)
    (depth : ℕ) (calls : ℕ → Calls) (nowNs : UInt64) :
    ∃ skb₂ e₂, skylineTcAccount (cloneRedirect depth calls) nowNs skb' e = some (skb₂, e₂) ∧
      skb₂.data = skb'.data := by
  have hresends : resends skb' found.l4Off tcp = resends skb found.l4Off tcp := by
    rw [resends, resends, span, span, hsk', hlen]
  cases hcase : resends skb found.l4Off tcp with
  | false =>
      rw [hcase, if_neg (by simp)] at hdata
      obtain ⟨skb₂, e₂, hrun, -, -, hout⟩ := account_tcp hcfg
        (show TcpFrame skb'.data found tcp from hdata ▸ htcp) (hsk' ▸ hsk) depth calls nowNs
      rw [hresends, hcase, if_neg (by simp)] at hout
      exact ⟨skb₂, e₂, hrun, hout.1⟩
  | true =>
      rw [hcase, if_pos rfl] at hdata
      obtain ⟨found', hl4, htcp', hsame⟩ := htcp.again cfg.dscpValue
      rw [← hdata] at htcp' hsame
      obtain ⟨skb₂, e₂, hrun, -, -, hout⟩ := account_tcp hcfg htcp' (hsk' ▸ hsk) depth calls nowNs
      rw [hl4, hresends, hcase, if_pos rfl, hsame] at hout
      exact ⟨skb₂, e₂, hrun, hout.1⟩

end Hook

/-! ### Runs -/

/-- The counters of retransmissions as numbers: so many were marked, so many of them were
IPv6 and so many had their checksum rewritten. -/
structure MarkCounts (s : DscpStats) (marked ipv6 fixups : ℕ) : Prop where
  detected_eq : s.retransmitsDetected = UInt64.ofNat marked
  marked_eq : s.retransmitsMarked = UInt64.ofNat marked
  ipv6_eq : s.ipv6Marked = UInt64.ofNat ipv6
  fixups_eq : s.csumFixups = UInt64.ofNat fixups
  le : fixups + ipv6 ≤ marked

/-- A marked packet is counted once, and as one of the two kinds at most. -/
lemma MarkCounts.mark {s : DscpStats} {marked ipv6 fixups : ℕ}
    (h : MarkCounts s marked ipv6 fixups) (found : Found) (dscpValue : UInt32) :
    ∃ ipv6' fixups', MarkCounts (markedStats found dscpValue s) (marked + 1) ipv6' fixups' := by
  have hle := h.le
  cases found with
  | ipv4 f =>
      refine ⟨ipv6, fixups + if newTos dscpValue f.oldTos = f.oldTos then 0 else 1, ?_⟩
      refine ⟨?_, ?_, ?_, ?_, ?_⟩
      · simp [markedStats, h.detected_eq, UInt64.ofNat_add]
      · simp [markedStats, h.marked_eq, UInt64.ofNat_add]
      · simp [markedStats, h.ipv6_eq]
      · simp only [markedStats, h.fixups_eq, UInt64.ofNat_add]
        split_ifs <;> rfl
      · split_ifs <;> omega
  | ipv6 l4Off =>
      refine ⟨ipv6 + 1, fixups, ?_, ?_, ?_, ?_, by omega⟩
      · simp [markedStats, h.detected_eq, UInt64.ofNat_add]
      · simp [markedStats, h.marked_eq, UInt64.ofNat_add]
      · simp [markedStats, h.ipv6_eq, UInt64.ofNat_add]
      · simp [markedStats, h.fixups_eq]

/-- **One packet**, with the clone it may send, counts at most one retransmission. -/
lemma transmit_counts (depth : ℕ) {e : Egress} {s : DscpStats} {marked ipv6 fixups : ℕ}
    (hs : e.maps.dscpStats = some s) (h : MarkCounts s marked ipv6 fixups)
    (packet : SkBuff × (ℕ → Calls)) :
    ∃ e' s' marked' ipv6' fixups', transmit depth e packet = some e' ∧
      e'.maps.dscpStats = some s' ∧ MarkCounts s' marked' ipv6' fixups' ∧ marked' ≤ marked + 1 := by
  obtain ⟨skb', e', mid, hrun, hmarking, hframe⟩ :=
    account_marking depth packet.2 (packet.2 0).nowNs packet.1 e
  have htransmit : transmit depth e packet = some (e'.leave false skb') := by
    rw [transmit, hrun]
    rfl
  have hstats : (e'.leave false skb').maps.dscpStats = mid.2 := hframe.dscpStats
  cases hmarking with
  | @other f hf =>
      obtain ⟨hdetected, hmarked, hfixups, hipv6⟩ := hf s
      refine ⟨_, f s, marked, ipv6, fixups, htransmit, by rw [hstats, hs]; rfl, ?_, by omega⟩
      exact ⟨hdetected.trans h.detected_eq, hmarked.trans h.marked_eq, hipv6.trans h.ipv6_eq,
        hfixups.trans h.fixups_eq, h.le⟩
  | @marked cfg found tcp tp =>
      obtain ⟨ipv6', fixups', hcounts⟩ := h.mark found cfg.dscpValue
      exact ⟨_, _, _, ipv6', fixups', htransmit, by rw [hstats, hs]; rfl, hcounts, le_rfl⟩

/-- A run of packets. -/
lemma run_counts (depth : ℕ) (packets : List (SkBuff × (ℕ → Calls))) {e : Egress} {s : DscpStats}
    {marked ipv6 fixups : ℕ} (hs : e.maps.dscpStats = some s)
    (h : MarkCounts s marked ipv6 fixups) :
    ∃ e' s' marked' ipv6' fixups', Machine.run? (transmit depth) e packets = some e' ∧
      e'.maps.dscpStats = some s' ∧ MarkCounts s' marked' ipv6' fixups' ∧
      marked' ≤ marked + packets.length := by
  induction packets generalizing e s marked ipv6 fixups with
  | nil => exact ⟨e, s, marked, ipv6, fixups, rfl, hs, h, by simp⟩
  | cons packet packets ih =>
      obtain ⟨e₁, s₁, marked₁, ipv6₁, fixups₁, hstep, hs₁, h₁, hle₁⟩ :=
        transmit_counts depth hs h packet
      obtain ⟨e', s', marked', ipv6', fixups', hrun, hs', h', hle⟩ := ih hs₁ h₁
      refine ⟨e', s', marked', ipv6', fixups', ?_, hs', h', ?_⟩
      · exact Machine.run?_cons_eq_some.mpr ⟨e₁, hstep, hrun⟩
      · rw [List.length_cons]
        omega

/-- What the counters say as long as they have not come round. -/
lemma MarkCounts.fixups_le {s : DscpStats} {marked ipv6 fixups : ℕ}
    (h : MarkCounts s marked ipv6 fixups) (hlt : marked < 2 ^ 64) :
    s.csumFixups ≤ s.retransmitsMarked - s.ipv6Marked := by
  have hle := h.le
  have hmarked : (UInt64.ofNat marked).toNat = marked := UInt64.toNat_ofNat_of_lt' hlt
  have hipv6 : (UInt64.ofNat ipv6).toNat = ipv6 :=
    UInt64.toNat_ofNat_of_lt' (show ipv6 < 2 ^ 64 by omega)
  have hfixups : (UInt64.ofNat fixups).toNat = fixups :=
    UInt64.toNat_ofNat_of_lt' (show fixups < 2 ^ 64 by omega)
  rw [h.fixups_eq, h.marked_eq, h.ipv6_eq, UInt64.le_iff_toNat_le, UInt64.toNat_sub_of_le,
    hmarked, hipv6,
    hfixups]
  · omega
  · rw [UInt64.le_iff_toNat_le, hmarked, hipv6]
    omega

/-! ### The main result -/

/-- What a mark may do to a frame: the codepoint is the configured one, nothing changed but
the codepoint and the checksum of an IPv4 header, and a right checksum is right still. -/
structure MarkedAs (found : Found) (dscpValue : UInt32) (data data' : List UInt8) : Prop where
  dscp : dscpOf found data' = some dscpValue.toUInt8
  only : OnlyDscp found data data'
  valid : HeaderValid found data → HeaderValid found data'

lemma markedAs_markedFrame {found : Found} {dscpValue : UInt32} (h : Accepts data found)
    (hvalue : dscpValue ≤ 63) :
    MarkedAs found dscpValue data (markedFrame found data dscpValue) := by
  refine ⟨?_, markedFrame_onlyDscp h dscpValue, markedFrame_valid h dscpValue⟩
  have hmask : dscpValue &&& 0x3f = dscpValue := by
    have hlt : dscpValue.toNat < 2 ^ 6 := by
      have := UInt32.le_iff_toNat_le.mp hvalue
      simp only [UInt32.reduceToNat] at this
      omega
    apply UInt32.toNat.inj
    rw [UInt32.toNat_and]
    exact Nat.and_two_pow_sub_one_of_lt_two_pow hlt
  rw [markedFrame_dscp h dscpValue, hmask]

/-- **Retransmit marking marks exactly the retransmissions and changes nothing else.**

With marking on, and `start` and `nxt` the offsets in the stream that a TCP frame's sequence
number and `snd_nxt` stand for, the frame is marked and counted if it takes up sequence
numbers that all lie before `nxt`; otherwise it stays as it is and is not counted; a second
pass changes nothing.  A pass changes no other frame.  Over a run of packets, from zero
counters, as many retransmissions were marked as were detected, and a rewritten checksum
belongs to a marked frame that is not IPv6. -/
theorem retransmit_marking_exact :
    (∀ (depth : ℕ) (calls : ℕ → Calls) (nowNs : UInt64) (skb : SkBuff) (e : Egress)
      (cfg : DscpConfig) (found : Found) (tcp : TcpHdr) (tp : TcpSk) (start nxt : ℤ),
      Marks e.maps cfg → cfg.dscpValue ≤ 63 →
      TcpFrame skb.data found tcp → skb.sk = some (.full (some tp)) →
      start ≡ tcp.seq.toNat [ZMOD 2 ^ 32] → nxt ≡ tp.sndNxt.toNat [ZMOD 2 ^ 32] →
      |start + span skb found.l4Off tcp - nxt| < 2 ^ 31 →
      ∃ skb' e', skylineTcAccount (cloneRedirect depth calls) nowNs skb e = some (skb', e') ∧
        (if 0 < span skb found.l4Off tcp ∧ start + span skb found.l4Off tcp ≤ nxt then
          MarkedAs found cfg.dscpValue skb.data skb'.data ∧
            e'.maps.dscpStats = e.maps.dscpStats.map (markedStats found cfg.dscpValue)
        else
          skb'.data = skb.data ∧ e'.maps.dscpStats = e.maps.dscpStats.map (otherStats 1 0)) ∧
        ∀ (depth₂ : ℕ) (calls₂ : ℕ → Calls) (nowNs₂ : UInt64) (e₂ : Egress), Marks e₂.maps cfg →
          ∃ skb₂ e₂', skylineTcAccount (cloneRedirect depth₂ calls₂) nowNs₂ skb' e₂ =
              some (skb₂, e₂') ∧ skb₂.data = skb'.data) ∧
    (∀ (depth : ℕ) (calls : ℕ → Calls) (nowNs : UInt64) (skb : SkBuff) (e : Egress),
      ∃ skb' e', skylineTcAccount (cloneRedirect depth calls) nowNs skb e = some (skb', e') ∧
        (skb'.data ≠ skb.data → ∃ cfg found tcp tp, Marks e.maps cfg ∧
          TcpFrame skb.data found tcp ∧ skb.sk = some (.full (some tp)) ∧
          resends skb found.l4Off tcp = true)) ∧
    ∀ (depth : ℕ) (packets : List (SkBuff × (ℕ → Calls))) (e : Egress) (s : DscpStats),
      e.maps.dscpStats = some s → MarkCounts s 0 0 0 →
      ∃ e' s', Machine.run? (transmit depth) e packets = some e' ∧ e'.maps.dscpStats = some s' ∧
        s'.retransmitsMarked = s'.retransmitsDetected ∧
        (∃ marked ipv6 fixups, MarkCounts s' marked ipv6 fixups ∧ marked ≤ packets.length ∧
          fixups ≤ marked - ipv6) ∧
        (packets.length < 2 ^ 64 → s'.csumFixups ≤ s'.retransmitsMarked - s'.ipv6Marked) := by
  refine ⟨?_, ?_, ?_⟩
  · intro depth calls nowNs skb e cfg found tcp tp start nxt hcfg hvalue htcp hsk hstart hnxt hnear
    have hiff := resends_iff hsk hstart hnxt hnear
    have hsome : skb.sk.isSome = true := by rw [hsk]; rfl
    obtain ⟨skb', e', hrun, hsk', hlen, hout⟩ :=
      account_tcp hcfg htcp hsome depth calls nowNs
    refine ⟨skb', e', hrun, ?_, ?_⟩
    · rw [if_congr hiff rfl rfl] at hout
      split_ifs at hout ⊢ with hmark
      · rw [hout.1]
        exact ⟨markedAs_markedFrame htcp.accepts hvalue, hout.2⟩
      · exact hout
    · intro depth₂ calls₂ nowNs₂ e₂ hcfg₂
      refine account_again hcfg₂ htcp hsome hsk' hlen ?_ depth₂ calls₂ nowNs₂
      split_ifs at hout ⊢
      · exact hout.1
      · exact hout.1
  · intro depth calls nowNs skb e
    obtain ⟨skb', e', mid, hrun, hmarking, hframe⟩ := account_marking depth calls nowNs skb e
    refine ⟨skb', e', hrun, fun hne => ?_⟩
    cases hmarking with
    | other hf => exact absurd hframe.data hne
    | marked hcfg htcp hsk hresends => exact ⟨_, _, _, _, hcfg, htcp, hsk, hresends⟩
  · intro depth packets e s hs hzero
    obtain ⟨e', s', marked, ipv6, fixups, hrun, hs', hcounts, hle⟩ :=
      run_counts depth packets hs hzero
    have hsum := hcounts.le
    refine ⟨e', s', hrun, hs', ?_, ⟨marked, ipv6, fixups, hcounts, by omega, by omega⟩, ?_⟩
    · rw [hcounts.marked_eq, hcounts.detected_eq]
    · exact fun hlt => hcounts.fixups_le (by omega)

/-- An IPv4 segment: sequence number 1000 and ten bytes of payload. -/
def sampleFrame : List UInt8 :=
  [0, 0, 0, 0, 0, 0, 0, 0, 0, 0, 0, 0, 0x08, 0x00,
    0x45, 0x00, 0x00, 0x32, 0x00, 0x00, 0x40, 0x00, 0x40, 0x06, 0x26, 0xc4,
    0x0a, 0x00, 0x00, 0x01, 0x0a, 0x00, 0x00, 0x02,
    0x00, 0x50, 0x00, 0x50, 0x00, 0x00, 0x03, 0xe8, 0x00, 0x00, 0x00, 0x00,
    0x50, 0x10, 0x00, 0x00, 0x00, 0x00, 0x00, 0x00,
    1, 2, 3, 4, 5, 6, 7, 8, 9, 10]

lemma sampleFrame_tcp :
    TcpFrame sampleFrame (.ipv4 ⟨34, 0, 0x4500⟩) ⟨1000, 5, false, false, true⟩ :=
  ⟨by decide, by decide, by decide⟩

/-- The segment of a connection that has sent up to 1010. -/
def sampleSkb : SkBuff :=
  { data := sampleFrame, len := 64, gsoSegs := 1, sk := some (.full (some ⟨1010, 900, 0, none⟩))
    cb0 := 0, cb1 := 0, tstamp := 0 }

def sampleMaps : Maps :=
  ⟨none, some ⟨2, 1, 46⟩, some ⟨0, 0, 0, 0, 0, 0, 0⟩, none, none⟩

/-- The segment is a retransmission: it leaves with the codepoint 46 and a right checksum. -/
theorem retransmit_marking_exact_sample :
    ∃ skb' e', skylineTcAccount (cloneRedirect 1 fun _ => ⟨false, 0⟩) 0 sampleSkb ⟨sampleMaps, []⟩ =
        some (skb', e') ∧
      dscpOf (.ipv4 ⟨34, 0, 0x4500⟩) skb'.data = some 46 ∧
      HeaderValid (.ipv4 ⟨34, 0, 0x4500⟩) skb'.data := by
  have hvalid : HeaderValid (.ipv4 ⟨34, 0, 0x4500⟩) sampleSkb.data := by
    rw [HeaderValid]
    decide
  have hspan : span sampleSkb 34 ⟨1000, 5, false, false, true⟩ = 10 := by decide
  obtain ⟨skb', e', hrun, hout, -⟩ := retransmit_marking_exact.1 1 (fun _ => ⟨false, 0⟩) 0 sampleSkb
    ⟨sampleMaps, []⟩ ⟨2, 1, 46⟩ (.ipv4 ⟨34, 0, 0x4500⟩) ⟨1000, 5, false, false, true⟩
    ⟨1010, 900, 0, none⟩ 1000 1010 ⟨rfl, by decide, rfl⟩ (by decide) sampleFrame_tcp rfl rfl
    rfl
    (by rw [show Found.l4Off (.ipv4 ⟨34, 0, 0x4500⟩) = 34 from rfl, hspan]; decide)
  rw [if_pos
    (by rw [show Found.l4Off (.ipv4 ⟨34, 0, 0x4500⟩) = 34 from rfl, hspan]; decide)] at hout
  exact ⟨skb', e', hrun, hout.1.dscp, hout.1.valid hvalid⟩

end SkylineSpeeder.Tc
