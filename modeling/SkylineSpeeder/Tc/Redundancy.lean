import SkylineSpeeder.Tc.Retransmit

/-!
First-flight redundancy sends the right packets twice, once each.

* `RunsSkylineCc`, `streamStart`, `Selected`: the packets that are to be copied, in offsets
  of the stream that know no wrap;
* `selects_of_selected`, `selected_of_selects`: the tests of `skyline_redundancy_duplicate` pick
  them out, as long as an offset fits into 64 bits;
* `Sends`, `tally`, `transmit_sends`: what leaves for a packet, and what is counted;
* `redundancy_copies_once`: the main result, over every run.
-/

namespace SkylineSpeeder.Tc

open Word

/-! ### What is to be copied -/

lemma nameIndex_lt (i : Fin 11) : (i : ℕ) < 16 := by omega

/-- The congestion control of the socket is registered as `skyline_cc`. -/
def RunsSkylineCc (tp : TcpSk) : Prop :=
  ∃ name, tp.caName = some name ∧ ∀ i : Fin 11, name ⟨i, nameIndex_lt i⟩ = skylineCcBytes.getD i 0

lemma runsSkylineCc_iff (tp : TcpSk) : skylineRunsSkylineCc tp = true ↔ RunsSkylineCc tp := by
  rw [skylineRunsSkylineCc, RunsSkylineCc]
  cases tp.caName with
  | none => simp
  | some name => simp

/-- Where in the stream a segment starts: `bytes_acked` is the offset of `snd_una`, and the
segment starts less than half the sequence space away from it. -/
def streamStart (tp : TcpSk) (seq : UInt32) : ℤ :=
  tp.bytesAcked.toNat + (seq - tp.sndUna).toInt32.toInt

/-- A TCP header of full length, found at `l4Off`. -/
def TcpAt (data : List UInt8) (l4Off : UInt32) (tcp : TcpHdr) : Prop :=
  ∃ found : Found, found.l4Off = l4Off ∧ TcpFrame data found tcp

/-- A segment of the first flight: a SYN-ACK; a SYN of a `skyline_cc` socket; or payload of
such a socket that starts at `snd_una` or later and in the first `bytes` of the stream. -/
inductive FirstFlight (len : UInt32) (cfg : RedundancyConfig) (l4Off : UInt32) (tcp : TcpHdr)
    (sk : Sock) : Prop
  | synAck (hsyn : tcp.syn = true) (hack : tcp.ack = true)
  | syn {tp : TcpSk} (htp : sk.tcp = some tp) (hcc : RunsSkylineCc tp) (hsyn : tcp.syn = true)
  | payload {tp : TcpSk} (htp : sk.tcp = some tp) (hcc : RunsSkylineCc tp)
      (hpayload : l4Off.toNat + tcp.doff.toNat * 4 < len.toNat)
      (hge : tp.bytesAcked.toNat ≤ streamStart tp tcp.seq)
      (hlt : streamStart tp tcp.seq < cfg.bytes.toNat)

/-- The packet is to be copied. -/
def Selected (skb : SkBuff) (cfg : RedundancyConfig) : Prop :=
  ∃ l4Off tcp sk, TcpAt skb.data l4Off tcp ∧ skb.sk = some sk ∧
    FirstFlight skb.len cfg l4Off tcp sk

/-- The packet carries a SYN. -/
def IsHandshake (skb : SkBuff) : Prop := ∃ l4Off tcp, TcpAt skb.data l4Off tcp ∧ tcp.syn = true

/-- The offset of a `skyline_cc` segment without a SYN, as the program adds it up, stays below
`2^64`. -/
def OffsetFits (skb : SkBuff) : Prop :=
  ∀ l4Off tcp tp, TcpAt skb.data l4Off tcp → skb.sk.bind Sock.tcp = some tp → tcp.syn = false →
    RunsSkylineCc tp → tp.bytesAcked.toNat + (tcp.seq - tp.sndUna).toNat < 2 ^ 64

section Frames

variable {data data' : List UInt8}

lemma TcpFrame.unique {found found' : Found} {tcp tcp' : TcpHdr} (h : TcpFrame data found tcp)
    (h' : TcpFrame data found' tcp') : found' = found ∧ tcp' = tcp := by
  have hfound : found' = found := by
    have hsome := h'.accepts.symm.trans h.accepts
    exact Option.some.inj (Prod.mk.inj (Option.some.inj hsome)).1
  subst hfound
  exact ⟨rfl, Option.some.inj (h'.tcp.symm.trans h.tcp)⟩

lemma TcpAt.unique {l4Off l4Off' : UInt32} {tcp tcp' : TcpHdr} (h : TcpAt data l4Off tcp)
    (h' : TcpAt data l4Off' tcp') : l4Off' = l4Off ∧ tcp' = tcp := by
  obtain ⟨found, rfl, hframe⟩ := h
  obtain ⟨found', rfl, hframe'⟩ := h'
  obtain ⟨rfl, rfl⟩ := hframe.unique hframe'
  exact ⟨rfl, rfl⟩

/-- A frame that was marked carries the same TCP header at the same place. -/
lemma TcpFrame.tcpAt_marked {found : Found} {tcp : TcpHdr} (h : TcpFrame data found tcp)
    (dscpValue l4Off : UInt32) (tcp' : TcpHdr) :
    TcpAt (markedFrame found data dscpValue) l4Off tcp' ↔ TcpAt data l4Off tcp' := by
  obtain ⟨found', hl4, hmarked, -⟩ := h.again dscpValue
  constructor
  · intro hat
    obtain ⟨rfl, rfl⟩ := TcpAt.unique ⟨found', hl4, hmarked⟩ hat
    exact ⟨found, rfl, h⟩
  · intro hat
    obtain ⟨rfl, rfl⟩ := TcpAt.unique ⟨found, rfl, h⟩ hat
    exact ⟨found', hl4, hmarked⟩

/-- What the marker hands to the copier: the same header, socket and control block. -/
structure SameSegment (skb skb' : SkBuff) : Prop where
  tcpAt : ∀ l4Off tcp, TcpAt skb'.data l4Off tcp ↔ TcpAt skb.data l4Off tcp
  len : skb'.len = skb.len
  sk : skb'.sk = skb.sk
  cb0 : skb'.cb0 = skb.cb0
  cb1 : skb'.cb1 = skb.cb1

lemma Marking.sameSegment {skb : SkBuff} {maps : Maps} {mid : SkBuff × Option DscpStats}
    (h : Marking skb maps mid) : SameSegment skb mid.1 := by
  cases h with
  | other hf => exact ⟨fun _ _ => Iff.rfl, rfl, rfl, rfl, rfl⟩
  | marked hcfg htcp hsk hresends =>
      exact ⟨fun l4Off tcp => htcp.tcpAt_marked _ l4Off tcp, rfl, rfl, rfl, rfl⟩

lemma SameSegment.selected_iff {skb skb' : SkBuff} (h : SameSegment skb skb')
    (cfg : RedundancyConfig) : Selected skb' cfg ↔ Selected skb cfg := by
  simp only [Selected, h.tcpAt, h.len, h.sk]

lemma SameSegment.isHandshake_iff {skb skb' : SkBuff} (h : SameSegment skb skb') :
    IsHandshake skb' ↔ IsHandshake skb := by
  simp only [IsHandshake, h.tcpAt]

lemma SameSegment.offsetFits {skb skb' : SkBuff} (h : SameSegment skb skb')
    (hfits : OffsetFits skb) : OffsetFits skb' := by
  intro l4Off tcp tp hat hsk
  exact hfits l4Off tcp tp ((h.tcpAt l4Off tcp).mp hat) (h.sk ▸ hsk)

end Frames

/-! ### The tests of the copier -/

/-- **The offset in 64 bits** against `bytes`: the program's comparison is the one in
unbounded offsets, and a segment that starts before `snd_una` is far beyond `bytes`. -/
lemma offset_lt_iff {tp : TcpSk} {seq bytes : UInt32} (hbytes : bytes.toNat ≤ 2 ^ 20)
    (hfits : tp.bytesAcked.toNat + (seq - tp.sndUna).toNat < 2 ^ 64) :
    tp.bytesAcked + (seq - tp.sndUna).toUInt64 ≥ bytes.toUInt64 ↔
      ¬ ((tp.bytesAcked.toNat : ℤ) ≤ streamStart tp seq ∧ streamStart tp seq < bytes.toNat) := by
  have hlt := (seq - tp.sndUna).toNat_lt
  have hsigned : (seq - tp.sndUna).toInt32.toInt =
      if 2 * (seq - tp.sndUna).toNat < 2 ^ 32 then ((seq - tp.sndUna).toNat : ℤ)
      else (seq - tp.sndUna).toNat - 2 ^ 32 :=
    BitVec.toInt_eq_toNat_cond (seq - tp.sndUna).toBitVec
  rw [ge_iff_le, UInt64.le_iff_toNat_le, UInt64.toNat_add, UInt32.toNat_toUInt64,
    UInt32.toNat_toUInt64, Nat.mod_eq_of_lt hfits, streamStart, hsigned]
  split_ifs <;> omega

section Tests

variable {skb : SkBuff} {cfg : RedundancyConfig}

/-- The header, as the program adds up its length. -/
lemma headerLen_toNat {found : Found} {tcp : TcpHdr} (h : TcpFrame skb.data found tcp) :
    (found.l4Off + tcp.doff.toUInt32 * 4).toNat = found.l4Off.toNat + tcp.doff.toNat * 4 := by
  have hle := h.accepts.l4Off_le
  have hdoff := loadTcp_doff_lt h.tcp
  rw [UInt32.toNat_add, UInt32.toNat_mul, UInt8.toNat_toUInt32]
  simp only [UInt32.reduceToNat]
  omega

/-- The tests, on a frame with a TCP header and a socket. -/
lemma redundancySelects_eq {found : Found} {tcp : TcpHdr} {sk : Sock}
    (h : TcpFrame skb.data found tcp) (hsk : skb.sk = some sk) :
    redundancySelects skb cfg =
      some (if tcp.syn && tcp.ack then some true
        else match sk.tcp with
          | none => none
          | some tp =>
              if !skylineRunsSkylineCc tp then none
              else if tcp.syn then some true
              else if skb.len ≤ found.l4Off + tcp.doff.toUInt32 * 4 then none
              else if tp.bytesAcked + (tcp.seq - tp.sndUna).toUInt64 ≥ cfg.bytes.toUInt64 then none
              else some false) := by
  have hfull := h.full
  simp only [redundancySelects, h.accepts.dispatch none, Option.bind_eq_bind, Option.bind_some,
    if_neg (show ¬ skb.data.length < found.l4Off.toNat + 20 by omega), h.tcp, hsk]
  cases sk.tcp with
  | none => split_ifs <;> rfl
  | some tp =>
      dsimp only
      split_ifs <;> rfl

/-- A packet that is to be copied is picked out, as a handshake if it carries a SYN. -/
lemma selects_of_firstFlight {found : Found} {tcp : TcpHdr} {sk : Sock}
    (hbytes : cfg.bytes.toNat ≤ 2 ^ 20) (hfits : OffsetFits skb)
    (h : TcpFrame skb.data found tcp) (hsk : skb.sk = some sk)
    (hfirst : FirstFlight skb.len cfg found.l4Off tcp sk) :
    redundancySelects skb cfg = some (some tcp.syn) := by
  rw [redundancySelects_eq h hsk]
  by_cases hboth : tcp.syn && tcp.ack
  · rw [if_pos hboth]
    rw [Bool.and_eq_true] at hboth
    rw [hboth.1]
  rw [if_neg hboth]
  cases hfirst with
  | synAck hsyn hack => exact absurd (by rw [hsyn, hack]; rfl) hboth
  | syn htp hcc hsyn => simp [htp, (runsSkylineCc_iff _).mpr hcc, hsyn]
  | @payload tp htp hcc hpayload hge hlt =>
      have hcc' := (runsSkylineCc_iff tp).mpr hcc
      -- a SYN is picked out before the offset is looked at
      by_cases hsyn : tcp.syn = true
      · simp [htp, hcc', hsyn]
      · rw [Bool.not_eq_true] at hsyn
        have hmore : ¬ skb.len ≤ found.l4Off + tcp.doff.toUInt32 * 4 := by
          rw [UInt32.le_iff_toNat_le, headerLen_toNat h]
          omega
        have hbelow : ¬ tp.bytesAcked + (tcp.seq - tp.sndUna).toUInt64 ≥ cfg.bytes.toUInt64 := by
          have hfit := hfits found.l4Off tcp tp ⟨found, rfl, h⟩ (by rw [hsk]; exact htp) hsyn hcc
          rw [offset_lt_iff hbytes hfit, not_not]
          exact ⟨hge, hlt⟩
        simp only [htp, hcc', hsyn, Bool.not_true, Bool.false_eq_true, if_false, if_neg hmore,
          if_neg hbelow]

/-- A packet that is picked out is one of the first flight. -/
lemma firstFlight_of_selects {found : Found} {tcp : TcpHdr} {sk : Sock} {handshake : Bool}
    (hbytes : cfg.bytes.toNat ≤ 2 ^ 20) (hfits : OffsetFits skb)
    (h : TcpFrame skb.data found tcp) (hsk : skb.sk = some sk)
    (hselects : redundancySelects skb cfg = some (some handshake)) :
    FirstFlight skb.len cfg found.l4Off tcp sk := by
  rw [redundancySelects_eq h hsk, Option.some.injEq] at hselects
  by_cases hboth : tcp.syn && tcp.ack
  · rw [Bool.and_eq_true] at hboth
    exact .synAck hboth.1 hboth.2
  rw [if_neg hboth] at hselects
  cases htp : sk.tcp with
  | none => simp [htp] at hselects
  | some tp =>
      simp only [htp] at hselects
      split_ifs at hselects with hcc hsyn hmore hbelow
      · exact .syn htp ((runsSkylineCc_iff tp).mp (by simpa using hcc)) hsyn
      · have hcc' := (runsSkylineCc_iff tp).mp (by simpa using hcc)
        have hfit := hfits found.l4Off tcp tp ⟨found, rfl, h⟩ (by rw [hsk]; exact htp)
          (by simpa using hsyn) hcc'
        rw [offset_lt_iff hbytes hfit, not_not] at hbelow
        rw [UInt32.le_iff_toNat_le, headerLen_toNat h, not_le] at hmore
        exact .payload htp hcc' hmore hbelow.1 hbelow.2

/-- Only a frame with a TCP header of full length and a socket is picked out. -/
lemma tcpFrame_of_selects {handshake : Bool}
    (h : redundancySelects skb cfg = some (some handshake)) :
    ∃ found tcp sk, TcpFrame skb.data found tcp ∧ skb.sk = some sk := by
  obtain ⟨found, hspec⟩ := dispatch_spec skb.data
  obtain ⟨stats, hfound, -⟩ := hspec none
  cases found with
  | none => simp [redundancySelects, hfound] at h
  | some found =>
      obtain ⟨haccepts, -⟩ := accepts_of_dispatch hfound
      simp only [redundancySelects, hfound, Option.bind_eq_bind, Option.bind_some] at h
      by_cases hfull : skb.data.length < found.l4Off.toNat + 20
      · simp [if_pos hfull] at h
      · obtain ⟨tcp, htcp⟩ := exists_loadTcp skb.data found.l4Off.toNat
          (by omega)
        cases hsk : skb.sk with
        | none => simp [htcp, hsk] at h
        | some sk => exact ⟨found, tcp, sk, ⟨haccepts, by omega, htcp⟩, rfl⟩

/-- **The tests pick out exactly what is to be copied.** -/
lemma selects_of_selected (hbytes : cfg.bytes.toNat ≤ 2 ^ 20) (hfits : OffsetFits skb)
    (h : Selected skb cfg) :
    ∃ handshake, redundancySelects skb cfg = some (some handshake) ∧
      (handshake = true ↔ IsHandshake skb) := by
  obtain ⟨_, tcp, sk, ⟨found, rfl, hframe⟩, hsk, hfirst⟩ := h
  refine ⟨tcp.syn, selects_of_firstFlight hbytes hfits hframe hsk hfirst, ?_⟩
  constructor
  · exact fun hsyn => ⟨found.l4Off, tcp, ⟨found, rfl, hframe⟩, hsyn⟩
  · rintro ⟨l4Off, tcp', hat, hsyn⟩
    obtain ⟨-, rfl⟩ := TcpAt.unique ⟨found, rfl, hframe⟩ hat
    exact hsyn

lemma selected_of_selects {handshake : Bool} (hbytes : cfg.bytes.toNat ≤ 2 ^ 20)
    (hfits : OffsetFits skb) (h : redundancySelects skb cfg = some (some handshake)) :
    Selected skb cfg := by
  obtain ⟨found, tcp, sk, hframe, hsk⟩ := tcpFrame_of_selects h
  exact ⟨found.l4Off, tcp, sk, ⟨found, rfl, hframe⟩, hsk,
    firstFlight_of_selects hbytes hfits hframe hsk h⟩

end Tests

/-! ### What leaves, and what is counted -/

/-- A packet of the stack, and what the helpers say during its passes. -/
abbrev Packet := SkBuff × (ℕ → Calls)

/-- Copying is on, under the ABI of this program. -/
structure Copies (maps : Maps) (cfg : RedundancyConfig) : Prop where
  config : maps.redundancyConfig = some cfg
  enabled : cfg.enabled ≠ 0
  abi : cfg.abiVersion = redundancyAbiVersion

/-- A packet is copied: it is to be copied, and the clone is not refused. -/
def Cloned (depth : ℕ) (cfg : RedundancyConfig) (packet : Packet) : Prop :=
  Selected packet.1 cfg ∧ refuses depth packet.2 = false

/-- What leaves for a packet: its clone, if it is copied, and the packet, with nothing in
their control blocks if it was to be copied. -/
structure Sends (depth : ℕ) (cfg : RedundancyConfig) (packet : Packet) (out : List Departure) :
    Prop where
  cloned : Cloned depth cfg packet → ∃ clone orig, out = [⟨clone, true⟩, ⟨orig, false⟩] ∧
    clone.data = orig.data ∧ clone.len = packet.1.len ∧ clone.sk = none
  once : ¬ Cloned depth cfg packet → ∃ orig, out = [⟨orig, false⟩]
  cleared : Selected packet.1 cfg → ∀ d ∈ out, d.skb.cb0 = 0 ∧ d.skb.cb1 = 0
  kept : ¬ Selected packet.1 cfg → ∀ d ∈ out,
    d.skb.cb0 = packet.1.cb0 ∧ d.skb.cb1 = packet.1.cb1

section Counts

open Classical in
/-- `n` for each packet that meets a condition. -/
noncomputable def total (P : Packet → Prop) (n : Packet → ℕ) (packets : List Packet) : ℕ :=
  (packets.map fun packet => if P packet then n packet else 0).sum

/-- The counters after some packets: the clones, their bytes and their handshakes, and the
clones that were refused. -/
noncomputable def tally (depth : ℕ) (cfg : RedundancyConfig) (packets : List Packet)
    (s : RedundancyStats) : RedundancyStats :=
  { s with
    packets := s.packets + UInt64.ofNat (total (Cloned depth cfg) (fun _ => 1) packets)
    bytes := s.bytes + UInt64.ofNat (total (Cloned depth cfg) (fun p => p.1.len.toNat) packets)
    handshakes := s.handshakes + UInt64.ofNat
      (total (fun p => Cloned depth cfg p ∧ IsHandshake p.1) (fun _ => 1) packets)
    cloneFailed := s.cloneFailed + UInt64.ofNat
      (total (fun p => Selected p.1 cfg ∧ refuses depth p.2 = true) (fun _ => 1) packets) }

@[simp] lemma total_nil (P : Packet → Prop) (n : Packet → ℕ) : total P n [] = 0 := rfl

open Classical in
lemma total_cons (P : Packet → Prop) (n : Packet → ℕ) (packet : Packet) (packets : List Packet) :
    total P n (packet :: packets) = (if P packet then n packet else 0) + total P n packets := rfl

lemma tally_nil (depth : ℕ) (cfg : RedundancyConfig) : tally depth cfg [] = id := by
  funext s
  simp [tally]

lemma tally_cons (depth : ℕ) (cfg : RedundancyConfig) (packet : Packet) (packets : List Packet)
    (s : RedundancyStats) :
    tally depth cfg (packet :: packets) s =
      tally depth cfg packets (tally depth cfg [packet] s) := by
  simp only [tally, total_cons, total_nil, add_zero, UInt64.ofNat_add,
    UInt64.add_assoc]

end Counts

section Transmit

variable {cfg : RedundancyConfig} {packet : Packet} {e : Egress}

lemma tally_of_not_selected (depth : ℕ) (h : ¬ Selected packet.1 cfg) :
    tally depth cfg [packet] = id := by
  funext s
  simp [tally, total_cons, Cloned, h]

lemma tally_of_selected (depth : ℕ) (h : Selected packet.1 cfg) {handshake : Bool}
    (hsyn : handshake = true ↔ IsHandshake packet.1) :
    tally depth cfg [packet] = copyStats (refuses depth packet.2) handshake packet.1.len := by
  have hlen : UInt64.ofNat packet.1.len.toNat = packet.1.len.toUInt64 := by
    have hlt := packet.1.len.toNat_lt
    apply UInt64.toNat.inj
    rw [UInt64.toNat_ofNat', UInt32.toNat_toUInt64]
    omega
  funext s
  cases hrefuses : refuses depth packet.2 with
  | true => simp [tally, total_cons, Cloned, copyStats, h, hrefuses]
  | false =>
      by_cases hhand : IsHandshake packet.1
      · simp [tally, total_cons, Cloned, copyStats, h, hrefuses, hsyn.mpr hhand, hhand, hlen]
      · have hnot : handshake = false := by
          cases handshake with
          | false => rfl
          | true => exact absurd (hsyn.mp rfl) hhand
        simp [tally, total_cons, Cloned, copyStats, h, hrefuses, hnot, hhand, hlen]

/-- **One packet of the stack**: the copier sees it as it came, but for the codepoint. -/
lemma transmit_sends (depth : ℕ) (hcfg : Copies e.maps cfg) (hbytes : cfg.bytes.toNat ≤ 2 ^ 20)
    (hcopy : ¬ IsCopy packet.1) (hfits : OffsetFits packet.1) :
    ∃ e' out, transmit depth e packet = some e' ∧ e'.left = e.left ++ out ∧
      Sends depth cfg packet out ∧ Copies e'.maps cfg ∧
      e'.maps.redundancyStats = e.maps.redundancyStats.map (tally depth cfg [packet]) := by
  obtain ⟨mid, hmid, hmarking⟩ := accountDscp_cases packet.1 (countPacket packet.1 e)
  set e₁ : Egress :=
    { countPacket packet.1 e with
      maps := { (countPacket packet.1 e).maps with dscpStats := mid.2 } } with he₁
  -- marking for retransmission rewrites nothing that the copier looks at
  have hsame := hmarking.sameSegment
  have hselected := hsame.selected_iff cfg
  obtain ⟨⟨skb', e'⟩, hout, hdup⟩ := accountRedundancy_cases depth packet.2 mid.1 e₁
  have htransmit : transmit depth e packet = some (e'.leave false skb') := by
    rw [transmit, account_eq hcopy, hmid, Option.bind_some, hout]
    rfl
  have hconfig : Copies (e'.leave false skb').maps cfg :=
    ⟨hdup.frame.redundancyConfig.trans hcfg.config, hcfg.enabled, hcfg.abi⟩
  have hread : ∀ cfg', e₁.maps.redundancyConfig = some cfg' → cfg' = cfg :=
    fun cfg' h => Option.some.inj (h.symm.trans hcfg.config)
  cases hdup with
  | off hoff => exact absurd (hoff cfg hcfg.config) hcfg.enabled
  | mismatch h habi =>
      obtain rfl := hread _ h
      exact absurd hcfg.abi habi
  | @passed cfg' h hselects =>
      obtain rfl := hread _ h
      have hnot : ¬ Selected packet.1 cfg' := fun hsel => by
        obtain ⟨handshake, hsome, -⟩ :=
          selects_of_selected hbytes (hsame.offsetFits hfits) (hselected.mpr hsel)
        cases hselects.symm.trans hsome
      refine ⟨_, [⟨mid.1, false⟩], htransmit, rfl, ?_, hconfig, ?_⟩
      · refine ⟨fun h => absurd h.1 hnot, fun _ => ⟨_, rfl⟩, fun h => absurd h hnot, ?_⟩
        intro _ d hd
        rw [List.mem_singleton.mp hd]
        exact ⟨hsame.cb0, hsame.cb1⟩
      · rw [tally_of_not_selected depth hnot, Option.map_id]
        rfl
  | @copied cfg' handshake h hselects =>
      obtain rfl := hread _ h
      have hfits' := hsame.offsetFits hfits
      have hsel : Selected mid.1 cfg' := selected_of_selects hbytes hfits' hselects
      obtain ⟨handshake', hsome, hsyn⟩ := selects_of_selected hbytes hfits' hsel
      obtain rfl := Option.some.inj (Option.some.inj (hselects.symm.trans hsome))
      rw [hselected] at hsel
      rw [hsame.isHandshake_iff] at hsyn
      have htally := tally_of_selected depth hsel hsyn
      rw [← hsame.len] at htally
      -- selected: the kernel clones it or refuses to
      cases hrefuses : refuses depth packet.2 with
      | true =>
          rw [hrefuses] at htransmit hconfig htally
          rw [afterClone, if_pos hrefuses] at htransmit hconfig
          refine ⟨_, [⟨{ mid.1 with cb0 := 0, cb1 := 0 }, false⟩], htransmit, rfl, ?_, hconfig, ?_⟩
          · refine ⟨fun h => ?_, fun _ => ⟨_, rfl⟩, fun _ d hd => ?_, fun h => absurd hsel h⟩
            · exact absurd h.2 (by simp [hrefuses])
            · rw [List.mem_singleton.mp hd]
              exact ⟨rfl, rfl⟩
          · rw [htally]
            rfl
      | false =>
          rw [hrefuses] at htransmit hconfig htally
          rw [afterClone, if_neg (by simp [hrefuses])] at htransmit hconfig
          refine ⟨_, [⟨copied (packet.2 1).nowNs (tagged cfg' mid.1), true⟩,
            ⟨{ mid.1 with cb0 := 0, cb1 := 0 }, false⟩], htransmit, ?_, ?_, hconfig, ?_⟩
          · simp [Egress.leave, Egress.countCopy, countPacket, he₁]
          · refine ⟨fun _ => ⟨_, _, rfl, rfl, hsame.len, rfl⟩, fun h => absurd ⟨hsel, hrefuses⟩ h,
              fun _ d hd => ?_, fun h => absurd hsel h⟩
            rw [List.mem_cons, List.mem_singleton] at hd
            rcases hd with rfl | rfl
            · exact ⟨rfl, rfl⟩
            · exact ⟨rfl, rfl⟩
          · rw [htally]
            rfl

end Transmit

/-! ### Runs -/

/-- A run of packets. -/
lemma run_sends {depth : ℕ} {cfg : RedundancyConfig} (hbytes : cfg.bytes.toNat ≤ 2 ^ 20)
    (packets : List Packet) {e : Egress} (hcfg : Copies e.maps cfg)
    (harrive : ∀ packet ∈ packets, ¬ IsCopy packet.1)
    (hfits : ∀ packet ∈ packets, OffsetFits packet.1) :
    ∃ e' outs, Machine.run? (transmit depth) e packets = some e' ∧
      e'.left = e.left ++ outs.flatten ∧ List.Forall₂ (Sends depth cfg) packets outs ∧
      e'.maps.redundancyStats = e.maps.redundancyStats.map (tally depth cfg packets) := by
  induction packets generalizing e with
  | nil => exact ⟨e, [], rfl, by simp, .nil, by rw [tally_nil, Option.map_id]; rfl⟩
  | cons packet packets ih =>
      obtain ⟨e₁, out, hstep, hleft₁, hsends, hcfg₁, hstats₁⟩ :=
        transmit_sends depth hcfg hbytes (harrive packet (by simp))
          (hfits packet (by simp))
      obtain ⟨e', outs, hrun, hleft, hall, hstats⟩ := ih hcfg₁
        (fun p hp => harrive p (List.mem_cons_of_mem packet hp))
        (fun p hp => hfits p (List.mem_cons_of_mem packet hp))
      refine ⟨e', out :: outs, Machine.run?_cons_eq_some.mpr ⟨e₁, hstep, hrun⟩, ?_,
        .cons hsends hall, ?_⟩
      · rw [hleft, hleft₁, List.flatten_cons, List.append_assoc]
      · rw [hstats, hstats₁, Option.map_map]
        congr 1
        funext s
        rw [tally_cons]
        rfl

/-- **First-flight redundancy copies the right packets exactly once.**

With copying on and `bytes` at most `2^20`, in every run of packets none of which is taken
for a copy when it arrives and whose offsets stay below `2^64`: a packet is cloned if and
only if it is to be copied and the clone is not refused; it leaves once more for that, and
what was to be copied leaves with an empty control block; the counters count the clones,
their bytes, their handshakes and the clones that were refused.  A clone goes through the
hook with an empty control block, and is neither marked nor counted nor cloned, whatever
`bpf_clone_redirect` would do. -/
theorem redundancy_copies_once (depth : ℕ) (cfg : RedundancyConfig) (packets : List Packet)
    (e : Egress) (hcfg : Copies e.maps cfg) (hbytes : cfg.bytes.toNat ≤ 2 ^ 20)
    (harrive : ∀ packet ∈ packets, ¬ IsCopy packet.1)
    (hfits : ∀ packet ∈ packets, OffsetFits packet.1) :
    (∃ e' outs, Machine.run? (transmit depth) e packets = some e' ∧
      e'.left = e.left ++ outs.flatten ∧ List.Forall₂ (Sends depth cfg) packets outs ∧
      e'.maps.redundancyStats = e.maps.redundancyStats.map (tally depth cfg packets)) ∧
    ∀ (send : SkBuff → Egress → Option (Bool × Egress)) (nowNs : UInt64) (clone : SkBuff)
      (e : Egress), IsCopy clone →
      ∃ clone' e', skylineTcAccount send nowNs clone e = some (clone', e') ∧
        clone'.data = clone.data ∧ clone'.cb0 = 0 ∧ clone'.cb1 = 0 ∧ e'.left = e.left ∧
        e'.maps.dscpStats = e.maps.dscpStats ∧
        e'.maps.redundancyStats = e.maps.redundancyStats := by
  refine ⟨run_sends hbytes packets hcfg harrive hfits, ?_⟩
  intro send nowNs clone e hcopy
  exact ⟨_, _, account_copy hcopy send nowNs e, rfl, rfl, rfl, rfl, rfl, rfl⟩

/-- The bytes of the name `skyline_cc`. -/
def skylineCcName : Fin 16 → UInt8 := fun i => skylineCcBytes.getD i 0

/-- The segment of a `skyline_cc` connection, one byte past `snd_una`. -/
def sampleSegment (bytesAcked : UInt64) : SkBuff :=
  { sampleSkb with sk := some (.full (some ⟨2000, 999, bytesAcked, some skylineCcName⟩)) }

def sampleCopying : Egress :=
  ⟨⟨none, none, none, some ⟨1, 1, 1024, 0⟩, some ⟨0, 0, 0, 0, 0⟩⟩, []⟩

lemma sampleSegment_tcpAt (bytesAcked : UInt64) :
    TcpAt (sampleSegment bytesAcked).data 34 ⟨1000, 5, false, false, true⟩ :=
  ⟨.ipv4 ⟨34, 0, 0x4500⟩, rfl, sampleFrame_tcp⟩

lemma runs_sampleSegment : RunsSkylineCc ⟨2000, 999, 0, some skylineCcName⟩ :=
  ⟨_, rfl, by decide⟩

/-- The segment is to be copied while it starts in the first kilobyte. -/
lemma sampleSegment_selected {bytesAcked : UInt64} :
    Selected (sampleSegment bytesAcked) ⟨1, 1, 1024, 0⟩ ↔ bytesAcked.toNat + 1 < 1024 := by
  have hstart : streamStart ⟨2000, 999, bytesAcked, some skylineCcName⟩ 1000 =
      bytesAcked.toNat + 1 := by
    have hdiff : ((1000 : UInt32) - 999).toInt32.toInt = 1 := by decide
    rw [streamStart, hdiff]
  have hbytes : ((1024 : UInt32).toNat : ℤ) = 1024 := rfl
  constructor
  · rintro ⟨l4Off, tcp, sk, hat, hsk, hfirst⟩
    obtain ⟨rfl, rfl⟩ := TcpAt.unique (sampleSegment_tcpAt bytesAcked) hat
    obtain rfl := Option.some.inj hsk
    cases hfirst with
    | synAck hsyn => exact absurd hsyn (by decide)
    | syn htp hcc hsyn => exact absurd hsyn (by decide)
    | payload htp hcc hpayload hge hlt =>
        obtain rfl := Option.some.inj htp
        rw [hstart, hbytes] at hlt
        omega
  · intro hlt
    have hpayload : (34 : UInt32).toNat + 5 * 4 < sampleSkb.len.toNat := by decide
    refine ⟨34, _, _, sampleSegment_tcpAt bytesAcked, rfl, .payload rfl runs_sampleSegment
      hpayload ?_ ?_⟩
    · rw [hstart]
      exact (Int.lt_succ _).le
    · rw [hstart, hbytes]
      omega

lemma sampleSegment_fits {bytesAcked : UInt64} (h : bytesAcked.toNat + 1 < 2 ^ 64) :
    OffsetFits (sampleSegment bytesAcked) := by
  intro l4Off tcp tp hat htp _ _
  obtain ⟨-, rfl⟩ := TcpAt.unique (sampleSegment_tcpAt bytesAcked) hat
  obtain rfl := Option.some.inj htp
  have hdiff : ((1000 : UInt32) - 999).toNat = 1 := by decide
  show bytesAcked.toNat + ((1000 : UInt32) - 999).toNat < 2 ^ 64
  rw [hdiff]
  exact h

/-- Four segments: one at the start of a connection, one behind the first kilobyte, one whose
clone is refused, and one more at the start. -/
def sampleRun : List Packet :=
  [(sampleSegment 100, fun _ => ⟨false, 0⟩), (sampleSegment 2000, fun _ => ⟨false, 0⟩),
    (sampleSegment 200, fun _ => ⟨true, 0⟩), (sampleSegment 300, fun _ => ⟨false, 0⟩)]

/-- The first and the last are copied, once each. -/
theorem redundancy_copies_once_sample :
    ∃ e', Machine.run? (transmit 1) sampleCopying sampleRun = some e' ∧
      e'.left.map Departure.clone = [true, false, false, false, true, false] := by
  obtain ⟨⟨e', outs, hrun, hleft, hall, -⟩, -⟩ := redundancy_copies_once 1 ⟨1, 1, 1024, 0⟩
    sampleRun sampleCopying ⟨rfl, by decide, rfl⟩ (by decide)
    (by
      simp only [sampleRun, List.forall_mem_cons]
      exact ⟨fun h => absurd h.1 (by decide), fun h => absurd h.1 (by decide),
        fun h => absurd h.1 (by decide), fun h => absurd h.1 (by decide), by simp⟩)
    (by
      simp only [sampleRun, List.forall_mem_cons]
      exact ⟨sampleSegment_fits (by decide), sampleSegment_fits (by decide),
        sampleSegment_fits (by decide), sampleSegment_fits (by decide), by simp⟩)
  simp only [sampleRun, List.forall₂_cons_left_iff, List.forall₂_nil_left_iff] at hall
  obtain ⟨out₁, _, h₁, ⟨out₂, _, h₂, ⟨out₃, _, h₃, ⟨out₄, _, h₄, rfl, rfl⟩, rfl⟩, rfl⟩, rfl⟩ := hall
  obtain ⟨clone₁, orig₁, rfl, -⟩ := h₁.cloned ⟨sampleSegment_selected.mpr (by decide), rfl⟩
  obtain ⟨orig₂, rfl⟩ := h₂.once fun h => absurd (sampleSegment_selected.mp h.1) (by decide)
  obtain ⟨orig₃, rfl⟩ := h₃.once fun h => absurd h.2 (by decide)
  obtain ⟨clone₄, orig₄, rfl, -⟩ := h₄.cloned ⟨sampleSegment_selected.mpr (by decide), rfl⟩
  exact ⟨e', hrun, by rw [hleft]; rfl⟩

/-- With `bytes_acked` at its largest value the sum wraps: the segment is cloned, though it
starts at the offset `2^64`. -/
theorem offset_wraps :
    Copies sampleCopying.maps ⟨1, 1, 1024, 0⟩ ∧ ¬ IsCopy (sampleSegment 0xffffffffffffffff) ∧
      ((transmit 1 sampleCopying (sampleSegment 0xffffffffffffffff, fun _ => ⟨false, 0⟩)).map
        fun e' => e'.left.map Departure.clone) = some [true, false] ∧
      ¬ Selected (sampleSegment 0xffffffffffffffff) ⟨1, 1, 1024, 0⟩ := by
  refine ⟨⟨rfl, by decide, rfl⟩, fun h => absurd h.1 (by decide), by decide, ?_⟩
  rw [sampleSegment_selected]
  decide

end SkylineSpeeder.Tc
