import SkylineSpeeder.Tc.Skb

/-!
The two parsers of `skyline_tc.bpf.c`: how a TCP header is found behind an IPv4 or an IPv6
header.

* `skylineParseIpv4`, `skylineParseIpv6`: the parsers, over reads that may fail;
  `extensionWalk` is the loop over the extension headers;
* `ExtensionChain`, `LeadsTo`: the headers that lead from a next-header field to TCP;
  `extensionWalk_spec` says that the loop follows them as far as its rounds go;
* `parseIpv6_grammar`: what the walk accepts, where it finds TCP, and what it counts.
-/

namespace SkylineSpeeder.Tc

/-! ### Constants -/

def ethHlen : UInt32 := 14
def ethPIp : UInt16 := 0x0800
def ethPIpv6 : UInt16 := 0x86dd
def ipprotoTcp : UInt8 := 6
def ipprotoHopopts : UInt8 := 0
def ipprotoRouting : UInt8 := 43
def ipprotoDstopts : UInt8 := 60

/-- `SKYLINE_IPV6_MAX_EXT_HDRS`. -/
def ipv6MaxExtHdrs : ℕ := 4

/-- `SKYLINE_IPV6_MAX_EXT_BYTES`. -/
def ipv6MaxExtBytes : UInt32 := 96

/-- `SKYLINE_IPV6_MAX_L4_OFF`. -/
def ipv6MaxL4Off : UInt32 := ethHlen + 40 + ipv6MaxExtBytes

/-! ### IPv4 -/

/-- What `skyline_parse_ipv4` hands to its caller. -/
structure Ipv4Found where
  l4Off : UInt32
  oldTos : UInt8
  oldHw : UInt16
  deriving DecidableEq

/-- `skyline_parse_ipv4`: `some none` is the return value 0, which leaves the output
parameters alone. -/
def skylineParseIpv4 (data : List UInt8) : Option (Option Ipv4Found) :=
  if data.length < 14 then pure none
  else do
    let proto ← load16 data 12
    if proto ≠ ethPIp then return none
    if data.length < 34 then return none
    let protocol ← load8 data 23
    let versionIhl ← load8 data 14
    let ihl := versionIhl &&& 0x0f
    if protocol ≠ ipprotoTcp ∨ ihl < 5 then return none
    let fragOff ← load16 data 20
    if fragOff &&& 0x3fff ≠ 0 then return none
    let tos ← load8 data 15
    let hw ← load16 data 14
    return some ⟨ethHlen + ihl.toUInt32 * 4, tos, hw⟩

/-! ### IPv6 -/

/-- The extension headers that are walked. -/
def walked (nexthdr : UInt8) : Bool :=
  nexthdr = ipprotoHopopts || nexthdr = ipprotoRouting || nexthdr = ipprotoDstopts

/-- The loop of `skyline_parse_ipv6` with so many rounds left: the offset of the TCP header,
or `none` where the walk gives up. -/
def extensionWalk (data : List UInt8) : ℕ → UInt8 → UInt32 → Option (Option UInt32)
  | 0, nexthdr, off => pure (if nexthdr ≠ ipprotoTcp then none else some off)
  | rounds + 1, nexthdr, off =>
      if nexthdr = ipprotoTcp then pure (some off)
      else if ¬ walked nexthdr then pure none
      else if data.length < off.toNat + 2 then pure none
      else do
        let next ← load8 data off.toNat
        let hdrlen ← load8 data (off.toNat + 1)
        let off := off + (hdrlen.toUInt32 + 1) * 8
        if off > ipv6MaxL4Off then return none
        extensionWalk data rounds next off

/-- `skyline_parse_ipv6`: the return value, `*l4_off` and the counters after it. -/
def skylineParseIpv6 (data : List UInt8) (l4Off : UInt32) (stats : Option DscpStats) :
    Option (Bool × UInt32 × Option DscpStats) :=
  if data.length < 14 + 7 then pure (false, l4Off, stats)
  else do
    let nexthdr ← load8 data (14 + 6)
    match ← extensionWalk data ipv6MaxExtHdrs nexthdr (ethHlen + 40) with
    | some off => return (true, off, stats)
    | none => return (false, l4Off, bailout stats)

/-! ### The grammar -/

/-- From the field `nexthdr`, whose header would start at `off`, to TCP: the `Hdr Ext Len`
of the headers on the way.  Each of them is one that is walked, its first two bytes are in
the frame, and what comes after it starts at `SKYLINE_IPV6_MAX_L4_OFF` at the latest. -/
inductive ExtensionChain (data : List UInt8) : UInt8 → ℕ → List UInt8 → Prop where
  | tcp (off : ℕ) : ExtensionChain data ipprotoTcp off []
  | header {nexthdr next hdrlen : UInt8} {off : ℕ} {rest : List UInt8}
      (hkind : nexthdr = ipprotoHopopts ∨ nexthdr = ipprotoRouting ∨ nexthdr = ipprotoDstopts)
      (hnext : data[off]? = some next) (hlen : data[off + 1]? = some hdrlen)
      (hoff : off + (hdrlen.toNat + 1) * 8 ≤ ipv6MaxL4Off.toNat)
      (hrest : ExtensionChain data next (off + (hdrlen.toNat + 1) * 8) rest) :
      ExtensionChain data nexthdr off (hdrlen :: rest)

/-- The bytes that headers with these lengths take. -/
def extensionBytes (hdrlens : List UInt8) : ℕ := (hdrlens.map fun l => (l.toNat + 1) * 8).sum

lemma walked_iff {nexthdr : UInt8} : walked nexthdr = true ↔
    nexthdr = ipprotoHopopts ∨ nexthdr = ipprotoRouting ∨ nexthdr = ipprotoDstopts := by
  simp [walked, or_assoc]

/-- TCP is not one of the headers that are walked. -/
lemma not_walked_tcp : walked ipprotoTcp = false := rfl

/-- One header further on. -/
lemma toNat_headerEnd {off : UInt32} (h : off.toNat ≤ ipv6MaxL4Off.toNat) (hdrlen : UInt8) :
    (off + (hdrlen.toUInt32 + 1) * 8).toNat = off.toNat + (hdrlen.toNat + 1) * 8 := by
  have hmax : ipv6MaxL4Off.toNat = 150 := rfl
  have hbyte := hdrlen.toNat_lt
  rw [UInt32.toNat_add, UInt32.toNat_mul, UInt32.toNat_add, UInt8.toNat_toUInt32]
  simp only [UInt32.reduceToNat]
  omega

variable {data : List UInt8}

/-- A field that names TCP ends the chain. -/
lemma chain_tcp_iff {off : ℕ} {hdrlens : List UInt8} :
    ExtensionChain data ipprotoTcp off hdrlens ↔ hdrlens = [] := by
  constructor
  · intro h
    cases h with
    | tcp => rfl
    | header hkind => exact absurd (walked_iff.mpr hkind) (by rw [not_walked_tcp]; simp)
  · rintro rfl
    exact .tcp off

/-- The headers are determined by the frame. -/
lemma ExtensionChain.unique {nexthdr : UInt8} {off : ℕ} {hdrlens hdrlens' : List UInt8}
    (h : ExtensionChain data nexthdr off hdrlens) (h' : ExtensionChain data nexthdr off hdrlens') :
    hdrlens = hdrlens' := by
  induction h generalizing hdrlens' with
  | tcp => exact (chain_tcp_iff.mp h').symm
  | @header nexthdr next hdrlen off rest hkind hnext hlen hoff hrest ih =>
      cases h' with
      | tcp => exact absurd (walked_iff.mpr hkind) (by rw [not_walked_tcp]; simp)
      | @header _ next' hdrlen' _ rest' _ hnext' hlen' _ hrest' =>
          obtain rfl : next = next' := Option.some.inj (hnext.symm.trans hnext')
          obtain rfl : hdrlen = hdrlen' := Option.some.inj (hlen.symm.trans hlen')
          rw [ih hrest']

/-- The headers end at `SKYLINE_IPV6_MAX_L4_OFF` at the latest, if they start there. -/
lemma ExtensionChain.end_le {nexthdr : UInt8} {off : ℕ} {hdrlens : List UInt8}
    (h : ExtensionChain data nexthdr off hdrlens) (hoff : off ≤ ipv6MaxL4Off.toNat) :
    off + extensionBytes hdrlens ≤ ipv6MaxL4Off.toNat := by
  induction h with
  | tcp => exact hoff
  | header hkind hnext hlen hend hrest ih =>
      rw [extensionBytes, List.map_cons, List.sum_cons, ← add_assoc]
      exact ih hend

/-- A chain of at most `rounds` headers leads from the field to a TCP header at `l4Off`. -/
def LeadsTo (data : List UInt8) (rounds : ℕ) (nexthdr : UInt8) (off l4Off : ℕ) : Prop :=
  ∃ hdrlens, ExtensionChain data nexthdr off hdrlens ∧ hdrlens.length ≤ rounds ∧
    l4Off = off + extensionBytes hdrlens

lemma leadsTo_tcp {rounds off l4Off : ℕ} :
    LeadsTo data rounds ipprotoTcp off l4Off ↔ l4Off = off := by
  constructor
  · rintro ⟨hdrlens, hchain, -, hl4⟩
    rw [chain_tcp_iff.mp hchain] at hl4
    exact hl4
  · rintro rfl
    exact ⟨[], .tcp _, Nat.zero_le _, rfl⟩

/-- Without a round left only TCP itself is found. -/
lemma not_leadsTo_zero {nexthdr : UInt8} {off l4Off : ℕ} (h : nexthdr ≠ ipprotoTcp) :
    ¬ LeadsTo data 0 nexthdr off l4Off := by
  rintro ⟨hdrlens, hchain, hcount, -⟩
  cases hchain with
  | tcp => exact h rfl
  | header => simp at hcount

/-- One header of the chain. -/
lemma leadsTo_succ {rounds : ℕ} {nexthdr : UInt8} {off l4Off : ℕ} (h : nexthdr ≠ ipprotoTcp) :
    LeadsTo data (rounds + 1) nexthdr off l4Off ↔
      walked nexthdr = true ∧ ∃ next hdrlen, data[off]? = some next ∧
        data[off + 1]? = some hdrlen ∧
        off + (hdrlen.toNat + 1) * 8 ≤ ipv6MaxL4Off.toNat ∧
        LeadsTo data rounds next (off + (hdrlen.toNat + 1) * 8) l4Off := by
  constructor
  · rintro ⟨hdrlens, hchain, hcount, hl4⟩
    cases hchain with
    | tcp => exact absurd rfl h
    | @header _ next hdrlen _ rest hkind hnext hlen hend hrest =>
        refine ⟨walked_iff.mpr hkind, next, hdrlen, hnext, hlen, hend, rest, hrest,
          Nat.le_of_succ_le_succ hcount, ?_⟩
        rw [hl4, extensionBytes, extensionBytes, List.map_cons, List.sum_cons, add_assoc]
  · rintro ⟨hkind, next, hdrlen, hnext, hlen, hend, rest, hrest, hcount, hl4⟩
    refine ⟨hdrlen :: rest, .header (walked_iff.mp hkind) hnext hlen hend hrest,
      Nat.succ_le_succ hcount, ?_⟩
    rw [hl4, extensionBytes, extensionBytes, List.map_cons, List.sum_cons, add_assoc]

/-- **The walk never reads outside the frame**, and it finds TCP exactly at the end of a
chain of at most as many headers as it has rounds. -/
lemma extensionWalk_spec (data : List UInt8) (rounds : ℕ) (nexthdr : UInt8) (off : UInt32)
    (hoff : off.toNat ≤ ipv6MaxL4Off.toNat) :
    ∃ found, extensionWalk data rounds nexthdr off = some found ∧
      ∀ l4Off : UInt32, found = some l4Off ↔
        LeadsTo data rounds nexthdr off.toNat l4Off.toNat := by
  induction rounds generalizing nexthdr off with
  | zero =>
      refine ⟨_, rfl, fun l4Off => ?_⟩
      by_cases htcp : nexthdr = ipprotoTcp
      · rw [htcp, if_neg (not_not.mpr rfl), Option.some.injEq, leadsTo_tcp, UInt32.toNat_inj]
        exact eq_comm
      · rw [if_pos htcp]
        exact ⟨nofun, fun h => absurd h (not_leadsTo_zero htcp)⟩
  | succ rounds ih =>
      rw [extensionWalk]
      by_cases htcp : nexthdr = ipprotoTcp
      · rw [if_pos htcp]
        refine ⟨_, rfl, fun l4Off => ?_⟩
        rw [htcp, Option.some.injEq, leadsTo_tcp, UInt32.toNat_inj]
        exact eq_comm
      rw [if_neg htcp]
      simp only [leadsTo_succ htcp]
      by_cases hkind : walked nexthdr = true
      · rw [if_neg (not_not.mpr hkind)]
        by_cases hin : data.length < off.toNat + 2
        · -- a header that is cut off
          rw [if_pos hin]
          refine ⟨_, rfl, fun l4Off => ⟨nofun, ?_⟩⟩
          rintro ⟨-, next, hdrlen, -, hlen, -⟩
          rw [List.getElem?_eq_none (by omega)] at hlen
          cases hlen
        · rw [if_neg hin]
          obtain ⟨next, hnext⟩ := exists_load8 data off.toNat (by omega)
          obtain ⟨hdrlen, hlen⟩ := exists_load8 data (off.toNat + 1) (by omega)
          have hend := toNat_headerEnd hoff hdrlen
          have hread : ∀ next' hdrlen', data[off.toNat]? = some next' →
              data[off.toNat + 1]? = some hdrlen' → next = next' ∧ hdrlen = hdrlen' :=
            fun _ _ hnext' hlen' => ⟨Option.some.inj (hnext.symm.trans hnext'),
              Option.some.inj (hlen.symm.trans hlen')⟩
          simp only [hnext, hlen, Option.bind_eq_bind, Option.bind_some]
          by_cases hmax : off + (hdrlen.toUInt32 + 1) * 8 > ipv6MaxL4Off
          · -- a header that ends too far out
            rw [if_pos hmax]
            rw [gt_iff_lt, UInt32.lt_iff_toNat_lt, hend] at hmax
            refine ⟨_, rfl, fun l4Off => ⟨nofun, ?_⟩⟩
            rintro ⟨-, next', hdrlen', hnext', hlen', hle, -⟩
            obtain ⟨rfl, rfl⟩ := hread next' hdrlen' hnext' hlen'
            omega
          · rw [if_neg hmax]
            rw [gt_iff_lt, UInt32.lt_iff_toNat_lt, hend, not_lt] at hmax
            obtain ⟨found, hfound, hiff⟩ := ih next _ (hend ▸ hmax)
            refine ⟨found, hfound, fun l4Off => (hiff l4Off).trans ?_⟩
            rw [hend]
            constructor
            · exact fun h => ⟨hkind, next, hdrlen, hnext, hlen, hmax, h⟩
            · rintro ⟨-, next', hdrlen', hnext', hlen', -, h⟩
              obtain ⟨rfl, rfl⟩ := hread next' hdrlen' hnext' hlen'
              exact h
      · rw [if_pos hkind]
        exact ⟨_, rfl, fun l4Off => ⟨nofun, fun h => absurd h.1 hkind⟩⟩

/-! ### The parser -/

/-- **The IPv6 walk accepts exactly its grammar**, in every frame: it returns 1 if the
first seven bytes of the fixed header are there and its next-header field leads to TCP
through at most `SKYLINE_IPV6_MAX_EXT_HDRS` headers; then `*l4_off` is where they end.
Otherwise `*l4_off` is not written, and with the seven bytes there
`ipv6_chain_bailout` is raised once.  No read is outside the frame. -/
theorem parseIpv6_grammar (data : List UInt8) (l4Off : UInt32) (stats : Option DscpStats) :
    ∃ accepted l4Off' stats',
      skylineParseIpv6 data l4Off stats = some (accepted, l4Off', stats') ∧
      (accepted = true ↔ 14 + 7 ≤ data.length ∧ ∃ nexthdr hdrlens,
        data[14 + 6]? = some nexthdr ∧ ExtensionChain data nexthdr (14 + 40) hdrlens ∧
          hdrlens.length ≤ ipv6MaxExtHdrs) ∧
      (∀ nexthdr hdrlens, accepted = true → data[14 + 6]? = some nexthdr →
        ExtensionChain data nexthdr (14 + 40) hdrlens → hdrlens.length ≤ ipv6MaxExtHdrs →
          l4Off'.toNat = 14 + 40 + (hdrlens.map fun hdrlen => (hdrlen.toNat + 1) * 8).sum) ∧
      (accepted = true → stats' = stats) ∧
      (accepted = false → l4Off' = l4Off ∧
        stats' = if 14 + 7 ≤ data.length then
          stats.map fun s => { s with ipv6ChainBailout := s.ipv6ChainBailout + 1 } else stats) := by
  rw [skylineParseIpv6]
  by_cases hshort : data.length < 14 + 7
  · rw [if_pos hshort]
    refine ⟨false, l4Off, stats, rfl, ⟨nofun, fun h => ?_⟩, nofun, nofun, fun _ => ⟨rfl, ?_⟩⟩
    · omega
    · rw [if_neg (by omega)]
  rw [if_neg hshort]
  obtain ⟨nexthdr, hnexthdr⟩ := exists_load8 data (14 + 6) (by omega)
  obtain ⟨found, hfound, hiff⟩ := extensionWalk_spec data ipv6MaxExtHdrs nexthdr
    (ethHlen + 40) (by decide)
  have hfield : ∀ nexthdr', data[14 + 6]? = some nexthdr' → nexthdr = nexthdr' :=
    fun _ h => Option.some.inj (hnexthdr.symm.trans h)
  simp only [hnexthdr, hfound, Option.bind_eq_bind, Option.bind_some]
  cases found with
  | none =>
      refine ⟨false, l4Off, bailout stats, rfl, ⟨nofun, ?_⟩, nofun, nofun, fun _ => ⟨rfl, ?_⟩⟩
      · rintro ⟨-, nexthdr', hdrlens, hnexthdr', hchain, hcount⟩
        obtain rfl := hfield nexthdr' hnexthdr'
        -- a chain that the grammar allows ends near enough to be walked
        have hend : 14 + 40 + extensionBytes hdrlens ≤ 150 := hchain.end_le (by decide)
        have hleads : LeadsTo data ipv6MaxExtHdrs nexthdr (ethHlen + 40 : UInt32).toNat
            (UInt32.ofNat (54 + extensionBytes hdrlens)).toNat := by
          refine ⟨hdrlens, hchain, hcount, ?_⟩
          rw [UInt32.toNat_ofNat']
          show _ = 54 + _
          omega
        exact absurd ((hiff _).mpr hleads) nofun
      · rw [if_pos (by omega), bailout]
  | some off =>
      obtain ⟨hdrlens, hchain, hcount, hl4⟩ := (hiff off).mp rfl
      refine ⟨true, off, stats, rfl, ⟨fun _ => ⟨by omega, nexthdr, hdrlens, hnexthdr, hchain,
        hcount⟩, fun _ => rfl⟩, ?_, fun _ => rfl, nofun⟩
      intro nexthdr' hdrlens' _ hnexthdr' hchain' _
      obtain rfl := hfield nexthdr' hnexthdr'
      rw [hl4, hchain'.unique hchain]
      rfl

end SkylineSpeeder.Tc
