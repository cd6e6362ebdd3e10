import SkylineSpeeder.Tc.Mark

/-!
The frames that the parsers of `skyline_tc.bpf.c` accept.

* `Ipv4Seen`, `parseIpv4_spec`: what the IPv4 parser has seen of a frame it accepts;
* `Accepts`, `accepts_ipv4_iff`, `accepts_ipv6_iff`: the frames that the dispatcher finds a
  TCP header in, whatever the counters are;
* `load16_congr`, `loadTcp_congr`, `extensionWalk_congr`: frames that agree where a reader
  looks read alike.
-/

namespace SkylineSpeeder.Tc

variable {data data' : List UInt8}

/-! ### Accepted frames -/

lemma exists_loadTcp (data : List UInt8) (off : ℕ) (h : off + 20 ≤ data.length) :
    ∃ tcp, loadTcp data off = some tcp := by
  obtain ⟨seq, hseq⟩ := exists_load32 data (off + 4) (by omega)
  obtain ⟨doff, hdoff⟩ := exists_load8 data (off + 12) (by omega)
  obtain ⟨flags, hflags⟩ := exists_load8 data (off + 13) (by omega)
  exact ⟨_, by simp only [loadTcp, hseq, hdoff, hflags]; rfl⟩

/-- What `skyline_parse_ipv4` has seen of a frame it accepts. -/
structure Ipv4Seen (data : List UInt8) (found : Ipv4Found) : Prop where
  length : 34 ≤ data.length
  proto : load16 data 12 = some ethPIp
  protocol : data[23]? = some ipprotoTcp
  fragment : ∃ fragOff, load16 data 20 = some fragOff ∧ fragOff &&& 0x3fff = 0
  header : ∃ versionIhl : UInt8, data[14]? = some versionIhl ∧ 5 ≤ versionIhl &&& 0x0f ∧
    found.l4Off = ethHlen + (versionIhl &&& 0x0f).toUInt32 * 4 ∧
    found.oldHw = be16 versionIhl found.oldTos
  tos : data[15]? = some found.oldTos

/-- **The IPv4 parser** reads inside the frame only, and accepts what it has seen. -/
lemma parseIpv4_spec (data : List UInt8) :
    ∃ found, skylineParseIpv4 data = some found ∧
      ∀ f, found = some f ↔ Ipv4Seen data f := by
  rw [skylineParseIpv4]
  by_cases hshort : data.length < 14
  · rw [if_pos hshort]
    refine ⟨none, rfl, fun f => ⟨nofun, fun h => ?_⟩⟩
    have := h.length
    omega
  rw [if_neg hshort]
  obtain ⟨proto, hproto⟩ := exists_load16 data 12 (by omega)
  simp only [hproto, Option.bind_eq_bind, Option.bind_some]
  -- each check that fails refutes one clause of `Ipv4Seen`
  by_cases hip : proto ≠ ethPIp
  · rw [if_pos hip]
    refine ⟨none, rfl, fun f => ⟨nofun, fun h => ?_⟩⟩
    exact absurd (Option.some.inj (hproto.symm.trans h.proto)) hip
  rw [if_neg hip]
  by_cases hhead : data.length < 34
  · rw [if_pos hhead]
    refine ⟨none, rfl, fun f => ⟨nofun, fun h => ?_⟩⟩
    have := h.length
    omega
  rw [if_neg hhead]
  obtain ⟨protocol, hprotocol⟩ := exists_load8 data 23 (by omega)
  obtain ⟨versionIhl, hversion⟩ := exists_load8 data 14 (by omega)
  obtain ⟨fragOff, hfrag⟩ := exists_load16 data 20 (by omega)
  obtain ⟨tos, htos⟩ := exists_load8 data 15 (by omega)
  have hhw : load16 data 14 = some (be16 versionIhl tos) := by
    simp only [load16, hversion, htos]
    rfl
  simp only [hprotocol, hversion, hfrag, htos, hhw, Option.bind_some]
  by_cases hkind : protocol ≠ ipprotoTcp ∨ versionIhl &&& 0x0f < 5
  · rw [if_pos hkind]
    refine ⟨none, rfl, fun f => ⟨nofun, fun h => ?_⟩⟩
    obtain ⟨versionIhl', hversion', hihl, -⟩ := h.header
    obtain rfl : versionIhl = versionIhl' := Option.some.inj (hversion.symm.trans hversion')
    rcases hkind with hkind | hkind
    · exact absurd (Option.some.inj (hprotocol.symm.trans h.protocol)) hkind
    · exact absurd hihl (UInt8.not_le.mpr hkind)
  rw [if_neg hkind]
  rw [not_or, not_not, UInt8.not_lt] at hkind
  by_cases hfragment : fragOff &&& 0x3fff ≠ 0
  · rw [if_pos hfragment]
    refine ⟨none, rfl, fun f => ⟨nofun, fun h => ?_⟩⟩
    obtain ⟨fragOff', hfrag', hzero⟩ := h.fragment
    obtain rfl : fragOff = fragOff' := Option.some.inj (hfrag.symm.trans hfrag')
    exact absurd hzero hfragment
  rw [if_neg hfragment]
  -- all of them passed
  refine ⟨_, rfl, fun f => ?_⟩
  constructor
  · intro h
    obtain rfl := Option.some.inj h
    exact ⟨by omega, by rw [hproto, not_not.mp hip], by rw [← hkind.1]; exact hprotocol,
      ⟨fragOff, hfrag, not_not.mp hfragment⟩, ⟨versionIhl, hversion, hkind.2, rfl, rfl⟩, htos⟩
  · intro h
    obtain ⟨versionIhl', hversion', -, hl4, holdHw⟩ := h.header
    obtain rfl : versionIhl = versionIhl' := Option.some.inj (hversion.symm.trans hversion')
    obtain rfl : tos = f.oldTos := Option.some.inj (htos.symm.trans h.tos)
    rw [← hl4, ← holdHw]

/-- The IPv6 parser as the dispatcher calls it: what it finds does not depend on the
counters, and it leaves them alone where it finds something. -/
lemma parseIpv6_found (data : List UInt8) :
    ∃ found : Option UInt32, (∀ l4Off, found = some l4Off → 14 + 7 ≤ data.length) ∧ ∀ stats,
      ∃ l4Off' stats', skylineParseIpv6 data 0 stats = some (found.isSome, l4Off', stats') ∧
        (∀ l4Off, found = some l4Off → l4Off' = l4Off) ∧
        (stats' = stats ∨ (found = none ∧ stats' = bailout stats)) := by
  by_cases hshort : data.length < 14 + 7
  · refine ⟨none, nofun, fun stats => ⟨0, stats, ?_, nofun, .inl rfl⟩⟩
    rw [skylineParseIpv6, if_pos hshort]
    rfl
  obtain ⟨nexthdr, hnexthdr⟩ := exists_load8 data (14 + 6) (by omega)
  obtain ⟨found, hfound, -⟩ := extensionWalk_spec data ipv6MaxExtHdrs nexthdr
    (ethHlen + 40) (by decide)
  refine ⟨found, fun _ _ => by omega, fun stats => ?_⟩
  rw [skylineParseIpv6, if_neg hshort]
  simp only [hnexthdr, hfound, Option.bind_eq_bind, Option.bind_some]
  cases found with
  | none => exact ⟨0, bailout stats, rfl, nofun, .inr ⟨rfl, rfl⟩⟩
  | some off => exact ⟨off, stats, rfl, fun _ h => Option.some.inj h, .inl rfl⟩

/-- What the dispatcher finds does not depend on the counters; it leaves them alone, or
counts that an IPv6 walk gave up. -/
lemma dispatch_spec (data : List UInt8) :
    ∃ found, ∀ stats, ∃ stats', skylineDispatch data stats = some (found, stats') ∧
      (stats' = stats ∨ (found = none ∧ stats' = bailout stats)) := by
  by_cases hshort : data.length < 14
  · refine ⟨none, fun stats => ⟨stats, ?_, .inl rfl⟩⟩
    rw [skylineDispatch, if_pos hshort]
    rfl
  obtain ⟨proto, hproto⟩ := exists_load16 data 12 (by omega)
  simp only [skylineDispatch, if_neg hshort, hproto, Option.bind_eq_bind, Option.bind_some]
  by_cases hip : proto = ethPIp
  · obtain ⟨found, hfound, -⟩ := parseIpv4_spec data
    refine ⟨found.map .ipv4, fun stats => ⟨stats, ?_, .inl rfl⟩⟩
    rw [if_pos hip, hfound]
    rfl
  simp only [if_neg hip]
  by_cases hip6 : proto = ethPIpv6
  · obtain ⟨found, -, hparse⟩ := parseIpv6_found data
    refine ⟨found.map .ipv6, fun stats => ?_⟩
    obtain ⟨l4Off, stats', hresult, hoff, hstats⟩ := hparse stats
    refine ⟨stats', ?_, hstats.imp_right fun h => ⟨by rw [h.1]; rfl, h.2⟩⟩
    rw [if_pos hip6, hresult]
    cases found with
    | none => rfl
    | some off =>
        rw [hoff off rfl]
        rfl
  · simp only [if_neg hip6]
    exact ⟨none, fun stats => ⟨stats, rfl, .inl rfl⟩⟩

/-- The frame is one that `skyline_parse_ipv4` or `skyline_parse_ipv6` accepts. -/
def Accepts (data : List UInt8) (found : Found) : Prop :=
  skylineDispatch data none = some (some found, none)

instance (data : List UInt8) (found : Found) : Decidable (Accepts data found) :=
  inferInstanceAs (Decidable (_ = _))

lemma Accepts.dispatch {found : Found} (h : Accepts data found) (stats : Option DscpStats) :
    skylineDispatch data stats = some (some found, stats) := by
  obtain ⟨found', hspec⟩ := dispatch_spec data
  obtain ⟨stats₀, hnone, -⟩ := hspec none
  obtain rfl : found' = some found := (Prod.mk.inj (Option.some.inj (hnone.symm.trans h))).1
  obtain ⟨stats', hstats, hsame⟩ := hspec stats
  rcases hsame with rfl | ⟨hfound, -⟩
  · exact hstats
  · cases hfound

/-- Whatever the counters are, the dispatcher accepts the same frames. -/
lemma accepts_of_dispatch {found : Found} {stats stats' : Option DscpStats}
    (h : skylineDispatch data stats = some (some found, stats')) :
    Accepts data found ∧ stats' = stats := by
  obtain ⟨found', hspec⟩ := dispatch_spec data
  obtain ⟨stats₁, hstats, hsame⟩ := hspec stats
  obtain ⟨rfl, rfl⟩ := Prod.mk.inj (Option.some.inj (h.symm.trans hstats))
  obtain ⟨stats₀, hnone, hsame₀⟩ := hspec none
  have hnone₀ : stats₀ = none := by
    rcases hsame₀ with rfl | ⟨hfound, -⟩
    · rfl
    · cases hfound
  refine ⟨by rw [Accepts, hnone, hnone₀], ?_⟩
  rcases hsame with rfl | ⟨hfound, -⟩
  · rfl
  · cases hfound

lemma accepts_ipv4_iff {found : Ipv4Found} : Accepts data (.ipv4 found) ↔ Ipv4Seen data found := by
  have hspec := parseIpv4_spec data
  obtain ⟨parsed, hparsed, hiff⟩ := hspec
  rw [← hiff found, Accepts, skylineDispatch]
  by_cases hshort : data.length < 14
  · rw [if_pos hshort]
    refine ⟨nofun, fun h => ?_⟩
    have := ((hiff found).mp h).length
    omega
  rw [if_neg hshort]
  obtain ⟨proto, hproto⟩ := exists_load16 data 12 (by omega)
  simp only [hproto, Option.bind_eq_bind, Option.bind_some]
  by_cases hip : proto = ethPIp
  · rw [if_pos hip, hparsed]
    cases parsed with
    | none => simp
    | some f => simp
  · rw [if_neg hip]
    have hno : parsed ≠ some found := fun h =>
      hip (Option.some.inj (hproto.symm.trans ((hiff found).mp h).proto))
    refine ⟨fun h => ?_, fun h => absurd h hno⟩
    split_ifs at h
    · obtain ⟨found', -, hparse⟩ := parseIpv6_found data
      obtain ⟨l4Off, stats', hresult, -, -⟩ := hparse none
      rw [hresult] at h
      cases found' <;> simp at h
    · simp at h

/-- What an accepted IPv6 frame is like. -/
lemma accepts_ipv6_iff {l4Off : UInt32} : Accepts data (.ipv6 l4Off) ↔
    14 + 7 ≤ data.length ∧ load16 data 12 = some ethPIpv6 ∧
      ∃ nexthdr, data[14 + 6]? = some nexthdr ∧
      extensionWalk data ipv6MaxExtHdrs nexthdr (ethHlen + 40) = some (some l4Off) := by
  rw [Accepts, skylineDispatch]
  by_cases hshort : data.length < 14
  · rw [if_pos hshort]
    exact ⟨fun h => absurd h (by simp), fun h => absurd h.1 (by omega)⟩
  rw [if_neg hshort]
  obtain ⟨proto, hproto⟩ := exists_load16 data 12 (by omega)
  simp only [hproto, Option.bind_eq_bind, Option.bind_some, Option.some.injEq]
  by_cases hip : proto = ethPIp
  · obtain ⟨parsed, hparsed, -⟩ := parseIpv4_spec data
    rw [if_pos hip, hparsed]
    refine ⟨fun h => ?_, fun h => ?_⟩
    · cases parsed <;> simp at h
    · rw [hip] at h
      exact absurd h.2.1 (by decide)
  rw [if_neg hip]
  -- an IPv4 frame went the other way
  by_cases hip6 : proto = ethPIpv6
  · rw [if_pos hip6]
    by_cases hhead : data.length < 14 + 7
    · rw [skylineParseIpv6, if_pos hhead]
      exact ⟨fun h => absurd h (by simp), fun h => absurd h.1 (by omega)⟩
    · obtain ⟨nexthdr, hnexthdr⟩ := exists_load8 data (14 + 6) (by omega)
      obtain ⟨walk, hwalk, -⟩ := extensionWalk_spec data ipv6MaxExtHdrs nexthdr
        (ethHlen + 40) (by decide)
      have hfield : data[14 + 6]? = some nexthdr := hnexthdr
      rw [skylineParseIpv6, if_neg hhead]
      simp only [hnexthdr, hwalk, hfield, Option.bind_eq_bind, Option.bind_some,
        Option.some.injEq, exists_eq_left']
      cases walk with
      | none => simp
      | some off =>
          simp only [hip6, Option.some.injEq, true_and]
          constructor
          · intro h
            exact ⟨by omega, by simpa using h⟩
          · rintro ⟨-, rfl⟩
            rfl
  · rw [if_neg hip6]
    exact ⟨fun h => absurd h (by simp), fun h => absurd h.2.1 hip6⟩

/-! ### Frames that read alike -/

lemma load16_congr {off : ℕ} (h₀ : data'[off]? = data[off]?)
    (h₁ : data'[off + 1]? = data[off + 1]?) :
    load16 data' off = load16 data off := by
  simp only [load16, load8, h₀, h₁]

lemma loadTcp_congr {off : ℕ} (h : ∀ i, off ≤ i → data'[i]? = data[i]?) :
    loadTcp data' off = loadTcp data off := by
  simp only [loadTcp, load32, load8, h _ (show off ≤ off + 4 by omega),
    h _ (show off ≤ off + 4 + 1 by omega), h _ (show off ≤ off + 4 + 2 by omega),
    h _ (show off ≤ off + 4 + 3 by omega), h _ (show off ≤ off + 12 by omega),
    h _ (show off ≤ off + 13 by omega)]

/-- The walk reads nothing in front of where it starts. -/
lemma extensionWalk_congr (hlength : data'.length = data.length) (rounds : ℕ) (nexthdr : UInt8)
    (off : UInt32) (hoff : off.toNat ≤ ipv6MaxL4Off.toNat)
    (h : ∀ i, off.toNat ≤ i → data'[i]? = data[i]?) :
    extensionWalk data' rounds nexthdr off = extensionWalk data rounds nexthdr off := by
  induction rounds generalizing nexthdr off with
  | zero => rfl
  | succ rounds ih =>
      have hnext : load8 data' off.toNat = load8 data off.toNat := h _ le_rfl
      have hlen : load8 data' (off.toNat + 1) = load8 data (off.toNat + 1) := h _ (by omega)
      rw [extensionWalk, extensionWalk, hlength, hnext, hlen]
      by_cases hin : data.length < off.toNat + 2
      · simp only [if_pos hin]
      obtain ⟨next, hnext'⟩ := exists_load8 data off.toNat (by omega)
      obtain ⟨hdrlen, hlen'⟩ := exists_load8 data (off.toNat + 1) (by omega)
      simp only [hnext', hlen', Option.bind_eq_bind, Option.bind_some]
      have hend := toNat_headerEnd hoff hdrlen
      by_cases hmax : off + (hdrlen.toUInt32 + 1) * 8 > ipv6MaxL4Off
      · simp only [if_pos hmax]
      · simp only [if_neg hmax]
        rw [gt_iff_lt, UInt32.lt_iff_toNat_lt, not_lt] at hmax
        rw [ih next _ hmax fun i hi => h i (by omega)]

end SkylineSpeeder.Tc
