import SkylineSpeeder.Tc.Accept

/-!
What marking a frame changes.

* `OnlyDscp`, `dscpOf`, `HeaderValid`: two frames that differ in the codepoint and in the
  checksum of an IPv4 header, the codepoint, and a header whose checksum is right;
* `marked4`, `marked6`, `markDscpV4_eq`, `markDscpV6_eq`: the frames the two markers make of
  an accepted one;
* `markedFrame_onlyDscp`, `markedFrame_dscp`, `markedFrame_valid`, `markedFrame_again`: a
  marker keeps to the codepoint and the checksum, and a second one changes nothing.
-/

namespace SkylineSpeeder.Tc

open Word

variable {data data' : List UInt8}

/-! ### What marking may change -/

/-- The halfwords of an IPv4 header in front of `l4Off`. -/
def headerWords (data : List UInt8) (l4Off : ℕ) : List UInt16 :=
  (List.range ((l4Off - 14) / 2)).map fun k =>
    be16 (data.getD (14 + 2 * k) 0) (data.getD (14 + 2 * k + 1) 0)

/-- The checksum of an IPv4 header is right; an IPv6 header has none. -/
def HeaderValid (found : Found) (data : List UInt8) : Prop :=
  match found with
  | .ipv4 f => onesSum (headerWords data f.l4Off.toNat) = 0xffff
  | .ipv6 _ => True

/-- The codepoint. -/
def dscpOf (found : Found) (data : List UInt8) : Option UInt8 :=
  match found with
  | .ipv4 _ => data[15]?.map fun tos => tos >>> (2 : UInt8)
  | .ipv6 _ => do
      let hi ← data[14]?
      let lo ← data[15]?
      return ((hi &&& 0x0f) <<< (2 : UInt8)) ||| (lo >>> 6)

/-- The frames differ in the six DSCP bits and, for IPv4, in the header checksum only. -/
structure OnlyDscp (found : Found) (data data' : List UInt8) : Prop where
  length : data'.length = data.length
  bits : match found with
    | .ipv4 _ => (∀ i, i ≠ 15 → i ≠ 24 → i ≠ 25 → data'[i]? = data[i]?) ∧
        data'[15]?.map (· &&& 0x03) = data[15]?.map (· &&& 0x03)
    | .ipv6 _ => (∀ i, i ≠ 14 → i ≠ 15 → data'[i]? = data[i]?) ∧
        data'[14]?.map (· &&& 0xf0) = data[14]?.map (· &&& 0xf0) ∧
        data'[15]?.map (· &&& 0x3f) = data[15]?.map (· &&& 0x3f)

lemma store16_length (off : ℕ) (w : UInt16) : (store16 data off w).length = data.length := by
  simp [store16]

lemma store16_getElem?_of_ne {off i : ℕ} (w : UInt16) (h₀ : i ≠ off) (h₁ : i ≠ off + 1) :
    (store16 data off w)[i]? = data[i]? := by
  rw [store16, List.getElem?_set_ne (Ne.symm h₁), List.getElem?_set_ne (Ne.symm h₀)]

lemma store16_getElem?_high {off : ℕ} (w : UInt16) (h : off + 1 < data.length) :
    (store16 data off w)[off]? = some (highByte w) := by
  rw [store16, List.getElem?_set_ne (by omega), List.getElem?_set_self (by omega)]

lemma store16_getElem?_low {off : ℕ} (w : UInt16) (h : off + 1 < data.length) :
    (store16 data off w)[off + 1]? = some (lowByte w) := by
  rw [store16, List.getElem?_set_self (by simpa using h)]

/-- The words of a header in which one halfword and the checksum were rewritten. -/
lemma headerWords_set {l4Off : ℕ} {hw check : UInt16}
    (hfirst : be16 (data'.getD 14 0) (data'.getD 15 0) = hw)
    (hcheck : be16 (data'.getD 24 0) (data'.getD 25 0) = check)
    (hsame : ∀ i, i ≠ 14 → i ≠ 15 → i ≠ 24 → i ≠ 25 → data'[i]? = data[i]?) :
    headerWords data' l4Off = ((headerWords data l4Off).set 0 hw).set 5 check := by
  apply List.ext_getElem?
  intro k
  rw [headerWords, headerWords, List.getElem?_map]
  by_cases hk : k < (l4Off - 14) / 2
  · rw [List.getElem?_range hk]
    by_cases h5 : k = 5
    · subst h5
      rw [List.getElem?_set_self (by simp; omega)]
      exact congrArg some hcheck
    rw [List.getElem?_set_ne (Ne.symm h5)]
    by_cases h0 : k = 0
    · subst h0
      rw [List.getElem?_set_self (by simp; omega)]
      exact congrArg some hfirst
    rw [List.getElem?_set_ne (Ne.symm h0), List.getElem?_map, List.getElem?_range hk]
    have hhi := hsame (14 + 2 * k) (by omega) (by omega) (by omega) (by omega)
    have hlo := hsame (14 + 2 * k + 1) (by omega) (by omega) (by omega) (by omega)
    simp only [Option.map_some, List.getD_eq_getElem?_getD, hhi, hlo]
  · rw [List.getElem?_eq_none (by simpa using hk), List.getElem?_eq_none (by simpa using hk)]
    rfl

/-! ### The markers -/

lemma Ipv4Seen.l4Off_ge {found : Ipv4Found} (h : Ipv4Seen data found) : 34 ≤ found.l4Off.toNat := by
  obtain ⟨versionIhl, -, hihl, hl4, -⟩ := h.header
  have hle := UInt8.le_iff_toNat_le.mp hihl
  have hfive : (5 : UInt8).toNat = 5 := rfl
  have hlt := (versionIhl &&& 0x0f).toNat_lt
  have heth : ethHlen.toNat = 14 := rfl
  rw [hl4, UInt32.toNat_add, UInt32.toNat_mul, UInt8.toNat_toUInt32, heth]
  simp only [UInt32.reduceToNat]
  omega

/-- The frame with the codepoint of an IPv4 header and its checksum rewritten. -/
def marked4 (data : List UInt8) (dscpValue : UInt32) (found : Ipv4Found) : List UInt8 :=
  if newTos dscpValue found.oldTos = found.oldTos then data
  else
    (store16 data 24 (incremental (be16 (data.getD 24 0) (data.getD 25 0)) found.oldHw
      (be16 (data.getD 14 0) (newTos dscpValue found.oldTos)))).set 15
        (newTos dscpValue found.oldTos)

section V4

variable {found : Ipv4Found} (dscpValue : UInt32)

lemma getD_of_getElem? {i : ℕ} {b : UInt8} (h : data[i]? = some b) : data.getD i 0 = b := by
  rw [List.getD_eq_getElem?_getD, h, Option.getD_some]

/-- `skyline_mark_dscp_v4` on a frame that its parser accepted. -/
lemma markDscpV4_eq (h : Ipv4Seen data found) :
    skylineMarkDscpV4 data dscpValue found.oldTos found.oldHw =
      some (decide (newTos dscpValue found.oldTos ≠ found.oldTos),
        marked4 data dscpValue found) := by
  have hlen := h.length
  rw [skylineMarkDscpV4, marked4]
  by_cases hsame : newTos dscpValue found.oldTos = found.oldTos
  · rw [if_pos hsame, if_pos hsame, decide_eq_false (not_not.mpr hsame)]
    rfl
  · obtain ⟨hi, hhi⟩ := exists_load8 data 24 (by omega)
    obtain ⟨lo, hlo⟩ := exists_load8 data 25 (by omega)
    obtain ⟨versionIhl, hversion, -, -, hhw⟩ := h.header
    have hcheck : load16 data (14 + 10) = some (be16 hi lo) := by
      simp only [load16, hhi, hlo]
      rfl
    rw [if_neg hsame, if_neg hsame, decide_eq_true hsame]
    simp only [bpfL3CsumReplace, hcheck, Option.bind_eq_bind, Option.bind_some]
    rw [getD_of_getElem? hhi, getD_of_getElem? hlo, getD_of_getElem? hversion, hhw, be16_lowByte]
    rfl

lemma marked4_length : (marked4 data dscpValue found).length = data.length := by
  rw [marked4]
  split_ifs
  · rfl
  · rw [List.length_set, store16_length]

lemma marked4_getElem? {i : ℕ} (h₁ : i ≠ 15) (h₂ : i ≠ 24) (h₃ : i ≠ 25) :
    (marked4 data dscpValue found)[i]? = data[i]? := by
  rw [marked4]
  split_ifs
  · rfl
  · rw [List.getElem?_set_ne (Ne.symm h₁), store16_getElem?_of_ne _ h₂ h₃]

lemma marked4_tos (h : Ipv4Seen data found) :
    (marked4 data dscpValue found)[15]? = some (newTos dscpValue found.oldTos) := by
  have hlen := h.length
  rw [marked4]
  split_ifs with hsame
  · rw [hsame, h.tos]
  · rw [List.getElem?_set_self (by rw [store16_length]; omega)]

/-- A marked frame is accepted again, with the type of service it now has. -/
lemma marked4_seen (h : Ipv4Seen data found) :
    ∃ hw, Ipv4Seen (marked4 data dscpValue found)
      ⟨found.l4Off, newTos dscpValue found.oldTos, hw⟩ := by
  have hget : ∀ i, i ≠ 15 → i ≠ 24 → i ≠ 25 →
      (marked4 data dscpValue found)[i]? = data[i]? := fun i => marked4_getElem? dscpValue
  obtain ⟨versionIhl, hversion, hihl, hl4, -⟩ := h.header
  obtain ⟨fragOff, hfrag, hzero⟩ := h.fragment
  refine ⟨be16 versionIhl (newTos dscpValue found.oldTos), ?_⟩
  refine ⟨?_, ?_, ?_, ⟨fragOff, ?_, hzero⟩, ⟨versionIhl, ?_, hihl, hl4, rfl⟩,
    marked4_tos dscpValue h⟩
  · rw [marked4_length]
    exact h.length
  · rw [load16_congr (hget 12 (by omega) (by omega) (by omega))
      (hget 13 (by omega) (by omega) (by omega)), h.proto]
  · rw [hget 23 (by omega) (by omega) (by omega), h.protocol]
  · rw [load16_congr (hget 20 (by omega) (by omega) (by omega))
      (hget 21 (by omega) (by omega) (by omega)), hfrag]
  · rw [hget 14 (by omega) (by omega) (by omega), hversion]

/-- The checksum stays right. -/
lemma marked4_valid (h : Ipv4Seen data found)
    (hvalid : onesSum (headerWords data found.l4Off.toNat) = 0xffff) :
    onesSum (headerWords (marked4 data dscpValue found) found.l4Off.toNat) = 0xffff := by
  rw [marked4]
  split_ifs with hsame
  · exact hvalid
  have hlen := h.length
  have hl4 := h.l4Off_ge
  obtain ⟨versionIhl, hversion, hihl, -, hhw⟩ := h.header
  have hfirst : data.getD 14 0 = versionIhl := getD_of_getElem? hversion
  have htos : data.getD 15 0 = found.oldTos := getD_of_getElem? h.tos
  rw [hfirst]
  set check := be16 (data.getD 24 0) (data.getD 25 0) with hcheck
  set tos := newTos dscpValue found.oldTos
  set data' := (store16 data 24 (incremental check found.oldHw (be16 versionIhl tos))).set 15 tos
    with hdata'
  have hwords : headerWords data' found.l4Off.toNat =
      ((headerWords data found.l4Off.toNat).set 0 (be16 versionIhl tos)).set 5
        (incremental check found.oldHw (be16 versionIhl tos)) := by
    refine headerWords_set ?_ ?_ fun i _ h15 h24 h25 => ?_
    · have h14 : data'[14]? = some versionIhl := by
        rw [hdata', List.getElem?_set_ne (by omega), store16_getElem?_of_ne _ (by omega) (by omega),
          hversion]
      have h15 : data'[15]? = some tos := by
        rw [hdata', List.getElem?_set_self (by rw [store16_length]; omega)]
      rw [getD_of_getElem? h14, getD_of_getElem? h15]
    · have h24 : data'[24]? =
          some (highByte (incremental check found.oldHw (be16 versionIhl tos))) := by
        rw [hdata', List.getElem?_set_ne (by omega), store16_getElem?_high _ (by omega)]
      have h25 : data'[25]? =
          some (lowByte (incremental check found.oldHw (be16 versionIhl tos))) := by
        rw [hdata', List.getElem?_set_ne (by omega), store16_getElem?_low _ (by omega)]
      rw [getD_of_getElem? h24, getD_of_getElem? h25, be16_bytes]
    · rw [hdata', List.getElem?_set_ne (Ne.symm h15), store16_getElem?_of_ne _ h24 h25]
  have hcount : 5 < (found.l4Off.toNat - 14) / 2 := by omega
  rw [hwords]
  refine onesSum_set_incremental hvalid (by omega) ?_ ?_ _ ?_
  · rw [headerWords, List.getElem?_map, List.getElem?_range (by omega), hhw]
    simp only [Option.map_some, mul_zero, add_zero, hfirst, htos]
  · rw [headerWords, List.getElem?_map, List.getElem?_range hcount]
    rfl
  · -- the first halfword holds the header length, which is not zero
    refine ⟨be16 versionIhl tos, List.mem_iff_getElem?.mpr ⟨0, ?_⟩, fun hzero => ?_⟩
    · rw [List.getElem?_set_ne (by omega), List.getElem?_set_self (by simp [headerWords]; omega)]
    · have hhigh := congrArg highByte hzero
      rw [highByte_be16] at hhigh
      rw [hhigh] at hihl
      exact absurd hihl (by decide)

end V4

/-- The frame with the codepoint of an IPv6 header rewritten. -/
def marked6 (data : List UInt8) (dscpValue : UInt32) : List UInt8 :=
  store16 data 14 (newVtc dscpValue (be16 (data.getD 14 0) (data.getD 15 0)))

section V6

variable (dscpValue : UInt32)

/-- Bytes that are written with what they hold. -/
lemma store16_self {off : ℕ} {hi lo : UInt8} (hhi : data[off]? = some hi)
    (hlo : data[off + 1]? = some lo) : store16 data off (be16 hi lo) = data := by
  have hin : off + 1 < data.length := by
    by_contra hout
    rw [List.getElem?_eq_none (by omega)] at hlo
    cases hlo
  apply List.ext_getElem?
  intro i
  by_cases h₀ : i = off
  · rw [h₀, store16_getElem?_high _ hin, highByte_be16, hhi]
  by_cases h₁ : i = off + 1
  · rw [h₁, store16_getElem?_low _ hin, lowByte_be16, hlo]
  rw [store16_getElem?_of_ne _ h₀ h₁]

/-- `skyline_mark_dscp_v6`. -/
lemma markDscpV6_eq (h : 16 ≤ data.length) :
    skylineMarkDscpV6 data dscpValue = some (marked6 data dscpValue) := by
  obtain ⟨hi, hhi⟩ := exists_load8 data 14 (by omega)
  obtain ⟨lo, hlo⟩ := exists_load8 data (14 + 1) (by omega)
  have hvtc : load16 data 14 = some (be16 hi lo) := by
    simp only [load16, hhi, hlo]
    rfl
  rw [skylineMarkDscpV6, if_neg (by omega), hvtc, marked6, getD_of_getElem? hhi,
    getD_of_getElem? (i := 15) hlo]
  simp only [Option.bind_eq_bind, Option.bind_some]
  split_ifs with hsame
  · rw [hsame, store16_self hhi hlo]
    rfl
  · rfl

lemma marked6_length : (marked6 data dscpValue).length = data.length := store16_length _ _

lemma marked6_getElem? {i : ℕ} (h₁ : i ≠ 14) (h₂ : i ≠ 15) :
    (marked6 data dscpValue)[i]? = data[i]? := store16_getElem?_of_ne _ h₁ h₂

/-- A second rewrite changes nothing. -/
lemma marked6_marked6 (h : 16 ≤ data.length) :
    marked6 (marked6 data dscpValue) dscpValue = marked6 data dscpValue := by
  set vtc := newVtc dscpValue (be16 (data.getD 14 0) (data.getD 15 0))
  have hhi : (marked6 data dscpValue)[14]? = some (highByte vtc) :=
    store16_getElem?_high vtc (by omega)
  have hlo : (marked6 data dscpValue)[15]? = some (lowByte vtc) :=
    store16_getElem?_low vtc (by omega)
  have hself := store16_self hhi hlo
  rw [be16_bytes] at hself
  rw [marked6, getD_of_getElem? hhi, getD_of_getElem? hlo, be16_bytes, newVtc_newVtc]
  exact hself

/-- A marked frame is accepted again. -/
lemma marked6_accepts {l4Off : UInt32} (h : Accepts data (.ipv6 l4Off)) :
    Accepts (marked6 data dscpValue) (.ipv6 l4Off) := by
  rw [accepts_ipv6_iff] at h ⊢
  obtain ⟨hlength, hproto, nexthdr, hnexthdr, hwalk⟩ := h
  refine ⟨by rw [marked6_length]; exact hlength, ?_, nexthdr, ?_, ?_⟩
  · rw [load16_congr (marked6_getElem? dscpValue (by omega) (by omega))
      (marked6_getElem? dscpValue (by omega) (by omega)), hproto]
  · rw [marked6_getElem? dscpValue (by omega) (by omega), hnexthdr]
  · have heth : (ethHlen + 40 : UInt32).toNat = 54 := rfl
    rw [extensionWalk_congr (marked6_length dscpValue) _ _ _ (by decide) fun i hi =>
      marked6_getElem? dscpValue (by omega) (by omega), hwalk]

end V6

/-! ### Marking -/

/-- The frame after its marker. -/
def markedFrame (found : Found) (data : List UInt8) (dscpValue : UInt32) : List UInt8 :=
  match found with
  | .ipv4 f => marked4 data dscpValue f
  | .ipv6 _ => marked6 data dscpValue

lemma Accepts.length_ge {found : Found} (h : Accepts data found) : 21 ≤ data.length := by
  cases found with
  | ipv4 f =>
      have := (accepts_ipv4_iff.mp h).length
      omega
  | ipv6 l4Off => exact (accepts_ipv6_iff.mp h).1

section Marked

variable {found : Found} (h : Accepts data found) (dscpValue : UInt32)

include h

/-- **A marker changes the codepoint and the checksum only**, -/
lemma markedFrame_onlyDscp : OnlyDscp found data (markedFrame found data dscpValue) := by
  have hlength := h.length_ge
  cases found with
  | ipv4 f =>
      have hseen := accepts_ipv4_iff.mp h
      refine ⟨marked4_length dscpValue, fun i => marked4_getElem? dscpValue, ?_⟩
      rw [markedFrame, marked4_tos dscpValue hseen, hseen.tos, Option.map_some, Option.map_some,
        newTos_ecn]
  | ipv6 l4Off =>
      obtain ⟨hi, hhi⟩ := exists_load8 data 14 (by omega)
      obtain ⟨lo, hlo⟩ := exists_load8 data 15 (by omega)
      have hhi' : data[14]? = some hi := hhi
      have hlo' : data[15]? = some lo := hlo
      refine ⟨marked6_length dscpValue, fun i => marked6_getElem? dscpValue, ?_, ?_⟩
      · rw [markedFrame, marked6, store16_getElem?_high _ (by omega), hhi', getD_of_getElem? hhi',
          getD_of_getElem? hlo', Option.map_some, Option.map_some, newVtc_high]
      · rw [markedFrame, marked6, show (15 : ℕ) = 14 + 1 from rfl,
          store16_getElem?_low _ (by omega), show (14 : ℕ) + 1 = 15 from rfl, hlo',
          getD_of_getElem? hhi', getD_of_getElem? hlo', Option.map_some, Option.map_some,
          newVtc_low]

/-- and sets the codepoint, -/
lemma markedFrame_dscp : dscpOf found (markedFrame found data dscpValue) =
    some (dscpValue &&& 0x3f).toUInt8 := by
  have hlength := h.length_ge
  cases found with
  | ipv4 f =>
      rw [dscpOf, markedFrame, marked4_tos dscpValue (accepts_ipv4_iff.mp h), Option.map_some]
      exact congrArg some (newTos_dscp dscpValue _)
  | ipv6 l4Off =>
      set vtc := newVtc dscpValue (be16 (data.getD 14 0) (data.getD 15 0)) with hvtc
      have hhi : (marked6 data dscpValue)[14]? = some (highByte vtc) :=
        store16_getElem?_high vtc (by omega)
      have hlo : (marked6 data dscpValue)[15]? = some (lowByte vtc) :=
        store16_getElem?_low vtc (by omega)
      simp only [dscpOf, markedFrame, hhi, hlo]
      exact congrArg some (newVtc_dscp dscpValue _)

/-- a checksum that was right stays right, -/
lemma markedFrame_valid (hvalid : HeaderValid found data) :
    HeaderValid found (markedFrame found data dscpValue) := by
  cases found with
  | ipv4 f => exact marked4_valid dscpValue (accepts_ipv4_iff.mp h) hvalid
  | ipv6 l4Off => trivial

/-- and a second marking finds the same TCP header and changes nothing. -/
lemma markedFrame_again : ∃ found', found'.l4Off = found.l4Off ∧
    Accepts (markedFrame found data dscpValue) found' ∧
    markedFrame found' (markedFrame found data dscpValue) dscpValue =
      markedFrame found data dscpValue := by
  cases found with
  | ipv4 f =>
      obtain ⟨hw, hseen⟩ := marked4_seen dscpValue (accepts_ipv4_iff.mp h)
      refine ⟨.ipv4 ⟨f.l4Off, newTos dscpValue f.oldTos, hw⟩, rfl, accepts_ipv4_iff.mpr hseen, ?_⟩
      rw [markedFrame, marked4, if_pos (newTos_newTos dscpValue f.oldTos)]
  | ipv6 l4Off =>
      have hlength := h.length_ge
      exact ⟨.ipv6 l4Off, rfl, marked6_accepts dscpValue h, marked6_marked6 dscpValue (by omega)⟩

/-- The TCP header is behind everything that is rewritten. -/
lemma Accepts.l4Off_ge : 26 ≤ found.l4Off.toNat := by
  cases found with
  | ipv4 f =>
      have hge : 34 ≤ f.l4Off.toNat := (accepts_ipv4_iff.mp h).l4Off_ge
      show 26 ≤ f.l4Off.toNat
      omega
  | ipv6 l4Off =>
      obtain ⟨-, -, nexthdr, -, hwalk⟩ := accepts_ipv6_iff.mp h
      obtain ⟨found, hfound, hiff⟩ := extensionWalk_spec data ipv6MaxExtHdrs nexthdr
        (ethHlen + 40) (by decide)
      obtain ⟨hdrlens, -, -, hl4⟩ := (hiff l4Off).mp (Option.some.inj (hfound.symm.trans hwalk))
      have heth : (ethHlen + 40 : UInt32).toNat = 54 := rfl
      show 26 ≤ l4Off.toNat
      omega

lemma markedFrame_loadTcp : loadTcp (markedFrame found data dscpValue) found.l4Off.toNat =
    loadTcp data found.l4Off.toNat := by
  have hge := Accepts.l4Off_ge h
  refine loadTcp_congr fun i hi => ?_
  cases found with
  | ipv4 f => exact marked4_getElem? dscpValue (by omega) (by omega) (by omega)
  | ipv6 l4Off => exact marked6_getElem? dscpValue (by omega) (by omega)

end Marked

end SkylineSpeeder.Tc
