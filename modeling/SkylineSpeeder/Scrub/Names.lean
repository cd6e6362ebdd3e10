import SkylineSpeeder.Scrub.Credentials
import SkylineSpeeder.Scrub.Tokens
import SkylineSpeeder.Scrub.Addresses
import SkylineSpeeder.Scrub.Homes

/-!
The scrubber of the error reports: `scrub_names` of `feedback.rs`, its passes one after the
other.

* `scrubNames`: the code; `none` is a panic, or a loop that does not end;
* `Returns`: it returns, and the ranges of every pass are sorted, disjoint and in bounds;
* `scrubbed`: what it gives, as far as the passes go;
* `scrub_names_returns_iff`: it returns if and only if every character that is not ASCII is
  cut out of a URL by the first pass.
-/

namespace SkylineSpeeder.Scrub

/-! ### The code -/

/-- The names of the host and of the users, replaced one after the other. -/
def replaceNames (text : Str) (hosts users : List Str) : Str :=
  let text := (hosts.filter (3 ≤ ·.length)).foldl
    (fun text name => replace name (ascii "<host>") 0 text) text
  (users.filter fun name => 3 ≤ name.length ∧ name ≠ ascii "root").foldl
    (fun text name => replace name (ascii "<user>") 0 text) text

/-- `scrub_names`. -/
def scrubNames (text : Str) (hosts users : List Str) : Option Str := do
  let text ← scrubCredentials text
  let text ← scrubEmails text
  let text ← scrubTokens text
  let text ← scrubSecretValues text
  let text ← scrubIpv4 text
  let text ← scrubIpv6AndMac text
  let text ← scrubHomes text
  some (replaceNames text hosts users)

/-- The ranges that each call of `splice` is given. -/
def passes : List (Str → Option (List Range)) :=
  [fun text => credentialRanges text (text.length + 1) 0,
    fun text => emailRanges text 0 (positions (· = byte '@') 0 text),
    fun text => tokenRanges text (text.length + 1) 0,
    fun text => secretRanges text (text.map toAsciiLowercase) none (positions isSeparator 0 text),
    fun text => runRanges (ipv4Ranges text) (runs isIpv4Byte 0 text),
    fun text => runRanges (ipv6Ranges text) (runs isIpv6Byte 0 text),
    fun text => runRanges (macRanges text) (runs isMacByte 0 text),
    fun text => homeRanges text none (matchIndices (ascii "/home/") 0 0 text)]

/-- Passes that find their ranges, which are sorted, disjoint, in bounds and cut out without
a panic. -/
inductive Runs : List (Str → Option (List Range)) → Str → Str → Prop
  | nil (text : Str) : Runs [] text text
  | cons {pass : Str → Option (List Range)} {rest : List (Str → Option (List Range))}
      {text mid out : Str} {ranges : List Range} (hpass : pass text = some ranges)
      (hyields : Yields text ranges mid) (hrest : Runs rest mid out) :
      Runs (pass :: rest) text out

/-- `scrub_names` returns, and every pass hands proper ranges to `splice`. -/
def Returns (text : Str) (hosts users : List Str) : Prop :=
  ∃ mid, Runs passes text mid ∧ scrubNames text hosts users = some (replaceNames mid hosts users)

/-! ### Without a panic -/

/-- What the passes after the third give. -/
def scrubbedTokens (text : Str) : Str := homes (mac (ipv6 (ipv4 (secretValues text))))

/-- What the passes give. -/
def scrubbed (text : Str) : Str := scrubbedTokens (tokens (emails (credentials text)))

/-- Passes that run are the calls of `scrub_names`. -/
lemma Runs.scrubNames_eq {text mid : Str} (h : Runs passes text mid) (hosts users : List Str) :
    scrubNames text hosts users = some (replaceNames mid hosts users) := by
  rcases h with - | ⟨h₁, y₁, - | ⟨h₂, y₂, - | ⟨h₃, y₃, - | ⟨h₄, y₄, h⟩⟩⟩⟩
  rcases h with - | ⟨h₅, y₅, - | ⟨h₆, y₆, - | ⟨h₇, y₇, - | ⟨h₈, y₈, ⟨⟩⟩⟩⟩⟩
  beta_reduce at h₁ h₂ h₃ h₄ h₅ h₆ h₇ h₈
  simp only [scrubNames, scrubCredentials, scrubEmails, scrubTokens, scrubSecretValues, scrubIpv4,
    scrubIpv6AndMac, scrubHomes, h₁, y₁.2, h₂, y₂.2, h₃, y₃.2, h₄, y₄.2, h₅, y₅.2, h₆, y₆.2, h₇,
    y₇.2, h₈, y₈.2, Option.bind_eq_bind, Option.bind_some]

/-- **Without a panic**: every pass does what it should. -/
lemma runs_passes {text : Str} (hwhole : Whole text) (h : AllAscii (credentials text)) :
    Runs passes text (scrubbed text) := by
  have hemails := allAscii_emails h
  have htokens := allAscii_tokens hemails
  have hsecrets := allAscii_secretValues htokens
  have hipv4 := allAscii_ipv4 hsecrets
  have hipv6 := allAscii_ipv6 hipv4
  have hmac := allAscii_mac hipv6
  obtain ⟨h₁, y₁⟩ := credentialRanges_yields hwhole
  obtain ⟨h₂, y₂⟩ := emailRanges_yields (Whole.of_allAscii h)
  obtain ⟨h₃, y₃⟩ := tokenRanges_yields hemails.solid
  obtain ⟨h₄, y₄⟩ := secretRanges_yields htokens.solid
  obtain ⟨h₅, y₅⟩ := ipv4Ranges_yields hsecrets.solid
  obtain ⟨h₆, y₆⟩ := ipv6Ranges_yields hipv4.solid
  obtain ⟨h₇, y₇⟩ := macRanges_yields hipv6.solid
  obtain ⟨h₈, y₈⟩ := homeRanges_yields hmac.solid
  exact .cons h₁ y₁ (.cons h₂ y₂ (.cons h₃ y₃ (.cons h₄ y₄ (.cons h₅ y₅ (.cons h₆ y₆
    (.cons h₇ y₇ (.cons h₈ y₈ (.nil _))))))))

/-- A pass that yields something else as well yields the same. -/
lemma Yields.unique {text mid mid' : Str} {ranges ranges' : List Range}
    (heq : some ranges = some ranges') (h : Yields text ranges mid)
    (h' : Yields text ranges' mid') : mid = mid' := by
  obtain rfl := Option.some.inj heq
  exact Option.some.inj (h.2.symm.trans h'.2)

/-! ### A panic -/

/-- What pieces give begins no character in its middle, if their text does not. -/
lemma begins_render {ps : List (Redact.Piece UInt8)} (h : Begins (Redact.source ps))
    (hcut : ∀ segment marker, .cut segment marker ∈ ps → marker ≠ [] ∧ AllAscii marker) :
    Begins (Redact.render ps) := by
  intro b hb
  cases ps with
  | nil => cases hb
  | cons p ps =>
      cases p with
      | keep a => exact h b hb
      | cut segment marker =>
          obtain ⟨hne, hascii⟩ := hcut segment marker List.mem_cons_self
          obtain ⟨c, marker, rfl⟩ := List.exists_cons_of_ne_nil hne
          obtain rfl := Option.some.inj hb
          exact not_continuation_of_lt (hascii _ List.mem_cons_self)

/-- **A panic**: the third pass comes to the second byte of every character that is left. -/
lemma allAscii_of_runs {text mid : Str} (hwhole : Whole text) (h : Runs passes text mid) :
    AllAscii (credentials text) := by
  rcases h with - | ⟨h₁, y₁, - | ⟨h₂, y₂, - | ⟨h₃, -, -⟩⟩⟩
  obtain ⟨hcredentials, ycredentials⟩ := credentialRanges_yields hwhole
  obtain rfl := Yields.unique (h₁.symm.trans hcredentials) y₁ ycredentials
  have hleft : Whole (credentials text) := @whole_credentials [] text hwhole
  obtain ⟨hemails, yemails⟩ := emailRanges_yields hleft
  obtain rfl := Yields.unique (h₂.symm.trans hemails) y₂ yemails
  refine hleft.lt_of_solid fun b hb => ?_
  by_contra hcont
  rw [Bool.not_eq_false] at hcont
  have hnot : ¬ b < 0x80 := by
    intro hlt
    rw [not_continuation_of_lt hlt] at hcont
    cases hcont
  have hbegins : Begins (emails (credentials text)) := by
    refine begins_render (by simpa using hleft.begins) fun segment marker hcut => ?_
    rw [(allAscii_cut_emailPieces hcut).2]
    exact ⟨by decide, by decide⟩
  have hnone := @tokenRanges_eq_none ((emails (credentials text)).length + 1) []
    (emails (credentials text)) hbegins ⟨b, mem_emails hb hnot, hcont⟩
  rw [List.nil_append, List.length_nil] at hnone
  exact absurd (hnone.symm.trans h₃) (by simp)

/-- **The scrubber returns** if and only if every character of the text that is not ASCII
stands in the credentials of a URL. -/
theorem scrub_names_returns_iff (text : List Char) (hosts users : List (List Char)) :
    Returns (utf8 text) (hosts.map utf8) (users.map utf8) ↔ Hidden (utf8 text) := by
  rw [← allAscii_credentials_iff]
  constructor
  · rintro ⟨mid, hruns, -⟩
    exact allAscii_of_runs (whole_utf8 text) hruns
  · intro h
    have hruns := runs_passes (whole_utf8 text) h
    exact ⟨scrubbed (utf8 text), hruns, hruns.scrubNames_eq _ _⟩

/-- One character that is not ASCII. -/
theorem scrub_names_panics : ¬ Returns (utf8 ['é']) [] [] := by
  rintro ⟨mid, -, h⟩
  have hnone : scrubNames (utf8 ['é']) [] [] = none := by decide +kernel
  rw [hnone] at h
  cases h

end SkylineSpeeder.Scrub
