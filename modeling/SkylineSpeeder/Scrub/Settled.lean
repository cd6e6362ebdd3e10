import SkylineSpeeder.Scrub.Words

/-!
What a pass has decided of a text that goes on.

* `opens`: the first pass is looking for the end of credentials at the end of the text;
* `settled`: what it has written until then; `credentials_settled`, `credentials_probe`;
* `emails_append_cons`: a byte of no address cuts the text in two for the second pass;
* `emails_longest`: how much of a token can stand at the front of what the second pass gives.
-/

namespace SkylineSpeeder.Scrub

open Redact

/-! ### The first pass -/

/-- At the end of the text the scan is between `://` and the end of credentials. -/
def opens : Str → Bool
  | [] => false
  | b :: text =>
      if ascii "://" <+: b :: text then
        (afterSpan (text.drop 2)).isEmpty || opens (afterSpan (text.drop 2))
      else opens text
termination_by text => text.length
decreasing_by
  · have := length_afterSpan_le (text.drop 2)
    rw [List.length_drop] at this
    rw [List.length_cons]
    omega
  · simp

/-- What the scan has decided at the end of the text. -/
def settled : Str → Str
  | [] => []
  | b :: text =>
      if ascii "://" <+: b :: text then
        if afterSpan (text.drop 2) = [] then ascii "://"
        else ascii "://" ++ render (spanPieces (text.drop 2)) ++ settled (afterSpan (text.drop 2))
      else b :: settled text
termination_by text => text.length
decreasing_by
  · have := length_afterSpan_le (text.drop 2)
    rw [List.length_drop] at this
    rw [List.length_cons]
    omega
  · simp

@[simp] lemma opens_nil : opens [] = false := by
  rw [opens]

@[simp] lemma settled_nil : settled [] = [] := by
  rw [settled]

lemma opens_cons {b : UInt8} {text : Str} (h : ¬ ascii "://" <+: b :: text) :
    opens (b :: text) = opens text := by
  rw [opens, if_neg h]

lemma settled_cons {b : UInt8} {text : Str} (h : ¬ ascii "://" <+: b :: text) :
    settled (b :: text) = b :: settled text := by
  rw [settled, if_neg h]

lemma opens_url (text : Str) :
    opens (ascii "://" ++ text) = ((afterSpan text).isEmpty || opens (afterSpan text)) := by
  have hprefix : ascii "://" <+: ascii "://" ++ text := List.prefix_append _ _
  have hcons : ascii "://" ++ text = byte ':' :: ([byte '/', byte '/'] ++ text) := rfl
  rw [hcons] at hprefix ⊢
  rw [opens, if_pos hprefix]
  rfl

lemma settled_url (text : Str) :
    settled (ascii "://" ++ text) =
      if afterSpan text = [] then ascii "://"
      else ascii "://" ++ render (spanPieces text) ++ settled (afterSpan text) := by
  have hprefix : ascii "://" <+: ascii "://" ++ text := List.prefix_append _ _
  have hcons : ascii "://" ++ text = byte ':' :: ([byte '/', byte '/'] ++ text) := rfl
  rw [hcons] at hprefix ⊢
  rw [settled, if_pos hprefix]
  rfl

/-- A text without whitespace. -/
def Word (text : Str) : Prop := ∀ b ∈ text, isAsciiWhitespace b = false

lemma word_append {a b : Str} : Word (a ++ b) ↔ Word a ∧ Word b := List.forall_mem_append

/-- A span that has ended stays as it is. -/
lemma span_append_of_ended {a : Str} (h : afterSpan a ≠ []) (r : Str) :
    spanPieces (a ++ r) = spanPieces a ∧ afterSpan (a ++ r) = afterSpan a ++ r := by
  have hafter : afterSpan (a ++ r) = afterSpan a ++ r := by
    rw [afterSpan, List.dropWhile_append, if_neg]
    · rfl
    · rw [List.isEmpty_iff]
      exact h
  have hspan : spanOf (a ++ r) = spanOf a := by
    have hlen : (spanOf (a ++ r)).length = (spanOf a).length := by
      have hlong := congrArg List.length (spanOf_append_afterSpan (a ++ r))
      have hshort := congrArg List.length (spanOf_append_afterSpan a)
      rw [hafter] at hlong
      simp only [List.length_append] at hlong hshort
      omega
    have heq : spanOf (a ++ r) ++ (afterSpan a ++ r) = spanOf a ++ (afterSpan a ++ r) := by
      rw [← hafter, spanOf_append_afterSpan, hafter, ← List.append_assoc, spanOf_append_afterSpan]
    exact (List.append_inj heq hlen).1
  refine ⟨?_, hafter⟩
  have hhead : (afterSpan a ++ r).head? = (afterSpan a).head? := by
    obtain ⟨c, rest, hcons⟩ := List.exists_cons_of_ne_nil h
    rw [hcons]
    rfl
  rw [spanPieces, spanPieces, hspan, hafter, hhead]

/-- A span that has not ended has no end in it. -/
lemma not_stop_of_open {a : Str} (h : afterSpan a = []) : ∀ b ∈ a, isCredentialStop b = false := by
  intro b hb
  rw [afterSpan, List.dropWhile_eq_nil_iff] at h
  simpa using h b hb

lemma not_whitespace_of_not_stop {b : UInt8} (h : isCredentialStop b = false) :
    isAsciiWhitespace b = false := by
  rw [isCredentialStop, Bool.or_eq_false_iff] at h
  exact h.2

/-- The markers of the pass. -/
lemma marker_credentialPieces {text segment marker : Str}
    (h : .cut segment marker ∈ credentialPieces text) : marker = ascii "<credentials>" := by
  induction text using credentials_induction with
  | hnil => simp at h
  | hcons b text hb ih =>
      rw [credentialPieces_cons hb, List.mem_cons] at h
      exact ih (h.resolve_left (by simp))
  | hurl text ih =>
      rw [credentialPieces_url, List.mem_append, List.mem_append, spanPieces] at h
      rcases h with (h | h) | h
      · simp [keeps] at h
      · split_ifs at h
        · exact (Piece.cut.inj (List.mem_singleton.mp h)).2
        · simp [keeps] at h
      · exact ih h

/-- A word stays a word. -/
lemma word_credentials {text : Str} (h : Word text) : Word (credentials text) := by
  intro b hb
  rcases mem_render.mp hb with hkeep | ⟨segment, marker, hcut, hmem⟩
  · have hsource : b ∈ source (credentialPieces text) := mem_source.mpr (.inl hkeep)
    exact h b (by simpa using hsource)
  · rw [marker_credentialPieces hcut] at hmem
    have hall : (ascii "<credentials>").all (fun b => !isAsciiWhitespace b) = true := by decide
    simpa using List.all_eq_true.mp hall b hmem

lemma credentials_ne_nil {text : Str} (h : text ≠ []) : credentials text ≠ [] := by
  refine render_ne_nil (by simpa using h) fun segment marker hcut => ?_
  rw [marker_credentialPieces hcut]
  decide

lemma word_scheme : Word (ascii "://") := by
  have hall : (ascii "://").all (fun b => !isAsciiWhitespace b) = true := by decide
  intro b hb
  simpa using List.all_eq_true.mp hall b hb

/-- What comes after `://`. -/
lemma credentials_url_word {v : Str} (h : Word v) :
    ∃ x, credentials (ascii "://" ++ v) = ascii "://" ++ x ∧ (v ≠ [] → x ≠ []) ∧ Word x := by
  have hurl := credentials_url v
  refine ⟨_, hurl, fun hne hnil => ?_, ?_⟩
  · obtain ⟨hspan, hafter⟩ := List.append_eq_nil_iff.mp hnil
    have hafter' : afterSpan v = [] := by
      by_contra h
      exact credentials_ne_nil h hafter
    have hspan' : spanOf v = [] := by
      rw [render_spanPieces] at hspan
      split_ifs at hspan
      · exact absurd hspan (by decide)
      · exact hspan
    rw [← spanOf_append_afterSpan v, hspan', hafter'] at hne
    exact hne rfl
  · have hword := word_credentials (word_append.mpr ⟨word_scheme, h⟩)
    rw [hurl] at hword
    exact (word_append.mp hword).2

/-- A text that `://` goes on from settles nothing. -/
lemma settled_of_scheme {b u : Str} (h : b ++ u = ascii "://") (hu : u ≠ []) : settled b = b := by
  rcases b with - | ⟨c₀, - | ⟨c₁, - | ⟨c₂, b⟩⟩⟩
  · exact settled_nil
  · have hnot : ¬ ascii "://" <+: [c₀] := fun hpre => absurd hpre.length_le (by simp [ascii])
    rw [settled_cons hnot, settled_nil]
  · obtain rfl : c₁ = byte '/' := (List.cons.inj (List.cons.inj h).2).1
    have hnot : ¬ ascii "://" <+: [c₀, byte '/'] := fun hpre =>
      absurd hpre.length_le (by simp [ascii])
    have hslash : ¬ ascii "://" <+: [byte '/'] := by decide
    rw [settled_cons hnot, settled_cons hslash, settled_nil]
  · have hlength := congrArg List.length h
    rw [length_scheme] at hlength
    have hpos := List.length_pos_iff.mpr hu
    simp only [List.length_append, List.length_cons] at hlength
    omega

/-- **What is settled** is written, and something of what follows comes after it. -/
lemma credentials_settled (t : Str) {r : Str} (hne : r ≠ []) (hword : Word r) :
    ∃ x, credentials (t ++ r) = settled t ++ x ∧ x ≠ [] ∧ Word x := by
  induction t using credentials_induction with
  | hnil => exact ⟨credentials r, by simp, credentials_ne_nil hne, word_credentials hword⟩
  | hcons b t hb ih =>
      by_cases h : ascii "://" <+: b :: t ++ r
      · -- `://` begins in the text and ends in what follows
        obtain ⟨u, hu⟩ : b :: t <+: ascii "://" :=
          (List.prefix_or_prefix_of_prefix h (List.prefix_append _ _)).resolve_left hb
        have hune : u ≠ [] := by
          rintro rfl
          rw [List.append_nil] at hu
          exact hb (hu ▸ List.prefix_rfl)
        obtain ⟨v, hv⟩ := h
        have hr : r = u ++ v := by
          rw [← hu, List.append_assoc] at hv
          exact (List.append_cancel_left hv).symm
        rw [hr] at hword
        obtain ⟨x, hx, -, hxword⟩ := credentials_url_word (word_append.mp hword).2
        refine ⟨u ++ x, ?_, fun hnil => hune (List.append_eq_nil_iff.mp hnil).1,
          word_append.mpr ⟨(word_append.mp hword).1, hxword⟩⟩
        rw [← hv, hx, settled_of_scheme hu hune, ← List.append_assoc, hu]
      · obtain ⟨x, hx, hxne, hxword⟩ := ih
        rw [List.cons_append] at h
        exact ⟨x, by rw [List.cons_append, credentials_cons h, hx, settled_cons hb,
          List.cons_append], hxne, hxword⟩
  | hurl t ih =>
      rw [List.append_assoc, settled_url]
      split_ifs with hopen
      · have hword' : Word (t ++ r) := word_append.mpr
          ⟨fun b hb => not_whitespace_of_not_stop (not_stop_of_open hopen b hb), hword⟩
        obtain ⟨x, hx, hxne, hxword⟩ := credentials_url_word hword'
        exact ⟨x, hx, hxne fun h => hne (List.append_eq_nil_iff.mp h).2, hxword⟩
      · obtain ⟨x, hx, hxne, hxword⟩ := ih
        obtain ⟨hspan, hafter⟩ := span_append_of_ended hopen r
        refine ⟨x, ?_, hxne, hxword⟩
        rw [credentials_url, hspan, hafter, hx]
        simp only [List.append_assoc]

/-- Without a slash there is no `://`. -/
lemma credentials_of_no_slash {text : Str} (h : byte '/' ∉ text) : credentials text = text := by
  induction text with
  | nil => exact credentials_nil
  | cons b text ih =>
      have hnot : ¬ ascii "://" <+: b :: text := fun hpre => h (hpre.subset (by decide))
      rw [credentials_cons hnot, ih fun hmem => h (List.mem_cons_of_mem b hmem)]

/-- **Something without an end, and an `@`**: it is cut out if the scan looks for the end. -/
lemma credentials_probe {p : Str} (hne : p ≠ []) (hp : ∀ b ∈ p, isCredentialStop b = false)
    (t : Str) :
    credentials (t ++ (p ++ [byte '@'])) =
      settled t ++ ((if opens t then ascii "<credentials>" else p) ++ [byte '@']) := by
  have hslash : byte '/' ∉ p ++ [byte '@'] := by
    intro hmem
    rcases List.mem_append.mp hmem with hmem | hmem
    · exact absurd (hp _ hmem) (by decide)
    · exact absurd hmem (by decide)
  induction t using credentials_induction with
  | hnil => simpa using credentials_of_no_slash hslash
  | hcons b t hb ih =>
      have hnot : ¬ ascii "://" <+: b :: t ++ (p ++ [byte '@']) := by
        intro h
        -- a scheme would have to end in what follows, which has no slash
        obtain ⟨u, hu⟩ : b :: t <+: ascii "://" :=
          (List.prefix_or_prefix_of_prefix h (List.prefix_append _ _)).resolve_left hb
        cases u using List.reverseRecOn with
        | nil =>
            rw [List.append_nil] at hu
            exact hb (hu ▸ List.prefix_rfl)
        | append_singleton u c =>
            rw [← hu, List.prefix_append_right_inj] at h
            have hc : c = byte '/' := by
              have hlast := congrArg List.getLast? hu
              rw [← List.append_assoc, List.getLast?_concat] at hlast
              exact Option.some.inj hlast
            exact hslash (hc ▸ h.subset (by simp))
      rw [List.cons_append] at hnot
      rw [List.cons_append, credentials_cons hnot, ih, settled_cons hb, opens_cons hb,
        List.cons_append]
  | hurl t ih =>
      rw [List.append_assoc, credentials_url, settled_url, opens_url]
      -- the span of the last URL reaches the `@`, or ended before it
      by_cases hopen : afterSpan t = []
      · have hall : ∀ b ∈ t ++ p, (!isCredentialStop b) = true := by
          intro b hb
          rcases List.mem_append.mp hb with hb | hb
          · rw [not_stop_of_open hopen b hb]
            rfl
          · rw [hp b hb]
            rfl
        have hspan : spanOf (t ++ (p ++ [byte '@'])) = t ++ p := by
          rw [spanOf, ← List.append_assoc, List.takeWhile_append_of_pos hall]
          simp [isCredentialStop]
        have hafter : afterSpan (t ++ (p ++ [byte '@'])) = [byte '@'] := by
          rw [afterSpan, ← List.append_assoc, List.dropWhile_append_of_pos hall]
          simp [isCredentialStop]
        have hcut : spanOf (t ++ (p ++ [byte '@'])) ≠ [] ∧
            (afterSpan (t ++ (p ++ [byte '@']))).head? = some (byte '@') := by
          rw [hspan, hafter]
          exact ⟨fun h => hne (List.append_eq_nil_iff.mp h).2, rfl⟩
        have hat : credentials [byte '@'] = [byte '@'] := credentials_of_no_slash (by decide)
        rw [render_spanPieces, if_pos hcut, hafter, hat, if_pos hopen, hopen]
        simp
      · obtain ⟨hspan, hafter⟩ := span_append_of_ended hopen (p ++ [byte '@'])
        have hempty : (afterSpan t).isEmpty = false := by
          rw [List.isEmpty_eq_false_iff]
          exact hopen
        rw [hspan, hafter, ih, if_neg hopen, hempty, Bool.false_or]
        simp only [List.append_assoc]

/-! ### The second pass -/

lemma emails_append_cons {c : UInt8} (hc : isAddress c = false) (a b : Str) :
    emails (a ++ c :: b) = emails a ++ c :: emails b := by
  rw [emails, emailPieces_append_cons hc, render_append, render_keep, emails, emails]

/-- Without an `@` there is no address. -/
lemma emailPieces_of_no_at (before : Str) {text : Str} (h : byte '@' ∉ text) :
    emailPieces before text = keeps (before ++ text) := by
  induction text generalizing before with
  | nil => rw [emailPieces_nil, List.append_nil]
  | cons b text ih =>
      have hb : ¬ (b = byte '@' ∧ IsEmail before text) := fun hboth => h (by simp [hboth.1])
      have hrest := ih (before ++ [b]) fun hmem => h (List.mem_cons_of_mem b hmem)
      rw [emailPieces_cons_of_not hb, hrest, List.append_assoc, List.singleton_append]

lemma not_isEmail_nil (before : Str) : ¬ IsEmail before [] := by
  rintro ⟨-, htld, -⟩
  exact absurd htld (by decide)

/-- An `@` at the end is that of no address. -/
lemma emailPieces_at_end (before a : Str) :
    emailPieces before (a ++ [byte '@']) = emailPieces before a ++ [.keep (byte '@')] := by
  have hdomain : isDomain (byte '@') = false := by decide
  have hiff : ∀ before a, IsEmail before (a ++ [byte '@']) ↔ IsEmail before a := by
    intro before a
    rw [IsEmail, IsEmail, (hostOf_append hdomain a []).1]
  induction before, a using emails_induction with
  | hnil before =>
      rw [List.nil_append, emailPieces_cons_of_not fun h => not_isEmail_nil before h.2,
        emailPieces_nil, emailPieces_nil]
      simp [keeps]
  | hcons before d a hnot ih =>
      rw [emailPieces_cons_of_not hnot, List.cons_append, emailPieces_cons_of_not, ih]
      rwa [hiff]
  | hemail before a hemail ih =>
      rw [emailPieces_of_isEmail hemail, List.cons_append,
        emailPieces_of_isEmail ((hiff before a).mpr hemail), (hostOf_append hdomain a []).1,
        (hostOf_append hdomain a []).2, ih]
      simp

/-- A name that is long enough for a token, and that no address ends in. -/
def longName : Str := ascii "0zzzzzzzzzzzzzzzz"

/-- A value that hides what can be hidden before it: it is long enough for a token, no address
ends in it, and its `@` ends credentials. -/
def probe : Str := longName ++ [byte '@']

/-- A host that goes on into the long name is none. -/
lemma not_isEmail_longName {y : Str} (hy : ∀ b ∈ y, isDomain b = true) (before : Str) :
    ¬ IsEmail before (y ++ probe) := by
  have htake : (y ++ probe).takeWhile isDomain = y ++ longName := by
    rw [List.takeWhile_append_of_pos hy]
    exact congrArg _ (by decide)
  have hhost : hostOf (y ++ probe) = y ++ longName := by
    have hsplit : y ++ longName = y ++ longName.dropLast ++ [byte 'z'] := by
      rw [List.append_assoc]
      exact congrArg _ (by decide)
    rw [hostOf, htake, hsplit, List.rdropWhile_concat_neg _ _ _ (by decide)]
  rintro ⟨-, htld, halpha⟩
  rw [hhost, tldOf] at htld halpha
  split_ifs at htld halpha
  · have hmem : byte '0' ∈ (y ++ longName).rtakeWhile (· ≠ byte '.') := by
      have hsuffix : longName <:+ (y ++ longName).rtakeWhile (· ≠ byte '.') := by
        rw [List.rtakeWhile, List.reverse_append, List.takeWhile_append_of_pos]
        · simp
        · intro b hb
          have hall : longName.all (· ≠ byte '.') = true := by decide
          exact List.all_eq_true.mp hall b (List.mem_reverse.mp hb)
      exact hsuffix.subset (by decide)
    exact absurd (List.all_eq_true.mp halpha _ hmem) (by decide)
  · exact absurd htld (by decide)

/-- A host that has ended does not depend on what follows. -/
lemma isEmail_of_ended {y : Str} (hy : ¬ ∀ b ∈ y, isDomain b = true) (before t t' : Str) :
    IsEmail before (y ++ t) ↔ IsEmail before (y ++ t') := by
  have hhost : ∀ t : Str, hostOf (y ++ t) = hostOf (y.takeWhile isDomain) := by
    intro t
    have hne : y.dropWhile isDomain ≠ [] := fun h => hy (List.dropWhile_eq_nil_iff.mp h)
    obtain ⟨c, rest, hcons⟩ := List.exists_cons_of_ne_nil hne
    have hc : isDomain c = false := by
      have hhead := List.head?_dropWhile_not isDomain y
      rw [hcons] at hhead
      simpa using hhead
    have hsplit : y ++ t = y.takeWhile isDomain ++ c :: (rest ++ t) := by
      have happ := List.takeWhile_append_dropWhile (p := isDomain) (l := y)
      rw [hcons] at happ
      nth_rewrite 1 [← happ]
      simp
    rw [hsplit, (hostOf_append hc _ _).1]
  rw [IsEmail, IsEmail, hhost, hhost]

/-- How many bytes of a token stand at the front. -/
def lead (text : Str) : ℕ := (text.takeWhile isBody).length

lemma lead_append_of_not {a : Str} (h : ¬ ∀ b ∈ a, isBody b = true) (t : Str) :
    lead (a ++ t) = lead a := by
  have hne : (a.takeWhile isBody).length ≠ a.length := fun hlen =>
    h (List.takeWhile_eq_self_iff.mp (List.takeWhile_prefix isBody |>.eq_of_length hlen))
  rw [lead, lead, List.takeWhile_append, if_neg hne]

/-- An address makes no token longer. -/
lemma lead_emails_le (before text : Str) :
    lead (render (emailPieces before text)) ≤ lead (before ++ text) := by
  have h := @length_takeWhile_render_le _ isBody (emailPieces before text)
    fun segment marker hcut => ⟨byte '<', ascii "email>",
      (allAscii_cut_emailPieces hcut).2.trans rfl, by decide⟩
  rwa [source_emailPieces] at h

/-- **With the long name after it** a token before it is the longest, or long enough. -/
lemma emails_longest (before y x : Str) :
    lead (render (emailPieces before (y ++ x))) ≤
        lead (render (emailPieces before (y ++ probe))) ∨
      16 ≤ lead (render (emailPieces before (y ++ probe))) := by
  induction y generalizing before with
  | nil =>
      have hprobe : emailPieces before ([] ++ probe) = keeps (before ++ probe) := by
        rw [List.nil_append, probe, emailPieces_at_end, emailPieces_of_no_at _ (by decide)]
        simp [keeps]
      rw [hprobe, render_keeps]
      by_cases h : ∀ b ∈ before, isBody b = true
      · right
        have hlong : (probe.takeWhile isBody).length = 17 := by decide
        rw [lead, List.takeWhile_append_of_pos h, List.length_append, hlong]
        omega
      · left
        have hle := lead_emails_le before ([] ++ x)
        rw [lead_append_of_not h] at hle ⊢
        exact hle
  | cons b y ih =>
      rw [List.cons_append, List.cons_append]
      by_cases hprobe : b = byte '@' ∧ IsEmail before (y ++ probe)
      · -- the host ends before the value, which cannot change it
        obtain ⟨rfl, hprobe⟩ := hprobe
        have hended : ¬ ∀ c ∈ y, isDomain c = true :=
          fun hy => not_isEmail_longName hy before hprobe
        have hemail := (isEmail_of_ended hended before probe x).mp hprobe
        left
        have hnot : ¬ ∀ c ∈ before.rdropWhile isLocal ++ ascii "<email>", isBody c = true :=
          fun h => absurd (h (byte '<') (by simp [ascii])) (by decide)
        rw [emailPieces_of_isEmail hemail, emailPieces_of_isEmail hprobe]
        simp only [render_append, render_keeps, render_cut]
        rw [← List.append_assoc, ← List.append_assoc, lead_append_of_not hnot,
          lead_append_of_not hnot]
      · by_cases hx : b = byte '@' ∧ IsEmail before (y ++ x)
        · -- only the value makes it an address: no other address is before the value
          obtain ⟨rfl, hx⟩ := hx
          have hopen : ∀ c ∈ y, isDomain c = true := by
            by_contra hended
            exact hprobe ⟨rfl, (isEmail_of_ended hended before x probe).mp hx⟩
          have hat : byte '@' ∉ y := fun hmem => absurd (hopen _ hmem) (by decide)
          have hrender : render (emailPieces before (byte '@' :: (y ++ probe))) =
              before ++ [byte '@'] ++ (y ++ probe) := by
            rw [emailPieces_cons_of_not hprobe, probe, ← List.append_assoc, emailPieces_at_end,
              emailPieces_of_no_at]
            · simp
            · intro hmem
              rcases List.mem_append.mp hmem with hmem | hmem
              · exact hat hmem
              · exact absurd hmem (by decide)
          have hnot : ¬ ∀ c ∈ before ++ [byte '@'], isBody c = true :=
            fun h => absurd (h (byte '@') (by simp)) (by decide)
          left
          have hle := lead_emails_le before (byte '@' :: (y ++ x))
          have hsplit : before ++ byte '@' :: (y ++ x) = before ++ [byte '@'] ++ (y ++ x) := by simp
          rw [hsplit, lead_append_of_not hnot] at hle
          rw [hrender, lead_append_of_not hnot]
          exact hle
        · rw [emailPieces_cons_of_not hprobe, emailPieces_cons_of_not hx]
          exact ih (before ++ [b])

end SkylineSpeeder.Scrub
