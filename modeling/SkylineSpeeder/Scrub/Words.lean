import SkylineSpeeder.Scrub.Names

/-!
Where a pass cannot reach across: bytes that cut a text in two.

* `credentialPieces_append`, `credentialPieces_at`: the end of a word, and an `@`;
* `emailPieces_append_cons`: a byte of no address;
* `tokenPieces_append_cons`: a byte of no token;
* `secretPieces_forget`: a byte of no name, for what is before it;
* `homePieces_slashes`: a slash after a slash.
-/

namespace SkylineSpeeder.Scrub

open Redact

/-! ### Prefixes and runs -/

/-- Nothing, or whitespace and more. -/
def EndsWord (text : Str) : Prop := ∀ b, text.head? = some b → isAsciiWhitespace b = true

/-- A prefix that has not the byte where the text goes on. -/
lemma prefix_of_append {pat a w : Str} (h : pat <+: a ++ w)
    (hw : ∀ b, w.head? = some b → b ∉ pat) : pat <+: a := by
  rcases List.prefix_or_prefix_of_prefix h (List.prefix_append a w) with hle | hle
  · exact hle
  · obtain ⟨t, rfl⟩ := hle
    cases t with
    | nil => rw [List.append_nil]
    | cons c t =>
        obtain ⟨u, hu⟩ := (List.prefix_append_right_inj a).mp h
        have hhead : w.head? = some c := by
          rw [← hu]
          rfl
        exact absurd (List.mem_append_right a List.mem_cons_self) (hw c hhead)

/-- What is taken ends where the text goes on with another byte. -/
lemma takeWhile_append_head {p : UInt8 → Bool} (a : Str) {w : Str}
    (hw : ∀ b, w.head? = some b → p b = false) :
    (a ++ w).takeWhile p = a.takeWhile p ∧ (a ++ w).dropWhile p = a.dropWhile p ++ w := by
  induction a with
  | nil =>
      cases w with
      | nil => exact ⟨rfl, rfl⟩
      | cons c w =>
          have hc := hw c rfl
          exact ⟨by simp [hc], by simp [hc]⟩
  | cons c a ih =>
      cases hc : p c with
      | true => simpa [hc] using ih
      | false => simp [hc]

/-! ### Credentials -/

/-- Where a span cannot go on. -/
lemma spanPieces_append {a w : Str} (hw : ∀ b, w.head? = some b → isCredentialStop b = true)
    (hat : afterSpan a = [] → w.head? ≠ some (byte '@')) :
    spanPieces (a ++ w) = spanPieces a ∧ afterSpan (a ++ w) = afterSpan a ++ w := by
  obtain ⟨htake, hdrop⟩ := @takeWhile_append_head (!isCredentialStop ·) a w
    fun b hb => by rw [hw b hb]; rfl
  have hspan : spanOf (a ++ w) = spanOf a := htake
  have hafter : afterSpan (a ++ w) = afterSpan a ++ w := hdrop
  have hhead : (afterSpan a ++ w).head? = some (byte '@') ↔
      (afterSpan a).head? = some (byte '@') := by
    cases h : afterSpan a with
    | nil => simpa using hat h
    | cons c rest => rfl
  refine ⟨?_, hafter⟩
  rw [spanPieces, spanPieces, hspan, hafter]
  simp only [hhead]

/-- **The end of a word** cuts the text in two. -/
lemma credentialPieces_append (a : Str) {w : Str} (hw : EndsWord w) :
    credentialPieces (a ++ w) = credentialPieces a ++ credentialPieces w := by
  have hstop : ∀ b, w.head? = some b → isCredentialStop b = true := by
    intro b hb
    rw [isCredentialStop, hw b hb, Bool.or_true]
  have hscheme : ∀ b, w.head? = some b → b ∉ ascii "://" := by
    intro b hb hmem
    have hblank := hw b hb
    have hall : (ascii "://").all (fun b => !isAsciiWhitespace b) = true := by decide
    have hnot := List.all_eq_true.mp hall b hmem
    rw [hblank] at hnot
    cases hnot
  have hat : w.head? ≠ some (byte '@') := by
    intro h
    have := hw _ h
    revert this
    decide
  induction a using credentials_induction with
  | hnil => simp
  | hcons b a hb ih =>
      have hb' : ¬ ascii "://" <+: b :: (a ++ w) := fun h =>
        hb (prefix_of_append (a := b :: a) h hscheme)
      rw [List.cons_append, credentialPieces_cons hb', credentialPieces_cons hb, ih,
        List.cons_append]
  | hurl a ih =>
      obtain ⟨hspan, hafter⟩ := spanPieces_append (a := a) hstop fun _ => hat
      rw [List.append_assoc, credentialPieces_url, credentialPieces_url, hspan, hafter, ih]
      simp only [List.append_assoc]

/-- **An `@`** cuts the text in two, if it goes with what is before it. -/
lemma credentialPieces_at (a b : Str) :
    credentialPieces (a ++ byte '@' :: b) =
      credentialPieces (a ++ [byte '@']) ++ credentialPieces b := by
  have hnot : ∀ t : Str, ¬ ascii "://" <+: byte '@' :: t := by
    rintro t ⟨u, hu⟩
    exact absurd (List.cons.inj hu).1 (by decide)
  have hstop : ∀ t : Str, ∀ c, (byte '@' :: t).head? = some c → isCredentialStop c = true := by
    intro t c hc
    obtain rfl := Option.some.inj hc
    decide
  have hscheme : ∀ t : Str, ∀ c, (byte '@' :: t).head? = some c → c ∉ ascii "://" := by
    intro t c hc
    obtain rfl := Option.some.inj hc
    decide
  induction a using credentials_induction with
  | hnil =>
      rw [List.nil_append, List.nil_append, credentialPieces_cons (hnot b),
        credentialPieces_cons (hnot []), credentialPieces_nil, List.singleton_append]
  | hcons c a hc ih =>
      have hc' : ∀ t : Str, ¬ ascii "://" <+: c :: (a ++ byte '@' :: t) := fun t h =>
        hc (prefix_of_append (a := c :: a) h (hscheme t))
      rw [List.cons_append, List.cons_append, credentialPieces_cons (hc' b),
        credentialPieces_cons (hc' []), ih, List.cons_append]
  | hurl a ih =>
      have hboth : ∀ t : Str, spanOf (a ++ byte '@' :: t) = spanOf a ∧
          afterSpan (a ++ byte '@' :: t) = afterSpan a ++ byte '@' :: t := fun t =>
        takeWhile_append_head a fun c hc => by rw [hstop t c hc]; rfl
      have hpieces : spanPieces (a ++ byte '@' :: b) = spanPieces (a ++ [byte '@']) := by
        have hhead : (afterSpan a ++ byte '@' :: b).head? =
            (afterSpan a ++ [byte '@']).head? := by
          cases afterSpan a with
          | nil => rfl
          | cons c rest => rfl
        rw [spanPieces, spanPieces, (hboth b).1, (hboth b).2, (hboth []).1, (hboth []).2, hhead]
      rw [List.append_assoc, List.append_assoc, credentialPieces_url, credentialPieces_url, hpieces,
        (hboth b).2, (hboth []).2, ih]
      simp only [List.append_assoc]

/-! ### E-mail addresses -/

/-- A byte that may stand in an address. -/
def isAddress (b : UInt8) : Bool := isLocal b || b = byte '@'

lemma hostOf_append {c : UInt8} (hc : isDomain c = false) (a b : Str) :
    hostOf (a ++ c :: b) = hostOf a ∧ afterHost (a ++ c :: b) = afterHost a ++ c :: b := by
  have htake := (@takeWhile_append_head isDomain a (c :: b) fun d hd => by
    obtain rfl := Option.some.inj hd
    exact hc).1
  have hhost : hostOf (a ++ c :: b) = hostOf a := by rw [hostOf, hostOf, htake]
  refine ⟨hhost, ?_⟩
  have hle : (hostOf a).length ≤ a.length := by
    have := congrArg List.length (hostOf_append_afterHost a)
    rw [List.length_append] at this
    omega
  rw [afterHost, afterHost, hhost, List.drop_append_of_le_length hle]

/-- What was before a byte of no address does not matter. -/
lemma emailPieces_forget {c : UInt8} (hc : isLocal c = false) (front before text : Str) :
    emailPieces (front ++ c :: before) text = keeps (front ++ [c]) ++ emailPieces before text := by
  have htake : ∀ before : Str,
      (front ++ c :: before).rtakeWhile isLocal = before.rtakeWhile isLocal ∧
        (front ++ c :: before).rdropWhile isLocal =
          front ++ [c] ++ before.rdropWhile isLocal := by
    intro before
    induction before using List.reverseRecOn with
    | nil => exact ⟨by simp [hc], by simp [hc]⟩
    | append_singleton before d ih =>
        rw [← List.cons_append, ← List.append_assoc, List.rtakeWhile_concat, List.rtakeWhile_concat,
          List.rdropWhile_concat, List.rdropWhile_concat]
        split_ifs
        · rw [ih.1, ih.2]
          exact ⟨rfl, rfl⟩
        · exact ⟨rfl, by simp⟩
  have hiff : ∀ before text, IsEmail (front ++ c :: before) text ↔ IsEmail before text := by
    intro before text
    rw [IsEmail, IsEmail, (htake before).1]
  induction before, text using emails_induction with
  | hnil before => simp [emailPieces_nil, keeps]
  | hcons before b text hnot ih =>
      rw [emailPieces_cons_of_not hnot, emailPieces_cons_of_not, ← ih, List.append_assoc,
        List.cons_append]
      rwa [hiff]
  | hemail before text hemail ih =>
      rw [emailPieces_of_isEmail hemail, emailPieces_of_isEmail ((hiff _ _).mpr hemail),
        (htake before).1, (htake before).2]
      simp [keeps]

/-- **A byte of no address** cuts the text in two. -/
lemma emailPieces_append_cons {c : UInt8} (hc : isAddress c = false) (before a b : Str) :
    emailPieces before (a ++ c :: b) = emailPieces before a ++ .keep c :: emailPieces [] b := by
  rw [isAddress, Bool.or_eq_false_iff, decide_eq_false_iff_not] at hc
  have hdomain : isDomain c = false := by
    rw [← Bool.not_eq_true]
    intro h
    rw [isLocal_of_isDomain h] at hc
    cases hc.1
  have hiff : ∀ before a, IsEmail before (a ++ c :: b) ↔ IsEmail before a := by
    intro before a
    rw [IsEmail, IsEmail, (hostOf_append hdomain a b).1]
  induction before, a using emails_induction with
  | hnil before =>
      rw [List.nil_append, emailPieces_cons_of_not fun h => hc.2 h.1,
        emailPieces_forget hc.1 before [] b, emailPieces_nil]
      simp [keeps]
  | hcons before d a hnot ih =>
      rw [emailPieces_cons_of_not hnot, List.cons_append, emailPieces_cons_of_not, ih]
      rwa [hiff]
  | hemail before a hemail ih =>
      rw [emailPieces_of_isEmail hemail, List.cons_append,
        emailPieces_of_isEmail ((hiff before a).mpr hemail), (hostOf_append hdomain a b).1,
        (hostOf_append hdomain a b).2, ih]
      simp

/-! ### Tokens -/

/-- Of the byte before only its kind matters. -/
lemma tokenPieces_prev {prev prev' : Option UInt8} (h : prev.any isWord = prev'.any isWord)
    (text : Str) : tokenPieces prev text = tokenPieces prev' text := by
  cases text with
  | nil => rw [tokenPieces_nil, tokenPieces_nil]
  | cons b text =>
      have hiff : IsToken prev (b :: text) ↔ IsToken prev' (b :: text) := by
        rw [IsToken, IsToken, h]
      by_cases htoken : IsToken prev (b :: text)
      · rw [tokenPieces_of_isToken htoken, tokenPieces_of_isToken (hiff.mp htoken)]
      · rw [tokenPieces_of_not htoken, tokenPieces_of_not (mt hiff.mpr htoken)]

/-- No token begins with this byte. -/
lemma not_isToken_of_not_word {c : UInt8} (hc : isWord c = false) (prev : Option UInt8)
    (text : Str) : ¬ IsToken prev (c :: text) := by
  rintro ⟨-, front, hmem, ⟨tail, htail⟩, -⟩
  have hall : (tokenPrefixes.all fun front => front.head?.any isWord) = true := by decide
  have hword := List.all_eq_true.mp hall front hmem
  cases front with
  | nil => cases hword
  | cons d front =>
      obtain rfl := (List.cons.inj htail).1
      rw [List.head?_cons, Option.any_some, hc] at hword
      cases hword

lemma isToken_append {c : UInt8} (hc : isBody c = false) (prev : Option UInt8) (a b : Str) :
    IsToken prev (a ++ c :: b) ↔ IsToken prev a := by
  have htake := (@takeWhile_append_head isBody a (c :: b) fun d hd => by
    obtain rfl := Option.some.inj hd
    exact hc).1
  rw [IsToken, IsToken, htake]
  refine and_congr_right fun _ => exists_congr fun front => and_congr_right fun hmem =>
    and_congr_left fun _ => ?_
  refine ⟨fun h => prefix_of_append h fun d hd hin => ?_, fun h => h.trans (List.prefix_append _ _)⟩
  obtain rfl := Option.some.inj hd
  rw [isBody_of_mem_tokenPrefixes hmem _ hin] at hc
  cases hc

/-- **A byte of no token** cuts the text in two. -/
lemma tokenPieces_append_cons {c : UInt8} (hc : isBody c = false) (prev : Option UInt8)
    (a b : Str) :
    tokenPieces prev (a ++ c :: b) = tokenPieces prev a ++ .keep c :: tokenPieces none b := by
  have hword : isWord c = false := by
    rw [isBody, Bool.or_eq_false_iff] at hc
    exact hc.1
  induction prev, a using tokens_induction with
  | hnil prev =>
      rw [List.nil_append, tokenPieces_of_not (not_isToken_of_not_word hword prev b),
        tokenPieces_nil, List.nil_append,
        @tokenPieces_prev (some c) none (by simpa using hword)]
  | hkeep prev d a hnot ih =>
      rw [List.cons_append, tokenPieces_of_not hnot, tokenPieces_of_not, ih, List.cons_append]
      rwa [← List.cons_append, isToken_append hc]
  | htoken prev d a htoken ih =>
      have htoken' : IsToken prev (d :: (a ++ c :: b)) := by
        rwa [← List.cons_append, isToken_append hc]
      have hboth := @takeWhile_append_head isBody a (c :: b) fun e he => by
        obtain rfl := Option.some.inj he
        exact hc
      rw [List.cons_append, tokenPieces_of_isToken htoken, tokenPieces_of_isToken htoken', hboth.1,
        hboth.2, ih, List.cons_append]

/-! ### Secret values -/

/-- A byte of no name: what is before it is forgotten. -/
def isNameless (c : UInt8) : Bool := secretNames.all fun name => toAsciiLowercase c ∉ name

lemma isNamed_forget {c : UInt8} (hc : isNameless c = true) (front before : Str) :
    IsNamed (front ++ c :: before) ↔ IsNamed before := by
  have hnot : ∀ name ∈ secretNames, toAsciiLowercase c ∉ name := by
    intro name hname
    simpa using List.all_eq_true.mp hc name hname
  rw [IsNamed, IsNamed]
  refine exists_congr fun name => and_congr_right fun hname => ?_
  rw [List.map_append, List.map_cons]
  constructor
  · intro h
    rcases List.suffix_or_suffix_of_suffix h
      (List.suffix_append (front.map toAsciiLowercase ++ [toAsciiLowercase c])
        (before.map toAsciiLowercase) |>.trans (by simp)) with hle | hle
    · exact hle
    · obtain ⟨t, rfl⟩ := hle
      cases t using List.reverseRecOn with
      | nil => rw [List.nil_append]
      | append_singleton t d =>
          obtain ⟨u, hu⟩ := h
          have hd : d = toAsciiLowercase c := by
            have heq : (u ++ t) ++ (d :: before.map toAsciiLowercase) =
                front.map toAsciiLowercase ++
                  toAsciiLowercase c :: before.map toAsciiLowercase := by
              rw [← hu]
              simp
            exact (List.cons.inj (List.append_inj_right' heq (by simp))).1
          exact absurd
            (List.mem_append_left _ (List.mem_append_right t (List.mem_singleton.mpr rfl)))
            (hd ▸ hnot _ hname)
  · exact fun h => h.trans ((List.suffix_cons _ _).trans (List.suffix_append _ _))

/-- **A byte of no name** hides what is before it. -/
lemma secretPieces_forget {c : UInt8} (hc : isNameless c = true) (front before text : Str) :
    secretPieces (front ++ c :: before) text = secretPieces before text := by
  have hiff : ∀ before b text, IsSecret (front ++ c :: before) b text ↔ IsSecret before b text := by
    intro before b text
    rw [IsSecret, IsSecret, isNamed_forget hc]
  induction before, text using secrets_induction with
  | hnil before => rw [secretPieces_nil, secretPieces_nil]
  | hkeep before b text hnot ih =>
      rw [secretPieces_of_not hnot, secretPieces_of_not, ← ih, List.append_assoc, List.cons_append]
      rwa [hiff]
  | hsecret before b text hsecret ih =>
      rw [secretPieces_of_isSecret hsecret, secretPieces_of_isSecret ((hiff _ _ _).mpr hsecret),
        ← ih, List.append_assoc, List.cons_append]

lemma isNameless_of_whitespace {c : UInt8} (hc : isAsciiWhitespace c = true) :
    isNameless c = true ∧ isSeparator c = false := by
  simp only [isAsciiWhitespace, Bool.or_eq_true, decide_eq_true_eq] at hc
  rcases hc with (((rfl | rfl) | rfl) | rfl) | rfl
  all_goals decide

/-- A new word is read as if nothing were before it. -/
lemma secretPieces_endsWord {w : Str} (hw : EndsWord w) (before : Str) :
    secretPieces before w = secretPieces [] w := by
  cases w with
  | nil => rw [secretPieces_nil, secretPieces_nil]
  | cons c w =>
      obtain ⟨hnameless, hsep⟩ := isNameless_of_whitespace (hw c rfl)
      have hnot : ∀ before, ¬ IsSecret before c w := by
        rintro before ⟨h, -⟩
        rw [hsep] at h
        cases h
      have hempty := secretPieces_forget hnameless [] [] w
      rw [List.nil_append] at hempty
      rw [secretPieces_of_not (hnot _), secretPieces_of_not (hnot _), List.nil_append,
        secretPieces_forget hnameless before [] w, hempty]

/-! ### Addresses and homes -/

/-- A byte of no run and of no word cuts the text in two. -/
lemma ipv4_append_cons {c : UInt8} (hc : isIpv4Byte c = false) (a b : Str) :
    ipv4 (a ++ c :: b) = ipv4 a ++ c :: ipv4 b := by
  rw [ipv4, runPieces_append_cons hc (fun _ _ => rfl), render_append, render_keep,
    @runPieces_prev _ _ (some c) none fun _ _ => rfl, ipv4, ipv4]

lemma onIpv6_next {c : UInt8} (hc : isWord c = false) (prev : Option UInt8) (run : Str) :
    onIpv6 prev run (some c) = onIpv6 prev run none := by
  have hhead : (lastColon run ++ (some c).toList).head?.any isWord =
      (lastColon run ++ (none : Option UInt8).toList).head?.any isWord := by
    cases lastColon run with
    | nil => simpa using hc
    | cons d rest => rfl
  have hiff : IsIpv6 prev run (some c) ↔ IsIpv6 prev run none := by
    rw [IsIpv6, IsIpv6, hhead]
  rw [onIpv6, onIpv6]
  simp only [hiff]

lemma onIpv6_prev {c : UInt8} (hc : isWord c = false) (run : Str) (next : Option UInt8) :
    onIpv6 (some c) run next = onIpv6 none run next := by
  have hiff : IsIpv6 (some c) run next ↔ IsIpv6 none run next := by
    rw [IsIpv6, IsIpv6, Option.any_some, hc, Option.any_none]
  rw [onIpv6, onIpv6]
  simp only [hiff]

lemma ipv6_append_cons {c : UInt8} (hc : isIpv6Byte c = false) (hword : isWord c = false)
    (a b : Str) : ipv6 (a ++ c :: b) = ipv6 a ++ c :: ipv6 b := by
  rw [ipv6, runPieces_append_cons hc fun prev run => onIpv6_next hword prev run, render_append,
    render_keep, @runPieces_prev _ _ (some c) none fun run next => onIpv6_prev hword run next,
    ipv6, ipv6]

lemma mac_append_cons {c : UInt8} (hc : isMacByte c = false) (a b : Str) :
    mac (a ++ c :: b) = mac a ++ c :: mac b := by
  rw [mac, runPieces_append_cons hc (fun _ _ => rfl), render_append, render_keep,
    @runPieces_prev _ _ (some c) none fun _ _ => rfl, mac, mac]

/-- **A slash after a slash** begins a text of its own: no name of a home directory goes over
the first of them, and none begins before the second. -/
lemma homePieces_slashes (a x : Str) :
    homePieces (a ++ byte '/' :: byte '/' :: x) =
      homePieces (a ++ [byte '/']) ++ homePieces (byte '/' :: x) := by
  have hstop : ∀ t : Str, ∀ c, (byte '/' :: t).head? = some c → (!isHomeStop c) = false := by
    intro t c hc
    obtain rfl := Option.some.inj hc
    decide
  induction a using homes_induction with
  | hnil =>
      have hnot : ∀ t : Str, ¬ ascii "/home/" <+: byte '/' :: byte '/' :: t := by
        rintro t ⟨u, hu⟩
        exact absurd (List.cons.inj (List.cons.inj hu).2).1 (by decide)
      have hone : ¬ ascii "/home/" <+: [byte '/'] := by decide
      rw [List.nil_append, List.nil_append, homePieces_cons (hnot x), homePieces_cons hone,
        homePieces_nil, List.singleton_append]
  | hcons b a hb ih =>
      by_cases h : ascii "/home/" <+: b :: (a ++ [byte '/'])
      · -- the first slash ends `/home/`, and no name follows
        have heq : b :: (a ++ [byte '/']) = ascii "/home/" := by
          rw [← List.cons_append] at h ⊢
          exact ((List.prefix_concat_iff.mp h).resolve_right hb).symm
        have hempty : ∀ t : Str, homeOf (byte '/' :: t) = [] ∧ afterHome (byte '/' :: t) =
            byte '/' :: t := fun t => @takeWhile_append_head (!isHomeStop ·) [] _ (hstop t)
        have hlong : b :: a ++ byte '/' :: byte '/' :: x = ascii "/home/" ++ byte '/' :: x := by
          rw [← heq]
          simp
        have hnil := homePieces_home []
        rw [List.append_nil] at hnil
        rw [hlong, List.cons_append, heq, homePieces_home, hnil, namePieces, namePieces,
          (hempty x).1, (hempty x).2]
        simp [homeOf, afterHome]
      · have hlong : ¬ ascii "/home/" <+: b :: (a ++ byte '/' :: byte '/' :: x) := by
          intro hpre
          have hsplit : b :: (a ++ byte '/' :: byte '/' :: x) =
              b :: (a ++ [byte '/']) ++ byte '/' :: x := by simp
          rw [hsplit] at hpre
          rcases List.prefix_or_prefix_of_prefix hpre (List.prefix_append _ _) with hle | hle
          · exact h hle
          · obtain ⟨t, ht⟩ := hle
            rw [← ht, List.prefix_append_right_inj] at hpre
            cases t with
            | nil =>
                rw [List.append_nil] at ht
                exact h (ht ▸ List.prefix_rfl)
            | cons c t =>
                obtain ⟨u, hu⟩ := hpre
                obtain rfl := (List.cons.inj hu).1
                have hinfix : [byte '/', byte '/'] <:+: ascii "/home/" :=
                  ⟨b :: a, t, by rw [← ht]; simp⟩
                exact absurd hinfix (by decide)
        rw [List.cons_append, List.cons_append, homePieces_cons hlong, homePieces_cons h, ih,
          List.cons_append]
  | hhome a ih =>
      have hboth : ∀ t : Str, homeOf (a ++ byte '/' :: t) = homeOf a ∧
          afterHome (a ++ byte '/' :: t) = afterHome a ++ byte '/' :: t :=
        fun t => takeWhile_append_head a (hstop t)
      have hnames : ∀ t : Str, namePieces (a ++ byte '/' :: t) = namePieces a := by
        intro t
        rw [namePieces, namePieces, (hboth t).1]
      rw [List.append_assoc, List.append_assoc, homePieces_home, homePieces_home, hnames, hnames,
        (hboth _).2, (hboth _).2, ih]
      simp only [List.append_assoc]

end SkylineSpeeder.Scrub
