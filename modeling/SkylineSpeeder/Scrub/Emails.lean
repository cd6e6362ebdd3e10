import Mathlib.Data.List.DropRight
import SkylineSpeeder.Scrub.Utf8

/-!
The second pass: e-mail addresses.

* `scrubEmails`: the code;
* `emailPieces`: the same, with what was passed since the last address at hand;
* `emailRanges_eq`: the loop finds the ranges of the pieces.
-/

namespace SkylineSpeeder.Scrub

open Redact

/-! ### The code -/

/-- `local` of `scrub_emails`. -/
def isLocal (b : UInt8) : Bool := isAsciiAlphanumeric b || b ∈ ascii "._%+-"

/-- `domain` of `scrub_emails`. -/
def isDomain (b : UInt8) : Bool := isAsciiAlphanumeric b || b ∈ ascii ".-"

/-- What does not end a host. -/
def isTrimmed (b : UInt8) : Bool := b = byte '.' || b = byte '-'

/-- The inner loop of `scrub_emails`, on its `end`. -/
def trimHost (text : Str) (start : ℕ) : ℕ → ℕ
  | 0 => 0
  | stop + 1 =>
      if start < stop + 1 ∧ (text[stop]?).any isTrimmed then trimHost text start stop else stop + 1

/-- `tld`. -/
def tldOf (host : Str) : Str :=
  if byte '.' ∈ host then host.rtakeWhile (· ≠ byte '.') else []

/-- The loop of `scrub_emails`, with its `last_end`, over the positions of `@`. -/
def emailRanges (text : Str) (lastEnd : ℕ) : List ℕ → Option (List Range)
  | [] => some []
  | i :: is =>
      if i < lastEnd then emailRanges text lastEnd is
      else do
        let start := i - (((text.take i).drop lastEnd).rtakeWhile isLocal).length
        let stop := trimHost text (i + 1) (i + 1 + ((text.drop (i + 1)).takeWhile isDomain).length)
        let host ← slice text (i + 1) stop
        if start < i ∧ 2 ≤ (tldOf host).length ∧ (tldOf host).all isAsciiAlphabetic then do
          let more ← emailRanges text stop is
          some (⟨start, stop, ascii "<email>"⟩ :: more)
        else emailRanges text lastEnd is

/-- `scrub_emails`. -/
def scrubEmails (text : Str) : Option Str := do
  let ranges ← emailRanges text 0 (positions (· = byte '@') 0 text)
  splice text ranges

/-! ### Its pieces -/

/-- The host after an `@`. -/
def hostOf (text : Str) : Str := (text.takeWhile isDomain).rdropWhile isTrimmed

/-- What is after the host. -/
def afterHost (text : Str) : Str := text.drop (hostOf text).length

/-- An `@` between these two texts is that of an address. -/
def IsEmail (before after : Str) : Prop :=
  before.rtakeWhile isLocal ≠ [] ∧ 2 ≤ (tldOf (hostOf after)).length ∧
    (tldOf (hostOf after)).all isAsciiAlphabetic = true

instance (before after : Str) : Decidable (IsEmail before after) :=
  inferInstanceAs (Decidable (_ ∧ _ ∧ _))

lemma hostOf_append_afterHost (text : Str) : hostOf text ++ afterHost text = text := by
  have hprefix : hostOf text <+: text :=
    (List.rdropWhile_prefix _ _).trans (List.takeWhile_prefix _)
  exact List.prefix_iff_eq_append.mp hprefix

lemma length_afterHost_le (text : Str) : (afterHost text).length ≤ text.length := by
  rw [afterHost, List.length_drop]
  omega

/-- The pieces of a text, once `before` was passed since the last address. -/
def emailPieces (before : Str) : Str → List (Piece UInt8)
  | [] => keeps before
  | b :: text =>
      if b = byte '@' ∧ IsEmail before text then
        keeps (before.rdropWhile isLocal) ++
          .cut (before.rtakeWhile isLocal ++ b :: hostOf text) (ascii "<email>") ::
            emailPieces [] (afterHost text)
      else emailPieces (before ++ [b]) text
termination_by text => text.length
decreasing_by
  · have := length_afterHost_le text
    rw [List.length_cons]
    omega
  · simp

/-- What `scrub_emails` gives. -/
def emails (text : Str) : Str := render (emailPieces [] text)

/-! ### The loop -/

lemma emailPieces_nil (before : Str) : emailPieces before [] = keeps before := by
  rw [emailPieces]

lemma emailPieces_cons_of_not {before text : Str} {b : UInt8}
    (h : ¬ (b = byte '@' ∧ IsEmail before text)) :
    emailPieces before (b :: text) = emailPieces (before ++ [b]) text := by
  rw [emailPieces, if_neg h]

lemma emailPieces_of_isEmail {before text : Str} (h : IsEmail before text) :
    emailPieces before (byte '@' :: text) =
      keeps (before.rdropWhile isLocal) ++
        .cut (before.rtakeWhile isLocal ++ byte '@' :: hostOf text) (ascii "<email>") ::
          emailPieces [] (afterHost text) := by
  rw [emailPieces, if_pos ⟨rfl, h⟩]

/-- A byte, or an address: how the pieces of a text are made. -/
lemma emails_induction {P : Str → Str → Prop} (hnil : ∀ before, P before [])
    (hcons : ∀ before b text, ¬ (b = byte '@' ∧ IsEmail before text) →
      P (before ++ [b]) text → P before (b :: text))
    (hemail : ∀ before text, IsEmail before text → P [] (afterHost text) →
      P before (byte '@' :: text)) : ∀ before text, P before text := by
  intro before text
  induction hlength : text.length using Nat.strong_induction_on generalizing before text with
  | _ n ih =>
      cases text with
      | nil => exact hnil before
      | cons b text =>
          by_cases h : b = byte '@' ∧ IsEmail before text
          · obtain ⟨rfl, h⟩ := h
            refine hemail before text h (ih _ ?_ _ _ rfl)
            have hle := length_afterHost_le text
            rw [← hlength, List.length_cons]
            omega
          · exact hcons before b text h (ih _ (by simp [← hlength]) _ _ rfl)

@[simp] lemma source_emailPieces (before text : Str) :
    source (emailPieces before text) = before ++ text := by
  induction before, text using emails_induction with
  | hnil before => simp [emailPieces_nil]
  | hcons before b text h ih => simp [emailPieces_cons_of_not h, ih]
  | hemail before text h ih =>
      rw [emailPieces_of_isEmail h, source_append, source_keeps, source_cut, ih, List.nil_append]
      have hbefore := List.rdropWhile_append_rtakeWhile (p := isLocal) (l := before)
      rw [List.append_assoc, List.cons_append, hostOf_append_afterHost, ← List.append_assoc,
        hbefore]

/-- The inner loop drops what does not end a host. -/
lemma trimHost_eq (a d rest : Str) :
    trimHost (a ++ (d ++ rest)) a.length (a.length + d.length) =
      a.length + (d.rdropWhile isTrimmed).length := by
  induction d using List.reverseRecOn generalizing rest with
  | nil =>
      cases h : a.length with
      | zero => simp [trimHost]
      | succ n => simp [trimHost]
  | append_singleton d c ih =>
      have hget : (a ++ (d ++ [c] ++ rest))[a.length + d.length]? = some c := by
        rw [List.getElem?_append_right (by omega), Nat.add_sub_cancel_left, List.append_assoc,
          List.getElem?_append_right le_rfl, Nat.sub_self]
        rfl
      rw [List.length_append, List.length_singleton, ← Nat.add_assoc, trimHost, hget,
        List.rdropWhile_concat]
      cases hc : isTrimmed c with
      | true =>
          have hrest := ih ([c] ++ rest)
          rw [← List.append_assoc d] at hrest
          simpa [hc] using hrest
      | false => simp [hc, Nat.add_assoc]

lemma positions_append (p : UInt8 → Bool) (i : ℕ) (a b : Str) :
    positions p i (a ++ b) = positions p i a ++ positions p (i + a.length) b := by
  induction a generalizing i with
  | nil => rfl
  | cons c a ih =>
      rw [List.cons_append, positions, positions, ih, List.length_cons, Nat.add_assoc,
        Nat.add_comm 1]
      split_ifs
      · rfl
      · rfl

lemma positions_eq_nil {p : UInt8 → Bool} {i : ℕ} {a : Str} (h : ∀ b ∈ a, p b = false) :
    positions p i a = [] := by
  induction a generalizing i with
  | nil => rfl
  | cons c a ih =>
      rw [positions, h c (by simp)]
      exact ih fun b hb => h b (List.mem_cons_of_mem c hb)

/-- A byte of an address is ASCII. -/
lemma lt_of_isLocal {b : UInt8} (h : isLocal b = true) : b < 0x80 := by
  have hmem : b ∈ ascii "._%+-" → b < 0x80 := by
    have hall : AllAscii (ascii "._%+-") := by decide
    exact hall b
  have h80 : (0x80 : UInt8).toNat = 128 := rfl
  simp only [isLocal, isAsciiAlphanumeric, isAsciiAlphabetic, isAsciiDigit, Bool.or_eq_true,
    Bool.and_eq_true, decide_eq_true_eq] at h
  rcases h with ((⟨-, h⟩ | ⟨-, h⟩) | ⟨-, h⟩) | h
  · exact UInt8.lt_of_le_of_lt h (by decide)
  · exact UInt8.lt_of_le_of_lt h (by decide)
  · exact UInt8.lt_of_le_of_lt h (by decide)
  · exact hmem h

lemma isLocal_of_isDomain {b : UInt8} (h : isDomain b = true) : isLocal b = true := by
  rw [isDomain, Bool.or_eq_true, decide_eq_true_eq] at h
  rw [isLocal, Bool.or_eq_true, decide_eq_true_eq]
  refine h.imp_right fun hmem => ?_
  have hsub : ascii ".-" ⊆ ascii "._%+-" := by decide
  exact hsub hmem

lemma isDomain_of_mem_hostOf {text : Str} {b : UInt8} (h : b ∈ hostOf text) :
    isDomain b = true := by
  have hmem := (List.rdropWhile_prefix _ _).subset h
  exact List.mem_takeWhile_imp hmem

lemma allAscii_hostOf (text : Str) : AllAscii (hostOf text) :=
  fun _ hb => lt_of_isLocal (isLocal_of_isDomain (isDomain_of_mem_hostOf hb))

/-- A cut segment is ASCII. -/
lemma allAscii_address (before text : Str) :
    AllAscii (before.rtakeWhile isLocal ++ byte '@' :: hostOf text) := by
  refine allAscii_append.mpr ⟨fun b hb => lt_of_isLocal ?_, List.forall_mem_cons.mpr
    ⟨by decide, allAscii_hostOf text⟩⟩
  exact List.mem_rtakeWhile_imp hb

lemma whole_afterHost {text : Str} (h : Whole text) : Whole (afterHost text) := by
  rw [← hostOf_append_afterHost text] at h
  exact h.of_append (allAscii_hostOf text)

/-- One turn of the loop, at an `@`. -/
lemma emailRanges_cons {a before text : Str} (is : List ℕ) (htext : Whole text) :
    emailRanges (a ++ (before ++ byte '@' :: text)) a.length ((a.length + before.length) :: is) =
      if IsEmail before text then
        (emailRanges (a ++ (before ++ byte '@' :: text))
          (a.length + before.length + 1 + (hostOf text).length) is).map
            (⟨a.length + (before.rdropWhile isLocal).length,
              a.length + before.length + 1 + (hostOf text).length, ascii "<email>"⟩ :: ·)
      else emailRanges (a ++ (before ++ byte '@' :: text)) a.length is := by
  obtain ⟨front, hfront⟩ : ∃ front, front = a ++ (before ++ [byte '@']) := ⟨_, rfl⟩
  have hlength : front.length = a.length + before.length + 1 := by
    rw [hfront]
    simp [Nat.add_assoc]
  have hsplit : a ++ (before ++ byte '@' :: text) = front ++ text := by
    rw [hfront]
    simp
  -- what the code cuts out of the text around the `@`
  have hlocal : ((a ++ (before ++ byte '@' :: text)).take (a.length + before.length)).drop
      a.length = before := by
    rw [← List.append_assoc, ← List.length_append, List.take_left, List.drop_left]
  have hdrop : (a ++ (before ++ byte '@' :: text)).drop (a.length + before.length + 1) = text := by
    rw [hsplit, ← hlength, List.drop_left]
  have htrim : trimHost (a ++ (before ++ byte '@' :: text)) (a.length + before.length + 1)
      (a.length + before.length + 1 + (text.takeWhile isDomain).length) =
      a.length + before.length + 1 + (hostOf text).length := by
    have h := trimHost_eq front (text.takeWhile isDomain) (text.dropWhile isDomain)
    rwa [List.takeWhile_append_dropWhile, ← hsplit, hlength] at h
  have hslice : slice (a ++ (before ++ byte '@' :: text)) (a.length + before.length + 1)
      (a.length + before.length + 1 + (hostOf text).length) = some (hostOf text) := by
    have h := @slice_append front (hostOf text) (afterHost text)
      (by rw [hostOf_append_afterHost]; exact htext.begins) (whole_afterHost htext).begins
    rwa [hostOf_append_afterHost, ← hsplit, hlength] at h
  have hlen : (before.rdropWhile isLocal).length + (before.rtakeWhile isLocal).length =
      before.length := by
    rw [← List.length_append, List.rdropWhile_append_rtakeWhile]
  have hstart : a.length + before.length - (before.rtakeWhile isLocal).length =
      a.length + (before.rdropWhile isLocal).length := by omega
  have hiff : a.length + (before.rdropWhile isLocal).length < a.length + before.length ↔
      before.rtakeWhile isLocal ≠ [] := by
    rw [← List.length_pos_iff]
    omega
  -- with these its test is `IsEmail`
  rw [emailRanges, if_neg (by omega)]
  simp only [hlocal, hdrop, htrim, hslice, hstart, hiff, Option.bind_eq_bind, Option.bind_some]
  by_cases h : IsEmail before text
  · have hcond : _ ∧ _ ∧ _ := h
    rw [if_pos h, if_pos hcond]
    cases emailRanges (a ++ (before ++ byte '@' :: text))
      (a.length + before.length + 1 + (hostOf text).length) is with
    | none => rfl
    | some more => rfl
  · have hcond : ¬ (_ ∧ _ ∧ _) := h
    rw [if_neg h, if_neg hcond]

/-- **The loop** finds the ranges of the pieces. -/
lemma emailRanges_eq {a before text : Str} (h : Whole (a ++ (before ++ text))) :
    emailRanges (a ++ (before ++ text)) a.length
        (positions (· = byte '@') (a.length + before.length) text) =
      some (rangesFrom a.length (emailPieces before text)) := by
  induction before, text using emails_induction generalizing a with
  | hnil before => simp [positions, emailRanges, emailPieces_nil]
  | hcons before b text hnot ih =>
      have hrest := @ih a (by simpa using h)
      rw [List.length_append, List.length_singleton, ← Nat.add_assoc] at hrest
      simp only [List.append_assoc, List.singleton_append] at hrest
      rw [emailPieces_cons_of_not hnot, positions]
      by_cases hb : b = byte '@'
      · subst hb
        rw [if_pos (by simp), emailRanges_cons, if_neg fun hemail => hnot ⟨rfl, hemail⟩, hrest]
        rw [← List.append_assoc] at h
        exact (h.split (by decide)).2
      · rw [if_neg (by simpa using hb), hrest]
  | hemail before text hemail ih =>
      obtain ⟨front, hfront⟩ : ∃ front, front = a ++ (before ++ byte '@' :: hostOf text) := ⟨_, rfl⟩
      have hlength : front.length = a.length + before.length + 1 + (hostOf text).length := by
        rw [hfront]
        simp [Nat.add_assoc, Nat.add_comm 1]
      have hsplit : a ++ (before ++ byte '@' :: text) = front ++ ([] ++ afterHost text) := by
        nth_rewrite 1 [← hostOf_append_afterHost text]
        rw [hfront]
        simp
      have hrest := @ih front (by rwa [← hsplit])
      rw [← hsplit, hlength] at hrest
      simp only [List.length_nil, Nat.add_zero] at hrest
      have hnone : ∀ c ∈ hostOf text, decide (c = byte '@') = false := by
        intro c hc
        have hdomain := isDomain_of_mem_hostOf hc
        rw [decide_eq_false_iff_not]
        rintro rfl
        exact absurd hdomain (by decide)
      -- the host holds no other `@`, so the next one comes after it
      have hpositions : positions (· = byte '@') (a.length + before.length + 1) text =
          positions (· = byte '@') (a.length + before.length + 1 + (hostOf text).length)
            (afterHost text) := by
        nth_rewrite 1 [← hostOf_append_afterHost text]
        rw [positions_append, positions_eq_nil hnone, List.nil_append]
      have hlen : (before.rdropWhile isLocal).length + (before.rtakeWhile isLocal).length =
          before.length := by
        rw [← List.length_append, List.rdropWhile_append_rtakeWhile]
      rw [← List.append_assoc] at h
      rw [positions, if_pos (by simp), emailRanges_cons _ (h.split (by decide)).2, if_pos hemail,
        hpositions, hrest, emailPieces_of_isEmail hemail, rangesFrom_append]
      simp only [Option.map_some, rangesFrom_keeps, source_keeps, rangesFrom, List.nil_append,
        List.length_append, List.length_cons]
      have hstop : a.length + (before.rdropWhile isLocal).length +
          ((before.rtakeWhile isLocal).length + ((hostOf text).length + 1)) =
          a.length + before.length + 1 + (hostOf text).length := by omega
      rw [hstop]

/-- The ends of the ranges are boundaries. -/
lemma boundary_emailRanges {a before text : Str} (h : Whole (a ++ (before ++ text))) :
    ∀ r ∈ rangesFrom a.length (emailPieces before text),
      isCharBoundary (a ++ (before ++ text)) r.start = true ∧
        isCharBoundary (a ++ (before ++ text)) r.stop = true := by
  induction before, text using emails_induction generalizing a with
  | hnil before => simp [emailPieces_nil]
  | hcons before b text hnot ih =>
      have hrest := @ih a (by simpa using h)
      rw [emailPieces_cons_of_not hnot]
      simpa using hrest
  | hemail before text hemail ih =>
      obtain ⟨front, hfront⟩ : ∃ front, front = a ++ (before ++ byte '@' :: hostOf text) := ⟨_, rfl⟩
      have hlength : front.length = a.length + (before ++ byte '@' :: hostOf text).length := by
        rw [hfront, List.length_append]
      -- the range ends where the host ends
      have hsplit : a ++ (before ++ byte '@' :: text) = front ++ ([] ++ afterHost text) := by
        nth_rewrite 1 [← hostOf_append_afterHost text]
        rw [hfront]
        simp
      have hbefore := List.rdropWhile_append_rtakeWhile (p := isLocal) (l := before)
      have hstart : a ++ (before ++ byte '@' :: text) =
          (a ++ before.rdropWhile isLocal) ++ (before.rtakeWhile isLocal ++ byte '@' :: text) := by
        rw [List.append_assoc, ← List.append_assoc (before.rdropWhile isLocal), hbefore]
      -- and begins with an ASCII byte of the local part
      have hbegins : Begins (before.rtakeWhile isLocal ++ byte '@' :: text) := by
        intro b hb
        refine not_continuation_of_lt (allAscii_address before text b ?_)
        cases hlocal : before.rtakeWhile isLocal with
        | nil => exact absurd hlocal hemail.1
        | cons c rest =>
            rw [hlocal] at hb
            obtain rfl := Option.some.inj hb
            exact List.mem_cons_self
      have hafter : Begins (afterHost text) := by
        rw [← List.append_assoc] at h
        exact (whole_afterHost (h.split (by decide)).2).begins
      have hrest := @ih front (by rwa [← hsplit])
      rw [← hsplit] at hrest
      rw [emailPieces_of_isEmail hemail, rangesFrom_append]
      simp only [rangesFrom_keeps, source_keeps, rangesFrom, List.nil_append]
      intro r hr
      have hstop : a.length + (before.rdropWhile isLocal).length +
          (before.rtakeWhile isLocal ++ byte '@' :: hostOf text).length = front.length := by
        have hlen := congrArg List.length hbefore
        rw [List.length_append] at hlen
        simp only [hlength, List.length_append, List.length_cons]
        omega
      rw [hstop] at hr
      rcases List.mem_cons.mp hr with rfl | hr
      · refine ⟨?_, ?_⟩
        · rw [hstart, ← List.length_append]
          exact isCharBoundary_append hbegins
        · rw [hsplit, List.nil_append]
          exact isCharBoundary_append hafter
      · exact hrest r hr

/-- **The pass** gives the pieces' text, for any text of whole characters. -/
lemma emailRanges_yields {text : Str} (h : Whole text) :
    emailRanges text 0 (positions (· = byte '@') 0 text) =
        some (rangesFrom 0 (emailPieces [] text)) ∧
      Yields text (rangesFrom 0 (emailPieces [] text)) (emails text) :=
  ⟨@emailRanges_eq [] [] text h,
    yields_rangesFrom (source_emailPieces [] text) (@boundary_emailRanges [] [] text h)⟩

/-! ### What the pass leaves -/

/-- What is cut out is ASCII. -/
lemma allAscii_cut_emailPieces {before text segment marker : Str}
    (h : .cut segment marker ∈ emailPieces before text) :
    AllAscii segment ∧ marker = ascii "<email>" := by
  induction before, text using emails_induction with
  | hnil before =>
      rw [emailPieces_nil] at h
      simp [keeps] at h
  | hcons before b text hnot ih =>
      rw [emailPieces_cons_of_not hnot] at h
      exact ih h
  | hemail before text hemail ih =>
      rw [emailPieces_of_isEmail hemail, List.mem_append, List.mem_cons] at h
      rcases h with h | h | h
      · simp [keeps] at h
      · obtain ⟨rfl, rfl⟩ := Piece.cut.inj h
        exact ⟨allAscii_address before text, rfl⟩
      · exact ih h

/-- What is not ASCII stays. -/
lemma mem_emails {text : Str} {b : UInt8} (h : b ∈ text) (hb : ¬ b < 0x80) : b ∈ emails text := by
  have hsource : b ∈ source (emailPieces [] text) := by simpa using h
  refine mem_render.mpr ((mem_source.mp hsource).imp_right ?_)
  rintro ⟨segment, marker, hcut, hmem⟩
  exact absurd ((allAscii_cut_emailPieces hcut).1 b hmem) hb

/-- What is ASCII stays so. -/
lemma allAscii_emails {text : Str} (h : AllAscii text) : AllAscii (emails text) := by
  refine allAscii_render (by simpa using h) fun segment marker hcut => ?_
  rw [(allAscii_cut_emailPieces hcut).2]
  decide

end SkylineSpeeder.Scrub
