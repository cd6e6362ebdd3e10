import SkylineSpeeder.Scrub.Utf8

/-!
The first pass: the user and the password of a URL.

* `scrubCredentials`: the code;
* `credentialPieces`: the same text byte by byte, with what is cut out;
* `credentialRanges_eq`: the loop finds the ranges of the pieces, and ends;
* `credentialRanges_yields`: so the pass gives the pieces' text, for any text of whole
  characters;
* `Hidden`: what is not ASCII is cut out; `allAscii_credentials_iff` says so of the result.
-/

namespace SkylineSpeeder.Scrub

open Redact

/-! ### The code -/

/-- What ends the credentials. -/
def isCredentialStop (b : UInt8) : Bool := b = byte '@' || b = byte '/' || isAsciiWhitespace b

/-- The loop of `scrub_credentials`, from `pos` on (`from` in the source). -/
def credentialRanges (text : Str) : ℕ → ℕ → Option (List Range)
  | 0, _ => none
  | fuel + 1, pos => do
      let rest ← sliceFrom text pos
      match find (ascii "://") rest with
      | none => some []
      | some found => do
          let start := pos + found + 3
          let tail ← bytesFrom text start
          let stop := (tail.findIdx? isCredentialStop).elim text.length (start + ·)
          let more ← credentialRanges text fuel (max stop start)
          if start < stop ∧ text[stop]? = some (byte '@') then
            some (⟨start, stop, ascii "<credentials>"⟩ :: more)
          else some more

/-- `scrub_credentials`. -/
def scrubCredentials (text : Str) : Option Str := do
  let ranges ← credentialRanges text (text.length + 1) 0
  splice text ranges

/-! ### Its pieces -/

/-- What is before the end of credentials. -/
def spanOf (text : Str) : Str := text.takeWhile (!isCredentialStop ·)

/-- What is from the end of credentials on. -/
def afterSpan (text : Str) : Str := text.dropWhile (!isCredentialStop ·)

lemma spanOf_append_afterSpan (text : Str) : spanOf text ++ afterSpan text = text :=
  List.takeWhile_append_dropWhile

lemma length_afterSpan_le (text : Str) : (afterSpan text).length ≤ text.length :=
  (List.dropWhile_sublist _).length_le

/-- What becomes of what is after `://`, up to the end of credentials. -/
def spanPieces (text : Str) : List (Piece UInt8) :=
  if spanOf text ≠ [] ∧ (afterSpan text).head? = some (byte '@') then
    [.cut (spanOf text) (ascii "<credentials>")]
  else keeps (spanOf text)

/-- The pieces of a text. -/
def credentialPieces : Str → List (Piece UInt8)
  | [] => []
  | b :: text =>
      if ascii "://" <+: b :: text then
        keeps (ascii "://") ++ spanPieces (text.drop 2) ++
          credentialPieces (afterSpan (text.drop 2))
      else .keep b :: credentialPieces text
termination_by text => text.length
decreasing_by
  · have := length_afterSpan_le (text.drop 2)
    rw [List.length_drop] at this
    rw [List.length_cons]
    omega
  · simp

/-- What `scrub_credentials` gives. -/
def credentials (text : Str) : Str := render (credentialPieces text)

@[simp] lemma credentialPieces_nil : credentialPieces [] = [] := by
  rw [credentialPieces]

lemma credentialPieces_url (text : Str) :
    credentialPieces (ascii "://" ++ text) =
      keeps (ascii "://") ++ spanPieces text ++ credentialPieces (afterSpan text) := by
  have hprefix : ascii "://" <+: ascii "://" ++ text := List.prefix_append _ _
  have hcons : ascii "://" ++ text = byte ':' :: ([byte '/', byte '/'] ++ text) := rfl
  rw [hcons] at hprefix ⊢
  rw [credentialPieces, if_pos hprefix]
  rfl

lemma credentialPieces_cons {b : UInt8} {text : Str} (h : ¬ ascii "://" <+: b :: text) :
    credentialPieces (b :: text) = .keep b :: credentialPieces text := by
  rw [credentialPieces, if_neg h]

@[simp] lemma source_spanPieces (text : Str) : source (spanPieces text) = spanOf text := by
  rw [spanPieces]
  split_ifs
  · simp
  · simp

lemma length_scheme : (ascii "://").length = 3 := rfl

/-- A byte, or a URL: how the pieces of a text are made. -/
lemma credentials_induction {P : Str → Prop} (hnil : P [])
    (hcons : ∀ b text, ¬ ascii "://" <+: b :: text → P text → P (b :: text))
    (hurl : ∀ text, P (afterSpan text) → P (ascii "://" ++ text)) : ∀ text, P text := by
  intro text
  induction hlength : text.length using Nat.strong_induction_on generalizing text with
  | _ n ih =>
      cases text with
      | nil => exact hnil
      | cons b text =>
          by_cases h : ascii "://" <+: b :: text
          · obtain ⟨rest, hrest⟩ := h
            rw [← hrest]
            refine hurl rest (ih _ ?_ _ rfl)
            have hle := length_afterSpan_le rest
            rw [← hlength, ← hrest, List.length_append, length_scheme]
            omega
          · exact hcons b text h (ih _ (by simp [← hlength]) _ rfl)

@[simp] lemma source_credentialPieces (text : Str) : source (credentialPieces text) = text := by
  induction text using credentials_induction with
  | hnil => simp
  | hcons b text h ih => simp [credentialPieces_cons h, ih]
  | hurl text ih => simp [credentialPieces_url, ih, spanOf_append_afterSpan]

/-! ### The loop -/

/-- Up to the first URL nothing is cut out. -/
lemma credentialPieces_find (text : Str) :
    (find (ascii "://") text = none ∧ credentialPieces text = keeps text) ∨
      ∃ before after, text = before ++ (ascii "://" ++ after) ∧
        find (ascii "://") text = some before.length ∧
        credentialPieces text = keeps before ++ credentialPieces (ascii "://" ++ after) := by
  induction text with
  | nil => exact .inl ⟨rfl, credentialPieces_nil⟩
  | cons b text ih =>
      by_cases h : ascii "://" <+: b :: text
      · obtain ⟨after, hafter⟩ := h
        exact .inr ⟨[], after, by simpa using hafter.symm, by simp [find, ← hafter],
          by simp [hafter]⟩
      · rw [find, if_neg h, credentialPieces_cons h]
        rcases ih with ⟨hfind, hpieces⟩ | ⟨before, after, rfl, hfind, hpieces⟩
        · exact .inl ⟨by rw [hfind]; rfl, by rw [hpieces]; rfl⟩
        · exact .inr ⟨b :: before, after, rfl, by rw [hfind]; rfl, by rw [hpieces]; rfl⟩

/-- What ends credentials is no byte inside a character. -/
lemma begins_afterSpan {text : Str} : Begins (afterSpan text) := by
  intro b hb
  have hstop : isCredentialStop b = true := by
    have h := List.head?_dropWhile_not (!isCredentialStop ·) text
    rw [afterSpan] at hb
    rw [hb] at h
    simpa using h
  refine not_continuation_of_lt ?_
  simp only [isCredentialStop, isAsciiWhitespace, Bool.or_eq_true, decide_eq_true_eq] at hstop
  rcases hstop with (rfl | rfl) | (((rfl | rfl) | rfl) | rfl) | rfl
  all_goals decide

lemma rangesFrom_spanPieces (pos : ℕ) (text : Str) :
    rangesFrom pos (spanPieces text) =
      if spanOf text ≠ [] ∧ (afterSpan text).head? = some (byte '@') then
        [⟨pos, pos + (spanOf text).length, ascii "<credentials>"⟩]
      else [] := by
  rw [spanPieces]
  split_ifs
  · rfl
  · simp

/-- One turn of the loop, at the URL that it finds. -/
lemma credentialRanges_succ {fuel : ℕ} {a u v : Str} (hb : Begins (u ++ (ascii "://" ++ v)))
    (hfind : find (ascii "://") (u ++ (ascii "://" ++ v)) = some u.length) :
    credentialRanges (a ++ (u ++ (ascii "://" ++ v))) (fuel + 1) a.length =
      (credentialRanges (a ++ (u ++ (ascii "://" ++ v))) fuel
        (a.length + u.length + 3 + (spanOf v).length)).map
          (rangesFrom (a.length + u.length + 3) (spanPieces v) ++ ·) := by
  obtain ⟨front, hfront⟩ : ∃ front, front = a ++ (u ++ ascii "://") := ⟨_, rfl⟩
  have hlength : front.length = a.length + u.length + 3 := by
    rw [hfront]
    simp [length_scheme, Nat.add_assoc]
  have htext : a ++ (u ++ (ascii "://" ++ v)) = front ++ v := by
    rw [hfront]
    simp
  have hat : (front ++ v)[front.length + (spanOf v).length]? = (afterSpan v).head? := by
    rw [List.getElem?_append_right (by omega), Nat.add_sub_cancel_left]
    nth_rewrite 1 [← spanOf_append_afterSpan v]
    rw [List.getElem?_append_right le_rfl, Nat.sub_self, List.head?_eq_getElem?]
  have hstop := @elim_findIdx isCredentialStop front.length v _ List.length_append
  rw [credentialRanges, sliceFrom_append hb, htext, Option.bind_eq_bind, Option.bind_some, hfind]
  simp only
  rw [← hlength, bytesFrom_append, Option.bind_eq_bind, Option.bind_some, hstop, ← spanOf, hat,
    max_eq_left (by omega), rangesFrom_spanPieces]
  cases credentialRanges (front ++ v) fuel (front.length + (spanOf v).length) with
  | none => rfl
  | some more =>
      rw [Option.bind_some]
      by_cases h : spanOf v ≠ [] ∧ (afterSpan v).head? = some (byte '@')
      · have hlt : front.length < front.length + (spanOf v).length :=
          Nat.lt_add_of_pos_right (List.length_pos_iff.mpr h.1)
        rw [if_pos h, if_pos ⟨hlt, h.2⟩]
        rfl
      · rw [if_neg h, if_neg]
        · rfl
        · rintro ⟨hlt, hhead⟩
          exact h ⟨List.length_pos_iff.mp (Nat.pos_of_lt_add_right hlt), hhead⟩

/-- **The loop ends**, with the ranges of the pieces, and their ends are boundaries. -/
lemma credentialRanges_eq {fuel : ℕ} {a b : Str} (hfuel : b.length < fuel) (hb : Begins b)
    (hwhole : Whole (a ++ b)) :
    credentialRanges (a ++ b) fuel a.length = some (rangesFrom a.length (credentialPieces b)) ∧
      ∀ r ∈ rangesFrom a.length (credentialPieces b),
        isCharBoundary (a ++ b) r.start = true ∧ isCharBoundary (a ++ b) r.stop = true := by
  induction fuel generalizing a b with
  | zero => omega
  | succ fuel ih =>
      rcases credentialPieces_find b with ⟨hfind, hpieces⟩ | ⟨u, v, rfl, hfind, hpieces⟩
      · rw [credentialRanges, sliceFrom_append hb]
        simp [hfind, hpieces]
      · obtain ⟨front, hfront⟩ : ∃ front, front = a ++ (u ++ ascii "://") := ⟨_, rfl⟩
        have hlength : front.length = a.length + u.length + 3 := by
          rw [hfront]
          simp [length_scheme, Nat.add_assoc]
        have htext : a ++ (u ++ (ascii "://" ++ v)) = front ++ v := by
          rw [hfront]
          simp
        have hslash : front ++ v = (a ++ (u ++ [byte ':', byte '/'])) ++ byte '/' :: v := by
          rw [hfront]
          simp [ascii]
        have hspan : front ++ v = front ++ spanOf v ++ afterSpan v := by
          rw [List.append_assoc, spanOf_append_afterSpan]
        have hv : Begins v := by
          rw [htext, hslash] at hwhole
          exact (hwhole.split (by decide)).2.begins
        -- the loop goes on behind the span of the URL
        have hrest := @ih (front ++ spanOf v) (afterSpan v) (by
          have hle := length_afterSpan_le v
          simp only [List.length_append, length_scheme] at hfuel
          omega) begins_afterSpan (by rwa [← hspan, ← htext])
        rw [← hspan, ← htext, List.length_append, hlength] at hrest
        obtain ⟨hloop, hends⟩ := hrest
        have hranges : rangesFrom a.length (credentialPieces (u ++ (ascii "://" ++ v))) =
            rangesFrom (a.length + u.length + 3) (spanPieces v) ++
              rangesFrom (a.length + u.length + 3 + (spanOf v).length)
                (credentialPieces (afterSpan v)) := by
          rw [hpieces, credentialPieces_url]
          simp [rangesFrom_append, length_scheme, Nat.add_assoc]
        rw [credentialRanges_succ hb hfind, hloop, hranges]
        refine ⟨rfl, fun r hr => ?_⟩
        rcases List.mem_append.mp hr with hr | hr
        · rw [rangesFrom_spanPieces] at hr
          split_ifs at hr
          · obtain rfl := List.mem_singleton.mp hr
            rw [htext, ← hlength]
            refine ⟨isCharBoundary_append hv, ?_⟩
            rw [hspan, ← List.length_append]
            exact isCharBoundary_append begins_afterSpan
          · cases hr
        · exact hends r hr

/-- **The pass** gives the pieces' text, for any text of whole characters. -/
lemma credentialRanges_yields {text : Str} (h : Whole text) :
    credentialRanges text (text.length + 1) 0 = some (rangesFrom 0 (credentialPieces text)) ∧
      Yields text (rangesFrom 0 (credentialPieces text)) (credentials text) := by
  obtain ⟨hloop, hends⟩ := @credentialRanges_eq (text.length + 1) [] text (by omega) h.begins h
  exact ⟨hloop, yields_rangesFrom (source_credentialPieces text) hends⟩

/-! ### What the pass leaves -/

lemma credentials_cons {b : UInt8} {text : Str} (h : ¬ ascii "://" <+: b :: text) :
    credentials (b :: text) = b :: credentials text := by
  rw [credentials, credentialPieces_cons h, render_keep, credentials]

lemma credentials_url (text : Str) :
    credentials (ascii "://" ++ text) =
      ascii "://" ++ (render (spanPieces text) ++ credentials (afterSpan text)) := by
  rw [credentials, credentialPieces_url, render_append, render_append, render_keeps,
    List.append_assoc, credentials]

@[simp] lemma credentials_nil : credentials [] = [] := by
  rw [credentials, credentialPieces_nil, render_nil]

lemma render_spanPieces (text : Str) :
    render (spanPieces text) =
      if spanOf text ≠ [] ∧ (afterSpan text).head? = some (byte '@') then ascii "<credentials>"
      else spanOf text := by
  rw [spanPieces]
  split_ifs
  · simp
  · simp

/-- The result is whole characters again. -/
lemma whole_credentials {a text : Str} (h : Whole (a ++ text)) : Whole (a ++ credentials text) := by
  induction text using credentials_induction generalizing a with
  | hnil => simpa using h
  | hcons b text hb ih =>
      have hrest := @ih (a ++ [b]) (by simpa using h)
      rw [credentials_cons hb]
      simpa using hrest
  | hurl text ih =>
      rw [credentials_url, render_spanPieces, ← List.append_assoc, ← List.append_assoc]
      refine ih ?_
      split_ifs with hcut
      · obtain ⟨rest, hrest⟩ : ∃ rest, afterSpan text = byte '@' :: rest :=
          List.head?_eq_some_iff.mp hcut.2
        have htext : a ++ (ascii "://" ++ text) =
            (a ++ [byte ':', byte '/']) ++ byte '/' :: (spanOf text ++ byte '@' :: rest) := by
          rw [← hrest, spanOf_append_afterSpan]
          simp [ascii]
        rw [htext] at h
        obtain ⟨hfront, hspan⟩ := h.split (by decide)
        have hafter := (hspan.split (by decide)).2
        have hmarked : AllAscii (byte '/' :: ascii "<credentials>") := by decide
        have hwhole := hfront.append
          ((Whole.of_allAscii hmarked).append (.single (by decide : byte '@' < 0x80) hafter))
        rw [hrest]
        simpa [ascii] using hwhole
      · rw [List.append_assoc, spanOf_append_afterSpan]
        simpa using h

/-- Every character that is not ASCII stands in credentials, where they are looked for: from
`://` up to the next `@`, with no slash and no blank in between. -/
inductive Hidden : Str → Prop
  | nil : Hidden []
  | cons {b : UInt8} {text : Str} (hb : b < 0x80) (hurl : ¬ ascii "://" <+: b :: text)
      (h : Hidden text) : Hidden (b :: text)
  | url {text : Str} (hspan : (afterSpan text).head? = some (byte '@') ∨ AllAscii (spanOf text))
      (h : Hidden (afterSpan text)) : Hidden (ascii "://" ++ text)

/-- **What is left** is ASCII if and only if everything else stood in credentials. -/
lemma allAscii_credentials_iff (text : Str) : AllAscii (credentials text) ↔ Hidden text := by
  have hscheme : AllAscii (ascii "://") := by decide
  have hmarker : AllAscii (ascii "<credentials>") := by decide
  constructor
  · intro h
    induction text using credentials_induction with
    | hnil => exact .nil
    | hcons b text hb ih =>
        rw [credentials_cons hb] at h
        exact .cons (h b (by simp)) hb (ih fun c hc => h c (List.mem_cons_of_mem b hc))
    | hurl text ih =>
        rw [credentials_url, allAscii_append, allAscii_append, render_spanPieces] at h
        refine .url ?_ (ih h.2.2)
        split_ifs at h with hcut
        · exact .inl hcut.2
        · exact .inr h.2.1
  · intro h
    induction h with
    | nil => simp [AllAscii]
    | cons hb hurl _ ih =>
        rw [credentials_cons hurl]
        exact List.forall_mem_cons.mpr ⟨hb, ih⟩
    | @url text hspan _ ih =>
        rw [credentials_url, allAscii_append, allAscii_append, render_spanPieces]
        refine ⟨hscheme, ?_, ih⟩
        split_ifs with hcut
        · exact hmarker
        · rcases hspan with hat | hspan
          · have hnil : spanOf text = [] := by
              by_contra hne
              exact hcut ⟨hne, hat⟩
            simp [hnil, AllAscii]
          · exact hspan

end SkylineSpeeder.Scrub
