import Mathlib.Data.List.TakeWhile
import SkylineSpeeder.Scrub.Utf8

/-!
The third pass: access tokens.

* `scrubTokens`: the code, which takes a slice of the text at every byte it comes to;
* `tokenPieces`: the same, with the byte before at hand;
* `tokenRanges_eq`: without a byte inside a character the loop finds the ranges of the pieces;
* `tokenRanges_eq_none`: at a byte inside a character the slice panics.
-/

namespace SkylineSpeeder.Scrub

open Redact

/-! ### The code -/

/-- `PREFIXES`. -/
def tokenPrefixes : List Str :=
  [ascii "ghp_", ascii "gho_", ascii "ghu_", ascii "ghs_", ascii "ghr_", ascii "github_pat_",
    ascii "sntrys_", ascii "sntryu_", ascii "sntrs_"]

/-- `body_byte`. -/
def isBody (b : UInt8) : Bool := isWord b || b ∈ ascii "+/=-"

/-- The loop of `scrub_tokens`, from `i` on. -/
def tokenRanges (text : Str) : ℕ → ℕ → Option (List Range)
  | 0, _ => none
  | fuel + 1, i =>
      if i < text.length then do
        let rest ← sliceFrom text i
        let found := tokenPrefixes.find? fun front =>
          front <+: rest ∧ (i = 0 ∨ (text[i - 1]?).any isWord = false)
        match found with
        | some front => do
            let tail ← bytesFrom text (i + front.length)
            let body := (tail.takeWhile isBody).length
            if 16 ≤ body then do
              let more ← tokenRanges text fuel (i + front.length + body)
              some (⟨i, i + front.length + body, ascii "<token>"⟩ :: more)
            else tokenRanges text fuel (i + 1)
        | none => tokenRanges text fuel (i + 1)
      else some []

/-- `scrub_tokens`. -/
def scrubTokens (text : Str) : Option Str := do
  let ranges ← tokenRanges text (text.length + 1) 0
  splice text ranges

/-! ### Its pieces -/

/-- A token begins here, after this byte. -/
def IsToken (prev : Option UInt8) (text : Str) : Prop :=
  prev.any isWord = false ∧ ∃ front ∈ tokenPrefixes,
    front <+: text ∧ front.length + 16 ≤ (text.takeWhile isBody).length

instance (prev : Option UInt8) (text : Str) : Decidable (IsToken prev text) :=
  inferInstanceAs (Decidable (_ ∧ _))

/-- The pieces of what follows this byte. -/
def tokenPieces (prev : Option UInt8) : Str → List (Piece UInt8)
  | [] => []
  | b :: text =>
      if IsToken prev (b :: text) then
        .cut (b :: text.takeWhile isBody) (ascii "<token>") ::
          tokenPieces (b :: text.takeWhile isBody).getLast? (text.dropWhile isBody)
      else .keep b :: tokenPieces (some b) text
termination_by text => text.length
decreasing_by
  · have := (List.dropWhile_sublist isBody (l := text)).length_le
    rw [List.length_cons]
    omega
  · simp

/-- What `scrub_tokens` gives. -/
def tokens (text : Str) : Str := render (tokenPieces none text)

@[simp] lemma tokenPieces_nil (prev : Option UInt8) : tokenPieces prev [] = [] := by
  rw [tokenPieces]

lemma tokenPieces_of_isToken {prev : Option UInt8} {b : UInt8} {text : Str}
    (h : IsToken prev (b :: text)) :
    tokenPieces prev (b :: text) =
      .cut (b :: text.takeWhile isBody) (ascii "<token>") ::
        tokenPieces (b :: text.takeWhile isBody).getLast? (text.dropWhile isBody) := by
  rw [tokenPieces, if_pos h]

lemma tokenPieces_of_not {prev : Option UInt8} {b : UInt8} {text : Str}
    (h : ¬ IsToken prev (b :: text)) :
    tokenPieces prev (b :: text) = .keep b :: tokenPieces (some b) text := by
  rw [tokenPieces, if_neg h]

/-- A byte, or a token: how the pieces of a text are made. -/
lemma tokens_induction {P : Option UInt8 → Str → Prop} (hnil : ∀ prev, P prev [])
    (hkeep : ∀ prev b text, ¬ IsToken prev (b :: text) → P (some b) text → P prev (b :: text))
    (htoken : ∀ prev b text, IsToken prev (b :: text) →
      P (b :: text.takeWhile isBody).getLast? (text.dropWhile isBody) → P prev (b :: text)) :
    ∀ prev text, P prev text := by
  intro prev text
  induction hlength : text.length using Nat.strong_induction_on generalizing prev text with
  | _ n ih =>
      cases text with
      | nil => exact hnil prev
      | cons b text =>
          by_cases h : IsToken prev (b :: text)
          · refine htoken prev b text h (ih _ ?_ _ _ rfl)
            have := (List.dropWhile_sublist isBody (l := text)).length_le
            rw [← hlength, List.length_cons]
            omega
          · exact hkeep prev b text h (ih _ (by simp [← hlength]) _ _ rfl)

@[simp] lemma source_tokenPieces (prev : Option UInt8) (text : Str) :
    source (tokenPieces prev text) = text := by
  induction prev, text using tokens_induction with
  | hnil prev => simp
  | hkeep prev b text h ih => simp [tokenPieces_of_not h, ih]
  | htoken prev b text h ih => simp [tokenPieces_of_isToken h, ih]

/-! ### The loop -/

/-- A prefix is made of body bytes. -/
lemma isBody_of_mem_tokenPrefixes {front : Str} (h : front ∈ tokenPrefixes) :
    ∀ b ∈ front, isBody b = true := by
  have hall : (tokenPrefixes.all fun front => front.all isBody) = true := by decide
  exact List.all_eq_true.mp (List.all_eq_true.mp hall front h)

/-- Two prefixes at one place are one. -/
lemma prefix_unique {front back text : Str} (hfront : front ∈ tokenPrefixes)
    (hback : back ∈ tokenPrefixes) (h : front <+: text) (h' : back <+: text) : front = back := by
  have hall : (tokenPrefixes.all fun front => tokenPrefixes.all fun back =>
      decide (front <+: back → front = back)) = true := by decide
  have hone : ∀ front ∈ tokenPrefixes, ∀ back ∈ tokenPrefixes, front <+: back → front = back := by
    intro front hfront back hback
    exact of_decide_eq_true (List.all_eq_true.mp (List.all_eq_true.mp hall front hfront) back hback)
  rcases List.prefix_or_prefix_of_prefix h h' with hle | hle
  · exact hone front hfront back hback hle
  · exact (hone back hback front hfront hle).symm

/-- The bytes of a prefix and of what follows it. -/
lemma takeWhile_isBody_append {front : Str} (h : front ∈ tokenPrefixes) (tail : Str) :
    (front ++ tail).takeWhile isBody = front ++ tail.takeWhile isBody :=
  List.takeWhile_append_of_pos (isBody_of_mem_tokenPrefixes h)

/-- One turn of the loop. -/
lemma tokenRanges_succ {fuel : ℕ} {a text : Str} {b : UInt8} (hb : Begins (b :: text)) :
    tokenRanges (a ++ b :: text) (fuel + 1) a.length =
      if IsToken a.getLast? (b :: text) then
        (tokenRanges (a ++ b :: text) fuel (a.length + (b :: text.takeWhile isBody).length)).map
          (⟨a.length, a.length + (b :: text.takeWhile isBody).length, ascii "<token>"⟩ :: ·)
      else tokenRanges (a ++ b :: text) fuel (a.length + 1) := by
  rw [tokenRanges, if_pos (by simp), sliceFrom_append hb, Option.bind_eq_bind, Option.bind_some]
  simp only [any_getElem_pred]
  -- the prefix that is found is the only one there is
  cases hfound : tokenPrefixes.find? fun front =>
      decide (front <+: b :: text ∧ a.getLast?.any isWord = false) with
  | none =>
      have hnot : ¬ IsToken a.getLast? (b :: text) := by
        rintro ⟨hprev, front, hmem, hfront, -⟩
        have := List.find?_eq_none.mp hfound front hmem
        simp [hfront, hprev] at this
      rw [if_neg hnot]
  | some front =>
      have hmem := List.mem_of_find?_eq_some hfound
      have hcond := List.find?_some hfound
      rw [decide_eq_true_eq] at hcond
      obtain ⟨tail, htail⟩ := hcond.1
      have hbody : isBody b = true := by
        have hne : front ≠ [] := by
          rintro rfl
          exact absurd hmem (by decide)
        obtain ⟨c, front', rfl⟩ := List.exists_cons_of_ne_nil hne
        obtain rfl := (List.cons.inj htail).1
        exact isBody_of_mem_tokenPrefixes hmem c (by simp)
      have hseg : b :: text.takeWhile isBody = front ++ tail.takeWhile isBody := by
        rw [← takeWhile_isBody_append hmem, htail, List.takeWhile_cons_of_pos hbody]
      have hbytes : bytesFrom (a ++ b :: text) (a.length + front.length) = some tail := by
        rw [← htail, ← List.append_assoc, ← List.length_append]
        exact bytesFrom_append _ _
      -- so the length of its body decides
      have hiff : IsToken a.getLast? (b :: text) ↔ 16 ≤ (tail.takeWhile isBody).length := by
        constructor
        · rintro ⟨-, back, hback, hpre, hlen⟩
          obtain rfl := prefix_unique hback hmem hpre hcond.1
          rw [List.takeWhile_cons_of_pos hbody, hseg, List.length_append] at hlen
          omega
        · intro hlen
          refine ⟨hcond.2, front, hmem, hcond.1, ?_⟩
          rw [List.takeWhile_cons_of_pos hbody, hseg, List.length_append]
          omega
      simp only [hbytes, Option.bind_eq_bind, Option.bind_some]
      by_cases h : IsToken a.getLast? (b :: text)
      · rw [if_pos h, if_pos (hiff.mp h), hseg, List.length_append, ← Nat.add_assoc]
        cases tokenRanges (a ++ b :: text) fuel
          (a.length + front.length + (tail.takeWhile isBody).length) with
        | none => rfl
        | some more => rfl
      · rw [if_neg h, if_neg (mt hiff.mpr h)]

/-- **The loop ends**, with the ranges of the pieces, if no byte is inside a character. -/
lemma tokenRanges_eq {fuel : ℕ} {a b : Str} (hfuel : b.length < fuel) (h : Solid (a ++ b)) :
    tokenRanges (a ++ b) fuel a.length = some (rangesFrom a.length (tokenPieces a.getLast? b)) := by
  induction fuel generalizing a b with
  | zero => omega
  | succ fuel ih =>
      cases b with
      | nil => simp [tokenRanges, rangesFrom]
      | cons c text =>
          have hbegins : Begins (c :: text) := fun d hd =>
            h d (List.mem_append_right a (List.mem_of_mem_head? hd))
          rw [List.length_cons] at hfuel
          rw [tokenRanges_succ hbegins]
          by_cases htoken : IsToken a.getLast? (c :: text)
          · have hsplit : a ++ c :: text =
                (a ++ c :: text.takeWhile isBody) ++ text.dropWhile isBody := by
              rw [List.append_assoc, List.cons_append, List.takeWhile_append_dropWhile]
            have hle := (List.dropWhile_sublist isBody (l := text)).length_le
            have hrest := @ih (a ++ c :: text.takeWhile isBody) (text.dropWhile isBody)
              (by omega) (by rwa [← hsplit])
            rw [← hsplit, List.length_append, List.getLast?_append_cons] at hrest
            rw [if_pos htoken, hrest, tokenPieces_of_isToken htoken]
            rfl
          · have hrest := @ih (a ++ [c]) text (by omega) (by simpa using h)
            simp only [List.append_assoc, List.singleton_append, List.length_append,
              List.length_singleton, List.getLast?_concat] at hrest
            rw [if_neg htoken, hrest, tokenPieces_of_not htoken]
            rfl

/-- A body byte is ASCII. -/
lemma lt_of_isBody {b : UInt8} (h : isBody b = true) : b < 0x80 := by
  have hword : AllAscii (ascii "_") := by decide
  have hother : AllAscii (ascii "+/=-") := by decide
  simp only [isBody, isWord, isAsciiAlphanumeric, isAsciiAlphabetic, isAsciiDigit,
    Bool.or_eq_true, Bool.and_eq_true, decide_eq_true_eq] at h
  rcases h with (((⟨-, h⟩ | ⟨-, h⟩) | ⟨-, h⟩) | h) | h
  · exact UInt8.lt_of_le_of_lt h (by decide)
  · exact UInt8.lt_of_le_of_lt h (by decide)
  · exact UInt8.lt_of_le_of_lt h (by decide)
  · exact hword b (by simp [h, ascii])
  · exact hother b h

/-- A slice from inside a character panics. -/
lemma sliceFrom_eq_none {a text : Str} {c : UInt8} (ha : a ≠ []) (hc : isContinuation c = true) :
    sliceFrom (a ++ c :: text) a.length = none := by
  have hnot : isCharBoundary (a ++ c :: text) a.length = false := by
    have hpos : a.length ≠ 0 := fun h => ha (List.length_eq_zero_iff.mp h)
    simp [isCharBoundary, ha, hc]
  rw [sliceFrom, slice, if_neg]
  rintro ⟨-, h, -⟩
  rw [hnot] at h
  cases h

/-- **The loop panics** at a byte inside a character. -/
lemma tokenRanges_eq_none {fuel : ℕ} {a b : Str} (hbegins : Begins (a ++ b))
    (h : ∃ c ∈ b, isContinuation c = true) : tokenRanges (a ++ b) fuel a.length = none := by
  induction fuel generalizing a b with
  | zero => rfl
  | succ fuel ih =>
      obtain ⟨d, hd, hcont⟩ := h
      cases b with
      | nil => cases hd
      | cons c text =>
          by_cases hc : isContinuation c = true
          · have ha : a ≠ [] := by
              rintro rfl
              rw [hbegins c rfl] at hc
              cases hc
            rw [tokenRanges, if_pos (by simp), sliceFrom_eq_none ha hc]
            rfl
          rw [Bool.not_eq_true] at hc
          have hd' : d ∈ text := by
            rcases List.mem_cons.mp hd with rfl | hd
            · rw [hc] at hcont
              cases hcont
            · exact hd
          rw [tokenRanges_succ fun e he => Option.some.inj he ▸ hc]
          by_cases htoken : IsToken a.getLast? (c :: text)
          · have hsplit : a ++ c :: text =
                (a ++ c :: text.takeWhile isBody) ++ text.dropWhile isBody := by
              rw [List.append_assoc, List.cons_append, List.takeWhile_append_dropWhile]
            have hmem : d ∈ text.dropWhile isBody := by
              have happ : d ∈ text.takeWhile isBody ++ text.dropWhile isBody := by
                rwa [List.takeWhile_append_dropWhile]
              refine (List.mem_append.mp happ).resolve_left fun hbody => ?_
              rw [not_continuation_of_lt (lt_of_isBody (List.mem_takeWhile_imp hbody))] at hcont
              cases hcont
            have hrest := @ih (a ++ c :: text.takeWhile isBody) (text.dropWhile isBody)
              (by rwa [← hsplit]) ⟨d, hmem, hcont⟩
            rw [← hsplit, List.length_append] at hrest
            rw [if_pos htoken, hrest]
            rfl
          · have hrest := @ih (a ++ [c]) text (by simpa using hbegins) ⟨d, hd', hcont⟩
            rw [if_neg htoken]
            simpa using hrest

/-- **The pass**, without a byte inside a character. -/
lemma tokenRanges_yields {text : Str} (h : Solid text) :
    tokenRanges text (text.length + 1) 0 = some (rangesFrom 0 (tokenPieces none text)) ∧
      Yields text (rangesFrom 0 (tokenPieces none text)) (tokens text) :=
  ⟨@tokenRanges_eq _ [] text (Nat.lt_succ_self _) h, h.yields (source_tokenPieces none text)⟩

/-- The markers of the pass. -/
lemma marker_tokenPieces {prev : Option UInt8} {text segment marker : Str}
    (h : .cut segment marker ∈ tokenPieces prev text) : marker = ascii "<token>" := by
  induction prev, text using tokens_induction with
  | hnil prev => simp at h
  | hkeep prev b text hnot ih =>
      rw [tokenPieces_of_not hnot, List.mem_cons] at h
      exact ih (h.resolve_left (by simp))
  | htoken prev b text htoken ih =>
      rw [tokenPieces_of_isToken htoken, List.mem_cons] at h
      rcases h with h | h
      · exact (Piece.cut.inj h).2
      · exact ih h

lemma allAscii_tokens {text : Str} (h : AllAscii text) : AllAscii (tokens text) := by
  refine allAscii_render (by simpa using h) fun segment marker hcut => ?_
  rw [marker_tokenPieces hcut]
  decide

end SkylineSpeeder.Scrub
