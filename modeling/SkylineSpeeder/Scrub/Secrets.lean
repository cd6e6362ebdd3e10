import Mathlib.Data.List.TakeWhile
import SkylineSpeeder.Scrub.Emails

/-!
The fourth pass: the values of `token=...`, `secret: ...`, `password=...` and the like.

* `scrubSecretValues`: the code, over the positions of `=` and `:`;
* `secretPieces`: the same, with everything before at hand;
* `secretRanges_eq`: without a byte inside a character the loop finds the ranges of the pieces.
-/

namespace SkylineSpeeder.Scrub

open Redact

/-! ### The code -/

/-- What stands between a name and its value. -/
def isSeparator (b : UInt8) : Bool := b = byte '=' || b = byte ':'

/-- The ends of the names. -/
def secretNames : List Str := [ascii "token", ascii "secret", ascii "password", ascii "passwd"]

/-- The loop of `scrub_secret_values`, with the end of `ranges.last()`. -/
def secretRanges (text lower : Str) (last : Option ℕ) : List ℕ → Option (List Range)
  | [] => some []
  | i :: is => do
      let front ← slice lower 0 i
      let named := secretNames.any (· <:+ front)
      let tail ← bytesFrom text (i + 1)
      let stop := (tail.findIdx? isAsciiWhitespace).elim text.length (i + 1 + ·)
      if named ∧ i + 1 < stop ∧ last.all (· ≤ i) then do
        let more ← secretRanges text lower (some stop) is
        some (⟨i + 1, stop, ascii "<redacted>"⟩ :: more)
      else secretRanges text lower last is

/-- `scrub_secret_values`. -/
def scrubSecretValues (text : Str) : Option Str := do
  let ranges ← secretRanges text (text.map toAsciiLowercase) none (positions isSeparator 0 text)
  splice text ranges

/-! ### Its pieces -/

/-- What ends in the name of a secret, in any letter case. -/
def IsNamed (before : Str) : Prop := ∃ name ∈ secretNames, name <:+ before.map toAsciiLowercase

instance (before : Str) : Decidable (IsNamed before) :=
  inferInstanceAs (Decidable (∃ name ∈ secretNames, name <:+ before.map toAsciiLowercase))

/-- The value that begins here. -/
def valueOf (text : Str) : Str := text.takeWhile (!isAsciiWhitespace ·)

/-- What is after the value. -/
def afterValue (text : Str) : Str := text.dropWhile (!isAsciiWhitespace ·)

lemma valueOf_append_afterValue (text : Str) : valueOf text ++ afterValue text = text :=
  List.takeWhile_append_dropWhile

lemma length_afterValue_le (text : Str) : (afterValue text).length ≤ text.length :=
  (List.dropWhile_sublist _).length_le

/-- A separator between these two texts is that of a secret. -/
def IsSecret (before : Str) (b : UInt8) (text : Str) : Prop :=
  isSeparator b = true ∧ IsNamed before ∧ valueOf text ≠ []

instance (before : Str) (b : UInt8) (text : Str) : Decidable (IsSecret before b text) :=
  inferInstanceAs (Decidable (_ ∧ _ ∧ _))

/-- The pieces of what follows `before`. -/
def secretPieces (before : Str) : Str → List (Piece UInt8)
  | [] => []
  | b :: text =>
      if IsSecret before b text then
        .keep b :: .cut (valueOf text) (ascii "<redacted>") ::
          secretPieces (before ++ b :: valueOf text) (afterValue text)
      else .keep b :: secretPieces (before ++ [b]) text
termination_by text => text.length
decreasing_by
  · have := length_afterValue_le text
    rw [List.length_cons]
    omega
  · simp

/-- What `scrub_secret_values` gives. -/
def secretValues (text : Str) : Str := render (secretPieces [] text)

@[simp] lemma secretPieces_nil (before : Str) : secretPieces before [] = [] := by
  rw [secretPieces]

lemma secretPieces_of_isSecret {before : Str} {b : UInt8} {text : Str}
    (h : IsSecret before b text) :
    secretPieces before (b :: text) =
      .keep b :: .cut (valueOf text) (ascii "<redacted>") ::
        secretPieces (before ++ b :: valueOf text) (afterValue text) := by
  rw [secretPieces, if_pos h]

lemma secretPieces_of_not {before : Str} {b : UInt8} {text : Str} (h : ¬ IsSecret before b text) :
    secretPieces before (b :: text) = .keep b :: secretPieces (before ++ [b]) text := by
  rw [secretPieces, if_neg h]

/-- A byte, or a separator and its value: how the pieces of a text are made. -/
lemma secrets_induction {P : Str → Str → Prop} (hnil : ∀ before, P before [])
    (hkeep : ∀ before b text, ¬ IsSecret before b text → P (before ++ [b]) text →
      P before (b :: text))
    (hsecret : ∀ before b text, IsSecret before b text →
      P (before ++ b :: valueOf text) (afterValue text) → P before (b :: text)) :
    ∀ before text, P before text := by
  intro before text
  induction hlength : text.length using Nat.strong_induction_on generalizing before text with
  | _ n ih =>
      cases text with
      | nil => exact hnil before
      | cons b text =>
          by_cases h : IsSecret before b text
          · refine hsecret before b text h (ih _ ?_ _ _ rfl)
            have := length_afterValue_le text
            rw [← hlength, List.length_cons]
            omega
          · exact hkeep before b text h (ih _ (by simp [← hlength]) _ _ rfl)

@[simp] lemma source_secretPieces (before text : Str) :
    source (secretPieces before text) = text := by
  induction before, text using secrets_induction with
  | hnil before => simp
  | hkeep before b text h ih => simp [secretPieces_of_not h, ih]
  | hsecret before b text h ih =>
      simp [secretPieces_of_isSecret h, ih, valueOf_append_afterValue]

/-! ### The loop -/

lemma not_continuation_toAsciiLowercase {b : UInt8} (h : isContinuation b = false) :
    isContinuation (toAsciiLowercase b) = false := by
  rw [toAsciiLowercase]
  split_ifs with hupper
  · simp only [Bool.and_eq_true, decide_eq_true_eq, UInt8.le_iff_toNat_le] at hupper
    rw [← Bool.not_eq_true, isContinuation_iff, UInt8.toNat_add]
    have hA : (byte 'A').toNat = 65 := rfl
    have hZ : (byte 'Z').toNat = 90 := rfl
    have h20 : (0x20 : UInt8).toNat = 32 := rfl
    omega
  · exact h

lemma Solid.lowercase {text : Str} (h : Solid text) : Solid (text.map toAsciiLowercase) := by
  intro b hb
  obtain ⟨c, hc, rfl⟩ := List.mem_map.mp hb
  exact not_continuation_toAsciiLowercase (h c hc)

/-- One turn of the loop. -/
lemma secretRanges_cons {a text : Str} {b : UInt8} (last : Option ℕ) (is : List ℕ)
    (h : Solid (a ++ b :: text)) :
    secretRanges (a ++ b :: text) ((a ++ b :: text).map toAsciiLowercase) last (a.length :: is) =
      if IsNamed a ∧ valueOf text ≠ [] ∧ last.all (· ≤ a.length) = true then
        (secretRanges (a ++ b :: text) ((a ++ b :: text).map toAsciiLowercase)
          (some (a.length + 1 + (valueOf text).length)) is).map
            (⟨a.length + 1, a.length + 1 + (valueOf text).length, ascii "<redacted>"⟩ :: ·)
      else secretRanges (a ++ b :: text) ((a ++ b :: text).map toAsciiLowercase) last is := by
  have hfront : slice ((a ++ b :: text).map toAsciiLowercase) 0 a.length =
      some (a.map toAsciiLowercase) := by
    rw [slice_eq_some (Nat.zero_le _) (isCharBoundary_zero _)
      (h.lowercase.isCharBoundary (by simp))]
    simp
  have hbytes : bytesFrom (a ++ b :: text) (a.length + 1) = some text := by
    have hone := bytesFrom_append (a ++ [b]) text
    simpa using hone
  have hstop := @elim_findIdx isAsciiWhitespace (a.length + 1) text (a ++ b :: text).length
    (by simp only [List.length_append, List.length_cons]; omega)
  rw [← valueOf] at hstop
  have hnamed : secretNames.any (fun name => decide (name <:+ a.map toAsciiLowercase)) = true ↔
      IsNamed a := by
    rw [List.any_eq_true]
    simp only [decide_eq_true_eq]
    rfl
  have hlt : a.length + 1 < a.length + 1 + (valueOf text).length ↔ valueOf text ≠ [] := by
    rw [← List.length_pos_iff]
    omega
  rw [secretRanges, hfront]
  simp only [Option.bind_eq_bind, Option.bind_some, hbytes, hstop, hnamed, hlt]
  split_ifs
  · cases secretRanges (a ++ b :: text) ((a ++ b :: text).map toAsciiLowercase)
      (some (a.length + 1 + (valueOf text).length)) is with
    | none => rfl
    | some more => rfl
  · rfl

/-- Separators in a value that is cut out already are passed over. -/
lemma secretRanges_skip {text : Str} {stop : ℕ} {is js : List ℕ} (h : Solid text)
    (his : ∀ i ∈ is, i < stop ∧ i < text.length) :
    secretRanges text (text.map toAsciiLowercase) (some stop) (is ++ js) =
      secretRanges text (text.map toAsciiLowercase) (some stop) js := by
  induction is with
  | nil => rfl
  | cons i is ih =>
      obtain ⟨hlt, hlen⟩ := his i (by simp)
      have hsplit : text = text.take i ++ text[i] :: text.drop (i + 1) := by
        rw [← List.drop_eq_getElem_cons hlen, List.take_append_drop]
      have hi : (text.take i).length = i := List.length_take_of_le hlen.le
      have hone := @secretRanges_cons (text.take i) (text.drop (i + 1)) text[i] (some stop)
        (is ++ js) (by rwa [← hsplit])
      rw [← hsplit, hi] at hone
      rw [List.cons_append, hone, if_neg]
      · exact ih fun j hj => his j (List.mem_cons_of_mem i hj)
      · rintro ⟨-, -, hle⟩
        simp only [Option.all_some, decide_eq_true_eq] at hle
        omega

lemma mem_positions {p : UInt8 → Bool} {pos i : ℕ} {text : Str} (h : i ∈ positions p pos text) :
    pos ≤ i ∧ i < pos + text.length := by
  induction text generalizing pos with
  | nil => cases h
  | cons b text ih =>
      rw [positions] at h
      rw [List.length_cons]
      split_ifs at h
      · rcases List.mem_cons.mp h with rfl | h
        · omega
        · have := ih h
          omega
      · have := ih h
        omega

/-- **The loop** finds the ranges of the pieces. -/
lemma secretRanges_eq {a b : Str} {last : Option ℕ} (hlast : ∀ stop ∈ last, stop ≤ a.length)
    (h : Solid (a ++ b)) :
    secretRanges (a ++ b) ((a ++ b).map toAsciiLowercase) last (positions isSeparator a.length b) =
      some (rangesFrom a.length (secretPieces a b)) := by
  induction a, b using secrets_induction generalizing last with
  | hnil before => simp [positions, secretRanges, rangesFrom]
  | hkeep before b text hnot ih =>
      have hrest := @ih last (fun stop hstop => (hlast stop hstop).trans (by simp))
        (by simpa using h)
      simp only [List.append_assoc, List.singleton_append, List.length_append,
        List.length_singleton] at hrest
      rw [secretPieces_of_not hnot, positions, rangesFrom]
      split_ifs with hsep
      · rw [secretRanges_cons last _ h, if_neg fun hall => hnot ⟨hsep, hall.1, hall.2.1⟩, hrest]
      · exact hrest
  | hsecret before b text hsecret ih =>
      obtain ⟨hsep, hnamed, hvalue⟩ := hsecret
      have hall : last.all (· ≤ before.length) = true := by
        cases last with
        | none => rfl
        | some stop => simpa using hlast stop rfl
      have hsplit : before ++ b :: text = (before ++ b :: valueOf text) ++ afterValue text := by
        rw [List.append_assoc, List.cons_append, valueOf_append_afterValue]
      have hlength : (before ++ b :: valueOf text).length =
          before.length + 1 + (valueOf text).length := by
        simp only [List.length_append, List.length_cons]
        omega
      have hrest := @ih (some (before.length + 1 + (valueOf text).length))
        (by simp [hlength]) (by rwa [← hsplit])
      rw [← hsplit, hlength] at hrest
      -- the separators within the value are skipped
      have hpositions : positions isSeparator (before.length + 1) text =
          positions isSeparator (before.length + 1) (valueOf text) ++
            positions isSeparator (before.length + 1 + (valueOf text).length)
              (afterValue text) := by
        nth_rewrite 1 [← valueOf_append_afterValue text]
        rw [positions_append]
      have hskip : ∀ i ∈ positions isSeparator (before.length + 1) (valueOf text),
          i < before.length + 1 + (valueOf text).length ∧ i < (before ++ b :: text).length := by
        intro i hi
        have hmem := mem_positions hi
        have hlen := congrArg List.length (valueOf_append_afterValue text)
        simp only [List.length_append, List.length_cons] at hlen ⊢
        omega
      rw [positions, if_pos hsep, secretRanges_cons last _ h, if_pos ⟨hnamed, hvalue, hall⟩,
        hpositions, secretRanges_skip h hskip, hrest,
        secretPieces_of_isSecret ⟨hsep, hnamed, hvalue⟩]
      rfl

/-- **The pass**, without a byte inside a character. -/
lemma secretRanges_yields {text : Str} (h : Solid text) :
    secretRanges text (text.map toAsciiLowercase) none (positions isSeparator 0 text) =
        some (rangesFrom 0 (secretPieces [] text)) ∧
      Yields text (rangesFrom 0 (secretPieces [] text)) (secretValues text) :=
  ⟨@secretRanges_eq [] text none (by simp) h, h.yields (source_secretPieces [] text)⟩

/-- The markers of the pass. -/
lemma marker_secretPieces {before text segment marker : Str}
    (h : .cut segment marker ∈ secretPieces before text) : marker = ascii "<redacted>" := by
  induction before, text using secrets_induction with
  | hnil before => simp at h
  | hkeep before b text hnot ih =>
      rw [secretPieces_of_not hnot, List.mem_cons] at h
      exact ih (h.resolve_left (by simp))
  | hsecret before b text hsecret ih =>
      rw [secretPieces_of_isSecret hsecret, List.mem_cons, List.mem_cons] at h
      rcases h with h | h | h
      · cases h
      · exact (Piece.cut.inj h).2
      · exact ih h

lemma allAscii_secretValues {text : Str} (h : AllAscii text) : AllAscii (secretValues text) := by
  refine allAscii_render (by simpa using h) fun segment marker hcut => ?_
  rw [marker_secretPieces hcut]
  decide

end SkylineSpeeder.Scrub
