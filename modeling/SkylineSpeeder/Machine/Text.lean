import Mathlib.Tactic
import Mathlib.Data.String.Basic
import Mathlib.Data.List.DropRight

/-!
Text as programs read it: lines, words and hexadecimal numbers.

* `lines`, `words`, `trim`: the lines of a text, the words of a line, a line without the blanks
  at its ends;
* `hexText`, `fromStrRadix16`: a number as `%x` prints it, and the number of a text;
  `fromStrRadix16_hexText` is the round trip;
* `takeWhile_colon`, `prefix_colon_iff`: texts up to their first colon;
* `prefix_intercalate_iff`, `prefix_of_between`: how a joined text starts, and what the order
  of texts says about their starts.
-/

namespace Text

/-! ### Lines and words -/

/-- Texts are compared character by character. -/
instance lawfulBEq : LawfulBEq (List Char) := List.instLawfulBEq

/-- The lines of a text; nothing after the last newline is no line. -/
def lines (text : List Char) : List (List Char) :=
  let pieces := text.splitOn '\n'
  if pieces.getLast? = some [] then pieces.dropLast else pieces

/-- The words of a line: its longest runs without a blank. -/
def words (blank : Char → Bool) (line : List Char) : List (List Char) :=
  (line.splitOnP blank).filter (· ≠ [])

/-- Only what is in the line matters. -/
lemma words_congr {blank blank' : Char → Bool} {line : List Char}
    (h : ∀ c ∈ line, blank c = blank' c) : words blank line = words blank' line := by
  have hsplit : line.splitOnP blank = line.splitOnP blank' := by
    induction line with
    | nil => rfl
    | cons c line ih =>
        rw [List.splitOnP_cons_eq_if_modifyHead, List.splitOnP_cons_eq_if_modifyHead,
          h c List.mem_cons_self, ih fun d hd => h d (List.mem_cons_of_mem c hd)]
  rw [words, words, hsplit]

/-- A text without the blanks at its ends. -/
def trim (blank : Char → Bool) (line : List Char) : List Char :=
  (line.dropWhile blank).rdropWhile blank

lemma words_nil (blank : Char → Bool) : words blank [] = [] := by
  rw [words, List.splitOnP_nil]
  rfl

/-- A blank is where words end. -/
lemma words_append {blank : Char → Bool} {c : Char} (h : blank c) (front back : List Char) :
    words blank (front ++ c :: back) = words blank front ++ words blank back := by
  rw [words, List.splitOnP_append_cons front back h, List.filter_append]
  rfl

lemma words_dropWhile (blank : Char → Bool) (line : List Char) :
    words blank (line.dropWhile blank) = words blank line := by
  induction line with
  | nil => rfl
  | cons c line ih =>
      by_cases h : blank c
      · rw [List.dropWhile_cons_of_pos h, ih, ← List.nil_append (c :: line), words_append h,
          words_nil, List.nil_append]
      · rw [List.dropWhile_cons_of_neg h]

lemma words_rdropWhile (blank : Char → Bool) (line : List Char) :
    words blank (line.rdropWhile blank) = words blank line := by
  induction line using List.reverseRecOn with
  | nil => rfl
  | append_singleton line c ih =>
      by_cases h : blank c
      · rw [List.rdropWhile_concat_pos _ _ _ h, ih, words_append h, words_nil, List.append_nil]
      · rw [List.rdropWhile_concat_neg _ _ _ h]

/-- The words do not see the ends. -/
lemma words_trim (blank : Char → Bool) (line : List Char) :
    words blank (trim blank line) = words blank line := by
  rw [trim, words_rdropWhile, words_dropWhile]

/-- A line of blanks is nothing once trimmed. -/
lemma trim_eq_nil_iff {blank : Char → Bool} {line : List Char} :
    trim blank line = [] ↔ ∀ c ∈ line, blank c := by
  rw [trim, List.rdropWhile_eq_nil_iff]
  constructor
  · intro h c hc
    rcases List.mem_append.mp (List.takeWhile_append_dropWhile (p := blank) ▸ hc :
        c ∈ line.takeWhile blank ++ line.dropWhile blank) with hfront | hback
    · exact List.mem_takeWhile_imp hfront
    · exact h c hback
  · exact fun h c hc => h c ((List.dropWhile_suffix blank).subset hc)

/-- What a piece of a split is made of. -/
lemma mem_of_mem_splitOnP {p : Char → Bool} {text piece : List Char}
    (h : piece ∈ text.splitOnP p) {c : Char} (hc : c ∈ piece) : c ∈ text ∧ p c = false := by
  induction text generalizing piece with
  | nil =>
      rw [List.splitOnP_nil, List.mem_singleton] at h
      exact absurd (h ▸ hc) List.not_mem_nil
  | cons d text ih =>
      rw [List.splitOnP_cons_eq_if_modifyHead] at h
      split_ifs at h with hd
      · rcases List.mem_cons.mp h with rfl | h
        · exact absurd hc List.not_mem_nil
        · exact (ih h hc).imp_left (List.mem_cons_of_mem d)
      · obtain ⟨first, rest, hsplit⟩ := List.exists_cons_of_ne_nil (List.splitOnP_ne_nil p text)
        rw [hsplit, List.modifyHead_cons, List.mem_cons] at h
        rcases h with rfl | h
        · rcases List.mem_cons.mp hc with rfl | hc
          · exact ⟨List.mem_cons_self, by simpa using hd⟩
          · exact (ih (hsplit ▸ List.mem_cons_self) hc).imp_left (List.mem_cons_of_mem d)
        · exact (ih (hsplit ▸ List.mem_cons_of_mem first h) hc).imp_left (List.mem_cons_of_mem d)

/-- A line is made of characters of the text, and of no newline. -/
lemma mem_of_mem_lines {text line : List Char} (h : line ∈ lines text) {c : Char} (hc : c ∈ line) :
    c ∈ text ∧ c ≠ '\n' := by
  have hpiece : line ∈ text.splitOn '\n' := by
    rw [lines] at h
    split_ifs at h
    · exact List.dropLast_subset _ h
    · exact h
  rw [List.splitOn_eq_splitOnP] at hpiece
  exact (mem_of_mem_splitOnP hpiece hc).imp_right fun hne => by simpa using hne

/-! ### Hexadecimal numbers -/

/-- A number as `%x` prints it. -/
def hexText (n : ℕ) : List Char := Nat.toDigits 16 n

/-- The value of a hexadecimal digit. -/
def hexDigit (c : Char) : Option ℕ :=
  if '0'.toNat ≤ c.toNat ∧ c.toNat ≤ '9'.toNat then some (c.toNat - '0'.toNat)
  else if 'a'.toNat ≤ c.toNat ∧ c.toNat ≤ 'f'.toNat then some (c.toNat - 'a'.toNat + 10)
  else if 'A'.toNat ≤ c.toNat ∧ c.toNat ≤ 'F'.toNat then some (c.toNat - 'A'.toNat + 10)
  else none

/-- One more digit of a 32-bit number. -/
def pushDigit (n : ℕ) (c : Char) : Option ℕ :=
  (hexDigit c).bind fun d => if n * 16 + d < 2 ^ 32 then some (n * 16 + d) else none

/-- `u32::from_str_radix(text, 16).ok()`: at least one digit, after a plus sign if there is
one. -/
def fromStrRadix16 (text : List Char) : Option ℕ :=
  let digits := match text with
    | '+' :: rest => rest
    | _ => text
  if digits = [] then none else digits.foldlM pushDigit 0

lemma hexDigit_digitChar {d : ℕ} (h : d < 16) : hexDigit (Nat.digitChar d) = some d := by
  interval_cases d <;> decide

/-- The digits of a number. -/
lemma mem_hexText {n : ℕ} {c : Char} (h : c ∈ hexText n) : ∃ d < 16, c = Nat.digitChar d := by
  induction n using Nat.strong_induction_on with
  | _ n ih =>
      rw [hexText, Nat.toDigits_eq_if (by decide)] at h
      split_ifs at h with hlt
      · exact ⟨n, hlt, List.mem_singleton.mp h⟩
      · rcases List.mem_append.mp h with h | h
        · exact ih (n / 16) (by omega) h
        · exact ⟨n % 16, by omega, List.mem_singleton.mp h⟩

lemma hexText_ne_nil (n : ℕ) : hexText n ≠ [] := Nat.toDigits_ne_nil

/-- No digit is a sign or a colon. -/
lemma digitChar_ne {d : ℕ} (h : d < 16) : Nat.digitChar d ≠ '+' ∧ Nat.digitChar d ≠ ':' := by
  interval_cases d <;> decide

lemma colon_notMem_hexText (n : ℕ) : ':' ∉ hexText n := by
  intro h
  obtain ⟨d, hd, heq⟩ := mem_hexText h
  exact (digitChar_ne hd).2 heq.symm

/-- Reading the digits of a number. -/
lemma foldlM_hexText {n : ℕ} (h : n < 2 ^ 32) : (hexText n).foldlM pushDigit 0 = some n := by
  induction n using Nat.strong_induction_on with
  | _ n ih =>
      rw [hexText, Nat.toDigits_eq_if (by decide)]
      split_ifs with hlt
      · simp only [List.foldlM_cons, List.foldlM_nil, pushDigit, hexDigit_digitChar hlt]
        simp only [Option.bind_some, zero_mul, zero_add, if_pos h]
        rfl
      · have hrest : (Nat.toDigits 16 (n / 16)).foldlM pushDigit 0 = some (n / 16) :=
          ih (n / 16) (by omega) (by omega)
        have hdigit : n % 16 < 16 := Nat.mod_lt n (by decide)
        rw [List.foldlM_append, hrest]
        simp only [Option.bind_eq_bind, Option.bind_some, List.foldlM_cons, List.foldlM_nil,
          pushDigit, hexDigit_digitChar hdigit, Nat.div_add_mod', if_pos h]
        rfl

/-- **The round trip**: a number that fits 32 bits is read back. -/
theorem fromStrRadix16_hexText {n : ℕ} (h : n < 2 ^ 32) : fromStrRadix16 (hexText n) = some n := by
  have hplus : ∀ rest, hexText n ≠ '+' :: rest := by
    intro rest heq
    obtain ⟨d, hd, hc⟩ := mem_hexText (n := n) (c := '+') (by rw [heq]; exact List.mem_cons_self)
    exact (digitChar_ne hd).1 hc.symm
  rw [fromStrRadix16]
  · rw [if_neg (hexText_ne_nil n)]
    exact foldlM_hexText h
  · exact hplus

lemma digitChar_injective {d e : ℕ} (hd : d < 16) (he : e < 16)
    (h : Nat.digitChar d = Nat.digitChar e) : d = e := by
  have hread := hexDigit_digitChar hd
  rw [h, hexDigit_digitChar he] at hread
  exact (Option.some.inj hread).symm

/-- Different numbers are printed differently. -/
lemma hexText_injective {m n : ℕ} (h : hexText m = hexText n) : m = n := by
  induction m using Nat.strong_induction_on generalizing n with
  | _ m ih =>
      rw [hexText, hexText, Nat.toDigits_eq_if (by decide) (n := m),
        Nat.toDigits_eq_if (by decide) (n := n)] at h
      split_ifs at h with hm hn hn
      · exact digitChar_injective hm hn (List.singleton_inj.mp h)
      · exact absurd (List.append_eq_singleton_iff.mp h.symm) (by simp [Nat.toDigits_ne_nil])
      · exact absurd (List.append_eq_singleton_iff.mp h) (by simp [Nat.toDigits_ne_nil])
      · have hrest : m / 16 = n / 16 :=
          ih (m / 16) (by omega) (List.append_inj_left' h rfl)
        have hdigit : m % 16 = n % 16 :=
          digitChar_injective (by omega) (by omega)
            (List.singleton_inj.mp (List.append_inj_right' h rfl))
        omega

/-! ### Up to a colon -/

/-- The text up to its first colon. -/
lemma takeWhile_colon {a : List Char} (h : ':' ∉ a) (rest : List Char) :
    (a ++ ':' :: rest).takeWhile (· ≠ ':') = a := by
  induction a with
  | nil => simp
  | cons c a ih =>
      have hc : c ≠ ':' := fun heq => h (heq ▸ List.mem_cons_self)
      rw [List.cons_append, List.takeWhile_cons_of_pos (by simpa using hc),
        ih fun hmem => h (List.mem_cons_of_mem c hmem)]

/-- A text that ends in its first colon starts another exactly if they are the same up to
there. -/
lemma prefix_colon_iff {a b : List Char} (ha : ':' ∉ a) (hb : ':' ∉ b) (rest : List Char) :
    a ++ [':'] <+: b ++ ':' :: rest ↔ a = b := by
  constructor
  · rintro ⟨t, ht⟩
    rw [List.append_assoc, List.singleton_append] at ht
    rw [← takeWhile_colon ha t, ht, takeWhile_colon hb]
  · rintro rfl
    exact ⟨rest, by simp⟩

/-! ### Starts of texts -/

/-- An item of a joined list is the separator, or in one of the parts. -/
lemma mem_intercalate {α : Type*} {sep item : α} {parts : List (List α)}
    (h : item ∈ [sep].intercalate parts) : item = sep ∨ ∃ part ∈ parts, item ∈ part := by
  induction parts with
  | nil => exact absurd h List.not_mem_nil
  | cons part parts ih =>
      cases parts with
      | nil =>
          rw [List.intercalate_singleton] at h
          exact .inr ⟨part, List.mem_cons_self, h⟩
      | cons next rest =>
          rw [List.intercalate_cons_cons, List.mem_append, List.mem_append,
            List.mem_singleton] at h
          rcases h with (hpart | hsep) | hrest
          · exact .inr ⟨part, List.mem_cons_self, hpart⟩
          · exact .inl hsep
          · exact (ih hrest).imp_right fun ⟨p, hp, hitem⟩ =>
              ⟨p, List.mem_cons_of_mem part hp, hitem⟩

/-- A joined text starts with what has no separator exactly if its first part does. -/
lemma prefix_intercalate_iff {sep : Char} {front : List Char} (h : sep ∉ front)
    (part : List Char) (parts : List (List Char)) :
    front <+: [sep].intercalate (part :: parts) ↔ front <+: part := by
  cases parts with
  | nil => rw [List.intercalate_singleton]
  | cons next parts =>
      rw [List.intercalate_cons_cons, List.append_assoc]
      refine ⟨fun hfront => ?_, fun hpart => hpart.trans (List.prefix_append _ _)⟩
      rcases List.prefix_or_prefix_of_prefix hfront (List.prefix_append part _) with hle | hge
      · exact hle
      · obtain ⟨rest, rfl⟩ := hge
        cases rest with
        | nil => rw [List.append_nil]
        | cons c rest =>
            rw [List.prefix_append_right_inj, List.singleton_append,
              List.cons_prefix_cons] at hfront
            exact absurd (List.mem_append_right part (hfront.1 ▸ List.mem_cons_self)) h

/-- What lies between a text and a text that starts with it starts with it too. -/
lemma prefix_of_between {front text rest : List Char} (hlo : front ≤ text)
    (hhi : text ≤ front ++ rest) : front <+: text := by
  induction front generalizing text with
  | nil => exact List.nil_prefix
  | cons c front ih =>
      cases text with
      | nil => exact absurd (List.nil_lt_cons c front) (not_lt.mpr hlo)
      | cons d text =>
          have hlow : ¬ d :: text < c :: front := not_lt.mpr hlo
          have hhigh : ¬ c :: (front ++ rest) < d :: text := not_lt.mpr hhi
          rw [List.cons_lt_cons_iff, not_or, not_and] at hlow hhigh
          have hcd : c = d := le_antisymm (not_lt.mp hlow.1) (not_lt.mp hhigh.1)
          have hrest := ih (not_lt.mp (hlow.2 hcd.symm)) (not_lt.mp (hhigh.2 hcd))
          exact List.cons_prefix_cons.mpr ⟨hcd, hrest⟩

/-- A text comes before what starts with it. -/
lemma le_of_starts {front text : List Char} (h : front <+: text) : front ≤ text :=
  not_lt.mp h.le

end Text
