import SkylineSpeeder.Machine.Text
import SkylineSpeeder.Scrub.Addresses

/-!
Network addresses as they are written, and where they stand in a text.

* `IsIpv4Address`, `IsIpv6Address`, `IsMacAddress`: four groups of digits, the forms of
  RFC 4291, and six groups of two hexadecimal digits;
* `AfterOpener`, `AfterLabel`, `BeforeCloser`: what is before and after an address;
* `IsColonAddress`: an address that is written with colons only; the sixth pass knows it by its
  form (`IsColonAddress.known`).
-/

namespace SkylineSpeeder.Scrub

open Text (mem_intercalate)

/-! ### Groups -/

/-- Groups with a colon between them. -/
def colons (groups : List Str) : Str := [byte ':'].intercalate groups

/-- One to four hexadecimal digits. -/
def HexGroup (group : Str) : Prop :=
  (∀ b ∈ group, isAsciiHexdigit b = true) ∧ 1 ≤ group.length ∧ group.length ≤ 4

section Intercalate

variable {s b : UInt8} {groups : List Str}

/-- There is one separator less than there are groups. -/
lemma length_le_count_intercalate (groups : List Str) :
    groups.length ≤ ([s].intercalate groups).count s + 1 := by
  induction groups with
  | nil => simp
  | cons group groups ih =>
      cases groups with
      | nil => simp
      | cons next groups =>
          rw [List.intercalate_cons_cons, List.append_assoc, List.count_append,
            List.singleton_append, List.count_cons_self, List.length_cons]
          omega

lemma intercalate_concat (hne : groups ≠ []) (last : Str) :
    [s].intercalate (groups ++ [last]) = [s].intercalate groups ++ s :: last := by
  induction groups with
  | nil => exact absurd rfl hne
  | cons group groups ih =>
      cases groups with
      | nil => simp
      | cons next groups =>
          have hrest := ih (List.cons_ne_nil next groups)
          rw [List.cons_append] at hrest
          rw [List.cons_append, List.cons_append, List.intercalate_cons_cons, hrest,
            List.intercalate_cons_cons]
          simp

end Intercalate

/-! ### Addresses -/

/-- Four groups of one to three digits. -/
inductive IsIpv4Address : Str → Prop
  | mk {groups : List Str} (hlen : groups.length = 4)
      (hgroups : ∀ g ∈ groups, (∀ b ∈ g, isAsciiDigit b = true) ∧ isOctet g.length = true) :
      IsIpv4Address (dotted groups)

/-- Eight groups, fewer with `::`, or with an IPv4 address in the place of the last two. -/
inductive IsIpv6Address : Str → Prop
  | full {groups : List Str} (hlen : groups.length = 8) (hgroups : ∀ g ∈ groups, HexGroup g) :
      IsIpv6Address (colons groups)
  | compressed {front back : List Str} (hlen : front.length + back.length ≤ 7)
      (hfront : ∀ g ∈ front, HexGroup g) (hback : ∀ g ∈ back, HexGroup g) :
      IsIpv6Address (colons front ++ (ascii "::" ++ colons back))
  | mixed {groups : List Str} {last : Str} (hlen : groups.length = 6)
      (hgroups : ∀ g ∈ groups, HexGroup g) (hlast : IsIpv4Address last) :
      IsIpv6Address (colons (groups ++ [last]))
  | compressedMixed {front back : List Str} {last : Str} (hlen : front.length + back.length ≤ 5)
      (hfront : ∀ g ∈ front, HexGroup g) (hback : ∀ g ∈ back, HexGroup g)
      (hlast : IsIpv4Address last) :
      IsIpv6Address (colons front ++ (ascii "::" ++ colons (back ++ [last])))

/-- Six groups of two hexadecimal digits, with colons or with dashes. -/
inductive IsMacAddress : Str → Prop
  | mk {s : UInt8} {groups : List Str} (hs : s = byte ':' ∨ s = byte '-')
      (hlen : groups.length = 6)
      (hgroups : ∀ g ∈ groups, (∀ b ∈ g, isAsciiHexdigit b = true) ∧ g.length = 2) :
      IsMacAddress ([s].intercalate groups)

/-- A network address. -/
def IsAddress (a : Str) : Prop := IsIpv4Address a ∨ IsIpv6Address a ∨ IsMacAddress a

/-- What addresses are made of. -/
def isAddressByte (b : UInt8) : Bool := isAsciiHexdigit b || b ∈ ascii ":.-"

/-! ### Where they stand -/

/-- What an address can follow: a blank, a quotation mark, or one of these. -/
def isOpener (b : UInt8) : Bool :=
  isAsciiWhitespace b || b = 0x22 || b = 0x27 || b ∈ ascii "([<,;=/"

/-- What can follow an address. -/
def isCloser (b : UInt8) : Bool :=
  isAsciiWhitespace b || b = 0x22 || b = 0x27 || b ∈ ascii ")]>,;/"

/-- The beginning of the text, or what an address can follow. -/
def AfterOpener (before : Str) : Prop := ∀ b, before.getLast? = some b → isOpener b = true

/-- A colon right after a letter. -/
def AfterLabel (before : Str) : Prop :=
  ∃ front letter, before = front ++ [letter, byte ':'] ∧ isAsciiAlphabetic letter = true

/-- The end of the text, or what can follow an address. -/
def BeforeCloser (after : Str) : Prop := ∀ b, after.head? = some b → isCloser b = true

/-- An address between these two. -/
def Stands (before a after : Str) : Prop :=
  IsAddress a ∧ (AfterOpener before ∨ AfterLabel before) ∧ BeforeCloser after

/-- An address stands in the text. -/
def HasAddress (text : Str) : Prop :=
  ∃ before a after, text = before ++ (a ++ after) ∧ Stands before a after

/-! ### What they are made of -/

lemma isAddressByte_of_hexdigit {b : UInt8} (h : isAsciiHexdigit b = true) :
    isAddressByte b = true := by
  rw [isAddressByte, h, Bool.true_or]

lemma isAsciiHexdigit_of_digit {b : UInt8} (h : isAsciiDigit b = true) :
    isAsciiHexdigit b = true := by
  rw [isAsciiHexdigit, h, Bool.true_or, Bool.true_or]

lemma IsIpv4Address.bytes {a : Str} (h : IsIpv4Address a) :
    ∀ b ∈ a, isAsciiDigit b = true ∨ b = byte '.' := by
  obtain ⟨-, hgroups⟩ := h
  intro b hb
  rcases mem_intercalate hb with rfl | ⟨g, hg, hb⟩
  · exact .inr rfl
  · exact .inl ((hgroups g hg).1 b hb)

lemma IsIpv4Address.dot {a : Str} (h : IsIpv4Address a) : byte '.' ∈ a := by
  obtain ⟨hlen, -⟩ := h
  rename_i groups
  have hle := @length_le_count_intercalate (byte '.') groups
  exact List.count_pos_iff.mp (by rw [dotted]; omega)

lemma bytes_colons {groups : List Str} (h : ∀ g ∈ groups, HexGroup g) :
    ∀ b ∈ colons groups, isIpv6Byte b = true := by
  intro b hb
  rw [isIpv6Byte, Bool.or_eq_true, decide_eq_true_eq]
  rcases mem_intercalate hb with rfl | ⟨g, hg, hb⟩
  · exact .inr rfl
  · exact .inl ((h g hg).1 b hb)

lemma isAddressByte_of_ipv6Byte {b : UInt8} (h : isIpv6Byte b = true) : isAddressByte b = true := by
  rw [isIpv6Byte, Bool.or_eq_true, decide_eq_true_eq] at h
  rcases h with h | rfl
  · exact isAddressByte_of_hexdigit h
  · decide

lemma isAddressByte_of_ipv4 {a : Str} (h : IsIpv4Address a) : ∀ b ∈ a, isAddressByte b = true := by
  intro b hb
  rcases h.bytes b hb with hdigit | rfl
  · exact isAddressByte_of_hexdigit (isAsciiHexdigit_of_digit hdigit)
  · decide

/-- An IPv6 address is written with colons only, or it ends with an IPv4 address. -/
lemma IsIpv6Address.form {a : Str} (h : IsIpv6Address a) :
    (∀ b ∈ a, isIpv6Byte b = true) ∨
      ∃ front last, a = front ++ byte ':' :: last ∧ (∀ b ∈ front, isIpv6Byte b = true) ∧
        IsIpv4Address last := by
  have hpair : ∀ b ∈ ascii "::", isIpv6Byte b = true := by
    have hall : (ascii "::").all isIpv6Byte = true := by decide
    exact List.all_eq_true.mp hall
  cases h with
  | full hlen hgroups => exact .inl (bytes_colons hgroups)
  | compressed hlen hfront hback =>
      exact .inl (List.forall_mem_append.mpr ⟨bytes_colons hfront,
        List.forall_mem_append.mpr ⟨hpair, bytes_colons hback⟩⟩)
  | @mixed groups last hlen hgroups hlast =>
      have hne : groups ≠ [] := by
        rintro rfl
        cases hlen
      exact .inr ⟨colons groups, last, intercalate_concat hne last, bytes_colons hgroups, hlast⟩
  | @compressedMixed front back last hlen hfront hback hlast =>
      right
      by_cases hne : back = []
      · subst hne
        refine ⟨colons front ++ [byte ':'], last, ?_, ?_, hlast⟩
        · simp [colons, ascii]
        · exact List.forall_mem_append.mpr ⟨bytes_colons hfront, by simp [isIpv6Byte]⟩
      · refine ⟨colons front ++ (ascii "::" ++ colons back), last, ?_, ?_, hlast⟩
        · have hconcat : colons (back ++ [last]) = colons back ++ byte ':' :: last :=
            intercalate_concat hne last
          rw [hconcat]
          simp only [List.append_assoc]
        · exact List.forall_mem_append.mpr ⟨bytes_colons hfront,
            List.forall_mem_append.mpr ⟨hpair, bytes_colons hback⟩⟩

lemma IsMacAddress.bytes {a : Str} (h : IsMacAddress a) : ∀ b ∈ a, isAddressByte b = true := by
  obtain ⟨hs, -, hgroups⟩ := h
  intro b hb
  rcases mem_intercalate hb with rfl | ⟨g, hg, hb⟩
  · rcases hs with rfl | rfl
    · decide
    · decide
  · exact isAddressByte_of_hexdigit ((hgroups g hg).1 b hb)

lemma IsAddress.bytes {a : Str} (h : IsAddress a) : ∀ b ∈ a, isAddressByte b = true := by
  rcases h with h | h | h
  · exact isAddressByte_of_ipv4 h
  · rcases h.form with hbytes | ⟨front, last, rfl, hfront, hlast⟩
    · exact fun b hb => isAddressByte_of_ipv6Byte (hbytes b hb)
    · refine List.forall_mem_append.mpr ⟨fun b hb => isAddressByte_of_ipv6Byte (hfront b hb), ?_⟩
      exact List.forall_mem_cons.mpr ⟨by decide, isAddressByte_of_ipv4 hlast⟩
  · exact h.bytes

lemma IsIpv6Address.colon {a : Str} (h : IsIpv6Address a) : byte ':' ∈ a := by
  have hpair : ∀ x y : Str, byte ':' ∈ x ++ (ascii "::" ++ y) := fun x y =>
    List.mem_append_right x (List.mem_append_left y (by decide))
  cases h with
  | @full groups hlen hgroups =>
      have hle := @length_le_count_intercalate (byte ':') groups
      exact List.count_pos_iff.mp (by rw [colons]; omega)
  | compressed hlen hfront hback => exact hpair _ _
  | @mixed groups last hlen hgroups hlast =>
      have hle := @length_le_count_intercalate (byte ':') (groups ++ [last])
      rw [List.length_append, List.length_singleton] at hle
      exact List.count_pos_iff.mp (by rw [colons]; omega)
  | compressedMixed hlen hfront hback hlast => exact hpair _ _

/-- What tells an address from a word: a colon, a dot, or five dashes. -/
lemma IsAddress.marks {a : Str} (h : IsAddress a) :
    byte ':' ∈ a ∨ byte '.' ∈ a ∨ 5 ≤ a.count (byte '-') := by
  rcases h with h | h | h
  · exact .inr (.inl h.dot)
  · exact .inl h.colon
  · obtain ⟨rfl | rfl, hlen, -⟩ := h
    · rename_i groups
      have hle := @length_le_count_intercalate (byte ':') groups
      exact .inl (List.count_pos_iff.mp (by omega))
    · rename_i groups
      have hle := @length_le_count_intercalate (byte '-') groups
      exact .inr (.inr (by omega))

/-! ### Addresses with colons only -/

/-- An address with neither dots nor dashes. -/
def IsColonAddress (a : Str) : Prop := IsAddress a ∧ byte '.' ∉ a ∧ byte '-' ∉ a

/-- No colon at either end, and no two of them together. -/
structure Tidy (text : Str) : Prop where
  head : text.head? ≠ some (byte ':')
  last : text.getLast? ≠ some (byte ':')
  inner : ¬ ascii "::" <:+: text

lemma HexGroup.ne_nil {g : Str} (h : HexGroup g) : g ≠ [] := by
  rintro rfl
  exact absurd h.2.1 (by decide)

lemma HexGroup.colon {g : Str} (h : HexGroup g) : byte ':' ∉ g := fun hmem =>
  absurd (h.1 _ hmem) (by decide)

lemma colons_cons {g next : Str} {groups : List Str} :
    colons (g :: next :: groups) = g ++ byte ':' :: colons (next :: groups) := by
  rw [colons, List.intercalate_cons_cons, List.append_assoc]
  rfl

/-- A word without colons, a colon, and something tidy. -/
lemma Tidy.cons {g rest : Str} (hg : g ≠ []) (hcolon : byte ':' ∉ g) (hrest : rest ≠ [])
    (h : Tidy rest) : Tidy (g ++ byte ':' :: rest) := by
  obtain ⟨b, g, rfl⟩ := List.exists_cons_of_ne_nil hg
  obtain ⟨c, rest, rfl⟩ := List.exists_cons_of_ne_nil hrest
  have hc : c ≠ byte ':' := fun heq => h.head (congrArg some heq)
  refine ⟨fun hhead => hcolon ?_, ?_, fun hin => ?_⟩
  · exact Option.some.inj hhead ▸ List.mem_cons_self
  · rw [List.getLast?_append_cons, List.getLast?_cons_cons]
    exact h.last
  · rcases List.infix_append_iff_ne_nil.mp hin with hin | hin | ⟨x, y, hx, -, hxy, hsuffix, -⟩
    · exact hcolon (hin.subset (by decide))
    · rcases List.infix_cons_iff.mp hin with hpre | hin
      · exact hc (List.cons_prefix_cons.mp (List.cons_prefix_cons.mp hpre).2).1.symm
      · exact h.inner hin
    · obtain ⟨d, x, rfl⟩ := List.exists_cons_of_ne_nil hx
      obtain rfl := (List.cons.inj hxy).1
      exact hcolon (hsuffix.subset List.mem_cons_self)

lemma tidy_colons {groups : List Str} (h : ∀ g ∈ groups, HexGroup g) : Tidy (colons groups) := by
  induction groups with
  | nil => exact ⟨by simp [colons], by simp [colons], by simp [colons, ascii]⟩
  | cons g groups ih =>
      have hg := h g List.mem_cons_self
      have hrest : ∀ g ∈ groups, HexGroup g := fun g' hg' => h g' (List.mem_cons_of_mem g hg')
      cases groups with
      | nil =>
          have hone : colons [g] = g := List.intercalate_singleton
          rw [hone]
          refine ⟨fun hhead => hg.colon (List.mem_of_mem_head? hhead),
            fun hlast => hg.colon (List.mem_of_getLast? hlast), fun hin => hg.colon ?_⟩
          exact hin.subset (by decide)
      | cons next groups =>
          rw [colons_cons]
          refine Tidy.cons hg.ne_nil hg.colon ?_ (ih hrest)
          cases groups with
          | nil => simpa [colons] using (hrest next List.mem_cons_self).ne_nil
          | cons third groups =>
              rw [colons_cons]
              simp

/-- `::` between two tidy texts. -/
lemma isCompressed_append {x y : Str} (hx : Tidy x) (hy : Tidy y) :
    IsCompressed (x ++ (ascii "::" ++ y)) := by
  refine ⟨⟨x, y, by rw [List.append_assoc]⟩, fun hin => ?_⟩
  have hfront : ¬ ascii ":::" <+: ascii "::" ++ y := by
    rintro ⟨u, hu⟩
    have hy' : y = byte ':' :: u := (List.cons.inj (List.cons.inj hu).2).2.symm
    exact hy.head (hy' ▸ rfl)
  rcases List.infix_append_iff_ne_nil.mp hin with hin | hin | ⟨u, v, hu, -, huv, hsuffix, -⟩
  · exact hx.inner ((List.suffix_cons _ _).isInfix.trans hin)
  · have hpair : ascii "::" ++ y = byte ':' :: (byte ':' :: y) := rfl
    rw [hpair, List.infix_cons_iff, List.infix_cons_iff] at hin
    rcases hin with hpre | ⟨u, hu⟩ | hin
    · exact hfront hpre
    · exact hy.head ((List.cons.inj hu).2 ▸ rfl)
    · exact hy.inner ((List.suffix_cons _ _).isInfix.trans hin)
  · -- the first of them would be the end of the first text
    obtain ⟨z, hz⟩ := hsuffix
    have hmem : ∀ b ∈ u, b = byte ':' := by
      intro b hb
      have hthree' : b ∈ ascii ":::" := huv ▸ List.mem_append_left v hb
      simpa [ascii] using hthree'
    cases u using List.reverseRecOn with
    | nil => exact hu rfl
    | append_singleton u b =>
        refine hx.last ?_
        rw [← hz, ← List.append_assoc, List.getLast?_concat, hmem b (by simp)]

lemma colonRun_of_last {run : Str} (h : run.getLast? ≠ some (byte ':')) : colonRun run = run :=
  if_neg fun hcut => h hcut.2.1

/-- Two colons at the end are part of the run. -/
lemma colonRun_pair (x : Str) : colonRun (x ++ ascii "::") = x ++ ascii "::" := by
  refine if_neg fun hcut => hcut.2.2 ?_
  have hsplit : x ++ ascii "::" = (x ++ [byte ':']) ++ [byte ':'] := by simp [ascii]
  rw [hsplit, List.dropLast_concat, List.getLast?_concat]

lemma last_subset_colons {groups : List Str} {last : Str} : last ⊆ colons (groups ++ [last]) := by
  intro b hb
  by_cases hne : groups = []
  · subst hne
    simpa [colons] using hb
  · rw [colons, intercalate_concat hne]
    exact List.mem_append_right _ (List.mem_cons_of_mem _ hb)

lemma isFull_colons {groups : List Str} (hlen : 4 ≤ groups.length)
    (h : ∀ g ∈ groups, HexGroup g) : IsFull (colons groups) := by
  have hne : groups ≠ [] := List.ne_nil_of_length_pos (by omega)
  have hsplit : (colons groups).splitOn (byte ':') = groups :=
    List.splitOn_intercalate _ (fun g hg => (h g hg).colon) hne
  rw [IsFull, hsplit]
  refine ⟨hlen, List.all_eq_true.mpr fun g hg => ?_⟩
  simpa using (h g hg).2

/-- **How the sixth pass knows** an address with colons only. -/
lemma IsColonAddress.known {a : Str} (h : IsColonAddress a) :
    (∀ b ∈ a, isIpv6Byte b = true) ∧ 2 ≤ a.length ∧ colonRun a = a ∧
      (IsFull a ∨ IsCompressed a) := by
  -- without `::`, and for hardware addresses too
  have hfull : ∀ groups : List Str, 4 ≤ groups.length → (∀ g ∈ groups, HexGroup g) →
      (∀ b ∈ colons groups, isIpv6Byte b = true) ∧ 2 ≤ (colons groups).length ∧
        colonRun (colons groups) = colons groups ∧
        (IsFull (colons groups) ∨ IsCompressed (colons groups)) := by
    intro groups hlen hgroups
    have hcount := @length_le_count_intercalate (byte ':') groups
    have hle := List.count_le_length (a := byte ':') (l := colons groups)
    rw [← colons] at hcount
    exact ⟨bytes_colons hgroups, by omega, colonRun_of_last (tidy_colons hgroups).last,
      .inl (isFull_colons hlen hgroups)⟩
  obtain ⟨h | h | h, hdot, hdash⟩ := h
  · exact absurd h.dot hdot
  · cases h with
    | full hlen hgroups => exact hfull _ (by omega) hgroups
    | @compressed front back hlen hfront hback =>
        refine ⟨?_, ?_, ?_, .inr (isCompressed_append (tidy_colons hfront) (tidy_colons hback))⟩
        · have hall : (ascii "::").all isIpv6Byte = true := by decide
          exact List.forall_mem_append.mpr ⟨bytes_colons hfront,
            List.forall_mem_append.mpr ⟨List.all_eq_true.mp hall, bytes_colons hback⟩⟩
        · simp only [List.length_append]
          have hpair : (ascii "::").length = 2 := rfl
          omega
        · by_cases hnil : colons back = []
          · rw [hnil, List.append_nil]
            exact colonRun_pair _
          · obtain ⟨b, rest, hcons⟩ := List.exists_cons_of_ne_nil hnil
            refine colonRun_of_last ?_
            have hlast := (tidy_colons hback).last
            rw [hcons] at hlast ⊢
            rwa [← List.append_assoc, List.getLast?_append_cons]
    | mixed hlen hgroups hlast => exact absurd (last_subset_colons hlast.dot) hdot
    | compressedMixed hlen hfront hback hlast =>
        exact absurd (List.mem_append_right _ (List.mem_append_right _
          (last_subset_colons hlast.dot))) hdot
  · obtain ⟨rfl | rfl, hlen, hgroups⟩ := h
    · refine hfull _ (by omega) fun g hg => ?_
      obtain ⟨hhex, htwo⟩ := hgroups g hg
      exact ⟨hhex, by omega, by omega⟩
    · rename_i groups
      have hle := @length_le_count_intercalate (byte '-') groups
      exact absurd (List.count_pos_iff.mp (by omega)) hdash

end SkylineSpeeder.Scrub
