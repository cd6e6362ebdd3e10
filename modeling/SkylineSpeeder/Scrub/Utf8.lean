import SkylineSpeeder.Scrub.Str

/-!
Where the characters of a UTF-8 text begin and end.

* `utf8`: the bytes of a text;
* `Whole`: bytes that are whole characters, which a text's are (`whole_utf8`);
* `Whole.split`: such bytes can be cut on both sides of an ASCII character;
* `Whole.lt_of_solid`: without a byte inside a character they are all ASCII.
-/

namespace SkylineSpeeder.Scrub

/-- The bytes of a text. -/
def utf8 (text : List Char) : Str := text.flatMap String.utf8EncodeChar

/-- Whole characters: of one byte, or of a first byte and others inside the character. -/
inductive Whole : Str → Prop
  | nil : Whole []
  | single {b : UInt8} {text : Str} (hb : b < 0x80) (h : Whole text) : Whole (b :: text)
  | multi {b : UInt8} {inside text : Str} (hb : 0xC0 ≤ b) (hne : inside ≠ [])
      (hinside : ∀ c ∈ inside, isContinuation c = true) (h : Whole text) :
      Whole (b :: (inside ++ text))

/-- Every byte is an ASCII character. -/
def AllAscii (text : Str) : Prop := ∀ b ∈ text, b < 0x80

instance (text : Str) : Decidable (AllAscii text) := List.decidableBAll (· < 0x80) text

lemma allAscii_append {a b : Str} : AllAscii (a ++ b) ↔ AllAscii a ∧ AllAscii b :=
  List.forall_mem_append

lemma isContinuation_iff {b : UInt8} :
    isContinuation b = true ↔ 128 ≤ b.toNat ∧ b.toNat < 192 := by
  simp [isContinuation, UInt8.le_iff_toNat_le, UInt8.lt_iff_toNat_lt]

lemma not_continuation_of_lt {b : UInt8} (h : b < 0x80) : isContinuation b = false := by
  rw [← Bool.not_eq_true, isContinuation_iff]
  rw [UInt8.lt_iff_toNat_lt] at h
  have : (0x80 : UInt8).toNat = 128 := rfl
  omega

lemma not_continuation_of_le {b : UInt8} (h : 0xC0 ≤ b) : isContinuation b = false := by
  rw [← Bool.not_eq_true, isContinuation_iff]
  rw [UInt8.le_iff_toNat_le] at h
  have : (0xC0 : UInt8).toNat = 192 := rfl
  omega

lemma AllAscii.solid {text : Str} (h : AllAscii text) : Solid text :=
  fun b hb => not_continuation_of_lt (h b hb)

namespace Whole

variable {text a t : Str} {c : UInt8}

lemma begins (h : Whole text) : Begins text := by
  intro b hb
  cases h with
  | nil => cases hb
  | single hlt => exact Option.some.inj hb ▸ not_continuation_of_lt hlt
  | multi hle => exact Option.some.inj hb ▸ not_continuation_of_le hle

lemma append (h : Whole a) (ht : Whole t) : Whole (a ++ t) := by
  induction h with
  | nil => exact ht
  | single hb _ ih => exact .single hb ih
  | multi hb hne hinside _ ih =>
      rw [List.cons_append, List.append_assoc]
      exact .multi hb hne hinside ih

lemma of_allAscii (h : AllAscii a) : Whole a := by
  induction a with
  | nil => exact .nil
  | cons b a ih => exact .single (h b (by simp)) (ih fun c hc => h c (List.mem_cons_of_mem b hc))

/-- **On both sides of an ASCII character** whole characters end and begin. -/
lemma split (h : Whole (a ++ c :: t)) (hc : c < 0x80) : Whole a ∧ Whole t := by
  generalize htext : a ++ c :: t = text at h
  induction h generalizing a with
  | nil => simp at htext
  | single hb h ih =>
      cases a with
      | nil =>
          obtain ⟨-, rfl⟩ := List.cons.inj htext
          exact ⟨.nil, h⟩
      | cons d a =>
          obtain ⟨rfl, rfl⟩ := List.cons.inj htext
          exact ⟨.single hb (ih rfl).1, (ih rfl).2⟩
  | @multi b inside text hb hne hinside h ih =>
      cases a with
      | nil =>
          obtain ⟨rfl, -⟩ := List.cons.inj htext
          rw [UInt8.le_iff_toNat_le] at hb
          rw [UInt8.lt_iff_toNat_lt] at hc
          have h80 : (0x80 : UInt8).toNat = 128 := rfl
          have hC0 : (0xC0 : UInt8).toNat = 192 := rfl
          omega
      | cons d a =>
          obtain ⟨rfl, heq⟩ := List.cons.inj htext
          rcases List.append_eq_append_iff.mp heq with ⟨u, rfl, hu⟩ | ⟨u, rfl, hu⟩
          · cases u with
            | nil =>
                have := ih (a := []) (by simpa using hu)
                have hfirst := Whole.multi hb hne hinside .nil
                simp only [List.append_nil] at hfirst ⊢
                exact ⟨hfirst, this.2⟩
            | cons e u =>
                obtain ⟨rfl, -⟩ := List.cons.inj hu
                have hmem := hinside c (by simp)
                rw [not_continuation_of_lt hc] at hmem
                cases hmem
          · have := ih hu.symm
            exact ⟨.multi hb hne hinside this.1, this.2⟩

/-- After ASCII characters others begin. -/
lemma of_append (h : Whole (a ++ t)) (ha : AllAscii a) : Whole t := by
  induction a with
  | nil => exact h
  | cons b a ih =>
      have hrest := (Whole.split (a := []) h (ha b (by simp))).2
      exact ih hrest fun c hc => ha c (List.mem_cons_of_mem b hc)

/-- Without a byte inside a character every character is ASCII. -/
lemma lt_of_solid (h : Whole text) (hsolid : Solid text) : AllAscii text := by
  induction h with
  | nil => simp [AllAscii]
  | single hb _ ih =>
      intro b hmem
      rcases List.mem_cons.mp hmem with rfl | hmem
      · exact hb
      · exact ih (fun c hc => hsolid c (List.mem_cons_of_mem _ hc)) b hmem
  | @multi b inside text hb hne hinside h ih =>
      obtain ⟨c, inside, rfl⟩ := List.exists_cons_of_ne_nil hne
      have hc := hsolid c (by simp)
      rw [hinside c (by simp)] at hc
      cases hc

end Whole

/-- What pieces give is ASCII if their text and the markers are. -/
lemma allAscii_render {ps : List (Redact.Piece UInt8)} (hsource : AllAscii (Redact.source ps))
    (hmarker : ∀ segment marker, .cut segment marker ∈ ps → AllAscii marker) :
    AllAscii (Redact.render ps) := by
  intro b hb
  rcases Redact.mem_render.mp hb with hkeep | ⟨segment, marker, hcut, hmem⟩
  · exact hsource b (Redact.mem_source.mpr (.inl hkeep))
  · exact hmarker segment marker hcut b hmem

/-- The bytes of a character are whole. -/
lemma whole_utf8EncodeChar (c : Char) : Whole (String.utf8EncodeChar c) := by
  have hfirst : ∀ n, n < 128 → UInt8.ofNat n < 0x80 := by
    intro n hn
    rw [UInt8.lt_iff_toNat_lt, UInt8.toNat_ofNat']
    have : (0x80 : UInt8).toNat = 128 := rfl
    omega
  have hlead : ∀ n, 192 ≤ n → n < 256 → 0xC0 ≤ UInt8.ofNat n := by
    intro n hn hlt
    rw [UInt8.le_iff_toNat_le, UInt8.toNat_ofNat']
    have : (0xC0 : UInt8).toNat = 192 := rfl
    omega
  have hinside : ∀ n, isContinuation (UInt8.ofNat (n % 64 + 128)) = true := by
    intro n
    rw [isContinuation_iff, UInt8.toNat_ofNat']
    omega
  have hmulti : ∀ (b : UInt8) (inside : Str), 0xC0 ≤ b → inside ≠ [] →
      (∀ c ∈ inside, isContinuation c = true) → Whole (b :: inside) := by
    intro b inside hb hne hall
    simpa using Whole.multi hb hne hall .nil
  have hvalid := c.valid
  have htoNat : c.val.toNat < 0x110000 := by
    rcases hvalid with h | h
    · exact h.trans (by decide)
    · exact h.2
  rw [String.utf8EncodeChar]
  split_ifs with h1 h2 h3
  · exact .single (hfirst _ (by omega)) .nil
  · refine hmulti _ _ (hlead _ (by omega) (by omega)) (List.cons_ne_nil _ _) ?_
    exact List.forall_mem_singleton.mpr (hinside _)
  · refine hmulti _ _ (hlead _ (by omega) (by omega)) (List.cons_ne_nil _ _) ?_
    exact List.forall_mem_cons.mpr ⟨hinside _, List.forall_mem_singleton.mpr (hinside _)⟩
  · refine hmulti _ _ (hlead _ (by omega) (by omega)) (List.cons_ne_nil _ _) ?_
    exact List.forall_mem_cons.mpr ⟨hinside _,
      List.forall_mem_cons.mpr ⟨hinside _, List.forall_mem_singleton.mpr (hinside _)⟩⟩

/-- **A text** is whole characters. -/
lemma whole_utf8 (text : List Char) : Whole (utf8 text) := by
  induction text with
  | nil => exact .nil
  | cons c text ih => exact (whole_utf8EncodeChar c).append ih

end SkylineSpeeder.Scrub
