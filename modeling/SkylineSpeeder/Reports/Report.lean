import SkylineSpeeder.Scrub.Utf8

/-!
A report that the daemon records: what is in it, its file's bytes, and the name of the file.

* `DaemonReport`, `DaemonReport.json`: a report, and the line that `serde_json::to_vec` makes
  of it; `json_injective`: two reports are two lines;
* `Serde`, `serdeJson`: what the daemon and ssctl need of `serde_json`, and a decoder that
  has it;
* `fingerprint`: the hash that names the file; `fingerprint_separates`: what it does not and
  what it does tell apart.
-/

namespace SkylineSpeeder.Reports

open Scrub

/-! ### The line -/

/-- A recorded error. -/
structure DaemonReport where
  version : List Char
  kind : List Char
  message : List Char
  firstSeen : UInt64
  lastSeen : UInt64
  count : UInt64
  deriving DecidableEq

/-- A hexadecimal digit. -/
def hexNibble (n : ℕ) : Char := Nat.digitChar (n % 16)

/-- A character of a JSON string. -/
def escape (c : Char) : List Char :=
  if c = '"' then ['\\', '"']
  else if c = '\\' then ['\\', '\\']
  else if c.toNat = 8 then ['\\', 'b']
  else if c = '\t' then ['\\', 't']
  else if c = '\n' then ['\\', 'n']
  else if c.toNat = 12 then ['\\', 'f']
  else if c = '\r' then ['\\', 'r']
  else if c.toNat < 32 then ['\\', 'u', '0', '0', hexNibble (c.toNat / 16), hexNibble c.toNat]
  else [c]

/-- A JSON string. -/
def jsonString (text : List Char) : List Char := '"' :: (text.flatMap escape ++ ['"'])

/-- A JSON number. -/
def jsonNumber (n : UInt64) : List Char := Nat.toDigits 10 n.toNat

/-- The fields in the order of the struct, without blanks. -/
def DaemonReport.json (r : DaemonReport) : List Char :=
  "\x7b\"version\":".toList ++ (jsonString r.version ++
    (",\"kind\":".toList ++ (jsonString r.kind ++
      (",\"message\":".toList ++ (jsonString r.message ++
        (",\"first_seen\":".toList ++ (jsonNumber r.firstSeen ++
          (",\"last_seen\":".toList ++ (jsonNumber r.lastSeen ++
            (",\"count\":".toList ++ (jsonNumber r.count ++ "\x7d".toList)))))))))))

/-! ### Two reports are two lines -/

/-- The character that an escape stands for. -/
def unescape : List Char → Option (Char × List Char)
  | '\\' :: 'u' :: '0' :: '0' :: '0' :: d :: rest =>
      ((List.range 16).find? fun n => Nat.digitChar n = d).map fun n => (Char.ofNat n, rest)
  | '\\' :: 'u' :: '0' :: '0' :: '1' :: d :: rest =>
      ((List.range 16).find? fun n => Nat.digitChar n = d).map fun n => (Char.ofNat (16 + n), rest)
  | '\\' :: 'b' :: rest => some (Char.ofNat 8, rest)
  | '\\' :: 't' :: rest => some ('\t', rest)
  | '\\' :: 'n' :: rest => some ('\n', rest)
  | '\\' :: 'f' :: rest => some (Char.ofNat 12, rest)
  | '\\' :: 'r' :: rest => some ('\r', rest)
  | '\\' :: c :: rest => some (c, rest)
  | c :: rest => some (c, rest)
  | [] => none

/-- Every character is read back. -/
lemma unescape_escape (c : Char) (rest : List Char) :
    unescape (escape c ++ rest) = some (c, rest) := by
  by_cases hlow : c.toNat < 32
  · obtain ⟨n, hn, rfl⟩ : ∃ n < 32, c = Char.ofNat n := ⟨c.toNat, hlow, (Char.ofNat_toNat c).symm⟩
    interval_cases n <;> rfl
  · have hplain : ∀ n, n < 32 → c.toNat ≠ n := fun n hn h => hlow (h ▸ hn)
    by_cases hquote : c = '"'
    · subst hquote
      rfl
    by_cases hslash : c = '\\'
    · subst hslash
      rfl
    have htab : c ≠ '\t' := fun h => hplain 9 (by decide) (congrArg Char.toNat h)
    have hnewline : c ≠ '\n' := fun h => hplain 10 (by decide) (congrArg Char.toNat h)
    have hreturn : c ≠ '\r' := fun h => hplain 13 (by decide) (congrArg Char.toNat h)
    rw [escape, if_neg hquote, if_neg hslash, if_neg (hplain 8 (by decide)), if_neg htab,
      if_neg hnewline, if_neg (hplain 12 (by decide)), if_neg hreturn, if_neg hlow,
      List.singleton_append]
    unfold unescape
    split <;> simp_all

/-- No escape begins like the end of a string. -/
lemma escape_head (c : Char) : (escape c).head? ≠ some '"' := by
  rw [escape]
  split_ifs with h
  all_goals simp_all

lemma escape_ne_nil (c : Char) : escape c ≠ [] := by
  rw [escape]
  split_ifs <;> exact List.cons_ne_nil _ _

lemma flatMap_escape_inj {a b s t : List Char}
    (h : a.flatMap escape ++ '"' :: s = b.flatMap escape ++ '"' :: t) : a = b ∧ s = t := by
  -- the end of one string is no escape of the other
  have hend : ∀ (c : Char) (rest u : List Char), '"' :: u ≠ escape c ++ rest := by
    intro c rest u heq
    cases hc : escape c with
    | nil => exact escape_ne_nil c hc
    | cons x xs =>
        rw [hc, List.cons_append, List.cons.injEq] at heq
        exact escape_head c (by rw [hc, List.head?_cons, heq.1])
  induction a generalizing b with
  | nil =>
      cases b with
      | nil => exact ⟨rfl, by simpa using h⟩
      | cons c b =>
          rw [List.flatMap_nil, List.nil_append, List.flatMap_cons, List.append_assoc] at h
          exact absurd h (hend _ _ _)
  | cons c a ih =>
      cases b with
      | nil =>
          rw [List.flatMap_nil, List.nil_append, List.flatMap_cons, List.append_assoc] at h
          exact absurd h.symm (hend _ _ _)
      | cons d b =>
          rw [List.flatMap_cons, List.flatMap_cons, List.append_assoc, List.append_assoc] at h
          have hread := congrArg unescape h
          rw [unescape_escape, unescape_escape, Option.some.injEq, Prod.mk.injEq] at hread
          obtain ⟨rfl, hrest⟩ := hread
          obtain ⟨rfl, rfl⟩ := ih hrest
          exact ⟨rfl, rfl⟩

lemma jsonString_inj {a b s t : List Char} (h : jsonString a ++ s = jsonString b ++ t) :
    a = b ∧ s = t := by
  simp only [jsonString, List.cons_append, List.append_assoc, List.cons.injEq,
    true_and] at h
  exact flatMap_escape_inj h

/-- A number ends where the label of the next field begins. -/
lemma jsonNumber_inj {m n : UInt64} {label s t : List Char}
    (hlabel : (label.head?.any fun c => !c.isDigit) = true)
    (h : jsonNumber m ++ (label ++ s) = jsonNumber n ++ (label ++ t)) : m = n ∧ s = t := by
  have hdigits : ∀ k : UInt64, ∀ x ∈ jsonNumber k, x.isDigit = true :=
    fun k x hx => Nat.isDigit_of_mem_toDigits (by decide) (by decide) hx
  obtain ⟨c, cs, rfl⟩ : ∃ c cs, label = c :: cs := by
    cases label with
    | nil => simp at hlabel
    | cons c cs => exact ⟨c, cs, rfl⟩
  have hc : c.isDigit = false := by simpa using hlabel
  have hfirst : jsonNumber m = jsonNumber n := by
    have htake := congrArg (List.takeWhile Char.isDigit) h
    rwa [List.takeWhile_append_of_pos (hdigits m), List.takeWhile_append_of_pos (hdigits n),
      List.cons_append, List.cons_append, List.takeWhile_cons_of_neg (by simp [hc]),
      List.takeWhile_cons_of_neg (by simp [hc]), List.append_nil, List.append_nil] at htake
  refine ⟨?_, List.append_cancel_left (List.append_cancel_left (hfirst ▸ h))⟩
  have hvalue := congrArg (fun l => Nat.ofDigitChars 10 l 0) hfirst
  simp only [jsonNumber, Nat.ofDigitChars_ten_toDigits] at hvalue
  exact UInt64.toNat_inj.mp hvalue

/-- **Two reports are two lines.** -/
lemma json_injective : Function.Injective DaemonReport.json := by
  intro r r' h
  unfold DaemonReport.json at h
  obtain ⟨hversion, h⟩ := jsonString_inj (List.append_cancel_left h)
  obtain ⟨hkind, h⟩ := jsonString_inj (List.append_cancel_left h)
  obtain ⟨hmessage, h⟩ := jsonString_inj (List.append_cancel_left h)
  obtain ⟨hfirst, h⟩ := jsonNumber_inj (by rfl) (List.append_cancel_left h)
  obtain ⟨hlast, h⟩ := jsonNumber_inj (by rfl) h
  rw [← List.append_nil "\x7d".toList] at h
  obtain ⟨hcount, -⟩ := jsonNumber_inj (by rfl) h
  cases r
  cases r'
  rw [DaemonReport.mk.injEq]
  exact ⟨hversion, hkind, hmessage, hfirst, hlast, hcount⟩

/-! ### The bytes -/

/-- `serde_json`: a report as the bytes of a file, and back. -/
structure Serde where
  toVec : DaemonReport → Str
  fromSlice : Str → Option DaemonReport
  fromSlice_toVec : ∀ r, fromSlice (toVec r) = some r

lemma utf8_injective : Function.Injective utf8 := by
  intro a b h
  have hbytes : a.utf8Encode = b.utf8Encode := by
    rw [List.utf8Encode, List.utf8Encode]
    exact congrArg List.toByteArray h
  have hdecode := congrArg ByteArray.utf8Decode? hbytes
  rw [List.utf8Decode?_utf8Encode, List.utf8Decode?_utf8Encode, Option.some.injEq] at hdecode
  exact Array.toList_inj.mpr hdecode

/-- Reports as lines, and a decoder that takes these lines alone. -/
noncomputable def serdeJson : Serde where
  toVec r := utf8 r.json
  fromSlice := Function.partialInv fun r => utf8 r.json
  fromSlice_toVec := Function.partialInv_left (utf8_injective.comp json_injective)

/-! ### The name -/

/-- One byte of the FNV-1a hash. -/
def hashByte (hash : UInt64) (b : UInt8) : UInt64 := (hash ^^^ b.toUInt64) * 0x100000001b3

/-- What is hashed of a message. -/
def withoutDigits (message : Str) : Str := message.filter fun b => !isAsciiDigit b

/-- `fingerprint`. -/
def fingerprint (kind message : Str) : UInt64 :=
  (kind ++ 0 :: withoutDigits message).foldl hashByte 0xcbf29ce484222325

/-- A multiplication by an odd number loses nothing. -/
lemma mul_prime_inj {a b : UInt64} (h : a * 0x100000001b3 = b * 0x100000001b3) : a = b := by
  have hinverse : (0x100000001b3 : UInt64) * 14886173955864302971 = 1 := by decide
  calc
    a = a * 0x100000001b3 * 14886173955864302971 := by
      rw [UInt64.mul_assoc, hinverse, UInt64.mul_one]
    _ = b * 0x100000001b3 * 14886173955864302971 := by rw [h]
    _ = b := by rw [UInt64.mul_assoc, hinverse, UInt64.mul_one]

lemma toUInt64_inj {x y : UInt8} (h : x.toUInt64 = y.toUInt64) : x = y := by
  have hnat := congrArg UInt64.toNat h
  simpa [UInt8.toNat_inj] using hnat

/-- The bytes after a place where two texts part do not bring their hashes together. -/
lemma foldl_hashByte_inj (bytes : Str) {a b : UInt64}
    (h : bytes.foldl hashByte a = bytes.foldl hashByte b) : a = b := by
  induction bytes generalizing a b with
  | nil => exact h
  | cons x bytes ih =>
      have hx : (a ^^^ x.toUInt64) * 0x100000001b3 = (b ^^^ x.toUInt64) * 0x100000001b3 := ih h
      exact (UInt64.xor_left_inj _).mp (mul_prime_inj hx)

/-- A byte is hashed into the low eight bits. -/
lemma xor_byte_div (a : UInt64) (x : UInt8) :
    (a ^^^ x.toUInt64).toNat / 256 = a.toNat / 256 := by
  have hx : x.toNat >>> 8 = 0 := by
    rw [Nat.shiftRight_eq_div_pow]
    exact Nat.div_eq_of_lt x.toNat_lt
  calc
    (a ^^^ x.toUInt64).toNat / 256 = (a.toNat ^^^ x.toNat) >>> 8 := by
      rw [UInt64.toNat_xor, UInt8.toNat_toUInt64, Nat.shiftRight_eq_div_pow]
    _ = a.toNat >>> 8 ^^^ x.toNat >>> 8 := Nat.shiftRight_xor_distrib
    _ = a.toNat / 256 := by rw [hx, Nat.xor_zero, Nat.shiftRight_eq_div_pow]

/-- The products of different numbers that agree but for the low eight bits do not agree so
closely. -/
lemma mul_prime_apart {c d : ℕ} (h : c / 256 = d / 256)
    (hmul : c * 1099511628211 % 2 ^ 64 / 256 = d * 1099511628211 % 2 ^ 64 / 256) : c = d := by
  have hle : ∀ {c d : ℕ}, c / 256 = d / 256 →
      c * 1099511628211 % 2 ^ 64 / 256 = d * 1099511628211 % 2 ^ 64 / 256 → d ≤ c := by
    intro c d h hmul
    by_contra hlt
    obtain ⟨k, rfl⟩ := Nat.exists_eq_add_of_lt (not_le.mp hlt)
    have hk : k < 255 := by omega
    rw [Nat.add_assoc, Nat.add_mul] at hmul
    -- the product grows by less than the modulus
    have hwrap : (c * 1099511628211 + (k + 1) * 1099511628211) / 2 ^ 64 =
          c * 1099511628211 / 2 ^ 64 ∨
        (c * 1099511628211 + (k + 1) * 1099511628211) / 2 ^ 64 =
          c * 1099511628211 / 2 ^ 64 + 1 := by omega
    rcases hwrap with hwrap | hwrap <;> omega
  exact le_antisymm (hle h.symm hmul.symm) (hle h hmul)

/-- Two bytes in a row are told apart. -/
lemma hashByte_two_inj {a : UInt64} {x₁ x₂ y₁ y₂ : UInt8}
    (h : hashByte (hashByte a x₁) x₂ = hashByte (hashByte a y₁) y₂) : x₁ = y₁ ∧ x₂ = y₂ := by
  have hxor := mul_prime_inj h
  have hhigh : (hashByte a x₁).toNat / 256 = (hashByte a y₁).toNat / 256 := by
    rw [← xor_byte_div (hashByte a x₁) x₂, hxor, xor_byte_div]
  have hlow : (a ^^^ x₁.toUInt64).toNat / 256 = (a ^^^ y₁.toUInt64).toNat / 256 := by
    rw [xor_byte_div, xor_byte_div]
  have heq : (a ^^^ x₁.toUInt64).toNat = (a ^^^ y₁.toUInt64).toNat := by
    have hprime : (0x100000001b3 : UInt64).toNat = 1099511628211 := by decide
    rw [hashByte, hashByte, UInt64.toNat_mul, UInt64.toNat_mul, hprime] at hhigh
    exact mul_prime_apart hlow hhigh
  have hx₁ : x₁ = y₁ := toUInt64_inj ((UInt64.xor_right_inj _).mp (UInt64.toNat_inj.mp heq))
  subst hx₁
  exact ⟨rfl, toUInt64_inj ((UInt64.xor_right_inj _).mp hxor)⟩

/-- Two texts that agree but for at most two bytes, next to each other. -/
def Near (u v : Str) : Prop :=
  ∃ before after a b, u = before ++ (a ++ after) ∧ v = before ++ (b ++ after) ∧
    a.length = b.length ∧ a.length ≤ 2

/-- **The name of a report**: what differs in its digits alone is one report, what differs in
at most two neighbouring bytes besides is two, and a panic is never taken for an exit. -/
theorem fingerprint_separates (kind : Str) {m m' : Str}
    (h : Near (withoutDigits m) (withoutDigits m')) :
    (fingerprint kind m = fingerprint kind m' ↔ withoutDigits m = withoutDigits m') ∧
      (withoutDigits m = withoutDigits m' →
        fingerprint (ascii "exited") m ≠ fingerprint (ascii "panicked") m') := by
  constructor
  · refine ⟨fun heq => ?_, fun heq => by rw [fingerprint, fingerprint, heq]⟩
    obtain ⟨before, after, a, b, hm, hm', hlength, htwo⟩ := h
    rw [hm, hm']
    rw [fingerprint, fingerprint, hm, hm', ← List.cons_append, ← List.cons_append,
      ← List.append_assoc, ← List.append_assoc, ← List.append_assoc, ← List.append_assoc] at heq
    simp only [List.foldl_append] at heq
    have hab := foldl_hashByte_inj after heq
    congr 2
    match a, b, hlength, htwo with
    | [], [], _, _ => rfl
    | [x], [y], _, _ =>
        have hxor := mul_prime_inj hab
        rw [toUInt64_inj ((UInt64.xor_right_inj _).mp hxor)]
    | [x₁, x₂], [y₁, y₂], _, _ =>
        obtain ⟨rfl, rfl⟩ := hashByte_two_inj hab
        rfl
  · intro heq hhash
    rw [fingerprint, fingerprint, heq, List.append_cons (ascii "exited"),
      List.append_cons (ascii "panicked")] at hhash
    simp only [List.foldl_append] at hhash
    exact absurd (foldl_hashByte_inj (withoutDigits m') hhash) (by decide)

/-- Errors on two disks are two reports, whatever their numbers. -/
theorem fingerprint_separates_disks :
    fingerprint (ascii "exited") (ascii "read sda1: error 5") ≠
      fingerprint (ascii "exited") (ascii "read sdb1: error 28") := by
  have hnear : Near (withoutDigits (ascii "read sda1: error 5"))
      (withoutDigits (ascii "read sdb1: error 28")) :=
    ⟨ascii "read sd", ascii ": error ", ascii "a", ascii "b", by decide, by decide, rfl, by decide⟩
  exact fun heq => absurd ((fingerprint_separates _ hnear).1.mp heq) (by decide)

end SkylineSpeeder.Reports
