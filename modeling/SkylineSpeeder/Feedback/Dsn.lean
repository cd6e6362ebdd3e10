import SkylineSpeeder.Machine.Cut
import SkylineSpeeder.Machine.Ere

/-!
The DSN that reports are sent to, as the two senders read it: `Dsn::parse` of ssctl and
`feedback_dsn` of install.sh.

* `Dsn.parse`: the first, which splits;
* `feedbackDsn`, `ShellReads`: the second, a regular expression;
* `Pieces`, `parse_eq_some_iff`, `shellReads_iff`: what each takes, piece by piece;
* `Slip`: the texts that only the first takes: no name before a port, or an empty path;
* `dsn_read_alike_iff`: the two read a text alike if and only if it is no such slip.
-/

namespace SkylineSpeeder.Feedback

open Text Ere

/-! ### The two readers -/

/-- `u8::is_ascii_digit`, and `char::is_ascii_digit`. -/
def isAsciiDigit (c : Char) : Bool := '0' ≤ c && c ≤ '9'

/-- `char::is_ascii_alphanumeric`. -/
def isAsciiAlphanumeric (c : Char) : Bool :=
  ('A' ≤ c && c ≤ 'Z') || ('a' ≤ c && c ≤ 'z') || isAsciiDigit c

/-- `is_hex` of `Dsn::parse`. -/
def isHex (c : Char) : Bool := isAsciiDigit c || ('a' ≤ c && c ≤ 'f')

/-- `str::len`. -/
def utf8Len (text : List Char) : ℕ := (text.map Char.utf8Size).sum

structure Dsn where
  publicKey : List Char
  endpoint : List Char
  deriving DecidableEq

/-- The characters of a host: those of its name, and the colon before a port. -/
def isHostChar (c : Char) : Bool := isAsciiAlphanumeric c || c = '.' || c = '-' || c = ':'

/-- The characters of a part of a path. -/
def isPathChar (c : Char) : Bool := isAsciiAlphanumeric c || c = '.' || c = '_' || c = '-'

/-- `host_ok`. -/
def hostOk (host : List Char) : Bool :=
  host ≠ [] &&
    (match splitOnce ':' host with
      | none => true
      | some (_, port) => port ≠ [] && port.all isAsciiDigit) &&
    host.all isHostChar

/-- `path_ok`. -/
def pathOk (path : List Char) : Bool :=
  path = [] || (path.splitOn '/').all fun part => part ≠ [] && part.all isPathChar

/-- Both senders' endpoint. -/
def endpointOf (host path project : List Char) : List Char :=
  "https://".toList ++ host ++ path ++ "/api/".toList ++ project ++ "/envelope/".toList

/-- `Dsn::parse`, from `valid` on. -/
def Dsn.validated (key host path project : List Char) : Option Dsn :=
  let valid := utf8Len key = 32 && key.all isHex && hostOk host && pathOk path && project ≠ [] &&
    project.all isAsciiDigit
  let path := if path = [] then [] else '/' :: path
  if valid then some ⟨key, endpointOf host path project⟩ else none

/-- `Dsn::parse`. -/
def Dsn.parse (dsn : List Char) : Option Dsn := do
  let rest ← cutFront "https://".toList dsn
  let (key, rest) ← splitOnce '@' rest
  let (location, project) ← rsplitOnce '/' rest
  let (host, path) := (splitOnce '/' location).getD (location, [])
  Dsn.validated key host path project

/-- `[A-Za-z0-9.-]`. -/
def isNameChar (c : Char) : Bool := isAsciiAlphanumeric c || c = '.' || c = '-'

/-- The expression of `feedback_dsn`:
`^https://([0-9a-f]{32})@([A-Za-z0-9.-]+(:[0-9]+)?)((/[A-Za-z0-9._-]+)*)/([0-9]+)$`. -/
def feedbackDsn : Ere :=
  .cat (.lit "https://".toList) <|
  .cat (.group 1 (.times 32 (.cls isHex))) <|
  .cat (.lit "@".toList) <|
  .cat (.group 2 (.cat (plus (.cls isNameChar))
    (.opt (.group 3 (.cat (.lit ":".toList) (plus (.cls isAsciiDigit))))))) <|
  .cat (.group 4 (.star (.group 5 (.cat (.lit "/".toList) (plus (.cls isPathChar)))))) <|
  .cat (.lit "/".toList) (.group 6 (plus (.cls isAsciiDigit)))

/-- `feedback_dsn` takes the text, for this key and this endpoint. -/
def ShellReads (text : List Char) (dsn : Dsn) : Prop :=
  ∃ caps, Matches feedbackDsn text caps ∧ dsn.publicKey = capture caps 1 ∧
    dsn.endpoint = endpointOf (capture caps 2) (capture caps 4) (capture caps 6)

/-! ### The pieces of a DSN -/

/-- Some digits. -/
def Digits (text : List Char) : Prop := text ≠ [] ∧ ∀ c ∈ text, isAsciiDigit c = true

/-- A port with its colon, or nothing. -/
def PortText (text : List Char) : Prop := text = [] ∨ ∃ port, text = ':' :: port ∧ Digits port

/-- A host: a name and perhaps a port. -/
def HostText (host : List Char) : Prop :=
  ∃ name port, host = name ++ port ∧ name ≠ [] ∧ (∀ c ∈ name, isNameChar c = true) ∧ PortText port

/-- A part of a path. -/
def PartText (part : List Char) : Prop := part ≠ [] ∧ ∀ c ∈ part, isPathChar c = true

/-- A path: parts, with a slash before each. -/
def PathText (path : List Char) : Prop :=
  ∃ parts : List (List Char), path = parts.flatMap (fun part => '/' :: part) ∧
    ∀ part ∈ parts, PartText part

/-- A text made of a key, a host, what is between the host and the last slash, and an id. -/
structure Pieces (text key host path project : List Char) : Prop where
  text_eq : text = "https://".toList ++ key ++ '@' :: (host ++ path ++ '/' :: project)
  key_length : key.length = 32
  key_hex : ∀ c ∈ key, isHex c = true
  project_digits : Digits project

/-- A character of another kind is not among some of one kind. -/
lemma not_mem_of_forall {p : Char → Bool} {text : List Char} (h : ∀ c ∈ text, p c = true)
    {c : Char} (hc : p c = false) : c ∉ text := by
  intro hmem
  rw [h c hmem] at hc
  cases hc

lemma utf8Len_of_hex {key : List Char} (h : ∀ c ∈ key, isHex c = true) :
    utf8Len key = key.length := by
  induction key with
  | nil => rfl
  | cons c key ih =>
      have hc := h c (by simp)
      have hsize : c.utf8Size = 1 := by
        have hle : c.val ≤ 0x7f := by
          simp only [isHex, isAsciiDigit, Bool.or_eq_true, Bool.and_eq_true, decide_eq_true_eq,
            Char.le_def] at hc
          have h9 : ('9' : Char).val = 57 := rfl
          have hf : ('f' : Char).val = 102 := rfl
          rw [h9, hf, UInt32.le_iff_toNat_le, UInt32.le_iff_toNat_le, UInt32.le_iff_toNat_le,
            UInt32.le_iff_toNat_le] at hc
          rw [UInt32.le_iff_toNat_le]
          simp only [UInt32.reduceToNat] at hc ⊢
          omega
        exact Char.utf8Size_eq_one_iff.mpr hle
      have hrest := ih fun d hd => h d (List.mem_cons_of_mem c hd)
      rw [utf8Len] at hrest ⊢
      rw [List.map_cons, List.sum_cons, hsize, hrest, List.length_cons, Nat.add_comm]

/-- **The host** of `Dsn::parse`: a name and perhaps a port, or a port alone. -/
lemma hostOk_iff {host : List Char} :
    hostOk host = true ↔ HostText host ∨ ∃ port, host = ':' :: port ∧ Digits port := by
  have hname : ∀ c, isNameChar c = true → isHostChar c = true := by
    intro c hc
    simp only [isNameChar, isHostChar, Bool.or_eq_true] at hc ⊢
    exact .inl hc
  have hdigit : ∀ c, isAsciiDigit c = true → isHostChar c = true := by
    intro c hc
    simp [isHostChar, isAsciiAlphanumeric, hc]
  rw [hostOk, Bool.and_eq_true, Bool.and_eq_true, decide_eq_true_eq, List.all_eq_true]
  constructor
  · rintro ⟨⟨hne, hport⟩, hall⟩
    have hback : ∀ c ∈ host, c ≠ ':' → isNameChar c = true := by
      intro c hc hcolon
      have := hall c hc
      simp only [isHostChar, Bool.or_eq_true, decide_eq_true_eq] at this
      simp only [isNameChar, Bool.or_eq_true, decide_eq_true_eq]
      exact this.resolve_right hcolon
    -- a name alone, a port alone, or both
    cases hsplit : splitOnce ':' host with
    | none =>
        have hnot := splitOnce_eq_none_iff.mp hsplit
        refine .inl ⟨host, [], by simp, hne, fun c hc => hback c hc ?_, .inl rfl⟩
        rintro rfl
        exact hnot hc
    | some parts =>
        obtain ⟨name, port⟩ := parts
        obtain ⟨rfl, hnot⟩ := splitOnce_eq_some_iff.mp hsplit
        simp only [hsplit, Bool.and_eq_true, decide_eq_true_eq, List.all_eq_true] at hport
        cases name with
        | nil => exact .inr ⟨port, rfl, hport⟩
        | cons c name =>
            refine .inl ⟨c :: name, ':' :: port, rfl, by simp, fun d hd => ?_,
              .inr ⟨port, rfl, hport⟩⟩
            refine hback d (List.mem_append_left _ hd) ?_
            rintro rfl
            exact hnot hd
  · rintro (⟨name, port, rfl, hne, hall, rfl | ⟨port, rfl, hport⟩⟩ | ⟨port, rfl, hport⟩)
    · have hnot : ':' ∉ name ++ [] := by
        rw [List.append_nil]
        exact not_mem_of_forall hall (by decide)
      rw [splitOnce_eq_none_iff.mpr hnot]
      refine ⟨⟨by simpa using hne, rfl⟩, fun c hc => hname c (hall c ?_)⟩
      simpa using hc
    · have hsplit : splitOnce ':' (name ++ ':' :: port) = some (name, port) :=
        splitOnce_eq_some_iff.mpr ⟨rfl, not_mem_of_forall hall (by decide)⟩
      rw [hsplit]
      refine ⟨⟨by simp, by simpa [Digits] using hport⟩, fun c hc => ?_⟩
      rcases List.mem_append.mp hc with hc | hc
      · exact hname c (hall c hc)
      · rcases List.mem_cons.mp hc with rfl | hc
        · decide
        · exact hdigit c (hport.2 c hc)
    · have hsplit : splitOnce ':' (':' :: port) = some ([], port) :=
        splitOnce_eq_some_iff.mpr ⟨rfl, by simp⟩
      rw [hsplit]
      refine ⟨⟨by simp, by simpa [Digits] using hport⟩, fun c hc => ?_⟩
      rcases List.mem_cons.mp hc with rfl | hc
      · decide
      · exact hdigit c (hport.2 c hc)

/-- Parts with a slash before each, and parts with a slash between them. -/
lemma flatMap_slash {parts : List (List Char)} (h : parts ≠ []) :
    parts.flatMap (fun part => '/' :: part) = '/' :: ['/'].intercalate parts := by
  induction parts with
  | nil => exact absurd rfl h
  | cons part parts ih =>
      cases parts with
      | nil => simp [List.intercalate_singleton]
      | cons next parts =>
          rw [List.flatMap_cons, ih (by simp), List.intercalate_cons_cons]
          simp

/-- **The path** of `Dsn::parse`: nothing, or parts after slashes. -/
lemma pathOk_iff {path : List Char} :
    pathOk path = true ↔ path = [] ∨ PathText ('/' :: path) := by
  have hparts : ∀ parts : List (List Char),
      (parts.all fun part => part ≠ [] && part.all isPathChar) = true ↔
        ∀ part ∈ parts, PartText part := by
    intro parts
    simp [PartText, List.all_eq_true]
  rw [pathOk, Bool.or_eq_true, decide_eq_true_eq, hparts]
  constructor
  · rintro (rfl | hall)
    · exact .inl rfl
    · refine .inr ⟨path.splitOn '/', ?_, hall⟩
      rw [flatMap_slash (List.splitOn_ne_nil _ _), List.intercalate_splitOn]
  · rintro (rfl | ⟨parts, heq, hall⟩)
    · exact .inl rfl
    · have hne : parts ≠ [] := by
        rintro rfl
        cases heq
      rw [flatMap_slash hne] at heq
      obtain rfl := (List.cons.inj heq).2
      rw [List.splitOn_intercalate '/' _ hne]
      · exact .inr hall
      · exact fun part hpart => not_mem_of_forall (hall part hpart).2 (by decide)

/-! ### What each reader takes -/

section Readers

variable {text key host path project : List Char}

/-- What `Dsn::parse` splits a text into. -/
lemma Pieces.splits (h : Pieces text key host path project) (hhost : '/' ∉ host)
    (hpath : path = [] ∨ ∃ rest, path = '/' :: rest) :
    cutFront "https://".toList text = some (key ++ '@' :: (host ++ path ++ '/' :: project)) ∧
      splitOnce '@' (key ++ '@' :: (host ++ path ++ '/' :: project)) =
        some (key, host ++ path ++ '/' :: project) ∧
      rsplitOnce '/' (host ++ path ++ '/' :: project) = some (host ++ path, project) ∧
      (splitOnce '/' (host ++ path)).getD (host ++ path, []) = (host, path.tail) := by
  refine ⟨?_, ?_, ?_, ?_⟩
  · rw [cutFront_eq_some_iff, h.text_eq, List.append_assoc]
  · exact splitOnce_eq_some_iff.mpr ⟨rfl, not_mem_of_forall h.key_hex (by decide)⟩
  · exact rsplitOnce_eq_some_iff.mpr
      ⟨rfl, not_mem_of_forall h.project_digits.2 (by decide)⟩
  · rcases hpath with rfl | ⟨rest, rfl⟩
    · rw [List.append_nil, splitOnce_eq_none_iff.mpr hhost]
      rfl
    · rw [splitOnce_eq_some_iff.mpr ⟨rfl, hhost⟩]
      rfl

/-- What is between the host and the last slash, for `Dsn::parse`: a path, or a slash. -/
def LoosePath (path : List Char) : Prop := path = ['/'] ∨ PathText path

lemma LoosePath.cases (h : LoosePath path) : path = [] ∨ ∃ rest, path = '/' :: rest := by
  rcases h with rfl | ⟨parts, rfl, -⟩
  · exact .inr ⟨[], rfl⟩
  · cases parts with
    | nil => exact .inl rfl
    | cons part parts => exact .inr ⟨_, rfl⟩

/-- A slash alone is no path. -/
lemma not_pathText_slash : ¬ PathText ['/'] := by
  rintro ⟨parts, heq, hall⟩
  cases parts with
  | nil => cases heq
  | cons part parts =>
      rw [List.flatMap_cons, List.cons_append] at heq
      have hnil := (List.append_eq_nil_iff.mp (List.cons.inj heq).2.symm).1
      exact (hall part (by simp)).1 hnil

lemma slash_not_mem_host (h : hostOk host = true) : '/' ∉ host := by
  rw [hostOk, Bool.and_eq_true, List.all_eq_true] at h
  exact not_mem_of_forall h.2 (by decide)

/-- What is checked of the pieces. -/
lemma validated_eq_some_iff {dsn : Dsn} :
    Dsn.validated key host path project = some dsn ↔
      (key.length = 32 ∧ ∀ c ∈ key, isHex c = true) ∧ hostOk host = true ∧ pathOk path = true ∧
      Digits project ∧
      dsn = ⟨key, endpointOf host (if path = [] then [] else '/' :: path) project⟩ := by
  have hkey : (utf8Len key = 32 ∧ ∀ c ∈ key, isHex c = true) ↔
      key.length = 32 ∧ ∀ c ∈ key, isHex c = true :=
    and_congr_left fun hhex => by rw [utf8Len_of_hex hhex]
  rw [← hkey, Dsn.validated]
  constructor
  · intro h
    obtain ⟨hvalid, h⟩ := Option.ite_none_right_eq_some.mp h
    simp only [Bool.and_eq_true, decide_eq_true_eq, List.all_eq_true] at hvalid
    obtain ⟨⟨⟨⟨hkey, hhost⟩, hpath⟩, hne⟩, hdigits⟩ := hvalid
    exact ⟨hkey, hhost, hpath, ⟨hne, hdigits⟩, (Option.some.inj h).symm⟩
  · rintro ⟨hkey, hhost, hpath, hproject, rfl⟩
    refine Option.ite_none_right_eq_some.mpr ⟨?_, rfl⟩
    simp only [Bool.and_eq_true, decide_eq_true_eq, List.all_eq_true]
    exact ⟨⟨⟨⟨hkey, hhost⟩, hpath⟩, hproject.1⟩, hproject.2⟩

/-- What is between the host and the last slash, with the slash that was cut off. -/
lemma loosePath_iff {rest : List Char} : LoosePath ('/' :: rest) ↔ pathOk rest = true := by
  rw [pathOk_iff, LoosePath]
  simp

/-- **What `Dsn::parse` takes**, and what it makes of it. -/
lemma parse_eq_some_iff {dsn : Dsn} :
    Dsn.parse text = some dsn ↔ ∃ key host path project, Pieces text key host path project ∧
      hostOk host = true ∧ LoosePath path ∧
      dsn = ⟨key, endpointOf host (if path = ['/'] then [] else path) project⟩ := by
  constructor
  · intro h
    simp only [Dsn.parse, Option.bind_eq_bind, Option.bind_eq_some_iff] at h
    obtain ⟨rest, hrest, ⟨key, rest'⟩, hkey, ⟨location, project⟩, hlocation, h⟩ := h
    obtain ⟨rfl, -⟩ := splitOnce_eq_some_iff.mp hkey
    obtain ⟨rfl, -⟩ := rsplitOnce_eq_some_iff.mp hlocation
    have htext := cutFront_eq_some_iff.mp hrest
    rw [← List.append_assoc] at htext
    -- with a path and without one
    cases hsplit : splitOnce '/' location with
    | none =>
        rw [hsplit] at h
        obtain ⟨⟨hlength, hhex⟩, hhost, -, hproject, rfl⟩ := validated_eq_some_iff.mp h
        exact ⟨key, location, [], project, ⟨by simpa using htext, hlength, hhex, hproject⟩, hhost,
          .inr ⟨[], rfl, by simp⟩, rfl⟩
    | some parts =>
        obtain ⟨host, path⟩ := parts
        rw [hsplit] at h
        obtain ⟨⟨hlength, hhex⟩, hhost, hpath, hproject, rfl⟩ := validated_eq_some_iff.mp h
        obtain ⟨rfl, -⟩ := splitOnce_eq_some_iff.mp hsplit
        refine ⟨key, host, '/' :: path, project, ⟨htext, hlength, hhex, hproject⟩, hhost,
          loosePath_iff.mpr hpath, ?_⟩
        by_cases hnil : path = []
        · simp [hnil]
        · simp [hnil]
  · rintro ⟨key, host, path, project, h, hhost, hpath, rfl⟩
    obtain ⟨hcut, hkey, hlocation, hsplit⟩ := h.splits (slash_not_mem_host hhost) hpath.cases
    have hvalidated : Dsn.validated key host path.tail project =
        some ⟨key, endpointOf host (if path = ['/'] then [] else path) project⟩ := by
      rw [validated_eq_some_iff]
      refine ⟨⟨h.key_length, h.key_hex⟩, hhost, ?_, h.project_digits, ?_⟩
      · rcases hpath.cases with rfl | ⟨rest, rfl⟩
        · rfl
        · exact loosePath_iff.mp hpath
      · rcases hpath.cases with rfl | ⟨rest, rfl⟩
        · rfl
        · by_cases hnil : rest = []
          · simp [hnil]
          · simp [hnil]
    simp only [Dsn.parse, hcut, hkey, hlocation, hsplit, Option.bind_eq_bind, Option.bind_some]
    exact hvalidated

/-- A path, as the expression repeats it. -/
lemma matches_path {caps : Captures} :
    Matches (.star (.group 5 (.cat (.lit "/".toList) (plus (.cls isPathChar))))) path caps ↔
      ∃ parts : List (List Char), path = parts.flatMap (fun part => '/' :: part) ∧
        (∀ part ∈ parts, PartText part) ∧ caps = parts.map fun part => (5, '/' :: part) := by
  constructor
  · intro h
    generalize hre : Ere.star _ = re at h
    induction h with
    | starNil => exact ⟨[], rfl, by simp, rfl⟩
    | starCons h _ _ ih =>
        cases hre
        obtain ⟨parts, rfl, hall, rfl⟩ := ih rfl
        obtain ⟨caps', rfl, hgroup⟩ := matches_group.mp h
        obtain ⟨s₁, s₂, caps₁, caps₂, rfl, rfl, hslash, hpart⟩ := matches_cat.mp hgroup
        obtain ⟨rfl, rfl⟩ := matches_lit.mp hslash
        obtain ⟨hne, hchars, rfl⟩ := matches_plus_cls.mp hpart
        refine ⟨s₂ :: parts, rfl, ?_, rfl⟩
        intro part hpart
        rcases List.mem_cons.mp hpart with rfl | hpart
        · exact ⟨hne, hchars⟩
        · exact hall part hpart
    | cls | lit | cat | optNone | optSome | timesZero | timesSucc | group => cases hre
  · rintro ⟨parts, rfl, hall, rfl⟩
    induction parts with
    | nil => exact .starNil
    | cons part parts ih =>
        have hpart : Matches (plus (.cls isPathChar)) part [] :=
          matches_plus_cls.mpr ⟨(hall part (by simp)).1, (hall part (by simp)).2, rfl⟩
        have hslash : Matches (.lit "/".toList) ['/'] [] := .lit
        exact ((hslash.cat hpart).group).starCons
          (ih fun part' hmem => hall part' (List.mem_cons_of_mem part hmem))

/-- A host, as the expression has it; the only group inside is that of the port. -/
lemma hostText_of_matches {caps : Captures} (h : Matches (.cat (plus (.cls isNameChar))
      (.opt (.group 3 (.cat (.lit ":".toList) (plus (.cls isAsciiDigit)))))) host caps) :
    HostText host ∧ ∀ e ∈ caps, e.1 = 3 := by
  obtain ⟨name, port, caps₁, caps₂, rfl, rfl, hname, hopt⟩ := matches_cat.mp h
  obtain ⟨hne, hchars, rfl⟩ := matches_plus_cls.mp hname
  rcases matches_opt.mp hopt with ⟨rfl, rfl⟩ | hgroup
  · exact ⟨⟨name, [], rfl, hne, hchars, .inl rfl⟩, by simp⟩
  · obtain ⟨caps', rfl, hport⟩ := matches_group.mp hgroup
    obtain ⟨colon, digits, caps₃, caps₄, rfl, rfl, hcolon, hdigits⟩ := matches_cat.mp hport
    obtain ⟨rfl, rfl⟩ := matches_lit.mp hcolon
    obtain ⟨hne', hall, rfl⟩ := matches_plus_cls.mp hdigits
    exact ⟨⟨name, _, rfl, hne, hchars, .inr ⟨digits, rfl, hne', hall⟩⟩, by simp⟩

lemma HostText.matches (h : HostText host) : ∃ caps, Matches (.cat (plus (.cls isNameChar))
    (.opt (.group 3 (.cat (.lit ":".toList) (plus (.cls isAsciiDigit)))))) host caps := by
  obtain ⟨name, port, rfl, hne, hchars, hport⟩ := h
  have hname : Matches (plus (.cls isNameChar)) name [] := matches_plus_cls.mpr ⟨hne, hchars, rfl⟩
  rcases hport with rfl | ⟨digits, rfl, hne', hdigits⟩
  · exact ⟨_, hname.cat .optNone⟩
  · have hdigits : Matches (plus (.cls isAsciiDigit)) digits [] :=
      matches_plus_cls.mpr ⟨hne', hdigits, rfl⟩
    have hcolon : Matches (.lit ":".toList) [':'] [] := .lit
    exact ⟨_, hname.cat (.optSome (hcolon.cat hdigits).group)⟩

/-- What the groups hold once the expression has matched. -/
lemma capture_pieces {caps hostCaps pathCaps : Captures}
    (hcaps : caps =
      (1, key) :: (2, host) :: (hostCaps ++ (4, path) :: (pathCaps ++ [(6, project)])))
    (hhost : ∀ e ∈ hostCaps, e.1 = 3) (hpath : ∀ e ∈ pathCaps, e.1 = 5) :
    capture caps 1 = key ∧ capture caps 2 = host ∧ capture caps 4 = path ∧
      capture caps 6 = project := by
  have hnum : ∀ n, n ≠ 3 → n ≠ 5 → n ≠ 6 →
      ∀ e ∈ hostCaps ++ (4, path) :: (pathCaps ++ [(6, project)]), n ≠ 4 → e.1 ≠ n := by
    intro n h3 h5 h6 e he h4
    simp only [List.mem_append, List.mem_cons, List.not_mem_nil, or_false] at he
    rcases he with he | rfl | he | rfl
    · exact hhost e he ▸ h3.symm
    · exact h4.symm
    · exact hpath e he ▸ h5.symm
    · exact h6.symm
  subst hcaps
  refine ⟨?_, ?_, ?_, ?_⟩
  · refine capture_append_cons [] fun e he => ?_
    rcases List.mem_cons.mp he with rfl | he
    · simp
    · exact hnum 1 (by simp) (by simp) (by simp) e he (by simp)
  · refine capture_append_cons [(1, key)] fun e he => ?_
    exact hnum 2 (by simp) (by simp) (by simp) e he (by simp)
  · refine capture_append_cons ((1, key) :: (2, host) :: hostCaps) fun e he => ?_
    rcases List.mem_append.mp he with he | he
    · simp [hpath e he]
    · simp [List.mem_singleton.mp he]
  · rw [show (1, key) :: (2, host) :: (hostCaps ++ (4, path) :: (pathCaps ++ [(6, project)])) =
      ((1, key) :: (2, host) :: (hostCaps ++ (4, path) :: pathCaps)) ++ [(6, project)] by simp]
    exact capture_append_cons _ (by simp)

lemma five_of_mem_map (parts : List (List Char)) :
    ∀ e ∈ parts.map fun part => (5, '/' :: part), e.1 = 5 := by
  simp

/-- **What the expression takes**, and what is made of its groups. -/
lemma shellReads_iff {dsn : Dsn} :
    ShellReads text dsn ↔ ∃ key host path project, Pieces text key host path project ∧
      HostText host ∧ PathText path ∧ dsn = ⟨key, endpointOf host path project⟩ := by
  constructor
  · rintro ⟨caps, h, hkey, hendpoint⟩
    -- the expression is taken apart from the left
    obtain ⟨_, _, _, _, rfl, rfl, hscheme, h₁⟩ := matches_cat.mp h
    obtain ⟨rfl, rfl⟩ := matches_lit.mp hscheme
    obtain ⟨key, _, _, _, rfl, rfl, hgroup₁, h₂⟩ := matches_cat.mp h₁
    obtain ⟨_, rfl, htimes⟩ := matches_group.mp hgroup₁
    obtain ⟨hlength, hhex, rfl⟩ := matches_times_cls.mp htimes
    obtain ⟨_, _, _, _, rfl, rfl, hat, h₃⟩ := matches_cat.mp h₂
    obtain ⟨rfl, rfl⟩ := matches_lit.mp hat
    obtain ⟨host, _, _, _, rfl, rfl, hgroup₂, h₄⟩ := matches_cat.mp h₃
    obtain ⟨hostCaps, rfl, hname⟩ := matches_group.mp hgroup₂
    obtain ⟨hhost, hthree⟩ := hostText_of_matches hname
    obtain ⟨path, _, _, _, rfl, rfl, hgroup₄, h₅⟩ := matches_cat.mp h₄
    obtain ⟨pathCaps, rfl, hstar⟩ := matches_group.mp hgroup₄
    obtain ⟨parts, hparts, hall, rfl⟩ := matches_path.mp hstar
    obtain ⟨_, project, _, _, rfl, rfl, hslash, h₆⟩ := matches_cat.mp h₅
    obtain ⟨rfl, rfl⟩ := matches_lit.mp hslash
    obtain ⟨_, rfl, hplus⟩ := matches_group.mp h₆
    obtain ⟨hne, hdigits, rfl⟩ := matches_plus_cls.mp hplus
    -- the last capture of each group
    obtain ⟨hc₁, hc₂, hc₄, hc₆⟩ := capture_pieces rfl hthree (five_of_mem_map parts)
    refine ⟨key, host, path, project, ⟨by simp, hlength, hhex, hne, hdigits⟩, hhost,
      ⟨parts, hparts, hall⟩, ?_⟩
    simp only [List.nil_append, List.cons_append] at hkey hendpoint
    rw [hc₁] at hkey
    rw [hc₂, hc₄, hc₆] at hendpoint
    rw [← hkey, ← hendpoint]
  · rintro ⟨key, host, path, project, h, hhost, ⟨parts, hparts, hall⟩, rfl⟩
    obtain ⟨hostCaps, hname⟩ := hhost.matches
    obtain ⟨-, hthree⟩ := hostText_of_matches hname
    have hkey : Matches (.times 32 (.cls isHex)) key [] :=
      matches_times_cls.mpr ⟨h.key_length, h.key_hex, rfl⟩
    have hpath := matches_path.mpr ⟨parts, hparts, hall, rfl⟩
    have hproject : Matches (plus (.cls isAsciiDigit)) project [] :=
      matches_plus_cls.mpr ⟨h.project_digits.1, h.project_digits.2, rfl⟩
    obtain ⟨hc₁, hc₂, hc₄, hc₆⟩ :=
      @capture_pieces key host path project _ _ _ rfl hthree (five_of_mem_map parts)
    -- and put together again
    have hmatch : Matches feedbackDsn
        ("https://".toList ++ (key ++ (['@'] ++ (host ++ (path ++ (['/'] ++ project))))))
        ([] ++ ([(1, key)] ++ ([] ++ ((2, host) :: hostCaps ++
          ((4, path) :: parts.map (fun part => (5, '/' :: part)) ++ ([] ++ [(6, project)])))))) :=
      .cat .lit (.cat hkey.group (.cat .lit (.cat hname.group (.cat hpath.group
        (.cat .lit hproject.group)))))
    refine ⟨_, ?_, hc₁.symm, ?_⟩
    · convert hmatch using 1
      · rw [h.text_eq]
        simp only [List.append_assoc, List.cons_append, List.nil_append]
      · simp only [List.cons_append, List.nil_append]
    · rw [hc₂, hc₄, hc₆]

end Readers

/-! ### Where the two agree -/

section Agree

variable {text key host path project key' host' path' project' : List Char}

/-- A text has at most one set of pieces. -/
lemma Pieces.unique (h : Pieces text key host path project)
    (h' : Pieces text key' host' path' project') (hhost : '/' ∉ host) (hhost' : '/' ∉ host')
    (hpath : path = [] ∨ ∃ rest, path = '/' :: rest)
    (hpath' : path' = [] ∨ ∃ rest, path' = '/' :: rest) :
    host = host' ∧ path = path' := by
  obtain ⟨hcut, hat, hlast, hfirst⟩ := h.splits hhost hpath
  obtain ⟨hcut', hat', hlast', hfirst'⟩ := h'.splits hhost' hpath'
  have hrest := Option.some.inj (hcut.symm.trans hcut')
  rw [hrest, hat'] at hat
  have hlocation := (Prod.mk.inj (Option.some.inj hat)).2
  rw [← hlocation, hlast'] at hlast
  have hwhole := (Prod.mk.inj (Option.some.inj hlast)).1
  rw [← hwhole, hfirst'] at hfirst
  have heq := (Prod.mk.inj hfirst).1
  refine ⟨heq.symm, ?_⟩
  rw [heq] at hwhole
  exact (List.append_cancel_left hwhole).symm

/-- Nothing stands before the port, or nothing stands between two slashes before the id. -/
def Slip (text : List Char) : Prop :=
  ∃ key host path project, Pieces text key host path project ∧ hostOk host = true ∧
    LoosePath path ∧ (host.head? = some ':' ∨ path = ['/'])

lemma HostText.head_ne (h : HostText host) : host.head? ≠ some ':' := by
  obtain ⟨name, port, rfl, hne, hchars, -⟩ := h
  cases name with
  | nil => exact absurd rfl hne
  | cons c name =>
      intro hc
      obtain rfl := Option.some.inj hc
      have hcolon := hchars ':' (by simp)
      revert hcolon
      decide

/-- The expression does not take what `Dsn::parse` takes of a slip. -/
lemma Slip.not_alike (h : Slip text) :
    ¬ ∀ dsn, Dsn.parse text = some dsn ↔ ShellReads text dsn := by
  intro halike
  obtain ⟨key, host, path, project, h, hhost, hpath, hslip⟩ := h
  have hparse := parse_eq_some_iff.mpr ⟨key, host, path, project, h, hhost, hpath, rfl⟩
  obtain ⟨_, host', path', _, h', hhost', hpath', -⟩ := shellReads_iff.mp ((halike _).mp hparse)
  have hok' := hostOk_iff.mpr (.inl hhost')
  have hloose' : LoosePath path' := .inr hpath'
  obtain ⟨rfl, rfl⟩ := h.unique h' (slash_not_mem_host hhost) (slash_not_mem_host hok')
    hpath.cases hloose'.cases
  rcases hslip with hcolon | rfl
  · exact hhost'.head_ne hcolon
  · exact not_pathText_slash hpath'

/-- **Both senders read a text alike** (the same key and the same endpoint, or neither takes
it) if and only if it is not the slip of a host without a name or of an empty path. -/
theorem dsn_read_alike_iff (text : List Char) :
    (∀ dsn, Dsn.parse text = some dsn ↔ ShellReads text dsn) ↔ ¬ Slip text := by
  constructor
  · exact fun halike hslip => hslip.not_alike halike
  · intro hslip dsn
    rw [parse_eq_some_iff, shellReads_iff]
    constructor
    · rintro ⟨key, host, path, project, h, hhost, hpath, rfl⟩
      have hne : path ≠ ['/'] := fun heq =>
        hslip ⟨key, host, path, project, h, hhost, hpath, .inr heq⟩
      have hname : HostText host := by
        rcases hostOk_iff.mp hhost with hname | ⟨port, rfl, -⟩
        · exact hname
        · exact absurd ⟨key, _, path, project, h, hhost, hpath, .inl rfl⟩ hslip
      exact ⟨key, host, path, project, h, hname, hpath.resolve_left hne, by rw [if_neg hne]⟩
    · rintro ⟨key, host, path, project, h, hhost, hpath, rfl⟩
      have hne : path ≠ ['/'] := by
        rintro rfl
        exact not_pathText_slash hpath
      exact ⟨key, host, path, project, h, hostOk_iff.mpr (.inl hhost), .inr hpath,
        by rw [if_neg hne]⟩

/-- A DSN with a port and no host name: only `Dsn::parse` takes it. -/
theorem dsn_without_name_not_alike :
    ¬ ∀ dsn, Dsn.parse "https://0123456789abcdef0123456789abcdef@:80/7".toList = some dsn ↔
      ShellReads "https://0123456789abcdef0123456789abcdef@:80/7".toList dsn := by
  refine Slip.not_alike ⟨"0123456789abcdef0123456789abcdef".toList, ":80".toList, [], ['7'],
    ⟨by decide, by decide, List.all_eq_true.mp (by decide), by simp,
      List.all_eq_true.mp (by decide)⟩, by decide,
    .inr ⟨[], rfl, by simp⟩, .inl rfl⟩

end Agree

end SkylineSpeeder.Feedback
