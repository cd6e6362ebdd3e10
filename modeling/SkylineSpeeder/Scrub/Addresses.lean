import SkylineSpeeder.Scrub.Runs

/-!
The fifth and the sixth pass: network addresses.

* `scrubIpv4`, `scrubIpv6AndMac`: the code; the second of them splices twice;
* `onIpv4`, `onIpv6`, `onMac`: what becomes of a run of digits and dots, of hexadecimal digits
  and colons, and of hexadecimal digits and dashes;
* `ipv4Ranges_yields`, `ipv6Ranges_yields`, `macRanges_yields`: without a byte inside a
  character the passes give the pieces' text.
-/

namespace SkylineSpeeder.Scrub

open Redact

/-! ### IPv4 -/

def isIpv4Byte (b : UInt8) : Bool := isAsciiDigit b || b = byte '.'

/-- `parts` of `scrub_ipv4`: where each of them starts, and how long it is. -/
def partsFrom (pos : ℕ) : List Str → List (ℕ × ℕ)
  | [] => []
  | part :: parts => (pos, part.length) :: partsFrom (pos + part.length + 1) parts

def isOctet (len : ℕ) : Bool := 1 ≤ len && len ≤ 3

/-- The inner loop of `scrub_ipv4`, over what is left of the parts from `i` on. -/
def ipv4Windows : List (ℕ × ℕ) → List Range
  | p₀ :: p₁ :: p₂ :: p₃ :: rest =>
      if isOctet p₀.2 ∧ isOctet p₁.2 ∧ isOctet p₂.2 ∧ isOctet p₃.2 then
        ⟨p₀.1, p₃.1 + p₃.2, ascii "<ipv4>"⟩ :: ipv4Windows rest
      else ipv4Windows (p₁ :: p₂ :: p₃ :: rest)
  | _ => []

/-- The loop body of `scrub_ipv4`. -/
def ipv4Ranges (text : Str) (start stop : ℕ) : Option (List Range) := do
  let run ← slice text start stop
  some (ipv4Windows (partsFrom start (run.splitOn (byte '.'))))

/-- `scrub_ipv4`. -/
def scrubIpv4 (text : Str) : Option Str := do
  let ranges ← runRanges (ipv4Ranges text) (runs isIpv4Byte 0 text)
  splice text ranges

/-- Parts with a dot between them. -/
def dotted (parts : List Str) : Str := [byte '.'].intercalate parts

/-- The pieces of a run of digits and dots, from its parts. -/
def ipv4Pieces : List Str → List (Piece UInt8)
  | p₀ :: p₁ :: p₂ :: p₃ :: rest =>
      if isOctet p₀.length ∧ isOctet p₁.length ∧ isOctet p₂.length ∧ isOctet p₃.length then
        .cut (dotted [p₀, p₁, p₂, p₃]) (ascii "<ipv4>") ::
          if rest = [] then [] else .keep (byte '.') :: ipv4Pieces rest
      else keeps p₀ ++ .keep (byte '.') :: ipv4Pieces (p₁ :: p₂ :: p₃ :: rest)
  | parts => keeps (dotted parts)

/-- What becomes of a run of digits and dots. -/
def onIpv4 : OnRun := fun _ run _ => ipv4Pieces (run.splitOn (byte '.'))

/-- What `scrub_ipv4` gives. -/
def ipv4 (text : Str) : Str := render (runPieces isIpv4Byte onIpv4 none text)

lemma dotted_cons {part next : Str} {parts : List Str} :
    dotted (part :: next :: parts) = part ++ byte '.' :: dotted (next :: parts) := by
  rw [dotted, List.intercalate_cons_cons, List.append_assoc]
  rfl

lemma dotted_four (p₀ p₁ p₂ p₃ : Str) :
    dotted [p₀, p₁, p₂, p₃] =
      p₀ ++ byte '.' :: (p₁ ++ byte '.' :: (p₂ ++ byte '.' :: p₃)) := by
  rw [dotted_cons, dotted_cons, dotted_cons, dotted, List.intercalate_singleton]

@[simp] lemma source_ipv4Pieces (parts : List Str) : source (ipv4Pieces parts) = dotted parts := by
  induction parts using ipv4Pieces.induct with
  | case1 p₀ p₁ p₂ p₃ rest hall ih =>
      rw [ipv4Pieces, if_pos hall, source_cut, dotted_four]
      cases rest with
      | nil => simp [dotted]
      | cons next rest => simp [ih, dotted_cons]
  | case2 p₀ p₁ p₂ p₃ rest hall ih =>
      rw [ipv4Pieces, if_neg hall, source_append, source_keeps, source_keep, ih, ← dotted_cons]
  | case3 parts hshort =>
      rw [ipv4Pieces]
      · exact source_keeps _
      · exact hshort

lemma length_dotted_four (p₀ p₁ p₂ p₃ : Str) :
    (dotted [p₀, p₁, p₂, p₃]).length =
      p₀.length + 1 + p₁.length + 1 + p₂.length + 1 + p₃.length := by
  rw [dotted_four]
  simp only [List.length_append, List.length_cons]
  omega

/-- The inner loop finds the ranges of the pieces. -/
lemma rangesFrom_ipv4Pieces (pos : ℕ) (parts : List Str) :
    rangesFrom pos (ipv4Pieces parts) = ipv4Windows (partsFrom pos parts) := by
  induction parts using ipv4Pieces.induct generalizing pos with
  | case1 p₀ p₁ p₂ p₃ rest hall ih =>
      have hstop : pos + (dotted [p₀, p₁, p₂, p₃]).length =
          pos + p₀.length + 1 + p₁.length + 1 + p₂.length + 1 + p₃.length := by
        rw [length_dotted_four]
        omega
      rw [ipv4Pieces, if_pos hall, rangesFrom, hstop]
      simp only [partsFrom, ipv4Windows, if_pos hall]
      cases rest with
      | nil => rfl
      | cons next rest =>
          rw [if_neg (List.cons_ne_nil _ _), rangesFrom, ih]
  | case2 p₀ p₁ p₂ p₃ rest hall ih =>
      rw [ipv4Pieces, if_neg hall, rangesFrom_append, rangesFrom_keeps, source_keeps,
        List.nil_append, rangesFrom, ih]
      simp only [partsFrom, ipv4Windows, if_neg hall]
  | case3 parts hshort =>
      have hwindows : ipv4Windows (partsFrom pos parts) = [] := by
        rcases parts with - | ⟨p₀, - | ⟨p₁, - | ⟨p₂, - | ⟨p₃, rest⟩⟩⟩⟩
        · rfl
        · rfl
        · rfl
        · rfl
        · exact (hshort p₀ p₁ p₂ p₃ rest rfl).elim
      rw [hwindows, ipv4Pieces]
      · exact rangesFrom_keeps _ _
      · exact hshort

lemma source_onIpv4 (prev : Option UInt8) (run : Str) (next : Option UInt8) :
    source (onIpv4 prev run next) = run := by
  rw [onIpv4, source_ipv4Pieces, dotted, List.intercalate_splitOn]

/-- A run of a text, as the passes slice it. -/
lemma Solid.slice {front run back : Str} (h : Solid (front ++ (run ++ back))) :
    slice (front ++ (run ++ back)) front.length (front.length + run.length) = some run := by
  refine slice_append (fun b hb => ?_) fun b hb => ?_
  · exact h b (List.mem_append_right _ (List.mem_of_mem_head? hb))
  · exact h b (List.mem_append_right _ (List.mem_append_right _ (List.mem_of_mem_head? hb)))

/-- **The fifth pass**, without a byte inside a character. -/
lemma ipv4Ranges_yields {text : Str} (h : Solid text) :
    runRanges (ipv4Ranges text) (runs isIpv4Byte 0 text) =
        some (rangesFrom 0 (runPieces isIpv4Byte onIpv4 none text)) ∧
      Yields text (rangesFrom 0 (runPieces isIpv4Byte onIpv4 none text)) (ipv4 text) := by
  refine ⟨@runRanges_eq isIpv4Byte onIpv4 (ipv4Ranges text) [] text ?_ source_onIpv4,
    h.yields (source_runPieces source_onIpv4 none text)⟩
  rintro front run back htext - -
  rw [List.nil_append] at htext
  subst htext
  rw [ipv4Ranges, h.slice, onIpv4, rangesFrom_ipv4Pieces]
  rfl

/-! ### IPv6 and MAC -/

def isIpv6Byte (b : UInt8) : Bool := isAsciiHexdigit b || b = byte ':'

/-- `full`, of a run. -/
def IsFull (run : Str) : Prop :=
  4 ≤ (run.splitOn (byte ':')).length ∧
    (run.splitOn (byte ':')).all (fun group => 1 ≤ group.length && group.length ≤ 4) = true

/-- `compressed`, of a run. -/
def IsCompressed (run : Str) : Prop := ascii "::" <:+: run ∧ ¬ ascii ":::" <:+: run

instance (run : Str) : Decidable (IsFull run) := inferInstanceAs (Decidable (_ ∧ _))

instance (run : Str) : Decidable (IsCompressed run) := inferInstanceAs (Decidable (_ ∧ _))

/-- `bounded` of `scrub_ipv6_and_mac`. -/
def Bounded (text : Str) (start stop : ℕ) : Prop :=
  (start = 0 ∨ (text[start - 1]?).any isWord = false) ∧
    (stop = text.length ∨ (text[stop]?).any isWord = false)

instance (text : Str) (start stop : ℕ) : Decidable (Bounded text start stop) :=
  inferInstanceAs (Decidable (_ ∧ _))

/-- The loop body of the first half of `scrub_ipv6_and_mac`. -/
def ipv6Ranges (text : Str) (start stop : ℕ) : Option (List Range) := do
  let stop :=
    if 2 < stop - start ∧ text[stop - 1]? = some (byte ':') ∧ text[stop - 2]? ≠ some (byte ':')
    then stop - 1 else stop
  let run ← slice text start stop
  if Bounded text start stop ∧ (IsFull run ∨ IsCompressed run) then
    some [⟨start, stop, if IsFull run then ascii "<ipv6-or-mac>" else ascii "<ipv6>"⟩]
  else some []

def isMacByte (b : UInt8) : Bool := isAsciiHexdigit b || b = byte '-'

/-- Six groups of two. -/
def IsDashMac (run : Str) : Prop :=
  (run.splitOn (byte '-')).length = 6 ∧
    (run.splitOn (byte '-')).all (fun group => group.length = 2) = true

instance (run : Str) : Decidable (IsDashMac run) := inferInstanceAs (Decidable (_ ∧ _))

/-- The loop body of the second half of `scrub_ipv6_and_mac`. -/
def macRanges (text : Str) (start stop : ℕ) : Option (List Range) := do
  let run ← slice text start stop
  if IsDashMac run then some [⟨start, stop, ascii "<mac>"⟩] else some []

/-- `scrub_ipv6_and_mac`. -/
def scrubIpv6AndMac (text : Str) : Option Str := do
  let ranges ← runRanges (ipv6Ranges text) (runs isIpv6Byte 0 text)
  let text ← splice text ranges
  let ranges ← runRanges (macRanges text) (runs isMacByte 0 text)
  splice text ranges

/-- A run without the one colon at its end that is no part of an address. -/
def colonRun (run : Str) : Str :=
  if 2 < run.length ∧ run.getLast? = some (byte ':') ∧ run.dropLast.getLast? ≠ some (byte ':')
  then run.dropLast else run

/-- That colon. -/
def lastColon (run : Str) : Str := run.drop (colonRun run).length

/-- An address between these bytes. -/
def IsIpv6 (prev : Option UInt8) (run : Str) (next : Option UInt8) : Prop :=
  prev.any isWord = false ∧ (lastColon run ++ next.toList).head?.any isWord = false ∧
    (IsFull (colonRun run) ∨ IsCompressed (colonRun run))

instance (prev : Option UInt8) (run : Str) (next : Option UInt8) :
    Decidable (IsIpv6 prev run next) :=
  inferInstanceAs (Decidable (_ ∧ _ ∧ _))

/-- What becomes of a run of hexadecimal digits and colons. -/
def onIpv6 : OnRun := fun prev run next =>
  if IsIpv6 prev run next then
    .cut (colonRun run)
        (if IsFull (colonRun run) then ascii "<ipv6-or-mac>" else ascii "<ipv6>") ::
      keeps (lastColon run)
  else keeps run

/-- What becomes of a run of hexadecimal digits and dashes. -/
def onMac : OnRun := fun _ run _ =>
  if IsDashMac run then [.cut run (ascii "<mac>")] else keeps run

/-- What the first half of `scrub_ipv6_and_mac` gives. -/
def ipv6 (text : Str) : Str := render (runPieces isIpv6Byte onIpv6 none text)

/-- What the second half gives. -/
def mac (text : Str) : Str := render (runPieces isMacByte onMac none text)

lemma colonRun_append_lastColon (run : Str) : colonRun run ++ lastColon run = run := by
  have hprefix : colonRun run <+: run := by
    rw [colonRun]
    split_ifs
    · exact List.dropLast_prefix run
    · exact List.prefix_rfl
  exact List.prefix_iff_eq_append.mp hprefix

lemma source_onIpv6 (prev : Option UInt8) (run : Str) (next : Option UInt8) :
    source (onIpv6 prev run next) = run := by
  rw [onIpv6]
  split_ifs
  · rw [source_cut, source_keeps, colonRun_append_lastColon]
  · rw [source_cut, source_keeps, colonRun_append_lastColon]
  · exact source_keeps run

lemma source_onMac (prev : Option UInt8) (run : Str) (next : Option UInt8) :
    source (onMac prev run next) = run := by
  rw [onMac]
  split_ifs
  · simp
  · exact source_keeps run

/-- **The second half**, without a byte inside a character. -/
lemma macRanges_yields {text : Str} (h : Solid text) :
    runRanges (macRanges text) (runs isMacByte 0 text) =
        some (rangesFrom 0 (runPieces isMacByte onMac none text)) ∧
      Yields text (rangesFrom 0 (runPieces isMacByte onMac none text)) (mac text) := by
  refine ⟨@runRanges_eq isMacByte onMac (macRanges text) [] text ?_ source_onMac,
    h.yields (source_runPieces source_onMac none text)⟩
  rintro front run back htext - -
  rw [List.nil_append] at htext
  subst htext
  rw [macRanges, h.slice, onMac, Option.bind_eq_bind, Option.bind_some]
  split_ifs
  · rfl
  · rw [rangesFrom_keeps]

/-- The last bytes of a run, in the text. -/
lemma getElem?_run {front run back : Str} {k : ℕ} (h : k ≤ run.length) (hk : 0 < k) :
    (front ++ (run ++ back))[front.length + run.length - k]? = run[run.length - k]? := by
  have hpos : front.length + run.length - k = front.length + (run.length - k) := by omega
  rw [hpos, List.getElem?_append_right (Nat.le_add_right _ _), Nat.add_sub_cancel_left,
    List.getElem?_append_left (by omega)]

/-- The end of a run, as the code moves it. -/
lemma stop_eq {front run back : Str} (hne : run ≠ []) :
    (if 2 < front.length + run.length - front.length ∧
        (front ++ (run ++ back))[front.length + run.length - 1]? = some (byte ':') ∧
        (front ++ (run ++ back))[front.length + run.length - 2]? ≠ some (byte ':')
      then front.length + run.length - 1 else front.length + run.length) =
      front.length + (colonRun run).length := by
  have hpos := List.length_pos_iff.mpr hne
  have hiff : (2 < front.length + run.length - front.length ∧
        (front ++ (run ++ back))[front.length + run.length - 1]? = some (byte ':') ∧
        (front ++ (run ++ back))[front.length + run.length - 2]? ≠ some (byte ':')) ↔
      (2 < run.length ∧ run.getLast? = some (byte ':') ∧
        run.dropLast.getLast? ≠ some (byte ':')) := by
    rw [Nat.add_sub_cancel_left]
    refine and_congr_right fun hlen => ?_
    rw [getElem?_run (by omega) (by decide), getElem?_run (by omega) (by decide),
      List.getLast?_eq_getElem?, List.getLast?_eq_getElem?, List.length_dropLast,
      List.getElem?_dropLast, if_pos (by omega), Nat.sub_sub]
  rw [colonRun]
  by_cases hcond : 2 < run.length ∧ run.getLast? = some (byte ':') ∧
      run.dropLast.getLast? ≠ some (byte ':')
  · rw [if_pos (hiff.mpr hcond), if_pos hcond, List.length_dropLast]
    omega
  · rw [if_neg (mt hiff.mp hcond), if_neg hcond]

/-- What is before and after a run, in the text. -/
lemma bounded_iff (front run back : Str) :
    Bounded (front ++ (run ++ back)) front.length (front.length + (colonRun run).length) ↔
      front.getLast?.any isWord = false ∧
        (lastColon run ++ back.head?.toList).head?.any isWord = false := by
  have hsplit : front ++ (run ++ back) = (front ++ colonRun run) ++ (lastColon run ++ back) := by
    nth_rewrite 1 [← colonRun_append_lastColon run]
    simp
  have hhead : (lastColon run ++ back.head?.toList).head? = (lastColon run ++ back).head? := by
    cases lastColon run with
    | nil =>
        cases back with
        | nil => rfl
        | cons c back => rfl
    | cons c rest => rfl
  have hstop := any_getElem_length (front ++ colonRun run) (lastColon run ++ back)
  rw [← hsplit, List.length_append] at hstop
  rw [Bounded, any_getElem_pred, hstop, hhead]

/-- **The first half**, without a byte inside a character. -/
lemma ipv6Ranges_yields {text : Str} (h : Solid text) :
    runRanges (ipv6Ranges text) (runs isIpv6Byte 0 text) =
        some (rangesFrom 0 (runPieces isIpv6Byte onIpv6 none text)) ∧
      Yields text (rangesFrom 0 (runPieces isIpv6Byte onIpv6 none text)) (ipv6 text) := by
  refine ⟨@runRanges_eq isIpv6Byte onIpv6 (ipv6Ranges text) [] text ?_ source_onIpv6,
    h.yields (source_runPieces source_onIpv6 none text)⟩
  rintro front run back htext hne -
  rw [List.nil_append] at htext
  subst htext
  have hslice : slice (front ++ (run ++ back)) front.length
      (front.length + (colonRun run).length) = some (colonRun run) := by
    have hsplit : front ++ (run ++ back) = front ++ (colonRun run ++ (lastColon run ++ back)) := by
      nth_rewrite 1 [← colonRun_append_lastColon run]
      simp
    rw [hsplit] at h ⊢
    exact h.slice
  have hiff : (Bounded (front ++ (run ++ back)) front.length
        (front.length + (colonRun run).length) ∧
        (IsFull (colonRun run) ∨ IsCompressed (colonRun run))) ↔
      IsIpv6 front.getLast? run back.head? := by
    rw [bounded_iff, and_assoc]
    rfl
  rw [ipv6Ranges, stop_eq hne]
  simp only [hslice, Option.bind_eq_bind, Option.bind_some]
  rw [onIpv6]
  by_cases hcond : IsIpv6 front.getLast? run back.head?
  · rw [if_pos (hiff.mpr hcond), if_pos hcond, rangesFrom, rangesFrom_keeps]
  · rw [if_neg (mt hiff.mp hcond), if_neg hcond, rangesFrom_keeps]

/-! ### What is cut out -/

/-- The marker of the fifth pass. -/
lemma cut_ipv4Pieces {parts : List Str} {segment marker : Str}
    (h : .cut segment marker ∈ ipv4Pieces parts) : marker = ascii "<ipv4>" := by
  induction parts using ipv4Pieces.induct with
  | case1 p₀ p₁ p₂ p₃ rest hall ih =>
      rw [ipv4Pieces, if_pos hall, List.mem_cons] at h
      rcases h with h | h
      · exact (Piece.cut.inj h).2
      · split_ifs at h
        · cases h
        · exact ih ((List.mem_cons.mp h).resolve_left (by simp))
  | case2 p₀ p₁ p₂ p₃ rest hall ih =>
      rw [ipv4Pieces, if_neg hall, List.mem_append, List.mem_cons] at h
      rcases h with h | h | h
      · simp [keeps] at h
      · cases h
      · exact ih h
  | case3 parts hshort =>
      rw [ipv4Pieces] at h
      · simp [keeps] at h
      · exact hshort

lemma cut_onIpv6 {prev next : Option UInt8} {run segment marker : Str}
    (h : .cut segment marker ∈ onIpv6 prev run next) :
    marker = ascii "<ipv6-or-mac>" ∨ marker = ascii "<ipv6>" := by
  rw [onIpv6] at h
  split_ifs at h
  · exact .inl (Piece.cut.inj ((List.mem_cons.mp h).resolve_right (by simp [keeps]))).2
  · exact .inr (Piece.cut.inj ((List.mem_cons.mp h).resolve_right (by simp [keeps]))).2
  · simp [keeps] at h

lemma cut_onMac {prev next : Option UInt8} {run segment marker : Str}
    (h : .cut segment marker ∈ onMac prev run next) : marker = ascii "<mac>" := by
  rw [onMac] at h
  split_ifs at h
  · exact (Piece.cut.inj (List.mem_singleton.mp h)).2
  · simp [keeps] at h

lemma allAscii_ipv4 {text : Str} (h : AllAscii text) : AllAscii (ipv4 text) := by
  refine allAscii_render (by rwa [source_runPieces source_onIpv4]) fun segment marker hcut => ?_
  obtain ⟨prev, run, next, -, -, hrun⟩ := mem_runPieces hcut
  rw [cut_ipv4Pieces hrun]
  decide

lemma allAscii_ipv6 {text : Str} (h : AllAscii text) : AllAscii (ipv6 text) := by
  refine allAscii_render (by rwa [source_runPieces source_onIpv6]) fun segment marker hcut => ?_
  obtain ⟨prev, run, next, -, -, hrun⟩ := mem_runPieces hcut
  rcases cut_onIpv6 hrun with rfl | rfl
  · decide
  · decide

lemma allAscii_mac {text : Str} (h : AllAscii text) : AllAscii (mac text) := by
  refine allAscii_render (by rwa [source_runPieces source_onMac]) fun segment marker hcut => ?_
  obtain ⟨prev, run, next, -, -, hrun⟩ := mem_runPieces hcut
  rw [cut_onMac hrun]
  decide

end SkylineSpeeder.Scrub
