import Mathlib.Data.List.Sort
import SkylineSpeeder.Machine.Cut
import SkylineSpeeder.Qdisc.Guard

/-!
The connections of `ssctl flows`: `flows.rs` of the daemon, which reads what `ss -tin` prints.

* `step`, `finish`, `applyInfo`, `parse`: the reader, line by line, with the socket that waits
  for its detail;
* `IsSocketLine`, `detail`, `sockets`, `rowOf`: what a listing says, without a reader;
* `foldl_step`: the reader after any number of lines, whatever was waiting before them;
* `ranked_spec`: what the sort and the cap leave, and what they leave out;
* `rowOf_bytesSent`: the counter by which the rows are sorted, as `ss` prints it;
* `parse_lists`: the main result: nothing is lost, nothing is invented.
-/

namespace SkylineSpeeder.Flows

open Text

/-! ### Numbers -/

/-- What `parse_rate` and `apply_info` use of `f64`: `parse`, `is_finite`, `value < 0.0`, and
`(value * scale) as u64` for the scale `1e<k>`. -/
structure F64 (F : Type) where
  parse : List Char → Option F
  isFinite : F → Bool
  isNegative : F → Bool
  scaled : F → ℕ → ℕ

/-- One more decimal digit of a number below `limit`. -/
def pushDecimal (limit n : ℕ) (c : Char) : Option ℕ :=
  if c.isDigit ∧ n * 10 + (c.toNat - '0'.toNat) < limit then
    some (n * 10 + (c.toNat - '0'.toNat))
  else none

/-- `str::parse` for an unsigned integer: at least one digit, after a plus sign if there is
one. -/
def parseUnsigned (bits : ℕ) (text : List Char) : Option ℕ :=
  let digits := if text.head? = some '+' then text.tail else text
  if digits = [] then none else digits.foldlM (pushDecimal (2 ^ bits)) 0

/-- `str::strip_suffix`. -/
def cutBack (back text : List Char) : Option (List Char) :=
  (cutFront back.reverse text.reverse).map List.reverse

/-- The suffixes of `parse_rate`, in its order, with the power of ten each stands for. -/
def rateUnits : List (List Char × ℕ) :=
  [("tbps".toList, 12), ("gbps".toList, 9), ("mbps".toList, 6), ("kbps".toList, 3),
    ("bps".toList, 0)]

/-! ### The report -/

/-- `FlowRow`. -/
structure FlowRow (F : Type) where
  peer : List Char := []
  localAddr : List Char := []
  state : List Char := []
  rttMs : Option F := none
  rttVarMs : Option F := none
  minRttMs : Option F := none
  cwndPackets : Option ℕ := none
  ssthresh : Option ℕ := none
  pacingBps : Option ℕ := none
  deliveryBps : Option ℕ := none
  sendBps : Option ℕ := none
  bytesSent : Option ℕ := none
  bytesAcked : Option ℕ := none
  bytesRetrans : Option ℕ := none
  retransTotal : Option ℕ := none
  unacked : Option ℕ := none
  mss : Option ℕ := none
  rtoMs : Option F := none

/-- `FlowReport`. -/
structure FlowReport (F : Type) where
  accelerated : List (FlowRow F) := []
  tcpTotal : ℕ := 0
  onSkylineCc : ℕ := 0
  truncated : ℕ := 0
  sourceError : Option (List Char) := none

/-- `FLOW_ROWS_MAX`. -/
def flowRowsMax : ℕ := 50

/-- `Option<u64>` is ordered with `None` first. -/
def sentLe : Option ℕ → Option ℕ → Bool
  | none, _ => true
  | some _, none => false
  | some m, some n => decide (m ≤ n)

/-- The order of `sort_by`: most bytes sent first. -/
def SentFirst {F : Type} (a b : FlowRow F) : Prop := sentLe b.bytesSent a.bytesSent = true

instance decidableSentFirst {F : Type} : DecidableRel (SentFirst (F := F)) :=
  fun a b => inferInstanceAs (Decidable (sentLe b.bytesSent a.bytesSent = true))

section Reader

variable {F : Type} (f64 : F64 F)

/-- `parse_rate`. -/
def parseRate (token : List Char) : Option ℕ :=
  let lowered := token.map Char.toLower
  (rateUnits.findSome? fun unit => (cutBack unit.1 lowered).map (·, unit.2)).bind fun parts =>
    (f64.parse parts.1).bind fun value =>
      if ¬ f64.isFinite value ∨ f64.isNegative value then none
      else some (f64.scaled value parts.2)

/-- The `match key` of `apply_info`. -/
def applyKey (row : FlowRow F) (key value : List Char) : FlowRow F :=
  if key = "rtt".toList then
    let parts := (splitOnce '/' value).getD (value, [])
    { row with rttMs := f64.parse parts.1, rttVarMs := f64.parse parts.2 }
  else if key = "minrtt".toList then { row with minRttMs := f64.parse value }
  else if key = "rto".toList then { row with rtoMs := f64.parse value }
  else if key = "cwnd".toList then { row with cwndPackets := parseUnsigned 64 value }
  else if key = "ssthresh".toList then { row with ssthresh := parseUnsigned 64 value }
  else if key = "mss".toList then { row with mss := parseUnsigned 32 value }
  else if key = "unacked".toList then { row with unacked := parseUnsigned 64 value }
  else if key = "bytes_sent".toList then { row with bytesSent := parseUnsigned 64 value }
  else if key = "bytes_acked".toList then { row with bytesAcked := parseUnsigned 64 value }
  else if key = "bytes_retrans".toList then { row with bytesRetrans := parseUnsigned 64 value }
  else if key = "retrans".toList then
    let total := ((splitOnce '/' value).map Prod.snd).getD value
    { row with retransTotal := parseUnsigned 64 total }
  else row

/-- The `match *token` of `apply_info`: three tokens print their value as the next one. -/
def applyWord (row : FlowRow F) (token : List Char) (next : Option (List Char)) : FlowRow F :=
  if token = "send".toList then { row with sendBps := next.bind (parseRate f64) }
  else if token = "pacing_rate".toList then { row with pacingBps := next.bind (parseRate f64) }
  else if token = "delivery_rate".toList then
    { row with deliveryBps := next.bind (parseRate f64) }
  else row

/-- The body of the loop of `apply_info`: a token, and the one after it. -/
def applyToken (row : FlowRow F) (token : List Char) (next : Option (List Char)) : FlowRow F :=
  (splitOnce ':' token).elim (applyWord f64 row token next) fun parts =>
    applyKey f64 (applyWord f64 row token next) parts.1 parts.2

/-- The loop of `apply_info`. -/
def applyTokens (row : FlowRow F) : List (List Char) → FlowRow F
  | [] => row
  | token :: rest => applyTokens (applyToken f64 row token rest.head?) rest

/-- `apply_info`. -/
def applyInfo (row : FlowRow F) (info : List Char) : FlowRow F :=
  applyTokens f64 row (words isWhitespace info)

/-- `finish`. -/
def finish (cc : List Char) (record : Option (FlowRow F × List Char)) (report : FlowReport F) :
    FlowReport F :=
  match record with
  | none => report
  | some (row, info) =>
      if cc ∈ words isWhitespace info then
        { report with
          onSkylineCc := report.onSkylineCc + 1
          accelerated := report.accelerated ++ [applyInfo f64 row info] }
      else report

/-- The variables of the loop of `parse`. -/
structure State (F : Type) where
  report : FlowReport F := {}
  current : Option (FlowRow F × List Char) := none
  malformed : ℕ := 0

/-- `line.starts_with([' ', '\t'])`. -/
def Indented (line : List Char) : Prop := line.head? = some ' ' ∨ line.head? = some '\t'

instance decidableIndented : DecidablePred Indented :=
  fun line => inferInstanceAs (Decidable (line.head? = some ' ' ∨ line.head? = some '\t'))

/-- The loop body of `parse` for a line that is neither blank nor indented, with `current`
already taken. -/
def summaryLine (state : State F) (fields : List (List Char)) : State F :=
  match fields with
  | kind :: _recvQ :: _sendQ :: localAddr :: peer :: _ =>
      if kind = "State".toList ∨ kind = "Netid".toList then state
      else
        { state with
          report := { state.report with tcpTotal := state.report.tcpTotal + 1 }
          current := some ({ peer := peer, localAddr := localAddr, state := kind }, []) }
  | _ => { state with malformed := state.malformed + 1 }

/-- The loop body of `parse`. -/
def step (cc : List Char) (state : State F) (line : List Char) : State F :=
  if trim isWhitespace line = [] then state
  else if Indented line then
    { state with current := state.current.map fun record =>
        (record.1, record.2 ++ ' ' :: trim isWhitespace line) }
  else
    summaryLine
      { state with report := finish f64 cc state.current state.report, current := none }
      (words isWhitespace line)

/-- The message of `source_error`. -/
def unrecognised (malformed : ℕ) : List Char :=
  "ss printed ".toList ++ Nat.toDigits 10 malformed ++
    " line(s) in a format this build does not recognise".toList

/-- The sort of `parse` and its cap. -/
def ranked (report : FlowReport F) : FlowReport F :=
  let rows := report.accelerated.insertionSort SentFirst
  if flowRowsMax < rows.length then
    { report with truncated := rows.length - flowRowsMax, accelerated := rows.take flowRowsMax }
  else { report with accelerated := rows }

/-- `parse`. -/
def parse (output cc : List Char) : FlowReport F :=
  let last := (rustLines output).foldl (step f64 cc) {}
  let report := finish f64 cc last.current last.report
  ranked
    (if report.tcpTotal = 0 ∧ 0 < last.malformed then
      { report with sourceError := some (unrecognised last.malformed) }
    else report)

end Reader

/-! ### What a listing says -/

/-- A line of whitespace. -/
def Blank (line : List Char) : Prop := ∀ c ∈ line, isWhitespace c = true

instance decidableBlank : DecidablePred Blank :=
  fun line => List.decidableBAll (fun c => isWhitespace c = true) line

/-- `split_whitespace`. -/
def fields (line : List Char) : List (List Char) := words isWhitespace line

/-- A line that stands for a socket. -/
def IsSocketLine (line : List Char) : Prop :=
  ¬ Blank line ∧ ¬ Indented line ∧ 5 ≤ (fields line).length ∧
    (fields line).head? ≠ some "State".toList ∧ (fields line).head? ≠ some "Netid".toList

instance decidableIsSocketLine : DecidablePred IsSocketLine :=
  fun line => inferInstanceAs (Decidable (¬ Blank line ∧ ¬ Indented line ∧
    5 ≤ (fields line).length ∧ (fields line).head? ≠ some "State".toList ∧
    (fields line).head? ≠ some "Netid".toList))

/-- A line that stands for nothing the reader knows. -/
def IsMalformed (line : List Char) : Prop :=
  ¬ Blank line ∧ ¬ Indented line ∧ (fields line).length < 5

instance decidableIsMalformed : DecidablePred IsMalformed :=
  fun line => inferInstanceAs
    (Decidable (¬ Blank line ∧ ¬ Indented line ∧ (fields line).length < 5))

/-- The indented lines up to the next line that is neither blank nor indented. -/
def detail (lines : List (List Char)) : List (List Char) :=
  (lines.takeWhile fun line => Blank line ∨ Indented line).filter Indented

/-- The whitespace-separated tokens of some lines. -/
def tokens (lines : List (List Char)) : List (List Char) := lines.flatMap fields

/-- The socket lines of a listing, each with its detail. -/
def sockets : List (List Char) → List (List Char × List (List Char))
  | [] => []
  | line :: rest =>
      if IsSocketLine line then (line, detail rest) :: sockets rest else sockets rest

/-- The sockets whose detail names `cc`. -/
def running (cc : List Char) (listed : List (List Char × List (List Char))) :
    List (List Char × List (List Char)) :=
  listed.filter fun socket => cc ∈ tokens socket.2

/-- What the fields of a socket line name. -/
def named {F : Type} (found : List (List Char)) : FlowRow F :=
  { state := found.getD 0 [], localAddr := found.getD 3 [], peer := found.getD 4 [] }

/-- The row of a socket: what its own line names, and what its own detail counts. -/
def rowOf {F : Type} (f64 : F64 F) (socket : List Char × List (List Char)) : FlowRow F :=
  applyTokens f64 (named (fields socket.1)) (tokens socket.2)

/-! ### One line -/

lemma trim_eq_nil_iff_blank {line : List Char} : trim isWhitespace line = [] ↔ Blank line :=
  trim_eq_nil_iff

/-- A blank line has no tokens. -/
lemma fields_of_blank {line : List Char} (h : Blank line) : fields line = [] := by
  rw [fields, ← words_trim, trim_eq_nil_iff_blank.mpr h, words_nil]

/-- Only an unindented line that is not blank ends a detail. -/
lemma detail_of_other {line : List Char} (hb : ¬ Blank line) (hi : ¬ Indented line)
    (rest : List (List Char)) : detail (line :: rest) = [] := by
  rw [detail, List.takeWhile_cons_of_neg (by simp [hb, hi])]
  rfl

lemma tokens_detail_blank {line : List Char} (h : Blank line) (rest : List (List Char)) :
    tokens (detail (line :: rest)) = tokens (detail rest) := by
  rw [detail, List.takeWhile_cons_of_pos (by simp [h]), List.filter_cons]
  split_ifs
  · rw [tokens, List.flatMap_cons, fields_of_blank h, List.nil_append]
    rfl
  · rfl

lemma detail_indented {line : List Char} (h : Indented line) (rest : List (List Char)) :
    detail (line :: rest) = line :: detail rest := by
  rw [detail, List.takeWhile_cons_of_pos (by simp [h]), List.filter_cons_of_pos (by simpa using h)]
  rfl

lemma sockets_of_not {line : List Char} (h : ¬ IsSocketLine line) (rest : List (List Char)) :
    sockets (line :: rest) = sockets rest := if_neg h

/-- `ss` prints its header with more than five fields. -/
lemma malformed_or_header {line : List Char} (hb : ¬ Blank line) (hi : ¬ Indented line)
    (h : ¬ IsSocketLine line) (hlen : 5 ≤ (fields line).length) :
    (fields line).head? = some "State".toList ∨ (fields line).head? = some "Netid".toList := by
  by_contra hnot
  rw [not_or] at hnot
  exact h ⟨hb, hi, hlen, hnot⟩

section Lines

variable {F : Type} (f64 : F64 F) (cc : List Char)

/-- The rows that a waiting socket becomes once `more` tokens have followed. -/
def flushed (record : Option (FlowRow F × List Char)) (more : List (List Char)) :
    List (FlowRow F) :=
  record.elim [] fun record =>
    if cc ∈ fields record.2 ++ more then [applyTokens f64 record.1 (fields record.2 ++ more)]
    else []

/-- A report with more sockets, and with the rows of those that are listed. -/
def FlowReport.file (report : FlowReport F) (total : ℕ) (rows : List (FlowRow F)) :
    FlowReport F :=
  { report with
    tcpTotal := report.tcpTotal + total
    onSkylineCc := report.onSkylineCc + rows.length
    accelerated := report.accelerated ++ rows }

lemma FlowReport.file_file (report : FlowReport F) (m n : ℕ) (rows more : List (FlowRow F)) :
    (report.file m rows).file n more = report.file (m + n) (rows ++ more) := by
  simp only [FlowReport.file, add_assoc, List.append_assoc, List.length_append]

lemma finish_eq (record : Option (FlowRow F × List Char)) (report : FlowReport F) :
    finish f64 cc record report = report.file 0 (flushed f64 cc record []) := by
  cases record with
  | none => simp [finish, flushed, FlowReport.file]
  | some record =>
      simp only [finish, flushed, Option.elim_some, List.append_nil, applyInfo, fields]
      split_ifs
      · rfl
      · simp [FlowReport.file]

/-- A line of detail is read as if its tokens had been there from the start. -/
lemma flushed_detail (record : Option (FlowRow F × List Char)) (line : List Char)
    (more : List (List Char)) :
    flushed f64 cc (record.map fun record =>
        (record.1, record.2 ++ ' ' :: trim isWhitespace line)) more =
      flushed f64 cc record (fields line ++ more) := by
  cases record with
  | none => rfl
  | some record =>
      have hfields : fields (record.2 ++ ' ' :: trim isWhitespace line) =
          fields record.2 ++ fields line := by
        rw [fields, words_append (by decide), words_trim]
        rfl
      simp only [flushed, Option.map_some, Option.elim_some, hfields, List.append_assoc]

lemma step_blank {line : List Char} (h : Blank line) (state : State F) :
    step f64 cc state line = state := if_pos (trim_eq_nil_iff_blank.mpr h)

lemma step_indented {line : List Char} (hb : ¬ Blank line) (hi : Indented line)
    (state : State F) :
    step f64 cc state line =
      { state with current := state.current.map fun record =>
          (record.1, record.2 ++ ' ' :: trim isWhitespace line) } := by
  rw [step, if_neg (mt trim_eq_nil_iff_blank.mp hb), if_pos hi]

lemma step_other {line : List Char} (hb : ¬ Blank line) (hi : ¬ Indented line)
    (state : State F) :
    step f64 cc state line =
      summaryLine
        { state with report := finish f64 cc state.current state.report, current := none }
        (fields line) := by
  rw [step, if_neg (mt trim_eq_nil_iff_blank.mp hb), if_neg hi]
  rfl

lemma summaryLine_malformed (state : State F) {found : List (List Char)}
    (h : found.length < 5) :
    summaryLine state found = { state with malformed := state.malformed + 1 } := by
  rcases found with - | ⟨a, - | ⟨b, - | ⟨c, - | ⟨d, - | ⟨e, rest⟩⟩⟩⟩⟩
  · rfl
  · rfl
  · rfl
  · rfl
  · rfl
  · simp only [List.length_cons] at h
    omega

lemma summaryLine_header (state : State F) {found : List (List Char)} (hlen : 5 ≤ found.length)
    (h : found.head? = some "State".toList ∨ found.head? = some "Netid".toList) :
    summaryLine state found = state := by
  obtain ⟨a, b, c, d, e, rest, rfl⟩ : ∃ a b c d e rest, found = a :: b :: c :: d :: e :: rest := by
    rcases found with - | ⟨a, - | ⟨b, - | ⟨c, - | ⟨d, - | ⟨e, rest⟩⟩⟩⟩⟩
    all_goals first
      | exact ⟨a, b, c, d, e, rest, rfl⟩
      | simp at hlen
  rw [List.head?_cons, Option.some.injEq, Option.some.injEq] at h
  exact if_pos h

/-- A socket line is counted, and waits for its detail under what its own fields name. -/
lemma summaryLine_socket (state : State F) {found : List (List Char)} (hlen : 5 ≤ found.length)
    (hs : found.head? ≠ some "State".toList) (hn : found.head? ≠ some "Netid".toList) :
    summaryLine state found =
      { state with
        report := state.report.file 1 []
        current := some (named found, []) } := by
  obtain ⟨a, b, c, d, e, rest, rfl⟩ : ∃ a b c d e rest, found = a :: b :: c :: d :: e :: rest := by
    rcases found with - | ⟨a, - | ⟨b, - | ⟨c, - | ⟨d, - | ⟨e, rest⟩⟩⟩⟩⟩
    all_goals first
      | exact ⟨a, b, c, d, e, rest, rfl⟩
      | simp at hlen
  rw [List.head?_cons, ne_eq, Option.some.injEq] at hs hn
  rw [summaryLine, if_neg (not_or.mpr ⟨hs, hn⟩)]
  simp [FlowReport.file, named]

/-! ### Any number of lines -/

/-- The rows of the sockets of `lines` that run `cc`. -/
def rows (lines : List (List Char)) : List (FlowRow F) :=
  (running cc (sockets lines)).map (rowOf f64)

/-- A socket line files its row with the detail that follows it. -/
lemma rows_socket {line : List Char} (h : IsSocketLine line) (rest : List (List Char)) :
    rows f64 cc (line :: rest) =
      flushed f64 cc (some (named (fields line), [])) (tokens (detail rest)) ++
        rows f64 cc rest := by
  have hnone : fields [] = [] := words_nil isWhitespace
  rw [rows, sockets, if_pos h, running, List.filter_cons]
  simp only [flushed, Option.elim_some, hnone, List.nil_append, decide_eq_true_eq]
  split_ifs
  · rfl
  · rfl

/-- **The reader after any number of lines**: what was waiting is filed with the detail that
comes first, and each socket with its own. -/
lemma foldl_step (lines : List (List Char)) (state : State F) :
    finish f64 cc (lines.foldl (step f64 cc) state).current
        (lines.foldl (step f64 cc) state).report =
      state.report.file (sockets lines).length
        (flushed f64 cc state.current (tokens (detail lines)) ++ rows f64 cc lines) := by
  induction lines generalizing state with
  | nil => exact finish_eq f64 cc state.current state.report ▸ by simp [rows, sockets, running,
      detail, tokens]
  | cons line lines ih =>
      rw [List.foldl_cons, ih]
      by_cases hb : Blank line
      · have hnot : ¬ IsSocketLine line := fun h => h.1 hb
        rw [step_blank f64 cc hb, tokens_detail_blank hb, rows, rows, sockets_of_not hnot]
      by_cases hi : Indented line
      · have hnot : ¬ IsSocketLine line := fun h => h.2.1 hi
        rw [step_indented f64 cc hb hi, flushed_detail, detail_indented hi, rows, rows,
          sockets_of_not hnot]
        rfl
      have hwait : tokens (detail (line :: lines)) = [] := by
        rw [detail_of_other hb hi]
        rfl
      rw [step_other f64 cc hb hi, hwait]
      by_cases hs : IsSocketLine line
      · rw [summaryLine_socket _ hs.2.2.1 hs.2.2.2.1 hs.2.2.2.2, finish_eq,
          FlowReport.file_file, FlowReport.file_file, rows_socket f64 cc hs, sockets, if_pos hs,
          List.length_cons, List.nil_append, add_comm (sockets lines).length 1, zero_add]
      by_cases hlen : (fields line).length < 5
      · rw [summaryLine_malformed _ hlen, finish_eq, FlowReport.file_file, zero_add, rows, rows,
          sockets_of_not hs]
        rfl
      · rw [summaryLine_header _ (not_lt.mp hlen) (malformed_or_header hb hi hs (not_lt.mp hlen)),
          finish_eq, FlowReport.file_file, zero_add, rows, rows, sockets_of_not hs]
        rfl

lemma malformed_summaryLine (state : State F) {line : List Char} (hb : ¬ Blank line)
    (hi : ¬ Indented line) :
    (summaryLine state (fields line)).malformed =
      state.malformed + if IsMalformed line then 1 else 0 := by
  by_cases hlen : (fields line).length < 5
  · rw [summaryLine_malformed _ hlen, if_pos ⟨hb, hi, hlen⟩]
  · have hnot : ¬ IsMalformed line := fun h => hlen h.2.2
    rw [if_neg hnot]
    by_cases hs : IsSocketLine line
    · rw [summaryLine_socket _ hs.2.2.1 hs.2.2.2.1 hs.2.2.2.2, add_zero]
    · rw [summaryLine_header _ (not_lt.mp hlen) (malformed_or_header hb hi hs (not_lt.mp hlen)),
        add_zero]

/-- The lines that are counted as malformed. -/
lemma malformed_foldl (lines : List (List Char)) (state : State F) :
    (lines.foldl (step f64 cc) state).malformed =
      state.malformed + lines.countP fun line => decide (IsMalformed line) := by
  induction lines generalizing state with
  | nil => rfl
  | cons line lines ih =>
      have hone : (step f64 cc state line).malformed =
          state.malformed + if IsMalformed line then 1 else 0 := by
        by_cases hb : Blank line
        · rw [step_blank f64 cc hb, if_neg fun h : IsMalformed line => h.1 hb, add_zero]
        by_cases hi : Indented line
        · rw [step_indented f64 cc hb hi, if_neg fun h : IsMalformed line => h.2.1 hi, add_zero]
        rw [step_other f64 cc hb hi, malformed_summaryLine _ hb hi]
      rw [List.foldl_cons, ih, hone, List.countP_cons, add_assoc]
      simp only [decide_eq_true_eq]
      rw [add_comm (lines.countP _)]

end Lines

/-! ### The sort and the cap -/

lemma sentLe_total (a b : Option ℕ) : sentLe a b = true ∨ sentLe b a = true := by
  cases a with
  | none => exact Or.inl rfl
  | some m =>
      cases b with
      | none => exact Or.inr rfl
      | some n => simpa [sentLe] using le_total m n

lemma sentLe_trans {a b c : Option ℕ} (hab : sentLe a b = true) (hbc : sentLe b c = true) :
    sentLe a c = true := by
  cases a with
  | none => rfl
  | some l =>
      cases b with
      | none => exact absurd hab (by simp [sentLe])
      | some m =>
          cases c with
          | none => exact absurd hbc (by simp [sentLe])
          | some n =>
              simp only [sentLe, decide_eq_true_eq] at hab hbc ⊢
              exact hab.trans hbc

section Ranked

variable {F : Type}

instance totalSentFirst : Std.Total (SentFirst (F := F)) :=
  ⟨fun a b => sentLe_total b.bytesSent a.bytesSent⟩

instance transSentFirst : IsTrans (FlowRow F) SentFirst :=
  ⟨fun _ _ _ hab hbc => sentLe_trans hbc hab⟩

/-- **The sort and the cap**: the rows are those of the report, the listed ones in order, and
none that is left out has sent more than one that is listed. -/
lemma ranked_spec (report : FlowReport F) (h : report.truncated = 0) :
    (ranked report).accelerated.Pairwise SentFirst ∧
      (ranked report).accelerated.length = min report.accelerated.length flowRowsMax ∧
      ∃ omitted, ((ranked report).accelerated ++ omitted).Perm report.accelerated ∧
        omitted.length = (ranked report).truncated ∧
        ∀ row ∈ (ranked report).accelerated, ∀ lost ∈ omitted, SentFirst row lost := by
  have hsorted := List.pairwise_insertionSort SentFirst report.accelerated
  have hperm := List.perm_insertionSort SentFirst report.accelerated
  have hlen : (report.accelerated.insertionSort SentFirst).length = report.accelerated.length :=
    hperm.length_eq
  rw [ranked]
  split_ifs with hlong
  · have happ := List.take_append_drop flowRowsMax (report.accelerated.insertionSort SentFirst)
    have hparts := List.pairwise_append.mp (happ.symm ▸ hsorted)
    refine ⟨hparts.1, ?_, (report.accelerated.insertionSort SentFirst).drop flowRowsMax, ?_, ?_,
      hparts.2.2⟩
    · rw [List.length_take, hlen, min_comm]
    · rw [happ]
      exact hperm
    · exact List.length_drop
  · refine ⟨hsorted, ?_, [], ?_, h.symm, fun row _ lost hlost => absurd hlost List.not_mem_nil⟩
    · rw [hlen, min_eq_left (hlen ▸ not_lt.mp hlong)]
    · rw [List.append_nil]
      exact hperm

end Ranked

/-! ### The listing -/

section Listing

variable {F : Type} (f64 : F64 F)

/-- Two rows of one socket. -/
def SameNames (a b : FlowRow F) : Prop :=
  a.state = b.state ∧ a.localAddr = b.localAddr ∧ a.peer = b.peer

lemma SameNames.trans {a b c : FlowRow F} (hab : SameNames a b) (hbc : SameNames b c) :
    SameNames a c :=
  ⟨hab.1.trans hbc.1, hab.2.1.trans hbc.2.1, hab.2.2.trans hbc.2.2⟩

lemma applyKey_names (row : FlowRow F) (key value : List Char) :
    SameNames (applyKey f64 row key value) row := by
  rw [applyKey]
  iterate 11
    refine iteInduction (motive := fun r => SameNames r row) (fun _ => ⟨rfl, rfl, rfl⟩)
      fun _ => ?_
  exact ⟨rfl, rfl, rfl⟩

lemma applyWord_names (row : FlowRow F) (token : List Char) (next : Option (List Char)) :
    SameNames (applyWord f64 row token next) row := by
  rw [applyWord]
  iterate 3
    refine iteInduction (motive := fun r => SameNames r row) (fun _ => ⟨rfl, rfl, rfl⟩)
      fun _ => ?_
  exact ⟨rfl, rfl, rfl⟩

lemma applyToken_names (row : FlowRow F) (token : List Char) (next : Option (List Char)) :
    SameNames (applyToken f64 row token next) row := by
  have hword := applyWord_names f64 row token next
  rw [applyToken]
  cases splitOnce ':' token with
  | none => exact hword
  | some parts => exact (applyKey_names f64 _ parts.1 parts.2).trans hword

/-- The detail counts; it does not rename. -/
lemma applyTokens_names (row : FlowRow F) (found : List (List Char)) :
    SameNames (applyTokens f64 row found) row := by
  induction found generalizing row with
  | nil => exact ⟨rfl, rfl, rfl⟩
  | cons token rest ih =>
      exact (ih (applyToken f64 row token rest.head?)).trans
        (applyToken_names f64 row token rest.head?)

/-! ### A counter -/

/-- Reading the decimal digits of a number that fits. -/
lemma foldlM_pushDecimal {limit n : ℕ} (h : n < limit) :
    (Nat.toDigits 10 n).foldlM (pushDecimal limit) 0 = some n := by
  have hdigit : ∀ d < 10, (Nat.digitChar d).isDigit = true ∧
      (Nat.digitChar d).toNat - '0'.toNat = d := by decide
  induction n using Nat.strong_induction_on with
  | _ n ih =>
      rw [Nat.toDigits_eq_if (by decide)]
      split_ifs with hlt
      · obtain ⟨hchar, hvalue⟩ := hdigit n hlt
        simp only [List.foldlM_cons, List.foldlM_nil, pushDecimal, hchar, hvalue, zero_mul,
          zero_add, h, and_self, if_true]
        rfl
      · obtain ⟨hchar, hvalue⟩ := hdigit (n % 10) (Nat.mod_lt n (by decide))
        have hrest := ih (n / 10) (by omega) (by omega)
        rw [List.foldlM_append, hrest]
        simp only [Option.bind_eq_bind, Option.bind_some, List.foldlM_cons, List.foldlM_nil,
          pushDecimal, hchar, hvalue, Nat.div_add_mod', h, and_self, if_true]
        rfl

/-- A number that fits is read back. -/
lemma parseUnsigned_toDigits {bits n : ℕ} (h : n < 2 ^ bits) :
    parseUnsigned bits (Nat.toDigits 10 n) = some n := by
  have hplus : (Nat.toDigits 10 n).head? ≠ some '+' := fun hhead =>
    absurd (Nat.isDigit_of_mem_toDigits (by decide) (by decide) (List.mem_of_mem_head? hhead))
      (by decide)
  rw [parseUnsigned, if_neg hplus, if_neg Nat.toDigits_ne_nil]
  exact foldlM_pushDecimal h

/-- Any other token leaves the bytes sent alone. -/
lemma applyToken_bytesSent (row : FlowRow F) {token : List Char} (next : Option (List Char))
    (h : ¬ "bytes_sent:".toList <+: token) :
    (applyToken f64 row token next).bytesSent = row.bytesSent := by
  have hword : (applyWord f64 row token next).bytesSent = row.bytesSent := by
    rw [applyWord]
    iterate 3
      refine iteInduction (motive := fun r : FlowRow F => r.bytesSent = row.bytesSent)
        (fun _ => rfl) fun _ => ?_
    rfl
  rw [applyToken]
  cases hparts : splitOnce ':' token with
  | none => exact hword
  | some parts =>
      have hkey : parts.1 ≠ "bytes_sent".toList := by
        intro hkey
        obtain ⟨htoken, -⟩ := splitOnce_eq_some_iff.mp hparts
        exact h ⟨parts.2, by rw [htoken, hkey]; simp⟩
      rw [Option.elim_some, ← hword, applyKey, if_neg hkey]
      iterate 10
        refine iteInduction (motive := fun r : FlowRow F => r.bytesSent = _)
          (fun _ => rfl) fun _ => ?_
      rfl

/-- **The bytes sent**: the last `bytes_sent:N` of a socket's own detail is its row's. -/
theorem rowOf_bytesSent {socket : List Char × List (List Char)} {before after : List (List Char)}
    {n : ℕ} (hn : n < 2 ^ 64)
    (htokens : tokens socket.2 =
      before ++ ("bytes_sent:".toList ++ Nat.toDigits 10 n) :: after)
    (hlast : ∀ token ∈ after, ¬ "bytes_sent:".toList <+: token) :
    (rowOf f64 socket).bytesSent = some n := by
  -- what comes after leaves the counter alone
  have hafter : ∀ row : FlowRow F, row.bytesSent = some n →
      (applyTokens f64 row after).bytesSent = some n := by
    clear htokens
    induction after with
    | nil => exact fun row hrow => hrow
    | cons token rest ih =>
        intro row hrow
        have hrest := ih fun t ht => hlast t (List.mem_cons_of_mem token ht)
        refine hrest _ ?_
        rw [applyToken_bytesSent f64 row rest.head? (hlast token List.mem_cons_self), hrow]
  -- and what comes before is overwritten
  rw [rowOf, htokens]
  generalize named (fields socket.1) = row
  clear htokens
  induction before generalizing row with
  | nil =>
      refine hafter _ ?_
      have hparts : splitOnce ':' ("bytes_sent:".toList ++ Nat.toDigits 10 n) =
          some ("bytes_sent".toList, Nat.toDigits 10 n) :=
        splitOnce_eq_some_iff.mpr ⟨by simp, by decide⟩
      rw [applyToken, hparts]
      exact parseUnsigned_toDigits hn
  | cons token rest ih => exact ih _

/-- What a report says of a listing that names no socket twice and leaves none out. -/
structure Lists (output cc : List Char) (report : FlowReport F) : Prop where
  /-- Every socket line is counted. -/
  total : report.tcpTotal = (sockets (rustLines output)).length
  /-- So is every socket whose detail names `cc`. -/
  running : report.onSkylineCc = (running cc (sockets (rustLines output))).length
  /-- What is not listed is counted. -/
  capped : report.accelerated.length = min report.onSkylineCc flowRowsMax
  truncated : report.accelerated.length + report.truncated = report.onSkylineCc
  /-- Each of these sockets has one row, with its own fields and counters, listed or left
  out; one that is left out has sent no more than one that is listed. -/
  rows : ∃ omitted : List (FlowRow F),
    (report.accelerated ++ omitted).Perm
        ((Flows.running cc (sockets (rustLines output))).map (rowOf f64)) ∧
      ∀ row ∈ report.accelerated, ∀ lost ∈ omitted, sentLe lost.bytesSent row.bytesSent = true
  named : ∀ row ∈ report.accelerated,
    ∃ socket ∈ Flows.running cc (sockets (rustLines output)), row = rowOf f64 socket ∧
      row.state = (fields socket.1).getD 0 [] ∧ row.localAddr = (fields socket.1).getD 3 [] ∧
      row.peer = (fields socket.1).getD 4 []
  descending : report.accelerated.Pairwise fun a b => sentLe b.bytesSent a.bytesSent = true
  /-- The listing is in doubt if there are lines and none of them is a socket. -/
  doubt : report.sourceError.isSome ↔
    sockets (rustLines output) = [] ∧ ∃ line ∈ rustLines output, IsMalformed line

/-- `parse` before the sort. -/
lemma parse_eq (output cc : List Char) :
    ∃ report : FlowReport F, parse f64 output cc = ranked report ∧
      report.tcpTotal = (sockets (rustLines output)).length ∧
      report.accelerated = Flows.rows f64 cc (rustLines output) ∧
      report.onSkylineCc = (Flows.rows f64 cc (rustLines output)).length ∧
      report.truncated = 0 ∧
      (report.sourceError.isSome ↔ sockets (rustLines output) = [] ∧
        ∃ line ∈ rustLines output, IsMalformed line) := by
  have hfold := foldl_step f64 cc (rustLines output) {}
  have hmalformed := malformed_foldl f64 cc (rustLines output) {}
  have hcount : 0 < ((rustLines output).foldl (step f64 cc) {}).malformed ↔
      ∃ line ∈ rustLines output, IsMalformed line := by
    rw [hmalformed, Nat.zero_add, List.countP_pos_iff]
    simp only [decide_eq_true_eq]
  have htotal : (sockets (rustLines output)).length = 0 ↔ sockets (rustLines output) = [] :=
    List.length_eq_zero_iff
  refine ⟨_, rfl, ?_⟩
  rw [hfold]
  simp only [FlowReport.file, flushed, Option.elim_none, List.nil_append, Nat.zero_add]
  rw [← htotal, ← hcount]
  split_ifs with hdoubt
  · exact ⟨rfl, rfl, rfl, rfl, iff_of_true rfl hdoubt⟩
  · exact ⟨rfl, rfl, rfl, rfl, iff_of_false Bool.false_ne_true hdoubt⟩

/-- The sort and the cap touch nothing but the rows. -/
lemma ranked_counts (report : FlowReport F) :
    (ranked report).tcpTotal = report.tcpTotal ∧
      (ranked report).onSkylineCc = report.onSkylineCc ∧
      (ranked report).sourceError = report.sourceError := by
  rw [ranked]
  split_ifs
  · exact ⟨rfl, rfl, rfl⟩
  · exact ⟨rfl, rfl, rfl⟩

/-- **The listing loses and invents nothing.** -/
theorem parse_lists (output cc : List Char) : Lists f64 output cc (parse f64 output cc) := by
  obtain ⟨report, hparse, htotal, hrows, hon, htruncated, hdoubt⟩ := parse_eq f64 output cc
  obtain ⟨hcounts, hons, herrors⟩ := ranked_counts report
  obtain ⟨hsorted, hlen, omitted, hperm, homitted, hbest⟩ := ranked_spec report htruncated
  rw [hparse]
  rw [hrows] at hperm hlen
  constructor
  case total => exact hcounts.trans htotal
  case running => rw [hons, hon, Flows.rows, List.length_map]
  case capped => rw [hlen, hons, hon]
  case truncated =>
    rw [← homitted, ← List.length_append, hperm.length_eq, hons, hon]
  case rows => exact ⟨omitted, hperm, hbest⟩
  case named =>
    intro row hrow
    have hmem : row ∈ Flows.rows f64 cc (rustLines output) :=
      hperm.subset (List.mem_append_left omitted hrow)
    obtain ⟨socket, hsocket, rfl⟩ := List.mem_map.mp hmem
    exact ⟨socket, hsocket, rfl, applyTokens_names f64 _ (tokens socket.2)⟩
  case descending => exact hsorted
  case doubt => rw [herrors, hdoubt]

/-- A socket without detail is counted but not listed, and the one after it is not lost. -/
example :
    let report := parse (⟨fun _ => none, fun _ => true, fun _ => false, fun _ _ => 0⟩ : F64 Unit)
      "ESTAB 0 0 a:1 b:2\nESTAB 0 0 a:3 b:4\n\t skyline_cc cwnd:10\n".toList
      "skyline_cc".toList
    report.tcpTotal = 2 ∧ report.onSkylineCc = 1 ∧
      report.accelerated.map (·.peer) = ["b:4".toList] := by
  decide +kernel

end Listing

end SkylineSpeeder.Flows
