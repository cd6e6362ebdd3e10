import SkylineSpeeder.Qdisc.Guard
import SkylineSpeeder.Reports.Record
import SkylineSpeeder.Scrub.Survival

/-!
What ssctl offers to send: the question, the answers, and what is sent and removed then.

* `recorded`, `event`, `Offer.offer`: the reports that wait, the event that each becomes, and
  what a run of ssctl does about them;
* `offer_consented`: nothing is sent without a yes, what is sent are the first of the events
  that were shown, and what is removed was sent or declined;
* `offer_leaves_unreadable`: what cannot be read as a report is not removed;
* `offer_leaks`: no text that is shown or sent has a network address in it, unless the text
  it comes from leaks one.
-/

namespace SkylineSpeeder.Reports

open Scrub Machine

/-! ### Events -/

/-- `Host`. -/
structure Host where
  osId : Str
  osVersion : Str
  osName : Str
  kernel : Str
  arch : Str
  init : Str
  service : Str
  deriving DecidableEq

/-- One Sentry event: `seen` is the count and the times of the report it comes from. -/
structure SentryEvent where
  fatal : Bool
  fromDaemon : Bool
  version : Str
  kind : Str
  host : Host
  message : Str
  firstLine : Str
  journal : Str
  seen : Option (UInt64 × UInt64 × UInt64)
  deriving DecidableEq

/-- `if c.is_ascii_digit() { '0' } else { c }`. -/
def zeroDigit (b : UInt8) : UInt8 := if isAsciiDigit b then byte '0' else b

/-- `message.lines().next()`: up to a newline, without the carriage return before it. -/
def headLine (message : Str) : Str :=
  let line := message.takeWhile (· ≠ byte '\n')
  if byte '\n' ∈ message ∧ line.getLast? = some (byte '\r') then line.dropLast else line

/-- `event`, by an ssctl of some version. -/
def event (version : Str) (host : Host) (kind message : Str) (report : Option DaemonReport)
    (journal : Str) : SentryEvent where
  fatal := kind = ascii "daemon panicked"
  fromDaemon := report.isSome
  version := report.elim version fun r => utf8 r.version
  kind := kind
  host := host
  message := message
  firstLine := (headLine message).map zeroDigit
  journal := journal
  seen := report.map fun r => (r.count, r.firstSeen, r.lastSeen)

/-- `recorded`: what can be read, oldest first, of the entries that reading the directory
gives. -/
def recorded (serde : Serde) (disk : Disk FileName) (entries : List FileName) :
    List (FileName × DaemonReport) :=
  ((entries.filter fun name => name.extension = .json).filterMap fun name =>
    ((disk.read name).bind serde.fromSlice).map fun r => (name, r)).insertionSort
      fun a b => a.2.firstSeen ≤ b.2.firstSeen

/-! ### The question -/

/-- `Mode`. -/
inductive Mode where
  | ask | send | never
  deriving DecidableEq

/-- What a run of ssctl finds. -/
structure Offer where
  mode : Mode
  sealed : Bool
  version : Str
  host : Host
  hosts : List Str
  users : List Str
  error : Option (Str × Str)
  recorded : List (FileName × DaemonReport)
  journal : Str
  answers : Option (List (Option (List Char)))
  works : ℕ → Bool

/-- What it does. -/
inductive Effect where
  | viewed (events : List SentryEvent)
  | declined
  | sent (event : SentryEvent)
  | failed (event : SentryEvent)
  | removed (name : FileName)
  deriving DecidableEq

/-- The answers that send. -/
def yes : List (List Char) :=
  ["y".toList, "Y".toList, "yes".toList, "YES".toList, "Yes".toList]

/-- The loop around the question; no answer, for lack of time or of a terminal, is a no. -/
def askLoop (events : List SentryEvent) : List (Option (List Char)) → List Effect × Bool
  | [] => ([.declined], false)
  | answer :: answers =>
      let answer := Text.trim isWhitespace (answer.getD [])
      if answer = "v".toList ∨ answer = "V".toList then
        (.viewed events :: (askLoop events answers).1, (askLoop events answers).2)
      else if answer ∈ yes then ([], true)
      else ([.declined], false)

/-- The loop that sends, from event `i` on. -/
def sendLoop (works : ℕ → Bool) (i : ℕ) : List (SentryEvent × Option FileName) → List Effect
  | [] => []
  | (event, path) :: events =>
      if works i then .sent event :: (path.toList.map .removed ++ sendLoop works (i + 1) events)
      else [.failed event]

namespace Offer

/-- `scrub`; `none` is a panic. -/
def scrub (o : Offer) (text : Str) : Option Str := scrubNames text o.hosts o.users

/-- The event of the error that ssctl ended with. -/
def errorEvent (o : Offer) (journal : Str) (error : Str × Str) :
    Option (SentryEvent × Option FileName) := do
  let message ← o.scrub error.2
  some (event o.version o.host error.1 message none journal, none)

/-- The event of a report, and where the report is. -/
def reportEvent (o : Offer) (journal : Str) (report : FileName × DaemonReport) :
    Option (SentryEvent × Option FileName) := do
  let message ← o.scrub (utf8 report.2.message)
  let panicked := report.2.kind = "panicked".toList
  let kind := if panicked then ascii "daemon panicked" else ascii "daemon exited"
  some (event o.version o.host kind message (some report.2) journal, some report.1)

/-- The event of the error, and of each report that waits. -/
def events (o : Offer) (journal : Str) : Option (List (SentryEvent × Option FileName)) := do
  let first ← o.error.toList.mapM (o.errorEvent journal)
  let rest ← o.recorded.mapM (o.reportEvent journal)
  some (first ++ rest)

/-- `offer`. -/
def offer (o : Offer) : Option (List Effect) :=
  if !o.sealed then some []
  else if o.error.isNone ∧ o.recorded = [] then some []
  else do
    let journal ← o.scrub o.journal
    let events ← o.events journal
    match o.mode with
    | .never => some []
    | .send => some (sendLoop o.works 0 events)
    | .ask =>
        match o.answers with
        | none => some []
        | some answers =>
            let asked := askLoop (events.map Prod.fst) answers
            if asked.2 then some (asked.1 ++ sendLoop o.works 0 events)
            else some (asked.1 ++ o.recorded.map fun r => .removed r.1)

end Offer

/-! ### Consent -/

/-- The events that were sent. -/
def sentOf (effects : List Effect) : List SentryEvent :=
  effects.filterMap fun
    | .sent event => some event
    | _ => none

/-- The reports that were removed. -/
def removedOf (effects : List Effect) : List FileName :=
  effects.filterMap fun
    | .removed name => some name
    | _ => none

/-- A yes on the terminal, after any number of looks. -/
def Consents (answers : List (Option (List Char))) : Prop :=
  ∃ looks answer rest, answers = looks ++ answer :: rest ∧
    (∀ look ∈ looks, Text.trim isWhitespace (look.getD []) ∈ ["v".toList, "V".toList]) ∧
    Text.trim isWhitespace (answer.getD []) ∈ yes

lemma removedOf_append (a b : List Effect) : removedOf (a ++ b) = removedOf a ++ removedOf b :=
  List.filterMap_append

/-- The question alone sends nothing and removes nothing. -/
lemma looks_quiet {events : List SentryEvent} {effects : List Effect}
    (h : ∀ effect ∈ effects, effect = .viewed events ∨ effect = .declined) :
    sentOf effects = [] ∧ removedOf effects = [] := by
  constructor
  all_goals
    refine List.filterMap_eq_nil_iff.mpr fun effect heffect => ?_
    rcases h effect heffect with rfl | rfl <;> rfl

lemma askLoop_yes {events : List SentryEvent} {answers : List (Option (List Char))}
    (h : (askLoop events answers).2 = true) :
    Consents answers ∧ ∀ effect ∈ (askLoop events answers).1, effect = .viewed events := by
  induction answers with
  | nil => cases h
  | cons answer answers ih =>
      rw [askLoop] at h ⊢
      split_ifs at h ⊢ with hlook hyes
      · obtain ⟨⟨looks, last, rest, rfl, hlooks, hlast⟩, hviewed⟩ := ih h
        refine ⟨⟨answer :: looks, last, rest, rfl, ?_, hlast⟩, ?_⟩
        · exact List.forall_mem_cons.mpr ⟨by simpa using hlook, hlooks⟩
        · exact List.forall_mem_cons.mpr ⟨rfl, hviewed⟩
      · exact ⟨⟨[], answer, answers, rfl, by simp, hyes⟩, by simp⟩

lemma askLoop_no {events : List SentryEvent} {answers : List (Option (List Char))}
    (h : (askLoop events answers).2 = false) : .declined ∈ (askLoop events answers).1 ∧
      ∀ effect ∈ (askLoop events answers).1, effect = .viewed events ∨ effect = .declined := by
  induction answers with
  | nil => simp [askLoop]
  | cons answer answers ih =>
      rw [askLoop] at h ⊢
      split_ifs at h ⊢ with hlook hyes
      · obtain ⟨hdeclined, hall⟩ := ih h
        exact ⟨List.mem_cons_of_mem _ hdeclined, List.forall_mem_cons.mpr ⟨.inl rfl, hall⟩⟩
      · simp

/-- The first events are sent, each report is removed right after its event, and if one of
them fails that is the end. -/
lemma sendLoop_spec (works : ℕ → Bool) (i : ℕ) (events : List (SentryEvent × Option FileName)) :
    ∃ k, sentOf (sendLoop works i events) = (events.map Prod.fst).take k ∧
      removedOf (sendLoop works i events) = (events.take k).filterMap Prod.snd ∧
      .declined ∉ sendLoop works i events ∧
      ∀ shown, .viewed shown ∉ sendLoop works i events := by
  induction events generalizing i with
  | nil => exact ⟨0, rfl, rfl, by simp [sendLoop], by simp [sendLoop]⟩
  | cons first events ih =>
      obtain ⟨event, path⟩ := first
      rw [sendLoop]
      split_ifs with hworks
      · obtain ⟨k, hsent, hremoved, hdeclined, hviewed⟩ := ih (i + 1)
        refine ⟨k + 1, ?_, ?_, ?_, fun shown => ?_⟩
        · cases path <;> simpa [sentOf] using hsent
        · cases path <;> simpa [removedOf] using hremoved
        · cases path <;> simpa using hdeclined
        · cases path <;> simpa using hviewed shown
      · exact ⟨0, rfl, rfl, by simp, by simp⟩

/-- A command that failed, looked at and sent. -/
def failedEnable : Offer where
  mode := .ask
  sealed := true
  version := ascii "0.1.0"
  host := ⟨[], [], [], [], [], [], []⟩
  hosts := []
  users := []
  error := some (ascii "enable", ascii "no peer 10.0.0.1")
  recorded := []
  journal := ascii "stopped"
  answers := some [some " v\n".toList, some "y\n".toList]
  works := fun _ => true

lemma mapM_map {α β γ : Type} {f : α → Option β} {g : β → γ} {h : α → γ}
    (hfg : ∀ a b, f a = some b → g b = h a) {as : List α} {bs : List β}
    (has : as.mapM f = some bs) : bs.map g = as.map h := by
  induction as generalizing bs with
  | nil =>
      obtain rfl := Option.some.inj has
      rfl
  | cons a as ih =>
      rw [List.mapM_cons] at has
      obtain ⟨b, hb, has⟩ := Option.bind_eq_some_iff.mp has
      obtain ⟨rest, hrest, has⟩ := Option.bind_eq_some_iff.mp has
      obtain rfl := Option.some.inj has
      rw [List.map_cons, List.map_cons, hfg a b hb, ih hrest]

/-- The reports that come with the events are those that were found. -/
lemma paths_of_events {o : Offer} {journal : Str} {events : List (SentryEvent × Option FileName)}
    (h : o.events journal = some events) :
    events.filterMap Prod.snd = o.recorded.map Prod.fst := by
  obtain ⟨first, hfirst, h⟩ := Option.bind_eq_some_iff.mp h
  obtain ⟨rest, hrest, h⟩ := Option.bind_eq_some_iff.mp h
  obtain rfl := Option.some.inj h
  have hnone : first.map Prod.snd = o.error.toList.map fun _ => none :=
    mapM_map (fun error event hevent => by
      obtain ⟨message, -, hevent⟩ := Option.bind_eq_some_iff.mp hevent
      obtain rfl := Option.some.inj hevent
      rfl) hfirst
  have hsome : rest.map Prod.snd = o.recorded.map fun r => some r.1 :=
    mapM_map (fun report event hevent => by
      obtain ⟨message, -, hevent⟩ := Option.bind_eq_some_iff.mp hevent
      obtain rfl := Option.some.inj hevent
      rfl) hrest
  have hid : ∀ es : List (SentryEvent × Option FileName),
      es.filterMap Prod.snd = (es.map Prod.snd).filterMap id := fun es => by
    rw [List.filterMap_map]
    rfl
  rw [hid, List.map_append, hnone, hsome, List.filterMap_append, List.filterMap_map,
    List.filterMap_map]
  cases o.error <;> simp

/-- What is removed was found. -/
lemma removed_offer {o : Offer} {effects : List Effect} (h : o.offer = some effects)
    {name : FileName} (hname : .removed name ∈ effects) : name ∈ o.recorded.map Prod.fst := by
  have hremoved : name ∈ removedOf effects := List.mem_filterMap.mpr ⟨_, hname, rfl⟩
  rw [Offer.offer] at h
  split_ifs at h with hsealed hnone
  · obtain rfl := Option.some.inj h
    cases hremoved
  · obtain rfl := Option.some.inj h
    cases hremoved
  obtain ⟨journal, -, h⟩ := Option.bind_eq_some_iff.mp h
  obtain ⟨events, hevents, h⟩ := Option.bind_eq_some_iff.mp h
  -- what the sending removes are paths of the events
  have hsend : name ∈ removedOf (sendLoop o.works 0 events) → name ∈ o.recorded.map Prod.fst := by
    obtain ⟨k, -, htaken, -⟩ := sendLoop_spec o.works 0 events
    rw [htaken, ← paths_of_events hevents]
    exact fun hmem => ((List.take_sublist k events).filterMap Prod.snd).subset hmem
  cases hm : o.mode with
  | never =>
      rw [hm] at h
      obtain rfl := Option.some.inj h
      cases hremoved
  | send =>
      rw [hm] at h
      obtain rfl := Option.some.inj h
      exact hsend hremoved
  | ask =>
      rw [hm] at h
      cases hanswers : o.answers with
      | none =>
          rw [hanswers] at h
          obtain rfl := Option.some.inj h
          cases hremoved
      | some answers =>
          rw [hanswers] at h
          simp only at h
          split_ifs at h with hyes
          · obtain rfl := Option.some.inj h
            have hquiet := looks_quiet fun effect heffect =>
              .inl ((askLoop_yes hyes).2 effect heffect)
            rw [removedOf_append, hquiet.2] at hremoved
            exact hsend hremoved
          · obtain rfl := Option.some.inj h
            have hquiet := looks_quiet (askLoop_no (by simpa using hyes)).2
            rw [removedOf_append, hquiet.2] at hremoved
            simpa [removedOf, List.filterMap_map] using hremoved

/-- **Unreadable reports are left alone**: what is removed was an entry of the directory, ends
in `.json`, and was read as a report. -/
theorem offer_leaves_unreadable {serde : Serde} {disk : Disk FileName} {entries : List FileName}
    {o : Offer} {effects : List Effect} (hrecorded : o.recorded = recorded serde disk entries)
    (h : o.offer = some effects) {name : FileName} (hname : .removed name ∈ effects) :
    name ∈ entries ∧ name.extension = .json ∧
      ∃ r, (disk.read name).bind serde.fromSlice = some r := by
  have hmem := removed_offer h hname
  rw [hrecorded] at hmem
  obtain ⟨⟨name', r⟩, hr, rfl⟩ := List.mem_map.mp hmem
  rw [recorded, List.mem_insertionSort] at hr
  obtain ⟨entry, hentry, hread⟩ := List.mem_filterMap.mp hr
  obtain ⟨r', hr', heq⟩ := Option.map_eq_some_iff.mp hread
  obtain ⟨rfl, rfl⟩ := Prod.mk.inj heq
  obtain ⟨hin, hjson⟩ := List.mem_filter.mp hentry
  exact ⟨hin, by simpa using hjson, r', hr'⟩

/-! ### Addresses -/

section ZeroDigit

lemma digit_mem {b : UInt8} (h : isAsciiDigit b = true) : b ∈ ascii "0123456789" := by
  simp only [isAsciiDigit, byte, Bool.and_eq_true, decide_eq_true_eq, UInt8.le_iff_toNat_le] at h
  have hlow : 48 ≤ b.toNat := h.1
  have hhigh : b.toNat ≤ 57 := h.2
  have hb : b = UInt8.ofNat b.toNat := by simp
  rw [hb]
  interval_cases b.toNat <;> decide

/-- A class of bytes that does not tell digits apart. -/
lemma zeroDigit_class {p : UInt8 → Bool}
    (hp : ((ascii "0123456789").all fun b => p b == p (byte '0')) = true) (b : UInt8) :
    p (zeroDigit b) = p b := by
  rw [zeroDigit]
  split_ifs with hb
  · exact (beq_iff_eq.mp (List.all_eq_true.mp hp b (digit_mem hb))).symm
  · rfl

lemma forall_zeroDigit {p : UInt8 → Bool}
    (hp : ((ascii "0123456789").all fun b => p b == p (byte '0')) = true) {a : Str}
    (h : ∀ b ∈ a.map zeroDigit, p b = true) : ∀ b ∈ a, p b = true := by
  intro b hb
  rw [← zeroDigit_class hp]
  exact h _ (List.mem_map_of_mem hb)

lemma zeroDigit_eq_iff {c : UInt8} (hc : isAsciiDigit c = false) {b : UInt8} :
    zeroDigit b = c ↔ b = c := by
  rw [zeroDigit]
  split_ifs with hb
  · constructor
    · rintro rfl
      exact absurd hc (by decide)
    · rintro rfl
      rw [hb] at hc
      cases hc
  · exact Iff.rfl

/-- What is joined by a separator is joined by it before the digits are zeroed. -/
lemma map_intercalate {s : UInt8} (hs : isAsciiDigit s = false) {a : Str} {groups : List Str}
    (h : a.map zeroDigit = [s].intercalate groups) :
    ∃ groups', a = [s].intercalate groups' ∧ groups = groups'.map (List.map zeroDigit) := by
  induction groups generalizing a with
  | nil =>
      obtain rfl : a = [] := by simpa using h
      exact ⟨[], rfl, rfl⟩
  | cons group groups ih =>
      cases groups with
      | nil => exact ⟨[a], by simp, by simpa using h.symm⟩
      | cons next groups =>
          rw [List.intercalate_cons_cons, List.append_assoc] at h
          obtain ⟨front, back, rfl, rfl, hback⟩ := List.map_eq_append_iff.mp h
          obtain ⟨b, rest, rfl, hb, hrest⟩ := List.map_eq_cons_iff.mp hback
          obtain rfl := (zeroDigit_eq_iff hs).mp hb
          obtain ⟨groups', rfl, hgroups⟩ := ih hrest
          obtain ⟨next', groups', rfl⟩ : ∃ n gs, groups' = n :: gs := by
            cases groups' with
            | nil => cases hgroups
            | cons n gs => exact ⟨n, gs, rfl⟩
          exact ⟨front :: next' :: groups', by simp [List.intercalate_cons_cons],
            by rw [List.map_cons, hgroups]⟩

/-- `::` is where it was. -/
lemma map_pair {a x y : Str} (h : a.map zeroDigit = x ++ (ascii "::" ++ y)) :
    ∃ x' y', a = x' ++ (ascii "::" ++ y') ∧ x'.map zeroDigit = x ∧ y'.map zeroDigit = y := by
  have hcolon : isAsciiDigit (byte ':') = false := by decide
  obtain ⟨x', rest, rfl, rfl, hrest⟩ := List.map_eq_append_iff.mp h
  obtain ⟨b, rest, rfl, hb, hrest⟩ := List.map_eq_cons_iff.mp hrest
  obtain ⟨c, y', rfl, hc, hy⟩ := List.map_eq_cons_iff.mp hrest
  obtain rfl := (zeroDigit_eq_iff hcolon).mp hb
  obtain rfl := (zeroDigit_eq_iff hcolon).mp hc
  exact ⟨x', y', rfl, rfl, hy⟩

lemma HexGroup.of_map {g : Str} (h : HexGroup (g.map zeroDigit)) : HexGroup g := by
  obtain ⟨hbytes, hlen⟩ := h
  rw [List.length_map] at hlen
  exact ⟨forall_zeroDigit (by decide) hbytes, hlen⟩

lemma hexGroups_of_map {groups : List Str}
    (h : ∀ g ∈ groups.map (List.map zeroDigit), HexGroup g) : ∀ g ∈ groups, HexGroup g :=
  fun _ hg => HexGroup.of_map (h _ (List.mem_map_of_mem hg))

lemma IsIpv4Address.of_map {a : Str} (h : IsIpv4Address (a.map zeroDigit)) : IsIpv4Address a := by
  generalize ha : a.map zeroDigit = mapped at h
  obtain ⟨hlen, hgroups⟩ := h
  obtain ⟨groups, rfl, rfl⟩ := map_intercalate (by decide) ha
  rw [List.length_map] at hlen
  refine .mk hlen fun g hg => ?_
  obtain ⟨hbytes, hoctet⟩ := hgroups _ (List.mem_map_of_mem hg)
  rw [List.length_map] at hoctet
  exact ⟨forall_zeroDigit (by decide) hbytes, hoctet⟩

lemma map_concat {groups : List Str} {front : List Str} {last : Str}
    (h : front ++ [last] = groups.map (List.map zeroDigit)) :
    ∃ front' last', groups = front' ++ [last'] ∧ front = front'.map (List.map zeroDigit) ∧
      last = last'.map zeroDigit := by
  obtain ⟨front', back, rfl, rfl, hback⟩ := List.map_eq_append_iff.mp h.symm
  obtain ⟨last', rfl, rfl⟩ := List.map_eq_singleton_iff.mp hback
  exact ⟨front', last', rfl, rfl, rfl⟩

lemma IsIpv6Address.of_map {a : Str} (h : IsIpv6Address (a.map zeroDigit)) : IsIpv6Address a := by
  have hcolon : isAsciiDigit (byte ':') = false := by decide
  generalize ha : a.map zeroDigit = mapped at h
  cases h with
  | full hlen hgroups =>
      obtain ⟨groups, rfl, rfl⟩ := map_intercalate hcolon ha
      rw [List.length_map] at hlen
      exact .full hlen (hexGroups_of_map hgroups)
  | compressed hlen hfront hback =>
      obtain ⟨x, y, rfl, hx, hy⟩ := map_pair ha
      obtain ⟨front, rfl, rfl⟩ := map_intercalate hcolon hx
      obtain ⟨back, rfl, rfl⟩ := map_intercalate hcolon hy
      rw [List.length_map, List.length_map] at hlen
      exact .compressed hlen (hexGroups_of_map hfront) (hexGroups_of_map hback)
  | mixed hlen hgroups hlast =>
      obtain ⟨groups, rfl, heq⟩ := map_intercalate hcolon ha
      obtain ⟨front, last, rfl, rfl, rfl⟩ := map_concat heq
      rw [List.length_map] at hlen
      exact .mixed hlen (hexGroups_of_map hgroups) (IsIpv4Address.of_map hlast)
  | compressedMixed hlen hfront hback hlast =>
      obtain ⟨x, y, rfl, hx, hy⟩ := map_pair ha
      obtain ⟨front, rfl, rfl⟩ := map_intercalate hcolon hx
      obtain ⟨groups, rfl, heq⟩ := map_intercalate hcolon hy
      obtain ⟨back, last, rfl, rfl, rfl⟩ := map_concat heq
      rw [List.length_map, List.length_map] at hlen
      exact .compressedMixed hlen (hexGroups_of_map hfront) (hexGroups_of_map hback)
        (IsIpv4Address.of_map hlast)

lemma IsMacAddress.of_map {a : Str} (h : IsMacAddress (a.map zeroDigit)) : IsMacAddress a := by
  generalize ha : a.map zeroDigit = mapped at h
  obtain ⟨hs, hlen, hgroups⟩ := h
  rename_i s groups
  have hdigit : isAsciiDigit s = false := by rcases hs with rfl | rfl <;> decide
  obtain ⟨groups, rfl, rfl⟩ := map_intercalate hdigit ha
  rw [List.length_map] at hlen
  refine .mk hs hlen fun g hg => ?_
  obtain ⟨hbytes, htwo⟩ := hgroups _ (List.mem_map_of_mem hg)
  rw [List.length_map] at htwo
  exact ⟨forall_zeroDigit (by decide) hbytes, htwo⟩

lemma IsAddress.of_map {a : Str} (h : IsAddress (a.map zeroDigit)) : IsAddress a :=
  h.imp IsIpv4Address.of_map (.imp IsIpv6Address.of_map IsMacAddress.of_map)

/-- **Zeroing the digits** of a text brings no address about. -/
lemma HasAddress.of_map {text : Str} (h : HasAddress (text.map zeroDigit)) : HasAddress text := by
  obtain ⟨before, a, after, htext, ha, hbefore, hafter⟩ := h
  obtain ⟨before, rest, rfl, rfl, hrest⟩ := List.map_eq_append_iff.mp htext
  obtain ⟨a, after, rfl, rfl, rfl⟩ := List.map_eq_append_iff.mp hrest
  refine ⟨before, a, after, rfl, IsAddress.of_map ha, hbefore.imp (fun h b hb => ?_) ?_,
    fun b hb => ?_⟩
  · have hopen := h (zeroDigit b) (by rw [List.getLast?_map, hb, Option.map_some])
    rwa [@zeroDigit_class isOpener (by decide)] at hopen
  · rintro ⟨front, letter, hfront, hletter⟩
    obtain ⟨front, back, rfl, rfl, hback⟩ := List.map_eq_append_iff.mp hfront
    obtain ⟨b, tail, rfl, rfl, htail⟩ := List.map_eq_cons_iff.mp hback
    obtain ⟨c, rest, rfl, hc, hnil⟩ := List.map_eq_cons_iff.mp htail
    obtain rfl := List.map_eq_nil_iff.mp hnil
    obtain rfl := (zeroDigit_eq_iff (by decide)).mp hc
    rw [@zeroDigit_class isAsciiAlphabetic (by decide)] at hletter
    exact ⟨front, b, rfl, hletter⟩
  · have hclose := hafter (zeroDigit b) (by rw [List.head?_map, hb, Option.map_some])
    rwa [@zeroDigit_class isCloser (by decide)] at hclose

end ZeroDigit

/-- What is before a newline, or before the end, ends an address as well. -/
lemma headLine_cut (message : Str) :
    ∃ rest, message = headLine message ++ rest ∧ BeforeCloser rest := by
  have hcut : message = message.takeWhile (· ≠ byte '\n') ++ message.dropWhile (· ≠ byte '\n') :=
    List.takeWhile_append_dropWhile.symm
  have hrest : BeforeCloser (message.dropWhile (· ≠ byte '\n')) := by
    intro b hb
    have hnewline := List.head?_dropWhile_not (· ≠ byte '\n') message
    rw [hb] at hnewline
    obtain rfl : b = byte '\n' := by simpa using hnewline
    decide
  rw [headLine]
  split_ifs with hreturn
  · obtain ⟨front, hfront⟩ := List.getLast?_eq_some_iff.mp hreturn.2
    refine ⟨byte '\r' :: message.dropWhile (· ≠ byte '\n'), ?_, fun b hb => ?_⟩
    · rw [hfront] at hcut ⊢
      rw [List.dropLast_concat]
      rw [List.append_assoc] at hcut
      exact hcut
    · obtain rfl := Option.some.inj hb
      decide
  · exact ⟨_, hcut, hrest⟩

lemma HasAddress.of_headLine {message : Str} (h : HasAddress (headLine message)) :
    HasAddress message := by
  obtain ⟨rest, hmessage, hrest⟩ := headLine_cut message
  obtain ⟨before, a, after, htext, ha, hbefore, hafter⟩ := h
  refine ⟨before, a, after ++ rest, ?_, ha, hbefore, fun b hb => ?_⟩
  · rw [hmessage, htext]
    simp only [List.append_assoc]
  · cases after with
    | nil => exact hrest b hb
    | cons c after => exact hafter b hb

/-- The texts of an event. -/
def SentryEvent.texts (event : SentryEvent) : List Str :=
  [event.message, event.firstLine, event.journal]

/-- The events that were shown, sent, or tried. -/
def mentioned (effects : List Effect) : List SentryEvent :=
  effects.flatMap fun
    | .viewed events => events
    | .sent event => [event]
    | .failed event => [event]
    | _ => []

/-- The texts that the events are made from. -/
def Offer.raw (o : Offer) : List Str :=
  o.journal :: (o.error.toList.map Prod.snd ++ o.recorded.map fun r => utf8 r.2.message)

lemma mentioned_append (a b : List Effect) : mentioned (a ++ b) = mentioned a ++ mentioned b :=
  List.flatMap_append

lemma mentioned_askLoop (events : List SentryEvent) (answers : List (Option (List Char))) :
    mentioned (askLoop events answers).1 ⊆ events := by
  induction answers with
  | nil => simp [askLoop, mentioned]
  | cons answer answers ih =>
      rw [askLoop]
      split_ifs with hlook hyes
      · exact List.append_subset.mpr ⟨List.Subset.refl _, ih⟩
      · simp [mentioned]
      · simp [mentioned]

lemma mentioned_removals (names : List FileName) :
    mentioned (names.map Effect.removed) = [] := by
  simp [mentioned, List.flatMap_map]

lemma mentioned_sendLoop (works : ℕ → Bool) (i : ℕ)
    (events : List (SentryEvent × Option FileName)) :
    mentioned (sendLoop works i events) ⊆ events.map Prod.fst := by
  induction events generalizing i with
  | nil => simp [sendLoop, mentioned]
  | cons first events ih =>
      obtain ⟨event, path⟩ := first
      rw [sendLoop]
      split_ifs with hworks
      · rw [← List.singleton_append, mentioned_append, mentioned_append, mentioned_removals]
        exact List.append_subset.mpr ⟨by simp [mentioned], fun e he =>
          List.mem_cons_of_mem _ (ih (i + 1) he)⟩
      · simp [mentioned]

/-- What a run of ssctl mentions are its events. -/
lemma mentioned_offer {o : Offer} {journal : Str} {events : List (SentryEvent × Option FileName)}
    (hjournal : o.scrub o.journal = some journal) (hevents : o.events journal = some events) :
    ∃ effects, o.offer = some effects ∧ mentioned effects ⊆ events.map Prod.fst := by
  have hnothing : mentioned [] ⊆ events.map Prod.fst := List.nil_subset _
  have hsend := mentioned_sendLoop o.works 0 events
  rw [Offer.offer]
  split_ifs with hsealed hnone
  · exact ⟨[], rfl, hnothing⟩
  · exact ⟨[], rfl, hnothing⟩
  rw [hjournal, Option.bind_eq_bind, Option.bind_some, hevents, Option.bind_eq_bind,
    Option.bind_some]
  cases o.mode with
  | never => exact ⟨[], rfl, hnothing⟩
  | send => exact ⟨_, rfl, hsend⟩
  | ask =>
      cases o.answers with
      | none => exact ⟨[], rfl, hnothing⟩
      | some answers =>
          have hask := mentioned_askLoop (events.map Prod.fst) answers
          simp only
          split_ifs with hyes
          · refine ⟨_, rfl, ?_⟩
            rw [mentioned_append]
            exact List.append_subset.mpr ⟨hask, hsend⟩
          · refine ⟨_, rfl, ?_⟩
            have hmap : o.recorded.map (fun r => Effect.removed r.1) =
                (o.recorded.map Prod.fst).map .removed := by simp
            rw [mentioned_append, hmap, mentioned_removals, List.append_nil]
            exact hask

lemma mapM_some {α β : Type} {f : α → Option β} {P : β → Prop} {as : List α}
    (h : ∀ a ∈ as, ∃ b, f a = some b ∧ P b) : ∃ bs, as.mapM f = some bs ∧ ∀ b ∈ bs, P b := by
  induction as with
  | nil => exact ⟨[], rfl, by simp⟩
  | cons a as ih =>
      obtain ⟨b, hb, hP⟩ := h a List.mem_cons_self
      obtain ⟨bs, hbs, hall⟩ := ih fun a' ha' => h a' (List.mem_cons_of_mem a ha')
      refine ⟨b :: bs, ?_, List.forall_mem_cons.mpr ⟨hP, hall⟩⟩
      rw [List.mapM_cons, hb, hbs]
      rfl

/-- The event is made from one of the texts, and from the journal. -/
def Offer.MadeOf (o : Offer) (journal : Str) (e : SentryEvent × Option FileName) : Prop :=
  (∃ raw ∈ o.raw, o.scrub raw = some e.1.message) ∧ e.1.journal = journal ∧
    e.1.firstLine = (headLine e.1.message).map zeroDigit

lemma events_of_raw {o : Offer} (hraw : ∀ raw ∈ o.raw, ∃ out, o.scrub raw = some out)
    (journal : Str) :
    ∃ events, o.events journal = some events ∧ ∀ e ∈ events, o.MadeOf journal e := by
  obtain ⟨first, hfirst, hfirst'⟩ := @mapM_some _ _ (o.errorEvent journal)
    (o.MadeOf journal) o.error.toList fun e he => by
      have hmem : e.2 ∈ o.raw :=
        List.mem_cons_of_mem _ (List.mem_append_left _ (List.mem_map_of_mem he))
      obtain ⟨message, hmessage⟩ := hraw _ hmem
      exact ⟨_, by rw [Offer.errorEvent, hmessage]; rfl, ⟨_, hmem, hmessage⟩, rfl, rfl⟩
  obtain ⟨rest, hrest, hrest'⟩ := @mapM_some _ _ (o.reportEvent journal)
    (o.MadeOf journal) o.recorded fun r hr => by
      have hmem : utf8 r.2.message ∈ o.raw :=
        List.mem_cons_of_mem _ (List.mem_append_right _ (List.mem_map.mpr ⟨r, hr, rfl⟩))
      obtain ⟨message, hmessage⟩ := hraw _ hmem
      exact ⟨_, by rw [Offer.reportEvent, hmessage]; rfl, ⟨_, hmem, hmessage⟩, rfl, rfl⟩
  refine ⟨first ++ rest, ?_, List.forall_mem_append.mpr ⟨hfirst', hrest'⟩⟩
  rw [Offer.events, hfirst, hrest]
  rfl

/-- **What ssctl shows and sends** has no network address in it, unless one of the texts it is
made from leaks one; on ASCII texts it does not panic. -/
theorem offer_leaks {o : Offer} (hraw : ∀ raw ∈ o.raw, AllAscii raw) :
    ∃ effects, o.offer = some effects ∧ ∀ event ∈ mentioned effects, ∀ text ∈ event.texts,
      HasAddress text → ∃ raw ∈ o.raw, Leaks raw := by
  have hclean : ∀ raw ∈ o.raw,
      o.scrub raw = some (replaceNames (scrubbed raw) o.hosts o.users) :=
    fun raw hmem => scrubNames_ascii (hraw raw hmem) o.hosts o.users
  have hleaks : ∀ raw ∈ o.raw, ∀ out, o.scrub raw = some out → HasAddress out → Leaks raw := by
    intro raw hmem out hout haddress
    obtain rfl := Option.some.inj ((hclean raw hmem).symm.trans hout)
    exact leaks_of_hasAddress (hasAddress_of_replaceNames haddress)
  have hjournal : o.journal ∈ o.raw := List.mem_cons_self
  obtain ⟨events, hevents, hmade⟩ :=
    events_of_raw (fun raw hmem => ⟨_, hclean raw hmem⟩)
      (replaceNames (scrubbed o.journal) o.hosts o.users)
  obtain ⟨effects, heffects, hsubset⟩ := mentioned_offer (hclean _ hjournal) hevents
  refine ⟨effects, heffects, fun event hevent text htext haddress => ?_⟩
  obtain ⟨e, he, rfl⟩ := List.mem_map.mp (hsubset hevent)
  obtain ⟨⟨raw, hmem, hmessage⟩, hjournal', hline⟩ := hmade e he
  simp only [SentryEvent.texts, List.mem_cons, List.not_mem_nil, or_false] at htext
  rcases htext with rfl | rfl | rfl
  · exact ⟨raw, hmem, hleaks raw hmem _ hmessage haddress⟩
  · rw [hline] at haddress
    exact ⟨raw, hmem,
      hleaks raw hmem _ hmessage (HasAddress.of_headLine (HasAddress.of_map haddress))⟩
  · rw [hjournal'] at haddress
    exact ⟨_, hjournal, hleaks _ hjournal _ (hclean _ hjournal) haddress⟩

theorem offer_leaks_enable :
    ∃ effects, failedEnable.offer = some effects ∧ ∀ event ∈ mentioned effects,
      ∀ text ∈ event.texts, HasAddress text → ∃ raw ∈ failedEnable.raw, Leaks raw :=
  offer_leaks fun raw hraw => by
    have hall : (failedEnable.raw.all fun raw => decide (AllAscii raw)) = true := by decide
    simpa using List.all_eq_true.mp hall raw hraw

end SkylineSpeeder.Reports
