import SkylineSpeeder.Machine.Survivors
import SkylineSpeeder.Scrub.Network
import SkylineSpeeder.Scrub.Secrecy

/-!
Whether a network address is left in the report.

* `survives`: an address in what a pass gives was in what the pass was given, between the same
  bytes;
* `runPieces_around`: the run that such an address is, or is the end of;
* `Leaks`: the text that the sixth pass is given has an address after a label that stays;
* `no_address_iff`: the report has no address if and only if the text leaks none.
-/

namespace SkylineSpeeder.Scrub

open Redact
open Text (mem_intercalate)

/-! ### Markers -/

/-- The markers of the passes from the fifth on, and of the names. -/
def lateMarkers : List Str :=
  [ascii "<ipv4>", ascii "<ipv6-or-mac>", ascii "<ipv6>", ascii "<mac>", ascii "<user>",
    ascii "<host>"]

/-- Pieces with these markers. -/
def Marked (ps : List (Piece UInt8)) : Prop :=
  ∀ segment marker, .cut segment marker ∈ ps → marker ∈ lateMarkers

lemma Marked.framed {ps : List (Piece UInt8)} (h : Marked ps) :
    Framed (byte '<') (byte '>') ps := by
  have hall : (lateMarkers.all fun marker => decide (marker.head? = some (byte '<')) &&
      decide (marker.tail.getLast? = some (byte '>'))) = true := by decide
  intro segment marker hcut
  have hends := List.all_eq_true.mp hall marker (h segment marker hcut)
  simp only [Bool.and_eq_true, decide_eq_true_eq] at hends
  cases marker with
  | nil => cases hends.1
  | cons c rest =>
      obtain rfl := Option.some.inj hends.1
      obtain ⟨inner, hinner⟩ := List.getLast?_eq_some_iff.mp hends.2
      exact ⟨inner, congrArg _ hinner⟩

/-- No marker has an address in it. -/
lemma Marked.not_infix {ps : List (Piece UInt8)} (h : Marked ps) {a : Str} (ha : IsAddress a) :
    ∀ segment marker, .cut segment marker ∈ ps → ¬ a <:+: marker := by
  have hall : (lateMarkers.all fun marker => decide (byte ':' ∉ marker) &&
      decide (byte '.' ∉ marker) && decide (marker.count (byte '-') < 5)) = true := by decide
  intro segment marker hcut hin
  have hmarker := List.all_eq_true.mp hall marker (h segment marker hcut)
  simp only [Bool.and_eq_true, decide_eq_true_eq] at hmarker
  rcases ha.marks with hcolon | hdot | hdash
  · exact hmarker.1.1 (hin.subset hcolon)
  · exact hmarker.1.2 (hin.subset hdot)
  · have hle := hin.sublist.count_le (byte '-')
    omega

lemma bracket_not_mem {a : Str} (ha : IsAddress a) : byte '<' ∉ a ∧ byte '>' ∉ a :=
  ⟨fun h => absurd (ha.bytes _ h) (by decide), fun h => absurd (ha.bytes _ h) (by decide)⟩

lemma IsAddress.ne_nil {a : Str} (ha : IsAddress a) : a ≠ [] := by
  rintro rfl
  rcases ha.marks with h | h | h
  · cases h
  · cases h
  · exact absurd h (by decide)

/-! ### Delimiters -/

/-- What is before an address in the result was before it in the text. -/
lemma AfterOpener.source {qs : List (Piece UInt8)} (hframed : Framed (byte '<') (byte '>') qs)
    (h : AfterOpener (render qs)) : AfterOpener (source qs) := by
  cases qs using List.reverseRecOn with
  | nil => exact h
  | append_singleton qs p =>
      cases p with
      | keep b =>
          intro c hc
          refine h c ?_
          rw [source_append] at hc
          rw [render_append]
          simpa using hc
      | cut segment marker =>
          obtain ⟨inner, rfl⟩ := hframed segment marker (by simp)
          have hlast := h (byte '>') (by
            rw [render_append, render_cut, render_nil, List.append_nil, ← List.cons_append,
              ← List.append_assoc, List.getLast?_concat])
          exact absurd hlast (by decide)

lemma AfterLabel.source {qs : List (Piece UInt8)} (hframed : Framed (byte '<') (byte '>') qs)
    (h : AfterLabel (render qs)) : AfterLabel (source qs) := by
  obtain ⟨front, letter, hfront, hletter⟩ := h
  have hsplit : front ++ [letter, byte ':'] = front ++ [letter] ++ [byte ':'] := by simp
  obtain ⟨qs, rfl, hqs⟩ := last_of_render hframed (hfront.trans hsplit) (by decide)
  have hne : letter ≠ byte '>' := by
    rintro rfl
    exact absurd hletter (by decide)
  obtain ⟨qs, rfl, -⟩ := last_of_render hframed.left hqs hne
  exact ⟨Redact.source qs, letter, by simp, hletter⟩

lemma BeforeCloser.source {rs : List (Piece UInt8)} (hframed : Framed (byte '<') (byte '>') rs)
    (h : BeforeCloser (render rs)) : BeforeCloser (source rs) := by
  cases rs with
  | nil => exact h
  | cons p rs =>
      cases p with
      | keep b => exact fun c hc => h c hc
      | cut segment marker =>
          obtain ⟨inner, rfl⟩ := hframed segment marker (by simp)
          exact absurd (h (byte '<') rfl) (by decide)

/-- **An address in the result** was kept, and stands where it stood. -/
lemma survives {ps : List (Piece UInt8)} (hps : Marked ps) {before a after : Str}
    (h : render ps = before ++ (a ++ after)) (ha : IsAddress a) (hafter : BeforeCloser after) :
    ∃ qs rs, ps = qs ++ (keeps a ++ rs) ∧ render qs = before ∧ BeforeCloser (source rs) ∧
      (AfterOpener before → AfterOpener (source qs)) ∧
      (AfterLabel before → AfterLabel (source qs)) := by
  obtain ⟨qs, rs, rfl, rfl, rfl⟩ := word_of_render hps.framed h ha.ne_nil (bracket_not_mem ha).1
    (bracket_not_mem ha).2 (hps.not_infix ha)
  exact ⟨qs, rs, rfl, rfl, hafter.source hps.framed.right.right, (·.source hps.framed.left),
    (·.source hps.framed.left)⟩

/-- No run goes over what is before or after an address. -/
lemma delimiter_bytes {others : Str}
    (hothers : (others.all fun b =>
      !isIpv4Byte b && !isIpv6Byte b && !isMacByte b && !isWord b) = true) {b : UInt8}
    (h : (isAsciiWhitespace b || b = 0x22 || b = 0x27 || b ∈ others) = true) :
    isIpv4Byte b = false ∧ isIpv6Byte b = false ∧ isMacByte b = false ∧ isWord b = false := by
  simp only [isAsciiWhitespace, Bool.or_eq_true, decide_eq_true_eq] at h
  rcases h with ((((((rfl | rfl) | rfl) | rfl) | rfl) | rfl) | rfl) | h
  case inr => simpa [and_assoc] using List.all_eq_true.mp hothers b h
  all_goals decide

lemma isOpener_bytes {b : UInt8} (h : isOpener b = true) :
    isIpv4Byte b = false ∧ isIpv6Byte b = false ∧ isMacByte b = false ∧ isWord b = false :=
  delimiter_bytes (by decide) h

lemma isCloser_bytes {b : UInt8} (h : isCloser b = true) :
    isIpv4Byte b = false ∧ isIpv6Byte b = false ∧ isMacByte b = false ∧ isWord b = false :=
  delimiter_bytes (by decide) h

/-! ### Runs -/

/-- What has ended does not look at what follows. -/
lemma takeWhile_of_ended {p : UInt8 → Bool} {a : Str} (h : a.dropWhile p ≠ []) (z : Str) :
    (a ++ z).takeWhile p = a.takeWhile p ∧ (a ++ z).dropWhile p = a.dropWhile p ++ z := by
  constructor
  · rw [List.takeWhile_append, if_neg]
    intro heq
    have hlength := congrArg List.length (List.takeWhile_append_dropWhile (p := p) (l := a))
    have hpos := List.length_pos_iff.mpr h
    rw [List.length_append] at hlength
    omega
  · rw [List.dropWhile_append, if_neg (by simpa using h)]

section Around

variable {inRun : UInt8 → Bool} {onRun : OnRun}

/-- **A run** between two bytes that are in none. -/
lemma runPieces_around {before run after : Str} (hne : run ≠ [])
    (hbefore : ∀ b, before.getLast? = some b → inRun b = false) (hrun : ∀ b ∈ run, inRun b = true)
    (hafter : ∀ b, after.head? = some b → inRun b = false) (prev : Option UInt8) :
    runPieces inRun onRun prev (before ++ (run ++ after)) =
      runPieces inRun onRun prev before ++
        (onRun (before.getLast?.or prev) run after.head? ++
          runPieces inRun onRun run.getLast? after) := by
  induction prev, before using @runs_induction inRun with
  | hnil prev =>
      obtain ⟨b, run, rfl⟩ := List.exists_cons_of_ne_nil hne
      have hb := hrun b List.mem_cons_self
      have hrest : ∀ c ∈ run, inRun c = true := fun c hc => hrun c (List.mem_cons_of_mem b hc)
      have htake : (run ++ after).takeWhile inRun = run := by
        rw [List.takeWhile_append_of_pos hrest]
        cases after with
        | nil => simp
        | cons c after => simp [hafter c rfl]
      have hdrop : (run ++ after).dropWhile inRun = after := by
        rw [List.dropWhile_append_of_pos hrest]
        cases after with
        | nil => simp
        | cons c after => simp [hafter c rfl]
      rw [List.nil_append, List.cons_append, runPieces_run hb, htake, hdrop, runPieces_nil]
      rfl
  | hkeep prev b before hb ih =>
      have hlast : (b :: before).getLast?.or prev = before.getLast?.or (some b) := by
        rw [List.getLast?_cons]
        cases before.getLast? with
        | none => rfl
        | some c => rfl
      have hbefore' : ∀ c, before.getLast? = some c → inRun c = false := by
        intro c hc
        refine hbefore c ?_
        rw [List.getLast?_cons, hc]
        rfl
      rw [List.cons_append, runPieces_keep hb, runPieces_keep hb, ih hbefore', hlast]
      rfl
  | hrun prev b before hb ih =>
      -- the run ends before the end of `before`
      obtain ⟨c, rest, hcons⟩ : ∃ c rest, before.dropWhile inRun = c :: rest := by
        refine List.exists_cons_of_ne_nil fun hnil => ?_
        have hall : ∀ c ∈ b :: before, inRun c = true :=
          List.forall_mem_cons.mpr ⟨hb, List.dropWhile_eq_nil_iff.mp hnil⟩
        have hlast := hbefore _ (List.getLast?_eq_some_getLast (List.cons_ne_nil b before))
        rw [hall _ (List.getLast_mem _)] at hlast
        cases hlast
      have hsplit : b :: before = b :: before.takeWhile inRun ++ c :: rest := by
        rw [← hcons, List.cons_append, List.takeWhile_append_dropWhile]
      have hlast : (b :: before).getLast? = (c :: rest).getLast? := by
        rw [hsplit, List.getLast?_append_cons]
      obtain ⟨htake, hdrop⟩ := takeWhile_of_ended (hcons ▸ List.cons_ne_nil c rest) (run ++ after)
      have hhead : (c :: rest ++ (run ++ after)).head? = (c :: rest).head? := rfl
      rw [hcons] at ih hdrop
      have hor : (c :: rest).getLast?.or (b :: before.takeWhile inRun).getLast? =
          (b :: before).getLast?.or prev := by
        rw [hlast, List.getLast?_cons]
        rfl
      rw [List.cons_append, runPieces_run hb, runPieces_run hb, htake, hdrop, hhead, hcons,
        ih fun d hd => hbefore d (hlast.trans hd), hor, List.append_assoc]

end Around

/-! ### What the passes cut out -/

lemma marked_ipv4 (text : Str) : Marked (runPieces isIpv4Byte onIpv4 none text) := by
  intro segment marker hcut
  obtain ⟨prev, run, next, -, -, hrun⟩ := mem_runPieces hcut
  rw [cut_ipv4Pieces hrun]
  decide

lemma marked_ipv6 (text : Str) : Marked (runPieces isIpv6Byte onIpv6 none text) := by
  intro segment marker hcut
  obtain ⟨prev, run, next, -, -, hrun⟩ := mem_runPieces hcut
  rcases cut_onIpv6 hrun with rfl | rfl
  · decide
  · decide

lemma marked_mac (text : Str) : Marked (runPieces isMacByte onMac none text) := by
  intro segment marker hcut
  obtain ⟨prev, run, next, -, -, hrun⟩ := mem_runPieces hcut
  rw [cut_onMac hrun]
  decide

lemma marked_homes (text : Str) : Marked (homePieces text) := by
  intro segment marker hcut
  rw [(cut_homePieces hcut).2]
  decide

lemma onIpv4_address {a : Str} (ha : IsIpv4Address a) (prev next : Option UInt8) :
    onIpv4 prev a next = [.cut a (ascii "<ipv4>")] := by
  obtain ⟨hlen, hgroups⟩ := ha
  rename_i groups
  have hdot : ∀ g ∈ groups, byte '.' ∉ g := fun g hg hmem =>
    absurd ((hgroups g hg).1 _ hmem) (by decide)
  have hsplit : (dotted groups).splitOn (byte '.') = groups :=
    List.splitOn_intercalate _ hdot (List.ne_nil_of_length_pos (by omega))
  obtain ⟨p₀, p₁, p₂, p₃, rfl⟩ : ∃ p₀ p₁ p₂ p₃, groups = [p₀, p₁, p₂, p₃] := by
    rcases groups with - | ⟨p₀, - | ⟨p₁, - | ⟨p₂, - | ⟨p₃, - | ⟨p₄, groups⟩⟩⟩⟩⟩
    case cons.cons.cons.cons.nil => exact ⟨p₀, p₁, p₂, p₃, rfl⟩
    all_goals simp at hlen
  rw [onIpv4, hsplit, ipv4Pieces, if_pos, if_pos rfl]
  exact ⟨(hgroups p₀ (by simp)).2, (hgroups p₁ (by simp)).2, (hgroups p₂ (by simp)).2,
    (hgroups p₃ (by simp)).2⟩

/-- **IPv4 addresses** do not outlive the fifth pass. -/
lemma ipv4_not_kept {before front a after : Str} {qs rs : List (Piece UInt8)}
    (ha : IsIpv4Address a)
    (hbefore : ∀ b, (before ++ front).getLast? = some b → isIpv4Byte b = false)
    (hafter : BeforeCloser after)
    (h : runPieces isIpv4Byte onIpv4 none (before ++ (front ++ a ++ after)) =
      qs ++ (keeps (front ++ a) ++ rs)) (hqs : source qs = before) : False := by
  have hne : a ≠ [] := (IsAddress.ne_nil (.inl ha))
  have hrun : ∀ b ∈ a, isIpv4Byte b = true := by
    intro b hb
    rw [isIpv4Byte, Bool.or_eq_true, decide_eq_true_eq]
    exact ha.bytes b hb
  have haround := @runPieces_around isIpv4Byte onIpv4 (before ++ front) a after hne hbefore hrun
    (fun b hb => (isCloser_bytes (hafter b hb)).1) none
  rw [onIpv4_address ha, List.singleton_append] at haround
  have hsplit : before ++ (front ++ a ++ after) = before ++ front ++ (a ++ after) := by simp
  rw [hsplit, haround] at h
  have hpos := List.length_pos_iff.mpr hne
  have hapart := kept_not_cut h.symm
  rw [source_runPieces source_onIpv4, hqs, List.length_append, List.length_append] at hapart
  omega

/-- **MAC addresses with dashes** do not outlive the second half of the sixth. -/
lemma mac_not_kept {before a after : Str} {qs rs : List (Piece UInt8)} (ha : IsMacAddress a)
    (hdash : byte '-' ∈ a) (hbefore : ∀ b, before.getLast? = some b → isMacByte b = false)
    (hafter : BeforeCloser after)
    (h : runPieces isMacByte onMac none (before ++ (a ++ after)) = qs ++ (keeps a ++ rs))
    (hqs : source qs = before) : False := by
  have hne : a ≠ [] := IsAddress.ne_nil (.inr (.inr ha))
  obtain ⟨hs, hlen, hgroups⟩ := ha
  rename_i s groups
  have hnone : ∀ g ∈ groups, byte '-' ∉ g := fun g hg hmem =>
    absurd ((hgroups g hg).1 _ hmem) (by decide)
  obtain rfl : s = byte '-' := by
    rcases mem_intercalate hdash with rfl | ⟨g, hg, hmem⟩
    · rfl
    · exact absurd hmem (hnone g hg)
  have hmac : IsDashMac ([byte '-'].intercalate groups) := by
    rw [IsDashMac, List.splitOn_intercalate _ hnone (List.ne_nil_of_length_pos (by omega))]
    exact ⟨hlen, List.all_eq_true.mpr fun g hg => by simpa using (hgroups g hg).2⟩
  have hrun : ∀ b ∈ [byte '-'].intercalate groups, isMacByte b = true := by
    intro b hb
    rw [isMacByte, Bool.or_eq_true, decide_eq_true_eq]
    rcases mem_intercalate hb with rfl | ⟨g, hg, hb⟩
    · exact .inr rfl
    · exact .inl ((hgroups g hg).1 b hb)
  have haround := @runPieces_around isMacByte onMac before _ after hne hbefore hrun
    (fun b hb => (isCloser_bytes (hafter b hb)).2.2.1) none
  rw [onMac, if_pos hmac, List.singleton_append] at haround
  rw [haround] at h
  have hpos := List.length_pos_iff.mpr hne
  have hapart := kept_not_cut h.symm
  rw [source_runPieces source_onMac, hqs] at hapart
  omega

/-- **An address with colons** that follows no label does not outlive the first half. -/
lemma colon_not_kept {before a after : Str} {qs rs : List (Piece UInt8)} (ha : IsColonAddress a)
    (hbefore : AfterOpener before) (hafter : BeforeCloser after)
    (h : runPieces isIpv6Byte onIpv6 none (before ++ (a ++ after)) = qs ++ (keeps a ++ rs))
    (hqs : source qs = before) : False := by
  have hne := ha.1.ne_nil
  obtain ⟨hrun, -, hcolon, hform⟩ := ha.known
  have haround := @runPieces_around isIpv6Byte onIpv6 before a after hne
    (fun b hb => (isOpener_bytes (hbefore b hb)).2.1) hrun
    (fun b hb => (isCloser_bytes (hafter b hb)).2.1) none
  have hlast : lastColon a = [] := by rw [lastColon, hcolon, List.drop_length]
  have hprev : (before.getLast?.or none).any isWord = false := by
    cases hb : before.getLast? with
    | none => rfl
    | some b => exact (isOpener_bytes (hbefore b hb)).2.2.2
  have hnext : (lastColon a ++ after.head?.toList).head?.any isWord = false := by
    rw [hlast, List.nil_append]
    cases hb : after.head? with
    | none => rfl
    | some b => exact (isCloser_bytes (hafter b hb)).2.2.2
  have hipv6 : IsIpv6 (before.getLast?.or none) a after.head? := ⟨hprev, hnext, by rwa [hcolon]⟩
  rw [onIpv6, if_pos hipv6, hcolon, List.cons_append] at haround
  rw [haround] at h
  have hpos := List.length_pos_iff.mpr hne
  have hapart := kept_not_cut h.symm
  rw [source_runPieces source_onIpv6, hqs] at hapart
  omega

/-! ### Addresses after a label -/

lemma length_le_colonRun (run : Str) : run.length ≤ (colonRun run).length + 1 := by
  rw [colonRun]
  split_ifs
  · rw [List.length_dropLast]
    omega
  · omega

lemma keeps_append (a b : Str) : keeps (a ++ b) = keeps a ++ keeps b := List.map_append

/-- The pass cuts nothing empty out. -/
lemma cut_ipv6_ne_nil {prev : Option UInt8} {text segment marker : Str}
    (h : .cut segment marker ∈ runPieces isIpv6Byte onIpv6 prev text) : segment ≠ [] := by
  obtain ⟨before, run, next, hne, -, hmem⟩ := mem_runPieces h
  have hcolon : colonRun run ≠ [] := by
    rw [colonRun]
    split_ifs with hcut
    · refine List.ne_nil_of_length_pos ?_
      rw [List.length_dropLast]
      omega
    · exact hne
  rw [onIpv6] at hmem
  split_ifs at hmem
  · rw [(Piece.cut.inj ((List.mem_cons.mp hmem).resolve_right (by simp [keeps]))).1]
    exact hcolon
  · rw [(Piece.cut.inj ((List.mem_cons.mp hmem).resolve_right (by simp [keeps]))).1]
    exact hcolon
  · simp [keeps] at hmem

lemma cut_mac_ne_nil {prev : Option UInt8} {text segment marker : Str}
    (h : .cut segment marker ∈ runPieces isMacByte onMac prev text) : segment ≠ [] := by
  obtain ⟨before, run, next, hne, -, hmem⟩ := mem_runPieces h
  rw [onMac] at hmem
  split_ifs at hmem
  · rwa [(Piece.cut.inj (List.mem_singleton.mp hmem)).1]
  · simp [keeps] at hmem

lemma cut_home_ne_nil {text segment marker : Str}
    (h : .cut segment marker ∈ homePieces text) : segment ≠ [] := by
  induction text using homes_induction with
  | hnil => simp at h
  | hcons b text hnot ih =>
      rw [homePieces_cons hnot, List.mem_cons] at h
      exact ih (h.resolve_left (by simp))
  | hhome text ih =>
      rw [homePieces_home, List.mem_append, List.mem_append, namePieces] at h
      rcases h with (h | h) | h
      · simp [keeps] at h
      · split_ifs at h with hne
        · rwa [(Piece.cut.inj (List.mem_singleton.mp h)).1]
        · cases h
      · exact ih h

/-- The text before the run that an address is the end of, and the front of that run. -/
lemma ahead_append (before : Str) :
    before.rdropWhile isIpv6Byte ++ before.rtakeWhile isIpv6Byte = before :=
  List.rdropWhile_append_rtakeWhile

/-- The pieces up to the end of the run that an address is the end of. -/
lemma pieces_of_run {before a after : Str} (ha : IsColonAddress a) (hafter : BeforeCloser after) :
    runPieces isIpv6Byte onIpv6 none (before ++ (a ++ after)) =
      runPieces isIpv6Byte onIpv6 none (before.rdropWhile isIpv6Byte) ++
        (onIpv6 (before.rdropWhile isIpv6Byte).getLast? (before.rtakeWhile isIpv6Byte ++ a)
            after.head? ++
          runPieces isIpv6Byte onIpv6 (before.rtakeWhile isIpv6Byte ++ a).getLast? after) := by
  obtain ⟨hrun, -, -, -⟩ := ha.known
  have hall : ∀ b ∈ before.rtakeWhile isIpv6Byte ++ a, isIpv6Byte b = true :=
    List.forall_mem_append.mpr ⟨fun b hb => List.mem_rtakeWhile_imp hb, hrun⟩
  have hfront : ∀ b, (before.rdropWhile isIpv6Byte).getLast? = some b → isIpv6Byte b = false := by
    intro b hb
    obtain ⟨rest, hrest⟩ := List.getLast?_eq_some_iff.mp hb
    have hlast := List.rdropWhile_last_not isIpv6Byte before (by simp [hrest])
    simpa [hrest] using hlast
  have haround := @runPieces_around isIpv6Byte onIpv6 (before.rdropWhile isIpv6Byte)
    (before.rtakeWhile isIpv6Byte ++ a) after
    (fun hnil => ha.1.ne_nil (List.append_eq_nil_iff.mp hnil).2) hfront hall
    (fun b hb => (isCloser_bytes (hafter b hb)).2.1) none
  rw [Option.or_none, ← List.append_assoc, ← List.append_assoc, ahead_append,
    List.append_assoc] at haround
  exact haround

/-- **The run of an address after a label**: it is kept as a whole, with what is before it. -/
lemma label_kept {before a after : Str} {qs rs : List (Piece UInt8)} (ha : IsColonAddress a)
    (hafter : BeforeCloser after)
    (h : runPieces isIpv6Byte onIpv6 none (before ++ (a ++ after)) = qs ++ (keeps a ++ rs))
    (hqs : source qs = before) :
    ¬ IsIpv6 (before.rdropWhile isIpv6Byte).getLast? (before.rtakeWhile isIpv6Byte ++ a)
        after.head? ∧
      render qs = ipv6 (before.rdropWhile isIpv6Byte) ++ before.rtakeWhile isIpv6Byte := by
  obtain ⟨-, htwo, -, -⟩ := ha.known
  have haround := @pieces_of_run before a after ha hafter
  have hlength := congrArg List.length (ahead_append before)
  rw [List.length_append] at hlength
  by_cases hipv6 : IsIpv6 (before.rdropWhile isIpv6Byte).getLast?
      (before.rtakeWhile isIpv6Byte ++ a) after.head?
  · -- the run would be cut out up to a colon at its end, and the address with it
    rw [onIpv6, if_pos hipv6, List.cons_append] at haround
    have hapart := kept_not_cut (h.symm.trans haround)
    have hcolon := length_le_colonRun (before.rtakeWhile isIpv6Byte ++ a)
    rw [source_runPieces source_onIpv6, hqs] at hapart
    rw [List.length_append] at hcolon
    omega
  · refine ⟨hipv6, ?_⟩
    rw [onIpv6, if_neg hipv6, keeps_append, List.append_assoc (keeps _),
      ← List.append_assoc (runPieces _ _ _ _)] at haround
    have hsource : source qs = source (runPieces isIpv6Byte onIpv6 none
        (before.rdropWhile isIpv6Byte) ++ keeps (before.rtakeWhile isIpv6Byte)) := by
      rw [hqs, source_append, source_runPieces source_onIpv6, source_keeps, ahead_append]
    have heq := (append_inj_of_source (h.symm.trans haround) hsource fun segment marker hcut =>
      cut_ipv6_ne_nil (h ▸ hcut)).1
    rw [heq, render_append, render_keeps]
    rfl

/-- A colon is in no run of the second half. -/
lemma macPieces_colon {x z : Str} {qs rs : List (Piece UInt8)}
    (h : runPieces isMacByte onMac none (x ++ byte ':' :: z) = qs ++ rs)
    (hqs : source qs = x ++ [byte ':']) : render qs = mac (x ++ [byte ':']) := by
  have hcolon : isMacByte (byte ':') = false := by decide
  have hone := @runPieces_append_cons _ onMac _ hcolon (fun _ _ => rfl) none x []
  have hlong : runPieces isMacByte onMac none (x ++ byte ':' :: z) =
      runPieces isMacByte onMac none (x ++ [byte ':']) ++
        runPieces isMacByte onMac (some (byte ':')) z := by
    rw [hone, @runPieces_append_cons _ onMac _ hcolon (fun _ _ => rfl) none x z]
    simp
  have hsource : source qs = source (runPieces isMacByte onMac none (x ++ [byte ':'])) := by
    rw [hqs, source_runPieces source_onMac]
  rw [(append_inj_of_source (h.symm.trans hlong) hsource fun segment marker hcut =>
    cut_mac_ne_nil (h ▸ hcut)).1]
  rfl

/-- **After a colon** the last pass begins anew, or is in the middle of a name. -/
lemma homePieces_colon {x z : Str} {c : UInt8} (hx : x.getLast? = some (byte ':'))
    (hc : isHomeStop c = false) :
    (homePieces (x ++ c :: z) = homePieces x ++ homePieces (c :: z)) ∨
      ∃ qs segment marker rs, homePieces (x ++ c :: z) = qs ++ .cut segment marker :: rs ∧
        (source qs).length < x.length ∧ x.length < (source qs).length + segment.length ∧
        (homes x).getLast? = some (byte '>') := by
  induction x using homes_induction with
  | hnil => cases hx
  | hcons b x hb ih =>
      have hnot : ¬ ascii "/home/" <+: b :: (x ++ c :: z) := by
        intro hpre
        rw [← List.cons_append] at hpre
        rcases List.prefix_or_prefix_of_prefix hpre (List.prefix_append _ _) with hle | hle
        · exact hb hle
        · exact absurd (hle.subset (List.mem_of_getLast? hx)) (by decide)
      rw [List.cons_append, homePieces_cons hnot, homePieces_cons hb, List.cons_append]
      by_cases hnil : x = []
      · subst hnil
        exact .inl (by simp)
      · have hx' : x.getLast? = some (byte ':') := by
          obtain ⟨d, rest, rfl⟩ := List.exists_cons_of_ne_nil hnil
          rwa [List.getLast?_cons_cons] at hx
        rcases ih hx' with heq | ⟨qs, segment, marker, rs, heq, hlt, hgt, hlast⟩
        · exact .inl (congrArg _ heq)
        · refine .inr ⟨.keep b :: qs, segment, marker, rs, congrArg _ heq, ?_, ?_, ?_⟩
          · simpa using hlt
          · rw [List.length_cons, source_keep, List.length_cons]
            omega
          · rw [homes, homePieces_cons hb, render_keep, ← homes, List.getLast?_cons, hlast]
            rfl
  | hhome x ih =>
      have hnil : x ≠ [] := by
        rintro rfl
        rw [List.append_nil] at hx
        exact absurd hx (by decide)
      have hx' : x.getLast? = some (byte ':') := by
        obtain ⟨d, rest, rfl⟩ := List.exists_cons_of_ne_nil hnil
        rwa [List.getLast?_append_cons] at hx
      rw [List.append_assoc, homePieces_home, homePieces_home]
      by_cases hopen : afterHome x = []
      · -- the name goes on with what follows
        right
        have hall : ∀ b ∈ x, (!isHomeStop b) = true := List.dropWhile_eq_nil_iff.mp hopen
        have hname : homeOf (x ++ c :: z) = x ++ homeOf (c :: z) :=
          List.takeWhile_append_of_pos hall
        have hhome : homeOf (c :: z) = c :: homeOf z := List.takeWhile_cons_of_pos (by simp [hc])
        have hself : homeOf x = x := List.takeWhile_eq_self_iff.mpr hall
        refine ⟨keeps (ascii "/home/"), homeOf (x ++ c :: z), ascii "<user>",
          homePieces (afterHome (x ++ c :: z)), ?_, ?_, ?_, ?_⟩
        · rw [namePieces, if_pos (by rw [hname, hhome]; simp), List.append_assoc]
          rfl
        · rw [source_keeps, List.length_append]
          exact Nat.lt_add_of_pos_right (List.length_pos_iff.mpr hnil)
        · rw [source_keeps, hname, hhome, List.length_append, List.length_append, List.length_cons]
          omega
        · rw [homes, homePieces_home, namePieces, if_pos (by rwa [hself]), hopen, homePieces_nil,
            List.append_nil, render_append, render_cut, render_nil, List.append_nil]
          have hend : ascii "<user>" = ascii "<user" ++ [byte '>'] := by simp [ascii]
          rw [hend, ← List.append_assoc, List.getLast?_concat]
      · obtain ⟨d, rest, hcons⟩ := List.exists_cons_of_ne_nil hopen
        have hsplit : x = homeOf x ++ d :: rest := by
          rw [← hcons, homeOf_append_afterHome]
        have hboth : homeOf (x ++ c :: z) = homeOf x ∧
            afterHome (x ++ c :: z) = afterHome x ++ c :: z := takeWhile_of_ended hopen _
        have hnames : namePieces (x ++ c :: z) = namePieces x := by
          rw [namePieces, namePieces, hboth.1]
        have hlast : (afterHome x).getLast? = some (byte ':') := by
          rw [hsplit, List.getLast?_append_cons] at hx'
          rwa [hcons]
        rw [hnames, hboth.2]
        rcases ih hlast with heq | ⟨qs, segment, marker, rs, heq, hlt, hgt, hend⟩
        · left
          rw [heq]
          simp only [List.append_assoc]
        · right
          have hlength := congrArg List.length (homeOf_append_afterHome x)
          rw [List.length_append] at hlength
          refine ⟨keeps (ascii "/home/") ++ namePieces x ++ qs, segment, marker, rs, ?_, ?_, ?_, ?_⟩
          · rw [heq]
            simp only [List.append_assoc]
          · simp only [source_append, source_keeps, source_namePieces, List.length_append]
            omega
          · simp only [source_append, source_keeps, source_namePieces, List.length_append]
            omega
          · rw [homes, homePieces_home, render_append, ← homes]
            obtain ⟨e, back, hback⟩ : ∃ e back, homes (afterHome x) = e :: back := by
              refine List.exists_cons_of_ne_nil fun hnone => ?_
              rw [hnone] at hend
              cases hend
            rw [hback] at hend ⊢
            rwa [List.getLast?_append_cons]

/-! ### The text that leaks -/

/-- The text that the sixth pass is given. -/
def sixthText (text : Str) : Str := ipv4 (secretValues (secretText text))

/-- What is left of the text before an address, if the run that it ends is kept. -/
def leftBefore (before : Str) : Str :=
  homes (mac (ipv6 (before.rdropWhile isIpv6Byte) ++ before.rtakeWhile isIpv6Byte))

/-- An address after a label, in a run that is kept, and the label stays too. -/
structure Leak (before a after : Str) : Prop where
  address : IsColonAddress a
  label : AfterLabel before
  closer : BeforeCloser after
  run : ¬ IsIpv6 (before.rdropWhile isIpv6Byte).getLast? (before.rtakeWhile isIpv6Byte ++ a)
    after.head?
  left : AfterLabel (leftBefore before)

/-- The sixth pass is given such an address. -/
def Leaks (text : Str) : Prop :=
  ∃ before a after, sixthText text = before ++ (a ++ after) ∧ Leak before a after

/-- An address has colons only, ends with an IPv4 address, or has dashes. -/
lemma IsAddress.kind {a : Str} (ha : IsAddress a) :
    IsColonAddress a ∨
      (∃ front last, a = front ++ last ∧ IsIpv4Address last ∧
        ∀ b, front.getLast? = some b → b = byte ':') ∨
      (IsMacAddress a ∧ byte '-' ∈ a) := by
  rcases ha with h | h | h
  · exact .inr (.inl ⟨[], a, rfl, h, by simp⟩)
  · rcases h.form with hbytes | ⟨front, last, rfl, -, hlast⟩
    · exact .inl ⟨.inr (.inl h), fun hmem => absurd (hbytes _ hmem) (by decide),
        fun hmem => absurd (hbytes _ hmem) (by decide)⟩
    · exact .inr (.inl ⟨front ++ [byte ':'], last, by simp, hlast, by simp⟩)
  · by_cases hdash : byte '-' ∈ a
    · exact .inr (.inr ⟨h, hdash⟩)
    · refine .inl ⟨.inr (.inr h), fun hmem => ?_, hdash⟩
      obtain ⟨rfl | rfl, -, hgroups⟩ := h
      all_goals
        rcases mem_intercalate hmem with heq | ⟨g, hg, hmem⟩
        · exact absurd heq (by decide)
        · exact absurd ((hgroups g hg).1 _ hmem) (by decide)

/-- The byte before an address is in no run of digits and dots, nor of digits and dashes. -/
lemma last_before {before : Str} (h : AfterOpener before ∨ AfterLabel before) {b : UInt8}
    (hb : before.getLast? = some b) : isIpv4Byte b = false ∧ isMacByte b = false := by
  rcases h with h | ⟨front, letter, rfl, -⟩
  · exact ⟨(isOpener_bytes (h b hb)).1, (isOpener_bytes (h b hb)).2.2.1⟩
  · rw [List.getLast?_append_cons] at hb
    obtain rfl : byte ':' = b := Option.some.inj hb
    decide

/-- No name of a home directory ends in an address. -/
lemma not_homeStop {b : UInt8} (h : isAddressByte b = true) : isHomeStop b = false := by
  rw [← Bool.not_eq_true]
  intro hstop
  simp only [isHomeStop, isAsciiWhitespace, Bool.or_eq_true, decide_eq_true_eq] at hstop
  rcases hstop with rfl | (((rfl | rfl) | rfl) | rfl) | rfl
  all_goals exact absurd h (by decide)

/-- **An address that is left** is one that leaks. -/
lemma leaks_of_hasAddress {text : Str} (h : HasAddress (scrubbed text)) : Leaks text := by
  obtain ⟨before, a, after, hout, ha, hbefore, hafter⟩ := h
  -- the address in the texts that the passes are given, from the last to the fifth
  obtain ⟨qs₈, rs₈, h₈, hq₈, hafter₈, hopen₈, hlabel₈⟩ :=
    survives (marked_homes (mac (ipv6 (sixthText text)))) hout ha hafter
  have htext₇ := congrArg source h₈
  rw [source_homePieces, source_append, source_append, source_keeps] at htext₇
  obtain ⟨qs₇, rs₇, h₇, hq₇, hafter₇, hopen₇, hlabel₇⟩ :=
    survives (marked_mac (ipv6 (sixthText text))) htext₇ ha hafter₈
  have htext₆ := congrArg source h₇
  rw [source_runPieces source_onMac, source_append, source_append, source_keeps] at htext₆
  obtain ⟨qs₆, rs₆, h₆, hq₆, hafter₆, hopen₆, hlabel₆⟩ :=
    survives (marked_ipv6 (sixthText text)) htext₆ ha hafter₇
  have htext₅ := congrArg source h₆
  rw [source_runPieces source_onIpv6, source_append, source_append, source_keeps] at htext₅
  obtain ⟨qs₅, rs₅, h₅, hq₅, hafter₅, hopen₅, hlabel₅⟩ :=
    survives (marked_ipv4 (secretValues (secretText text))) htext₅ ha hafter₆
  have htext₄ := congrArg source h₅
  rw [source_runPieces source_onIpv4, source_append, source_append, source_keeps] at htext₄
  have hbefore₇ := hbefore.imp hopen₈ hlabel₈
  have hbefore₆ := hbefore₇.imp hopen₇ hlabel₇
  have hbefore₅ := hbefore₆.imp hopen₆ hlabel₆
  have hbefore₄ := hbefore₅.imp hopen₅ hlabel₅
  rcases ha.kind with hcolon | ⟨front, last, rfl, hlast, hfront⟩ | ⟨hmac, hdash⟩
  · rcases hbefore with hopen | hlabel
    · rw [htext₅] at h₆
      exact (colon_not_kept hcolon (hopen₆ (hopen₇ (hopen₈ hopen))) hafter₆ h₆ rfl).elim
    · have hlabel₅ := hlabel₆ (hlabel₇ (hlabel₈ hlabel))
      rw [htext₅] at h₆
      obtain ⟨hrun, hleft⟩ := label_kept hcolon hafter₆ h₆ rfl
      -- the label ends the run, so the passes that follow make of it what they make of it alone
      have hmac : render qs₇ = mac (source qs₇) := by
        obtain ⟨x, letter, hx, -⟩ := hlabel₇ (hlabel₈ hlabel)
        have hsplit : source qs₇ = x ++ [letter] ++ [byte ':'] := by simp [hx]
        rw [htext₆, hsplit, List.append_assoc _ [byte ':'], List.singleton_append] at h₇
        rw [macPieces_colon h₇ hsplit, hsplit]
      have hhomes : render qs₈ = homes (source qs₈) := by
        obtain ⟨x, letter, hx, -⟩ := hlabel₈ hlabel
        obtain ⟨c, rest, rfl⟩ := List.exists_cons_of_ne_nil ha.ne_nil
        have hc : isHomeStop c = false := not_homeStop (ha.bytes c List.mem_cons_self)
        have hlast : (source qs₈).getLast? = some (byte ':') := by
          rw [hx, List.getLast?_append_cons]
          rfl
        rw [htext₇] at h₈
        rcases @homePieces_colon (source qs₈) (rest ++ source rs₈) c hlast hc with
          heq | ⟨qs, segment, marker, rs, heq, hlt, hgt, -⟩
        · have hsource : source qs₈ = source (homePieces (source qs₈)) := by simp
          have hqs := (append_inj_of_source (h₈.symm.trans heq) hsource fun segment marker hcut =>
            cut_home_ne_nil (h₈ ▸ hcut)).1
          nth_rewrite 1 [hqs]
          rfl
        · have hapart := kept_not_cut (h₈.symm.trans heq)
          rw [List.length_cons] at hapart
          omega
      refine ⟨source qs₆, a, source rs₆, htext₅, hcolon, hlabel₅, hafter₆, hrun, ?_⟩
      rw [leftBefore, ← hleft, hq₆, ← hmac, hq₇, ← hhomes, hq₈]
      exact hlabel
  · rw [htext₄] at h₅
    refine (ipv4_not_kept hlast (fun b hb => ?_) hafter₅ h₅ rfl).elim
    by_cases hnil : front = []
    · rw [hnil, List.append_nil] at hb
      exact (last_before hbefore₄ hb).1
    · obtain ⟨c, rest, rfl⟩ := List.exists_cons_of_ne_nil hnil
      rw [List.getLast?_append_cons] at hb
      rw [hfront b hb]
      decide
  · rw [htext₆] at h₇
    exact (mac_not_kept hmac hdash (fun b hb => (last_before hbefore₆ hb).2) hafter₇ h₇ rfl).elim

/-! ### What leaks is left -/

lemma BeforeCloser.ipv6 {after : Str} (h : BeforeCloser after) (prev : Option UInt8) :
    BeforeCloser (render (runPieces isIpv6Byte onIpv6 prev after)) := by
  cases after with
  | nil => simpa using h
  | cons s after =>
      rw [runPieces_keep (isCloser_bytes (h s rfl)).2.1]
      exact fun b hb => h b hb

/-- Without a dash there is no such address. -/
lemma mac_of_no_dash {text : Str} (h : byte '-' ∉ text) (prev : Option UInt8) :
    runPieces isMacByte onMac prev text = keeps text := by
  induction prev, text using @runs_induction isMacByte with
  | hnil prev => simp
  | hkeep prev b text hb ih =>
      rw [runPieces_keep hb, ih fun hmem => h (List.mem_cons_of_mem b hmem), keeps_cons]
  | hrun prev b text hb ih =>
      have hrest : byte '-' ∉ text.dropWhile isMacByte := fun hmem =>
        h (List.mem_cons_of_mem b ((List.dropWhile_sublist _).subset hmem))
      have hnot : ¬ IsDashMac (b :: text.takeWhile isMacByte) := by
        have hnone : byte '-' ∉ b :: text.takeWhile isMacByte := by
          rw [List.mem_cons, not_or] at h ⊢
          exact ⟨h.1, fun hmem => h.2 ((List.takeWhile_prefix _).subset hmem)⟩
        rw [IsDashMac, List.splitOn_eq_singleton hnone]
        exact fun hmac => absurd hmac.1 (by simp)
      rw [runPieces_run hb, onMac, if_neg hnot, ih hrest, ← keeps_append, List.cons_append,
        List.takeWhile_append_dropWhile]

/-- An address with colons only is none for the second half. -/
lemma mac_colon_address {a after : Str} (ha : IsColonAddress a) (hafter : BeforeCloser after) :
    mac (a ++ after) = a ++ mac after := by
  have hself : mac a = a := by rw [mac, mac_of_no_dash ha.2.2, render_keeps]
  cases after with
  | nil => simpa [mac] using hself
  | cons s after =>
      have hs := (isCloser_bytes (hafter s rfl)).2.2.1
      have hempty := mac_append_cons hs [] after
      have hnil : mac [] = [] := by simp [mac]
      rw [List.nil_append, hnil, List.nil_append] at hempty
      rw [mac_append_cons hs, hself, hempty]

lemma BeforeCloser.mac {after : Str} (h : BeforeCloser after) : BeforeCloser (mac after) := by
  cases after with
  | nil => simpa [Scrub.mac] using h
  | cons s after =>
      rw [Scrub.mac, runPieces_keep (isCloser_bytes (h s rfl)).2.2.1]
      exact fun b hb => h b hb

lemma homes_of_no_slash {a : Str} (h : byte '/' ∉ a) (z : Str) : homes (a ++ z) = a ++ homes z := by
  induction a with
  | nil => rfl
  | cons b a ih =>
      rw [List.mem_cons, not_or] at h
      have hnot : ¬ ascii "/home/" <+: b :: (a ++ z) := fun hpre =>
        h.1 (List.cons_prefix_cons.mp hpre).1
      rw [List.cons_append, homes, homePieces_cons hnot, render_keep, ← homes, ih h.2,
        List.cons_append]

lemma BeforeCloser.homes {after : Str} (h : BeforeCloser after) : BeforeCloser (homes after) := by
  cases after with
  | nil => simpa [Scrub.homes] using h
  | cons s after =>
      by_cases hpre : ascii "/home/" <+: s :: after
      · obtain ⟨rest, hrest⟩ := hpre
        rw [← hrest] at h ⊢
        rw [Scrub.homes, homePieces_home, List.append_assoc, render_append, render_keeps]
        exact fun b hb => h b hb
      · rw [Scrub.homes, homePieces_cons hpre]
        exact fun b hb => h b hb

/-- **An address that leaks** is left. -/
lemma hasAddress_of_leaks {text : Str} (h : Leaks text) : HasAddress (scrubbed text) := by
  obtain ⟨before, a, after, htext, hcolon, ⟨x, letter, hx, -⟩, hafter, hrun, hleft⟩ := h
  obtain ⟨front, hfront⟩ : ∃ front, front =
      ipv6 (before.rdropWhile isIpv6Byte) ++ before.rtakeWhile isIpv6Byte := ⟨_, rfl⟩
  rw [leftBefore, ← hfront] at hleft
  -- the colon before the address is its own run's, and stays
  obtain ⟨y, hy⟩ : ∃ y, front = y ++ [byte ':'] := by
    have hsplit : before = x ++ [letter] ++ [byte ':'] := by simp [hx]
    have hcolon : isIpv6Byte (byte ':') = true := by decide
    rw [hfront, hsplit, List.rtakeWhile_concat_pos _ _ _ hcolon, ← List.append_assoc]
    exact ⟨_, rfl⟩
  obtain ⟨after₆, hafter₆⟩ : ∃ after₆, after₆ = render (runPieces isIpv6Byte onIpv6
      (before.rtakeWhile isIpv6Byte ++ a).getLast? after) := ⟨_, rfl⟩
  have hcloser : BeforeCloser after₆ := by
    rw [hafter₆]
    exact hafter.ipv6 _
  -- the address goes through each of the last three passes as it is
  have hipv6 : ipv6 (sixthText text) = front ++ (a ++ after₆) := by
    rw [htext, ipv6, pieces_of_run hcolon hafter, onIpv6, if_neg hrun, render_append, render_append,
      render_keeps, ← hafter₆, hfront, ← ipv6]
    simp only [List.append_assoc]
  have hmac : mac (front ++ (a ++ after₆)) = mac front ++ (a ++ mac after₆) := by
    have hcolon' : isMacByte (byte ':') = false := by decide
    have hnil : mac [] = [] := by simp [mac]
    rw [hy, List.append_assoc, List.singleton_append, mac_append_cons hcolon',
      mac_append_cons hcolon', mac_colon_address hcolon hcloser, hnil]
    simp
  have hlast : (mac front).getLast? = some (byte ':') := by
    have hcolon' : isMacByte (byte ':') = false := by decide
    rw [hy, mac_append_cons hcolon', List.getLast?_append_cons]
    simp [mac]
  have hslash : byte '/' ∉ a := fun hmem => absurd (hcolon.1.bytes _ hmem) (by decide)
  have hhomes : homes (mac front ++ (a ++ mac after₆)) =
      homes (mac front) ++ (a ++ homes (mac after₆)) := by
    rw [← homes_of_no_slash hslash]
    obtain ⟨c, rest, rfl⟩ := List.exists_cons_of_ne_nil hcolon.1.ne_nil
    have hc := not_homeStop (hcolon.1.bytes c List.mem_cons_self)
    rcases @homePieces_colon (mac front) (rest ++ mac after₆) c hlast hc with
      heq | ⟨qs, segment, marker, rs, -, -, -, hend⟩
    · rw [homes, List.cons_append, heq, render_append]
      rfl
    · obtain ⟨front', letter', hfront', -⟩ := hleft
      rw [hfront', List.getLast?_append_cons] at hend
      have hsame : byte ':' = byte '>' := Option.some.inj hend
      exact absurd hsame (by decide)
  refine ⟨homes (mac front), a, homes (mac after₆), ?_, hcolon.1, .inr hleft, hcloser.mac.homes⟩
  have hpasses : scrubbed text = homes (mac (ipv6 (sixthText text))) := rfl
  rw [hpasses, hipv6, hmac, hhomes]

/-! ### The names of the host and of the users -/

/-- The rest of a match is passed over. -/
lemma replace_append (pat by_ : Str) (a b : Str) :
    replace pat by_ a.length (a ++ b) = replace pat by_ 0 b := by
  induction a with
  | nil => rfl
  | cons c a ih =>
      rw [List.cons_append, replace, if_pos (by simp), List.length_cons, Nat.add_sub_cancel, ih]

/-- What `str::replace` gives, as pieces. -/
lemma exists_replacePieces {pat : Str} (hne : pat ≠ []) (by_ text : Str) :
    ∃ ps : List (Piece UInt8), source ps = text ∧ render ps = replace pat by_ 0 text ∧
      ∀ segment marker, .cut segment marker ∈ ps → marker = by_ := by
  induction hlength : text.length using Nat.strong_induction_on generalizing text with
  | _ n ih =>
      cases text with
      | nil => exact ⟨[], rfl, rfl, by simp⟩
      | cons b text =>
          by_cases h : pat <+: b :: text
          · obtain ⟨rest, hrest⟩ := h
            obtain ⟨c, pat', rfl⟩ := List.exists_cons_of_ne_nil hne
            obtain rfl : c = b := (List.cons.inj hrest).1
            obtain rfl : pat' ++ rest = text := (List.cons.inj hrest).2
            obtain ⟨ps, hsource, hrender, hmarker⟩ := ih rest.length (by
              rw [← hlength, List.length_cons, List.length_append]
              omega) rest rfl
            refine ⟨.cut (c :: pat') by_ :: ps, by rw [source_cut, hsource, List.cons_append],
              ?_, ?_⟩
            · have hpre : c :: pat' <+: c :: (pat' ++ rest) := List.prefix_append (c :: pat') rest
              rw [render_cut, hrender, replace, if_neg (lt_irrefl 0), if_pos hpre, List.length_cons,
                Nat.add_sub_cancel, replace_append]
            · intro segment marker hcut
              rcases List.mem_cons.mp hcut with heq | hcut
              · exact (Piece.cut.inj heq).2
              · exact hmarker segment marker hcut
          · obtain ⟨ps, hsource, hrender, hmarker⟩ := ih text.length (by simp [← hlength]) text rfl
            refine ⟨.keep b :: ps, by rw [source_keep, hsource], ?_, ?_⟩
            · rw [render_keep, hrender, replace, if_neg (lt_irrefl 0), if_neg h]
            · intro segment marker hcut
              exact hmarker segment marker ((List.mem_cons.mp hcut).resolve_left (by simp))

/-- A name that is replaced brings no address about. -/
lemma hasAddress_of_replace {pat by_ text : Str} (hne : pat ≠ []) (hby : by_ ∈ lateMarkers)
    (h : HasAddress (replace pat by_ 0 text)) : HasAddress text := by
  obtain ⟨before, a, after, htext, ha, hbefore, hafter⟩ := h
  obtain ⟨ps, hsource, hrender, hmarker⟩ := exists_replacePieces hne by_ text
  have hmarked : Marked ps := fun segment marker hcut => hmarker segment marker hcut ▸ hby
  obtain ⟨qs, rs, rfl, -, hafter', hopen, hlabel⟩ :=
    survives hmarked (hrender.trans htext) ha hafter
  rw [source_append, source_append, source_keeps] at hsource
  exact ⟨source qs, a, source rs, hsource.symm, ha, hbefore.imp hopen hlabel, hafter'⟩

lemma hasAddress_of_replaceNames {text : Str} {hosts users : List Str}
    (h : HasAddress (replaceNames text hosts users)) : HasAddress text := by
  have hfold : ∀ (names : List Str) (by_ : Str), by_ ∈ lateMarkers → (∀ name ∈ names, name ≠ []) →
      ∀ text, HasAddress (names.foldl (fun text name => replace name by_ 0 text) text) →
        HasAddress text := by
    intro names by_ hby hnames
    induction names with
    | nil => exact fun text h => h
    | cons name names ih =>
        intro text h
        have hrest := ih (fun n hn => hnames n (List.mem_cons_of_mem name hn)) _ h
        exact hasAddress_of_replace (hnames name List.mem_cons_self) hby hrest
  have hlong : ∀ name : Str, 3 ≤ name.length → name ≠ [] := by
    rintro name hlen rfl
    exact absurd hlen (by decide)
  have husers := hfold _ (ascii "<user>") (by decide) (fun name hname => hlong name (by
    have := (List.mem_filter.mp hname).2
    simp only [decide_eq_true_eq] at this
    exact this.1)) _ h
  exact hfold _ (ascii "<host>") (by decide) (fun name hname => hlong name (by
    simpa using (List.mem_filter.mp hname).2)) _ husers

/-- **No network address is left** in the report of an ASCII text, whatever the names of the
host and of the users, if and only if the text leaks none. -/
theorem no_address_iff {text : Str} (h : AllAscii text) :
    (∀ hosts users, ∃ out, scrubNames text hosts users = some out ∧ ¬ HasAddress out) ↔
      ¬ Leaks text := by
  constructor
  · intro hnone hleaks
    obtain ⟨out, hout, hnot⟩ := hnone [] []
    rw [scrubNames_ascii h] at hout
    obtain rfl := Option.some.inj hout
    exact hnot (hasAddress_of_leaks hleaks)
  · intro hleaks hosts users
    refine ⟨_, scrubNames_ascii h hosts users, fun hout => hleaks ?_⟩
    exact leaks_of_hasAddress (hasAddress_of_replaceNames hout)

/-- The label is of hexadecimal digits too, and too long for a group. -/
lemma leaks_added : Leaks (ascii "added:2001:db8:0:0:1:0:0:1") := by
  refine ⟨ascii "added:", ascii "2001:db8:0:0:1:0:0:1", [], by decide +kernel, ?_⟩
  have hgroups : ∀ g ∈ ["2001", "db8", "0", "0", "1", "0", "0", "1"].map ascii, HexGroup g := by
    simp only [HexGroup]
    decide +kernel
  have haddress : IsAddress (ascii "2001:db8:0:0:1:0:0:1") := .inr (.inl (.full rfl hgroups))
  exact ⟨⟨haddress, by decide, by decide⟩, ⟨ascii "adde", byte 'd', rfl, by decide⟩,
    by simp [BeforeCloser], by decide +kernel,
    ⟨ascii "adde", byte 'd', by decide +kernel, by decide⟩⟩

/-- An address that is scrubbed, and one that is not. -/
theorem no_address_iff_sample :
    (∀ hosts users, ∃ out, scrubNames (ascii "peer 10.0.0.1") hosts users = some out ∧
      ¬ HasAddress out) ∧
    ¬ ∀ hosts users, ∃ out,
      scrubNames (ascii "added:2001:db8:0:0:1:0:0:1") hosts users = some out ∧
        ¬ HasAddress out := by
  constructor
  · refine (no_address_iff (by decide)).mpr ?_
    rintro ⟨before, a, after, htext, hleak⟩
    have hcolon : byte ':' ∉ sixthText (ascii "peer 10.0.0.1") := by decide +kernel
    rw [htext] at hcolon
    rcases hleak.address.1.marks with hmem | hmem | hcount
    · exact hcolon (List.mem_append_right _ (List.mem_append_left _ hmem))
    · exact hleak.address.2.1 hmem
    · rw [List.count_eq_zero_of_not_mem hleak.address.2.2] at hcount
      omega
  · exact fun h => (no_address_iff (by decide)).mp h leaks_added

end SkylineSpeeder.Scrub
