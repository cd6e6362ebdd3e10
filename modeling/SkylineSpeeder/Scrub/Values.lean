import SkylineSpeeder.Scrub.Settled

/-!
What the third and the fourth pass make of a text that goes on.

* `tokenPieces_settled`: a byte of no word that the third pass keeps, it keeps whatever
  follows, if a token before it does not become longer;
* `secretPieces_quiet`: the fourth pass where every named separator has its value;
* `secretPieces_named`: the fourth pass after a named separator.
-/

namespace SkylineSpeeder.Scrub

open Redact

/-! ### The third pass -/

lemma isWord_of_mem_tokenPrefixes {front : Str} (h : front ∈ tokenPrefixes) :
    ∀ b ∈ front, isWord b = true := by
  have hall : (tokenPrefixes.all fun front => front.all isWord) = true := by decide
  exact List.all_eq_true.mp (List.all_eq_true.mp hall front h)

/-- A token that ends before `s` does not look at it. -/
lemma takeWhile_body {a : Str} {s : UInt8} (h : ¬ ((∀ b ∈ a, isBody b = true) ∧ isBody s = true))
    (t : Str) :
    (a ++ s :: t).takeWhile isBody = a.takeWhile isBody ∧
      (a ++ s :: t).dropWhile isBody = a.dropWhile isBody ++ s :: t := by
  induction a with
  | nil =>
      have hs : isBody s = false := by simpa using h
      exact ⟨by simp [hs], by simp [hs]⟩
  | cons b a ih =>
      cases hb : isBody b with
      | true => simpa [hb] using ih (by simpa [hb] using h)
      | false => simp [hb]

/-- Where a token begins before `s`: its prefix ends there too. -/
lemma isToken_iff_reach {prev : Option UInt8} {a t : Str} {s : UInt8} (hs : isWord s = false) :
    IsToken prev (a ++ s :: t) ↔ prev.any isWord = false ∧ ∃ front ∈ tokenPrefixes,
      front <+: a ∧ front.length + 16 ≤ ((a ++ s :: t).takeWhile isBody).length := by
  rw [IsToken]
  refine and_congr_right fun _ => exists_congr fun front => and_congr_right fun hmem =>
    and_congr_left fun _ => ?_
  refine ⟨fun h => prefix_of_append h fun d hd hin => ?_, fun h => h.trans (List.prefix_append _ _)⟩
  obtain rfl := Option.some.inj hd
  rw [isWord_of_mem_tokenPrefixes hmem _ hin] at hs
  cases hs

/-- A token that ends before `s` is one without what follows. -/
lemma isToken_of_ended {prev : Option UInt8} {a : Str} {s : UInt8} (hs : isWord s = false)
    (h : ¬ ((∀ b ∈ a, isBody b = true) ∧ isBody s = true)) (t : Str) :
    IsToken prev (a ++ s :: t) ↔ IsToken prev a := by
  rw [isToken_iff_reach hs, (takeWhile_body h t).1]
  rfl

/-- A token that goes over `s`. -/
lemma isToken_over {prev : Option UInt8} {a t t' : Str} {s : UInt8} (hs : isWord s = false)
    (ha : ∀ b ∈ a, isBody b = true) (hbody : isBody s = true)
    (hlead : lead t' ≤ lead t ∨ 15 ≤ lead t) (h : IsToken prev (a ++ s :: t')) :
    IsToken prev (a ++ s :: t) := by
  have hlen : ∀ t : Str, ((a ++ s :: t).takeWhile isBody).length = a.length + (lead t + 1) := by
    intro t
    rw [List.takeWhile_append_of_pos ha, List.takeWhile_cons_of_pos hbody, List.length_append,
      List.length_cons, lead]
  rw [isToken_iff_reach hs, hlen] at h ⊢
  obtain ⟨hprev, front, hmem, hfront, hle⟩ := h
  have hshort := hfront.length_le
  exact ⟨hprev, front, hmem, hfront, by omega⟩

/-- What the pass cuts out is not empty. -/
lemma cut_tokenPieces_ne_nil {prev : Option UInt8} {text segment marker : Str}
    (h : .cut segment marker ∈ tokenPieces prev text) : segment ≠ [] := by
  induction prev, text using tokens_induction with
  | hnil prev => simp at h
  | hkeep prev b text hnot ih =>
      rw [tokenPieces_of_not hnot, List.mem_cons] at h
      exact ih (h.resolve_left (by simp))
  | htoken prev b text htoken ih =>
      rw [tokenPieces_of_isToken htoken, List.mem_cons] at h
      rcases h with h | h
      · rw [(Piece.cut.inj h).1]
        exact List.cons_ne_nil _ _
      · exact ih h

/-- A token goes on as far as it can. -/
lemma length_of_isToken {prev : Option UInt8} {b : UInt8} {a text : Str}
    {qs rs : List (Piece UInt8)} (htoken : IsToken prev (b :: text))
    (h : tokenPieces prev (b :: text) = qs ++ rs) (hqs : source qs = b :: a) :
    ∃ qs', qs = .cut (b :: text.takeWhile isBody) (ascii "<token>") :: qs' ∧
      a = text.takeWhile isBody ++ source qs' := by
  rw [tokenPieces_of_isToken htoken] at h
  cases qs with
  | nil => cases hqs
  | cons p qs =>
      obtain ⟨rfl, -⟩ := List.cons.inj h
      exact ⟨qs, rfl, (List.cons.inj hqs).2.symm⟩

/-- **A byte that is kept** is kept whatever follows, and so is what is before it. -/
lemma tokenPieces_settled {prev : Option UInt8} {a t t' : Str} {s : UInt8}
    {qs rs : List (Piece UInt8)} (hs : isWord s = false)
    (hlead : isBody s = true → lead t' ≤ lead t ∨ 15 ≤ lead t)
    (h : tokenPieces prev (a ++ s :: t) = qs ++ .keep s :: rs) (hqs : source qs = a) :
    rs = tokenPieces (some s) t ∧
      tokenPieces prev (a ++ s :: t') = qs ++ .keep s :: tokenPieces (some s) t' := by
  -- a token over `s` would be cut out with it
  have hover : ∀ {prev a b qs}, tokenPieces prev (b :: (a ++ s :: t)) = qs ++ .keep s :: rs →
      source qs = b :: a → (∀ c ∈ a, isBody c = true) ∧ isBody s = true →
      ¬ IsToken prev (b :: (a ++ s :: t)) := by
    rintro prev a b qs h hqs ⟨ha, hbody⟩ htoken
    obtain ⟨qs', -, heq⟩ := length_of_isToken htoken h hqs
    rw [List.takeWhile_append_of_pos ha, List.takeWhile_cons_of_pos hbody] at heq
    have hlength := congrArg List.length heq
    simp only [List.length_append, List.length_cons] at hlength
    omega
  induction prev, a using tokens_induction generalizing qs with
  | hnil prev =>
      have hnot : ∀ t, ¬ IsToken prev (s :: t) := fun t => not_isToken_of_not_word hs prev t
      rw [List.nil_append] at h ⊢
      have hpieces := tokenPieces_of_not (hnot t)
      obtain ⟨rfl, hrs⟩ :=
        @append_inj_of_source _ qs (.keep s :: rs) [] _ (h.symm.trans hpieces) hqs
        fun segment marker hcut => cut_tokenPieces_ne_nil (h ▸ hcut)
      exact ⟨(List.cons.inj hrs).2, tokenPieces_of_not (hnot t')⟩
  | hkeep prev b a hnot ih =>
      rw [List.cons_append] at h ⊢
      have hthis : ¬ IsToken prev (b :: (a ++ s :: t)) ∧ ¬ IsToken prev (b :: (a ++ s :: t')) := by
        by_cases hend : (∀ c ∈ b :: a, isBody c = true) ∧ isBody s = true
        · have hthis := hover h hqs
            ⟨fun c hc => hend.1 c (List.mem_cons_of_mem b hc), hend.2⟩
          exact ⟨hthis, fun hthat => hthis (isToken_over hs hend.1 hend.2 (hlead hend.2) hthat)⟩
        · exact ⟨fun hthis => hnot ((isToken_of_ended hs hend t).mp hthis),
            fun hthat => hnot ((isToken_of_ended hs hend t').mp hthat)⟩
      rw [tokenPieces_of_not hthis.1] at h
      rw [tokenPieces_of_not hthis.2]
      cases qs with
      | nil => cases hqs
      | cons p qs =>
          obtain ⟨rfl, htail⟩ := List.cons.inj h
          obtain ⟨hrs, hpieces⟩ := ih htail (List.cons.inj hqs).2
          exact ⟨hrs, congrArg _ hpieces⟩
  | htoken prev b a htoken ih =>
      rw [List.cons_append] at h ⊢
      have hb : isBody b = true := by
        obtain ⟨-, front, -, -, hle⟩ := htoken
        by_contra hb
        rw [List.takeWhile_cons_of_neg hb] at hle
        simp at hle
      have hend : ¬ ((∀ c ∈ a, isBody c = true) ∧ isBody s = true) := by
        rintro ⟨ha, hbody⟩
        refine hover h hqs ⟨ha, hbody⟩ ?_
        obtain ⟨hprev, front, hmem, hfront, hle⟩ := htoken
        refine ⟨hprev, front, hmem, hfront.trans (List.prefix_append (b :: a) _), hle.trans ?_⟩
        rw [List.takeWhile_cons_of_pos hb, List.takeWhile_cons_of_pos hb,
          List.takeWhile_append_of_pos ha, List.length_cons, List.length_cons, List.length_append]
        have hself := (List.takeWhile_prefix isBody (l := a)).length_le
        omega
      have hends : ¬ ((∀ c ∈ b :: a, isBody c = true) ∧ isBody s = true) := fun hall =>
        hend ⟨fun c hc => hall.1 c (List.mem_cons_of_mem b hc), hall.2⟩
      have hthis : IsToken prev (b :: (a ++ s :: t)) := (isToken_of_ended hs hends t).mpr htoken
      have hthat : IsToken prev (b :: (a ++ s :: t')) := (isToken_of_ended hs hends t').mpr htoken
      obtain ⟨qs, rfl, heq⟩ := length_of_isToken hthis h hqs
      rw [tokenPieces_of_isToken hthis, (takeWhile_body hend t).1, (takeWhile_body hend t).2] at h
      rw [tokenPieces_of_isToken hthat, (takeWhile_body hend t').1, (takeWhile_body hend t').2]
      rw [(takeWhile_body hend t).1] at heq
      have hdrop : source qs = a.dropWhile isBody :=
        List.append_cancel_left (heq.symm.trans List.takeWhile_append_dropWhile.symm)
      obtain ⟨hrs, hpieces⟩ := ih (List.cons.inj h).2 hdrop
      rw [(takeWhile_body hend t).1, hpieces]
      exact ⟨hrs, rfl⟩

/-- Without a prefix there is no token. -/
lemma tokenPieces_of_no_prefix {a : Str} {s : UInt8} (hs : isWord s = false)
    (h : ∀ front ∈ tokenPrefixes, ¬ front <:+: a) (prev : Option UInt8) (t : Str) :
    tokenPieces prev (a ++ s :: t) = keeps a ++ .keep s :: tokenPieces (some s) t := by
  induction a generalizing prev with
  | nil => exact tokenPieces_of_not (not_isToken_of_not_word hs prev t)
  | cons b a ih =>
      have hnot : ¬ IsToken prev (b :: a ++ s :: t) := by
        rw [isToken_iff_reach hs]
        rintro ⟨-, front, hmem, hfront, -⟩
        exact h front hmem hfront.isInfix
      have hrest : ∀ front ∈ tokenPrefixes, ¬ front <:+: a := fun front hmem hfront =>
        h front hmem (hfront.trans (List.suffix_cons b a).isInfix)
      rw [List.cons_append] at hnot ⊢
      rw [tokenPieces_of_not hnot, ih hrest, keeps_cons, List.cons_append]

/-! ### The fourth pass -/

/-- A value goes on to the end of its word. -/
lemma valueOf_append_word {a : Str} (h : Word a) (t : Str) :
    valueOf (a ++ t) = a ++ valueOf t ∧ afterValue (a ++ t) = afterValue t := by
  have hall : ∀ b ∈ a, (!isAsciiWhitespace b) = true := fun b hb => by rw [h b hb]; rfl
  exact ⟨List.takeWhile_append_of_pos hall, List.dropWhile_append_of_pos hall⟩

/-- A value that has ended does not look at what follows. -/
lemma valueOf_append_of_not {a : Str} (h : ¬ Word a) (t : Str) :
    valueOf (a ++ t) = valueOf a ∧ afterValue (a ++ t) = afterValue a ++ t := by
  induction a with
  | nil => exact absurd (fun b hb => by cases hb) h
  | cons b a ih =>
      cases hb : isAsciiWhitespace b with
      | true => simp [valueOf, afterValue, hb]
      | false =>
          have ha : ¬ Word a := fun ha => h (List.forall_mem_cons.mpr ⟨hb, ha⟩)
          simpa [valueOf, afterValue, hb] using ih ha

lemma valueOf_word {a w : Str} (h : Word a) (hw : EndsWord w) :
    valueOf (a ++ w) = a ∧ afterValue (a ++ w) = w := by
  rw [(valueOf_append_word h w).1, (valueOf_append_word h w).2]
  cases w with
  | nil => simp [valueOf, afterValue]
  | cons c w => simp [valueOf, afterValue, hw c rfl]

/-- Every named separator has its value, after `before`. -/
def Quiet (before text : Str) : Prop :=
  ∀ a s b, text = a ++ s :: b → isSeparator s = true → IsNamed (before ++ a) → ¬ Word b

/-- **Every named separator has its value**: what follows is read on its own. -/
lemma secretPieces_quiet {before text : Str} (h : Quiet before text) (t : Str) :
    secretPieces before (text ++ t) =
      secretPieces before text ++ secretPieces (before ++ text) t := by
  induction before, text using secrets_induction with
  | hnil before => simp
  | hkeep before b text hnot ih =>
      have hnot' : ¬ IsSecret before b (text ++ t) := by
        rintro ⟨hsep, hnamed, hvalue⟩
        have hword := h [] b text rfl hsep (by rwa [List.append_nil])
        rw [(valueOf_append_of_not hword t).1] at hvalue
        exact hnot ⟨hsep, hnamed, hvalue⟩
      have hquiet : Quiet (before ++ [b]) text := by
        intro a s rest htext hsep hnamed
        refine h (b :: a) s rest (by rw [htext, List.cons_append]) hsep ?_
        rwa [List.append_assoc] at hnamed
      rw [List.cons_append, secretPieces_of_not hnot', secretPieces_of_not hnot, ih hquiet]
      simp
  | hsecret before b text hsecret ih =>
      have hword := h [] b text rfl hsecret.1 (by simpa using hsecret.2.1)
      obtain ⟨hvalue, hafter⟩ := valueOf_append_of_not hword t
      have hsecret' : IsSecret before b (text ++ t) :=
        ⟨hsecret.1, hsecret.2.1, by rw [hvalue]; exact hsecret.2.2⟩
      have hquiet : Quiet (before ++ b :: valueOf text) (afterValue text) := by
        intro a s rest htext hsep hnamed
        refine h (b :: valueOf text ++ a) s rest ?_ hsep ?_
        · rw [List.cons_append, List.cons_append, List.append_assoc, ← htext,
            valueOf_append_afterValue]
        · rwa [List.append_assoc] at hnamed
      have hbefore : before ++ b :: valueOf text ++ afterValue text = before ++ b :: text := by
        rw [List.append_assoc, List.cons_append, valueOf_append_afterValue]
      rw [List.cons_append, secretPieces_of_isSecret hsecret', secretPieces_of_isSecret hsecret,
        hvalue, hafter, ih hquiet, hbefore]
      rfl

lemma not_whitespace_of_separator {s : UInt8} (h : isSeparator s = true) :
    isAsciiWhitespace s = false := by
  simp only [isSeparator, Bool.or_eq_true, decide_eq_true_eq] at h
  rcases h with rfl | rfl
  · decide
  · decide

/-- **After a named separator** the value does not matter. -/
lemma secretPieces_named {before a r r' w : Str} {s : UInt8} (hsep : isSeparator s = true)
    (hnamed : IsNamed (before ++ a)) (hw : EndsWord w) (hr : Word r) (hr' : Word r')
    (hne : r ≠ []) (hne' : r' ≠ []) :
    render (secretPieces before (a ++ s :: (r ++ w))) =
      render (secretPieces before (a ++ s :: (r' ++ w))) := by
  have hword : ∀ {a r : Str}, Word a → Word r → Word (a ++ s :: r) := fun ha hr =>
    word_append.mpr ⟨ha, List.forall_mem_cons.mpr ⟨not_whitespace_of_separator hsep, hr⟩⟩
  -- once a value begins before `s`, it goes over it or ends before it
  have hover : ∀ {before a r} {b : UInt8}, Word a → Word r → isSeparator b = true →
      IsNamed before → render (secretPieces before (b :: (a ++ s :: (r ++ w)))) =
        b :: (ascii "<redacted>" ++ render (secretPieces [] w)) := by
    intro before a r b ha hr hb hnamed
    have hsplit : a ++ s :: (r ++ w) = (a ++ s :: r) ++ w := by simp
    obtain ⟨hvalue, hafter⟩ := valueOf_word (hword ha hr) hw
    have hsecret : IsSecret before b ((a ++ s :: r) ++ w) :=
      ⟨hb, hnamed, by rw [hvalue]; simp⟩
    rw [hsplit, secretPieces_of_isSecret hsecret, hvalue, hafter, render_keep, render_cut,
      secretPieces_endsWord hw]
  induction before, a using secrets_induction with
  | hnil before =>
      rw [List.append_nil] at hnamed
      have hone : ∀ {r}, Word r → r ≠ [] → render (secretPieces before (s :: (r ++ w))) =
          s :: (ascii "<redacted>" ++ render (secretPieces [] w)) := by
        intro r hr hne
        obtain ⟨hvalue, hafter⟩ := valueOf_word hr hw
        rw [secretPieces_of_isSecret ⟨hsep, hnamed, by rwa [hvalue]⟩, hvalue, hafter, render_keep,
          render_cut, secretPieces_endsWord hw]
      rw [List.nil_append, List.nil_append, hone hr hne, hone hr' hne']
  | hkeep before b a hnot ih =>
      rw [List.cons_append, List.cons_append]
      by_cases ha : Word a ∧ isSeparator b = true ∧ IsNamed before
      · rw [hover ha.1 hr ha.2.1 ha.2.2, hover ha.1 hr' ha.2.1 ha.2.2]
      · have hnone : ∀ r, ¬ IsSecret before b (a ++ s :: (r ++ w)) := by
          rintro r ⟨hb, hnamed, hvalue⟩
          have hend : ¬ Word a := fun hword => ha ⟨hword, hb, hnamed⟩
          rw [(valueOf_append_of_not hend _).1] at hvalue
          exact hnot ⟨hb, hnamed, hvalue⟩
        rw [secretPieces_of_not (hnone r), secretPieces_of_not (hnone r'), render_keep, render_keep,
          ih (by simpa using hnamed)]
  | hsecret before b a hsecret ih =>
      rw [List.cons_append, List.cons_append]
      by_cases ha : Word a
      · rw [hover ha hr hsecret.1 hsecret.2.1, hover ha hr' hsecret.1 hsecret.2.1]
      · have hone : ∀ r, secretPieces before (b :: (a ++ s :: (r ++ w))) =
            .keep b :: .cut (valueOf a) (ascii "<redacted>") ::
              secretPieces (before ++ b :: valueOf a) (afterValue a ++ s :: (r ++ w)) := by
          intro r
          obtain ⟨hvalue, hafter⟩ := valueOf_append_of_not ha (s :: (r ++ w))
          have hsecret' : IsSecret before b (a ++ s :: (r ++ w)) :=
            ⟨hsecret.1, hsecret.2.1, by rw [hvalue]; exact hsecret.2.2⟩
          rw [secretPieces_of_isSecret hsecret', hvalue, hafter]
        have hrest : IsNamed (before ++ b :: valueOf a ++ afterValue a) := by
          rw [List.append_assoc, List.cons_append, valueOf_append_afterValue]
          exact hnamed
        rw [hone r, hone r', render_keep, render_keep, render_cut, render_cut, ih hrest]

end SkylineSpeeder.Scrub
