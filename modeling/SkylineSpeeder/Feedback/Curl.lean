import Mathlib.Tactic

/-!
The envelope as a quoted value in the configuration that `send` gives to curl.

* `curlQuoted`: the code, three replacements one after the other;
* `escaped`, `curlQuoted_cons`: together they write each character by itself;
* `readQuoted`: what curl reads of a value in double quotes;
* `readQuoted_curlQuoted`: it reads the envelope, and stops at the closing quote.
-/

namespace SkylineSpeeder.Feedback

/-! ### The code -/

/-- `str::replace`, of one character. -/
def replaceChar (c : Char) (by_ text : List Char) : List Char :=
  text.flatMap fun d => if d = c then by_ else [d]

/-- `curl_quoted`. -/
def curlQuoted (text : List Char) : List Char :=
  replaceChar '\n' ['\\', 'n'] (replaceChar '"' ['\\', '"'] (replaceChar '\\' ['\\', '\\'] text))

/-! ### What curl reads -/

/-- The character that a backslash and this one stand for. -/
def unescaped (c : Char) : Char :=
  if c = 'n' then '\n' else if c = 't' then '\t' else if c = 'r' then '\r'
  else if c = 'v' then Char.ofNat 11 else c

/-- A value in double quotes, from after the first of them on: what it is, and what is left
unread from an unescaped quote or a newline on. -/
def readQuoted : List Char → List Char × List Char
  | [] => ([], [])
  | [c] => if c = '"' ∨ c = '\n' ∨ c = '\\' then ([], [c]) else ([c], [])
  | c :: d :: text =>
      if c = '"' ∨ c = '\n' ∨ (c = '\\' ∧ d = '\n') then ([], c :: d :: text)
      else if c = '\\' then (unescaped d :: (readQuoted text).1, (readQuoted text).2)
      else (c :: (readQuoted (d :: text)).1, (readQuoted (d :: text)).2)

lemma readQuoted_backslash {d : Char} (h : d ≠ '\n') (text : List Char) :
    readQuoted ('\\' :: d :: text) = (unescaped d :: (readQuoted text).1, (readQuoted text).2) := by
  rw [readQuoted, if_neg, if_pos rfl]
  rintro (hc | hc | hc)
  · exact absurd hc (by decide)
  · exact absurd hc (by decide)
  · exact h hc.2

lemma readQuoted_plain {c : Char} (hquote : c ≠ '"') (hnewline : c ≠ '\n') (hbackslash : c ≠ '\\')
    (text : List Char) :
    readQuoted (c :: text) = (c :: (readQuoted text).1, (readQuoted text).2) := by
  cases text with
  | nil => simp [readQuoted, hquote, hnewline, hbackslash]
  | cons d text =>
      rw [readQuoted, if_neg (by simp [hquote, hnewline, hbackslash]), if_neg hbackslash]

/-- An unescaped quote ends a value. -/
lemma readQuoted_quote (text : List Char) : readQuoted ('"' :: text) = ([], '"' :: text) := by
  cases text with
  | nil => rfl
  | cons d text => rw [readQuoted, if_pos (.inl rfl)]

/-! ### There and back -/

/-- What the three replacements make of one character. -/
def escaped (c : Char) : List Char :=
  if c = '\\' then ['\\', '\\'] else if c = '"' then ['\\', '"']
  else if c = '\n' then ['\\', 'n'] else [c]

lemma replaceChar_append (c : Char) (by_ a b : List Char) :
    replaceChar c by_ (a ++ b) = replaceChar c by_ a ++ replaceChar c by_ b :=
  List.flatMap_append

lemma curlQuoted_cons (c : Char) (text : List Char) :
    curlQuoted (c :: text) = escaped c ++ curlQuoted text := by
  have hsplit : curlQuoted ([c] ++ text) = curlQuoted [c] ++ curlQuoted text := by
    rw [curlQuoted, replaceChar_append, replaceChar_append, replaceChar_append]
    rfl
  have hone : curlQuoted [c] = escaped c := by
    by_cases hbackslash : c = '\\'
    · subst hbackslash
      rfl
    · by_cases hquote : c = '"'
      · subst hquote
        rfl
      · by_cases hnewline : c = '\n'
        · subst hnewline
          rfl
        · simp [curlQuoted, replaceChar, escaped, hbackslash, hquote, hnewline]
  rw [← hone, ← hsplit]
  rfl

/-- One character is read back. -/
lemma readQuoted_escaped (c : Char) (rest : List Char) :
    readQuoted (escaped c ++ rest) = (c :: (readQuoted rest).1, (readQuoted rest).2) := by
  rw [escaped]
  split_ifs with hbackslash hquote hnewline
  · subst hbackslash
    exact readQuoted_backslash (by decide) rest
  · subst hquote
    exact readQuoted_backslash (by decide) rest
  · subst hnewline
    exact readQuoted_backslash (by decide) rest
  · exact readQuoted_plain hquote hnewline hbackslash rest

/-- What comes after the envelope is read as if it stood there alone. -/
lemma readQuoted_append (text rest : List Char) :
    readQuoted (curlQuoted text ++ rest) =
      (text ++ (readQuoted rest).1, (readQuoted rest).2) := by
  induction text with
  | nil => rfl
  | cons c text ih =>
      rw [curlQuoted_cons, List.append_assoc, readQuoted_escaped, ih, List.cons_append]

/-- **The envelope survives**: curl reads the whole quoted text, no unescaped quote and no
newline ends it before, and makes the same text of it; before a closing quote the value ends
there, whatever follows. -/
theorem readQuoted_curlQuoted (text : List Char) :
    readQuoted (curlQuoted text) = (text, []) ∧
      ∀ rest, readQuoted (curlQuoted text ++ '"' :: rest) = (text, '"' :: rest) := by
  constructor
  · have h := readQuoted_append text []
    rwa [List.append_nil, readQuoted, List.append_nil] at h
  · intro rest
    rw [readQuoted_append, readQuoted_quote, List.append_nil]

end SkylineSpeeder.Feedback
