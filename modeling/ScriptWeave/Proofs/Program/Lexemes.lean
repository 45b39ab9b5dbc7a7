/-
  ScriptWeave.Proofs.Program.Lexemes
  ──────────────────────────────────
  **THE TOKENS OF A LET DECLARATION.**

  A name reaches up to the first character that stands in none, so a word
  before a blank is one token, and white space before it only says whether a
  line ended there.

      let x = 1;     `let`, `x`, `=`, `1`, `;`
-/
import ScriptWeave.Proofs.Pattern.CaseFold
import ScriptWeave.Proofs.Program.Steps

namespace ScriptWeave.Program

variable {w t u : Text} {c : Char}

/-! ## §1. White space. -/

theorem skipGap_blank (newLine : Bool) (u : Text) :
    skipGap .blank newLine (' ' :: u) = skipGap .blank newLine u := by
  have hspace : isLineBreak ' ' = false ∧ isSpace ' ' = true := by decide
  rw [skipGap]
  · simp only [hspace, Bool.false_eq_true, if_false, if_true]
  all_goals simp

theorem skipGap_line (newLine : Bool) (u : Text) :
    skipGap .blank newLine ('\n' :: u) = skipGap .blank true u := by
  have hbreak : isLineBreak '\n' = true := by decide
  rw [skipGap]
  · simp only [hbreak, if_true]
  all_goals simp

theorem skipGap_of_token (newLine : Bool) (hslash : c ≠ '/') (hbreak : isLineBreak c = false)
    (hspace : isSpace c = false) :
    skipGap .blank newLine (c :: u) = some (newLine, c :: u) := by
  rw [skipGap]
  · simp only [hbreak, hspace, Bool.false_eq_true, if_false]
  all_goals exact fun _ h _ => hslash h

/-! ## §2. Words. -/

/-- A name reaches up to a character that stands in none. -/
theorem readName_of_isNamePart (hw : ∀ c ∈ w, isNamePart c = true) (hc : isNamePart c = false)
    (hescape : c ≠ '\\') : readName 0 (w ++ c :: u) = ⟨w, c :: u, true⟩ := by
  have hpart : isNamePart '\\' = false := by decide
  induction w with
  | nil =>
    rw [List.nil_append, readName]
    · simp only [hc, Bool.false_eq_true, if_false]
    · exact fun _ h _ => hescape h
    · exact hescape
  | cons d w ih =>
    have hd : isNamePart d = true := hw d List.mem_cons_self
    have hne : d ≠ '\\' := by
      rintro rfl
      rw [hpart] at hd
      cases hd
    rw [List.cons_append, readName, ih (fun c hc => hw c (List.mem_cons_of_mem d hc))]
    · simp only [hd, if_true]
    · exact fun _ h _ => hne h
    · exact hne

/-- The signs that start a token and no name. -/
theorem ne_of_isNameStart {d : Char} (hc : isNameStart c = true) (hd : isNameStart d = false) :
    c ≠ d := by
  rintro rfl
  rw [hd] at hc
  cases hc

theorem readToken_of_isNameStart (hc : isNameStart c = true) :
    readToken (c :: u) = (readName 0 (c :: u)).word := by
  have hhash : c ≠ '#' := ne_of_isNameStart hc (by decide)
  rw [readToken]
  · simp only [hc, if_true]
  · exact ne_of_isNameStart hc (by decide)
  · exact fun _ _ h _ => hhash h
  · exact fun h _ => hhash h
  · exact ne_of_isNameStart hc (by decide)

/-- A word before a character that stands in no name. -/
theorem readToken_word (hstart : (w.head?.map isNameStart).getD false = true)
    (hw : ∀ c ∈ w, isNamePart c = true) (hc : isNamePart c = false) (hescape : c ≠ '\\') :
    readToken (w ++ c :: u) = (.word w, c :: u, []) := by
  cases w with
  | nil => cases hstart
  | cons d w =>
    have hname : readName 0 (d :: (w ++ c :: u)) = ⟨d :: w, c :: u, true⟩ :=
      readName_of_isNamePart hw hc hescape
    rw [List.cons_append, readToken_of_isNameStart (by simpa using hstart), hname, NameRead.word,
      hstart]
    rfl

/-- A number is no word and no mark, whatever is wrong with it. -/
theorem readToken_of_isDigit (hdigit : c.isDigit = true) (hc : isNameStart c = false) :
    (∃ form outdated complete, (readToken (c :: u)).1 = .number form outdated complete)
      ∨ (readToken (c :: u)).1 = .unreadable := by
  have hne {d : Char} (hd : d.isDigit = false) : c ≠ d := by
    rintro rfl
    rw [hd] at hdigit
    cases hdigit
  have hhash : c ≠ '#' := hne (by decide)
  rw [readToken]
  · simp only [hc, hdigit, Bool.false_eq_true, if_false, if_true]
    split
    · exact Or.inl ⟨_, _, _, rfl⟩
    · exact Or.inr rfl
  · exact hne (by decide)
  · exact fun _ _ h _ => hhash h
  · exact fun h _ => hhash h
  · exact hne (by decide)

/-! ## §3. What comes next. -/

/-- A text starts with a token, behind white space, and nothing is wrong with it. -/
structure Lexes (t : Text) (token : Token) (rest : Text) : Prop where
  /-- The token. -/
  token_eq : (nextLexeme t).1.token = token
  /-- What follows it. -/
  rest_eq : (nextLexeme t).1.rest = rest
  /-- No fault is found. -/
  faults_eq : (nextLexeme t).2 = []

theorem nextLexeme_of_skipGap {newLine : Bool} (h : skipGap .blank false t = some (newLine, u)) :
    nextLexeme t = (⟨(readToken u).1, newLine, u, (readToken u).2.1⟩, (readToken u).2.2) := by
  rw [nextLexeme, h]

theorem Lexes.of_skipGap {token : Token} (newLine : Bool)
    (h : skipGap .blank false t = some (newLine, u)) (htoken : readToken u = (token, w, [])) :
    Lexes t token w := by
  have hnext := nextLexeme_of_skipGap h
  rw [htoken] at hnext
  exact ⟨by rw [hnext], by rw [hnext], by rw [hnext]⟩

/-- The next token of a reading that passes one. -/
theorem Lexes.passed {s : Reading} {token : Token} (h : Lexes s.next.rest token u) :
    s.passed.next.token = token ∧ s.passed.next.rest = u := ⟨h.token_eq, h.rest_eq⟩

/-! ## §4. Words of letters, digits and low lines. -/

/-- What the reader of tokens asks of a letter, a digit or the low line. -/
structure IsWordSign (c : Char) : Prop where
  part : isNamePart c = true
  start_eq : isNameStart c = !c.isDigit
  not_slash : c ≠ '/'
  not_break : isLineBreak c = false
  not_space : isSpace c = false

theorem lt_of_isAsciiWord (h : isAsciiWord c = true) : c.toNat < 0x80 := by
  have hupTo : ∀ d : Char, d.toNat < 0x80 → c ≤ d → c.toNat < 0x80 :=
    fun d hd hle => Nat.lt_of_le_of_lt (UInt32.le_iff_toNat_le.mp hle) hd
  simp only [isAsciiWord, Bool.or_eq_true, Bool.and_eq_true, decide_eq_true_eq, beq_iff_eq] at h
  rcases h with ((h | h) | h) | rfl
  · exact hupTo 'z' (by decide) h.2
  · exact hupTo 'Z' (by decide) h.2
  · exact hupTo '9' (by decide) h.2
  · decide

theorem isWordSign_of_isAsciiWord (h : isAsciiWord c = true) : IsWordSign c := by
  have hall := of_ascii (P := fun c => !isAsciiWord c || (isNamePart c
    && isNameStart c == !c.isDigit && c != '/' && !isLineBreak c && !isSpace c))
    (by decide +kernel) (lt_of_isAsciiWord h)
  simp only [h, Bool.not_true, Bool.false_or, Bool.and_eq_true, beq_iff_eq, bne_iff_ne,
    Bool.not_eq_true'] at hall
  obtain ⟨⟨⟨⟨hpart, hstart⟩, hslash⟩, hbreak⟩, hspace⟩ := hall
  exact ⟨hpart, hstart, hslash, hbreak, hspace⟩

/-- A text that only separates what stands before it from what stands behind it. -/
def IsGap (g : Text) : Prop :=
  ∃ newLine, ∀ v, skipGap .blank false (g ++ v) = skipGap .blank newLine v

theorem isGap_nil : IsGap [] := ⟨false, fun _ => rfl⟩

theorem isGap_blank : IsGap [' '] := ⟨false, skipGap_blank false⟩

theorem isGap_blanks : IsGap [' ', ' '] :=
  ⟨false, fun v => (skipGap_blank false (' ' :: v)).trans (skipGap_blank false v)⟩

theorem isGap_line : IsGap ['\n'] := ⟨true, skipGap_line false⟩

/-- A word of such characters that starts with no digit. -/
theorem lexes_word {g : Text} (hgap : IsGap g) (hw : ∀ c ∈ w, isAsciiWord c = true)
    (hne : w ≠ []) (hdigit : w.head?.any Char.isDigit = false) (u : Text) :
    Lexes (g ++ (w ++ ' ' :: u)) (.word w) (' ' :: u) := by
  obtain ⟨newLine, hgap⟩ := hgap
  obtain ⟨d, v, rfl⟩ := List.exists_cons_of_ne_nil hne
  have hd := isWordSign_of_isAsciiWord (hw d List.mem_cons_self)
  have hstart : isNameStart d = true := by
    rw [hd.start_eq, show d.isDigit = false from hdigit]
    rfl
  refine Lexes.of_skipGap newLine (u := (d :: v) ++ ' ' :: u) ?_ ?_
  · rw [hgap]
    exact skipGap_of_token newLine hd.not_slash hd.not_break hd.not_space
  · exact readToken_word hstart (fun c hc => (isWordSign_of_isAsciiWord (hw c hc)).part)
      (by decide +kernel) (by decide)

/-- A word that starts with a digit is no word and no mark. -/
theorem nextLexeme_digits (hw : isAsciiWord c = true) (hdigit : c.isDigit = true) (u : Text) :
    (∃ form outdated complete,
        (nextLexeme (' ' :: c :: u)).1.token = .number form outdated complete)
      ∨ (nextLexeme (' ' :: c :: u)).1.token = .unreadable := by
  have hc := isWordSign_of_isAsciiWord hw
  have hgap : skipGap .blank false (' ' :: c :: u) = some (false, c :: u) := by
    rw [skipGap_blank, skipGap_of_token false hc.not_slash hc.not_break hc.not_space]
  rw [nextLexeme_of_skipGap hgap]
  exact readToken_of_isDigit hdigit (by rw [hc.start_eq, hdigit]; rfl)

/-! ## §5. The other tokens of a declaration. -/

theorem lexes_let {g : Text} (hgap : IsGap g) (u : Text) :
    Lexes (g ++ ("let".toList ++ ' ' :: u)) (.word "let") (' ' :: u) :=
  lexes_word hgap (List.all_eq_true.mp (by decide)) (by decide) (by decide) u

theorem lexes_finish {g : Text} (hgap : IsGap g) : Lexes g .finish [] := by
  obtain ⟨newLine, hgap⟩ := hgap
  refine Lexes.of_skipGap newLine (u := []) ?_ rfl
  rw [← List.append_nil g, hgap]
  rfl

theorem lexes_equals {g : Text} (hgap : IsGap g) (u : Text) :
    Lexes (g ++ '=' :: ' ' :: u) (.mark "=") (' ' :: u) := by
  obtain ⟨newLine, hgap⟩ := hgap
  refine Lexes.of_skipGap newLine (u := '=' :: ' ' :: u) ?_ rfl
  rw [hgap]
  exact skipGap_of_token newLine (by decide) (by decide) (by decide)

theorem lexes_one (u : Text) :
    Lexes (' ' :: '1' :: ';' :: u) (.number .decimal none true) (';' :: u) := by
  refine Lexes.of_skipGap false (u := '1' :: ';' :: u) ?_ rfl
  rw [skipGap_blank]
  exact skipGap_of_token false (by decide) (by decide) (by decide)

theorem lexes_semicolon (u : Text) : Lexes (';' :: '\n' :: u) (.mark ";") ('\n' :: u) :=
  Lexes.of_skipGap false (skipGap_of_token false (by decide) (by decide) (by decide)) rfl

end ScriptWeave.Program
