/-
  ScriptWeave.Proofs.Script.Words
  ───────────────────────────────
  **SIGILS AND KEYWORDS RUN BY RUN.**

  The keyword of declarations is a run of word characters, and a whole word
  is a run: so the pass that replaces it acts on runs of word characters.
  The pass that replaces the sigil acts on characters.  One after the other
  they act on runs of word characters and sigils:

      downgrade (sanitize t) = mapRuns (word character or sigil) f t

  where `f` turns the keyword into the other keyword and replaces the sigils
  of every other run.  A name such as `$var` is one run and no keyword.
-/
import ScriptWeave.Proofs.Pattern.Escaped
import ScriptWeave.Proofs.Pattern.Pieces
import ScriptWeave.Proofs.Text.Replace
import ScriptWeave.Script.Words

namespace ScriptWeave

open Text (mapRuns runs IsRun StartsOutside)

/-! ## §1. Where a whole word matches. -/

namespace Pattern

variable {prev : Option Char} {k t u : Text} {m : Match}

/-- Whether an edge of a word lies between two neighbours. -/
def isEdge (prev next : Option Char) : Bool := isWordAt prev != isWordAt next

theorem matchAt_wholeWord (prev : Option Char) (k t : Text) :
    (wholeWord k).matchAt ⟨prev, t⟩
      = if isEdge prev t.head? = true ∧ k <+: t
          ∧ isEdge (lastOr prev k) (t.drop k.length).head? = true then
          some ⟨⟨t, t.drop k.length⟩, []⟩
        else none := by
  have hrun : (wholeWord k).node.run ⟨prev, t⟩ [] (fun c' g => some (c', g))
      = if isEdge prev t.head? = true then
          if k <+: t then
            if isEdge (lastOr prev k) (t.drop k.length).head? = true then
              some (⟨lastOr prev k, t.drop k.length⟩, [])
            else none
          else none
        else none := by
    rw [wholeWord, run_ofList_cons, run_anchor, run_chars_append]
    rfl
  rw [matchAt, hrun]
  by_cases h1 : isEdge prev t.head? = true <;> by_cases h2 : k <+: t <;>
    by_cases h3 : isEdge (lastOr prev k) (t.drop k.length).head? = true <;>
    simp only [h1, h2, h3, and_true, and_false, if_true, if_false, Bool.false_eq_true,
      Option.map_some, Option.map_none]

theorem advances_wholeWord (hk : k ≠ []) : Advances (wholeWord k) := by
  intro c m h
  rw [show c = ⟨c.prev, c.rest⟩ from rfl, matchAt_wholeWord] at h
  split at h
  next hm =>
    injection h with h
    subst h
    have hlen := hm.2.1.length_le
    have hpos := List.length_pos_iff.mpr hk
    simp only [Span.length, List.length_drop]
    omega
  next => exact absurd h (by simp)

theorem isWordAt_lastOr {r : Text} (hr : IsRun isWordChar r) (prev : Option Char) :
    isWordAt (lastOr prev r) = true := by
  obtain ⟨x, hx, hl⟩ := lastOr_mem hr.1 prev
  rw [hl]
  exact hr.2 x hx

theorem isWordAt_head?_of_startsOutside (hu : StartsOutside isWordChar u) :
    isWordAt u.head? = false := by
  cases u with
  | nil => rfl
  | cons x u => exact Text.startsOutside_cons.mp hu

theorem matchAt_wholeWord_of_outside {c : Char} (hk : IsRun isWordChar k)
    (hc : isWordChar c = false) : (wholeWord k).matchAt ⟨prev, c :: t⟩ = none := by
  rw [matchAt_wholeWord, if_neg]
  rintro ⟨-, hpre, -⟩
  have := Text.prefix_of_prefix_run_append (r := []) hk.2 (Text.startsOutside_cons.mpr hc) hpre
  exact hk.1 (List.prefix_nil.mp this)

/-- A run that is the word is matched. -/
theorem matchAt_wholeWord_self (hk : IsRun isWordChar k) (hu : StartsOutside isWordChar u)
    (hp : isWordAt prev = false) :
    (wholeWord k).matchAt ⟨prev, k ++ u⟩ = some ⟨⟨k ++ u, u⟩, []⟩ := by
  have hhead : isWordAt (k ++ u).head? = true := by
    cases k with
    | nil => exact absurd rfl hk.1
    | cons x k => exact hk.2 x List.mem_cons_self
  rw [matchAt_wholeWord, if_pos, List.drop_left]
  refine ⟨?_, List.prefix_append k u, ?_⟩
  · rw [isEdge, hp, hhead]; rfl
  · rw [List.drop_left, isEdge, isWordAt_lastOr hk, isWordAt_head?_of_startsOutside hu]; rfl

/-- No match begins in a run that is not the word: in front of the run the word would end
inside it, and further on there is no edge. -/
theorem matchAt_wholeWord_in_run {r a b : Text} {x : Char} (hk : IsRun isWordChar k)
    (hr : IsRun isWordChar r) (hu : StartsOutside isWordChar u) (hne : r ≠ k)
    (hab : r = a ++ x :: b) :
    (wholeWord k).matchAt ⟨lastOr prev a, x :: b ++ u⟩ = none := by
  rw [matchAt_wholeWord, if_neg]
  rintro ⟨hstart, hpre, hend⟩
  cases a with
  | cons y a =>
    -- inside the run there are word characters on both sides
    have ha : IsRun isWordChar (y :: a) :=
      ⟨List.cons_ne_nil y a, fun c hc => hr.2 c (by rw [hab]; exact List.mem_append_left _ hc)⟩
    have hx : isWordChar x = true := hr.2 x (by simp [hab])
    rw [isEdge, isWordAt_lastOr ha, List.cons_append, List.head?_cons, isWordAt, hx] at hstart
    exact absurd hstart (by decide)
  | nil =>
    -- at the start of the run the word is a part of it, and a word character follows
    have hrb : r = x :: b := hab
    subst hrb
    obtain ⟨v, hv⟩ := Text.prefix_of_prefix_run_append hk.2 hu hpre
    cases v with
    | nil => exact hne (by rw [← hv, List.append_nil])
    | cons y v =>
      have hy : isWordChar y = true := hr.2 y (by rw [← hv]; simp)
      rw [← hv, List.append_assoc, List.drop_left, List.cons_append, List.head?_cons, isEdge,
        isWordAt_lastOr hk, isWordAt, hy] at hend
      exact absurd hend (by decide)

/-! ## §2. Replacing whole words. -/

/-- The scan of a text for whole words, from a position that is not inside a word. -/
theorem replaced_piecesFrom_wholeWord (hk : IsRun isWordChar k) (b t : Text)
    (h : isWordAt prev = false ∨ StartsOutside isWordChar t) :
    (piecesFrom (wholeWord k) prev t).flatMap (Piece.replaced (fun _ => b))
      = mapRuns isWordChar (fun r => if r = k then b else r) t := by
  induction t using Text.run_induction isWordChar generalizing prev with
  | nil =>
    have hnone : (wholeWord k).matchAt ⟨prev, []⟩ = none := by
      rw [matchAt_wholeWord, if_neg]
      rintro ⟨-, hpre, -⟩
      exact hk.1 (List.prefix_nil.mp hpre)
    rw [piecesFrom_nil hnone, Text.mapRuns_nil]
    rfl
  | outside c t hc ih =>
    have hrest := @ih (some c) (Or.inl hc)
    rw [piecesFrom_cons (matchAt_wholeWord_of_outside hk hc), Text.mapRuns_cons_of_outside hc,
      List.flatMap_cons, hrest]
    rfl
  | run r u hr hu ih =>
    -- a run is not reached from inside a word
    have hp : isWordAt prev = false := by
      rcases h with h | h
      · exact h
      · obtain ⟨c, r, rfl⟩ := List.exists_cons_of_ne_nil hr.1
        have hin := hr.2 c List.mem_cons_self
        rw [Text.startsOutside_cons.mp h] at hin
        exact absurd hin (by decide)
    have hrest := @ih (lastOr prev r) (Or.inr hu)
    rw [Text.mapRuns_append hr hu, ← hrest]
    by_cases hrk : r = k
    · subst hrk
      have hlen : Span.length ⟨r ++ u, u⟩ = r.length := by
        simp [Span.length]
      rw [piecesFrom_match (advances_wholeWord hk.1) (matchAt_wholeWord_self hk hu hp) hlen,
        List.flatMap_cons, if_pos rfl]
      rfl
    · rw [piecesFrom_append (fun a x b' hab => matchAt_wholeWord_in_run hk hr hu hrk hab),
        List.flatMap_append, flatMap_replaced_plain, if_neg hrk]

/-- **Whole words are replaced run by run.** -/
theorem replaceAll_wholeWord (hk : IsRun isWordChar k) (b t : Text) :
    (wholeWord k).replaceAll (fun _ => b) t
      = mapRuns isWordChar (fun r => if r = k then b else r) t := by
  rw [replaceAll_eq rfl]
  exact replaced_piecesFrom_wholeWord hk b t (Or.inl rfl)

end Pattern

/-! ## §3. The two passes. -/

/-- What becomes of a character when the sigil is replaced. -/
def sanitizeChar (rules : DialectRules) (c : Char) : Text :=
  if c = rules.sigil then rules.sigilReplacement else [c]

/-- Characters stay as they are where there is no sigil. -/
theorem flatMap_sanitizeChar_eq_self {rules : DialectRules} {t : Text} (h : rules.sigil ∉ t) :
    t.flatMap (sanitizeChar rules) = t := by
  apply Text.flatMap_eq_self
  intro c hc
  rw [sanitizeChar, if_neg]
  rintro rfl
  exact h hc

/-- The sigil is replaced character by character. -/
theorem sanitize_eq_flatMap (rules : DialectRules) (t : Text) :
    sanitize rules t = t.flatMap (sanitizeChar rules) := by
  unfold sanitize
  split
  next => exact Text.replace_singleton _ _ _
  next h => exact (flatMap_sanitizeChar_eq_self (by simpa using h)).symm

/-- Whether a character is a word character or the sigil. -/
def isTokenChar (rules : DialectRules) (c : Char) : Bool := isWordChar c || c == rules.sigil

/-- What becomes of a run of word characters and sigils: a keyword is replaced, and in any
other run the sigils are. -/
def adaptToken (rules : DialectRules) (keyword r : Text) : Text :=
  if r = keyword then rules.blockScopedKeyword else r.flatMap (sanitizeChar rules)

section

variable {rules : DialectRules} {k : Text}

theorem isTokenChar_of_isWordChar {c : Char} (h : isWordChar c = true) :
    isTokenChar rules c = true := by
  rw [isTokenChar, h, Bool.true_or]

/-- A character that is put in or stays is a word character, or it is no sigil and was there
before. -/
theorem mem_sanitizeChar (hr : ∀ c ∈ rules.sigilReplacement, isWordChar c = true) {c d : Char}
    (h : c ∈ sanitizeChar rules d) : isWordChar c = true ∨ (c = d ∧ d ≠ rules.sigil) := by
  unfold sanitizeChar at h
  split at h
  next => exact Or.inl (hr c h)
  next hd => exact Or.inr ⟨List.mem_singleton.mp h, hd⟩

theorem isRun_sanitized (hr : IsRun isWordChar rules.sigilReplacement) {r : Text}
    (h : IsRun (isTokenChar rules) r) :
    IsRun (isTokenChar rules) (r.flatMap (sanitizeChar rules)) := by
  constructor
  · obtain ⟨c, r, rfl⟩ := List.exists_cons_of_ne_nil h.1
    rw [List.flatMap_cons]
    intro hnil
    have hc : sanitizeChar rules c = [] := (List.append_eq_nil_iff.mp hnil).1
    unfold sanitizeChar at hc
    split at hc
    next => exact hr.1 hc
    next => exact absurd hc (List.cons_ne_nil c [])
  · intro c hc
    obtain ⟨d, hd, hcd⟩ := List.mem_flatMap.mp hc
    rcases mem_sanitizeChar hr.2 hcd with hw | ⟨rfl, -⟩
    · exact isTokenChar_of_isWordChar hw
    · exact h.2 c hd

/-- Behind the first pass the two classes have the same characters. -/
theorem isWordChar_eq_of_mem_sanitize (hr : ∀ c ∈ rules.sigilReplacement, isWordChar c = true)
    {t : Text} {c : Char} (h : c ∈ sanitize rules t) : isWordChar c = isTokenChar rules c := by
  rw [sanitize_eq_flatMap] at h
  obtain ⟨d, -, hcd⟩ := List.mem_flatMap.mp h
  rcases mem_sanitizeChar hr hcd with hw | ⟨rfl, hne⟩
  · rw [hw, isTokenChar_of_isWordChar hw]
  · have hbeq : (c == rules.sigil) = false := by simpa using hne
    rw [isTokenChar, hbeq, Bool.or_false]

/-- Only the keyword becomes the keyword: any other run has a sigil, whose replacement the
keyword does not contain, or stays as it is. -/
theorem sanitized_eq_keyword_iff (hks : rules.sigil ∉ k) (hrk : ¬ rules.sigilReplacement <:+: k)
    (r : Text) : r.flatMap (sanitizeChar rules) = k ↔ r = k := by
  -- a sigil leaves its replacement behind, and without one nothing changes
  by_cases hs : rules.sigil ∈ r
  · have hin : rules.sigilReplacement <:+: r.flatMap (sanitizeChar rules) := by
      obtain ⟨u, v, rfl⟩ := List.append_of_mem hs
      rw [List.flatMap_append, List.flatMap_cons, sanitizeChar, if_pos rfl]
      exact ⟨_, _, (List.append_assoc _ _ _)⟩
    constructor
    · intro h
      exact absurd (h ▸ hin) hrk
    · rintro rfl
      exact absurd hs hks
  · rw [flatMap_sanitizeChar_eq_self hs]

/-- **Sigils and declarations are replaced run by run.** -/
theorem downgrade_sanitize (hd : rules.declaration = Pattern.wholeWord k)
    (hk : IsRun isWordChar k) (hks : rules.sigil ∉ k)
    (hr : IsRun isWordChar rules.sigilReplacement) (hrk : ¬ rules.sigilReplacement <:+: k)
    (t : Text) :
    downgrade rules (sanitize rules t) = mapRuns (isTokenChar rules) (adaptToken rules k) t := by
  -- both passes act run by run, the second one on word characters, which are then all there are
  have hout : ∀ c, isTokenChar rules c = false → sanitizeChar rules c = [c] := by
    intro c hc
    rw [isTokenChar, Bool.or_eq_false_iff] at hc
    rw [sanitizeChar, if_neg (by simpa using hc.2)]
  rw [downgrade, hd, Pattern.replaceAll_wholeWord hk,
    Text.mapRuns_congr_class (fun c hc => isWordChar_eq_of_mem_sanitize hr.2 hc),
    sanitize_eq_flatMap, Text.flatMap_eq_mapRuns hout,
    Text.mapRuns_mapRuns (fun r h => isRun_sanitized hr (Text.isRun_of_mem_runs h))]
  apply Text.mapRuns_congr
  intro r _
  simp only [adaptToken, sanitized_eq_keyword_iff hks hrk]

end

/-! ## §4. Accepted dialects. -/

/-- **Sigils and declarations of an accepted dialect are replaced token by token**, if its keyword
is a word without the sigil and the replacement a word that the keyword does not contain.  An
identifier with a sigil in it is no keyword, wherever it stands. -/
theorem downgrade_sanitize_of_accepted {d : Dialect} {rules : DialectRules} (h : d.rules = .ok rules)
    (hk : IsRun isWordChar d.functionScopedKeyword) (hks : d.sigil ∉ d.functionScopedKeyword)
    (hr : IsRun isWordChar d.sigilReplacement)
    (hrk : ¬ d.sigilReplacement <:+: d.functionScopedKeyword) :
    (∀ t, downgrade rules (sanitize rules t)
      = mapRuns (isTokenChar rules) (adaptToken rules d.functionScopedKeyword) t)
    ∧ ∀ u r v, IsRun (isTokenChar rules) r → d.sigil ∈ r →
        StartsOutside (isTokenChar rules) u.reverse → StartsOutside (isTokenChar rules) v →
        downgrade rules (sanitize rules (u ++ (r ++ v)))
          = downgrade rules (sanitize rules u)
            ++ (r.flatMap (sanitizeChar rules) ++ downgrade rules (sanitize rules v)) := by
  have hall : ∀ t, downgrade rules (sanitize rules t)
      = mapRuns (isTokenChar rules) (adaptToken rules d.functionScopedKeyword) t := by
    obtain ⟨e, s, k, -, -, -, -, hread, rfl⟩ := Dialect.rules_eq_ok_iff.mp h
    exact downgrade_sanitize (Dialect.eq_wholeWord_of_readPattern hread) hk hks hr hrk
  refine ⟨hall, ?_⟩
  intro u r v hrun hmem hu hv
  have hne : r ≠ d.functionScopedKeyword := by
    rintro rfl
    exact hks hmem
  rw [hall, hall, hall, Text.mapRuns_append_of_endsOutside hu, Text.mapRuns_append hrun hv,
    adaptToken, if_neg hne]

/-- A dialect whose sigil is a section sign. -/
def sectionDialect : Dialect :=
  { Dialect.builtin with sigil := '§', sigilReplacement := "s_" }

/-- The rules of that dialect. -/
def sectionRules : DialectRules :=
  { DialectRules.builtin with
    sigil := '§', sigilReplacement := "s_", fingerprint := sectionDialect.fingerprint }

/-- A keyword, the same letters behind a sigil, and the keyword again. -/
theorem downgrade_sanitize_sectionDialect :
    sectionDialect.rules = .ok sectionRules
      ∧ IsRun isWordChar sectionDialect.functionScopedKeyword
      ∧ sectionDialect.sigil ∉ sectionDialect.functionScopedKeyword
      ∧ IsRun isWordChar sectionDialect.sigilReplacement
      ∧ ¬ sectionDialect.sigilReplacement <:+: sectionDialect.functionScopedKeyword
      ∧ downgrade sectionRules (sanitize sectionRules "var §var var") = "let s_var let".toList := by
  have hrules : sectionDialect.rules = .ok sectionRules := by rfl
  have hword : IsRun isWordChar sectionDialect.functionScopedKeyword := by decide
  have hsigil : sectionDialect.sigil ∉ sectionDialect.functionScopedKeyword := by decide
  have hreplacement : IsRun isWordChar sectionDialect.sigilReplacement := by decide
  have hinfix : ¬ sectionDialect.sigilReplacement <:+: sectionDialect.functionScopedKeyword := by
    decide
  refine ⟨hrules, hword, hsigil, hreplacement, hinfix, ?_⟩
  have hbefore : StartsOutside (isTokenChar sectionRules) ['v', 'a', 'r', ' '].reverse :=
    Text.startsOutside_cons.mpr (by decide)
  have hbehind : StartsOutside (isTokenChar sectionRules) [' ', 'v', 'a', 'r'] :=
    Text.startsOutside_cons.mpr (by decide)
  have hname : IsRun (isTokenChar sectionRules) ['§', 'v', 'a', 'r'] := by decide +kernel
  have happ := (downgrade_sanitize_of_accepted hrules hword hsigil hreplacement hinfix).2
    ['v', 'a', 'r', ' '] ['§', 'v', 'a', 'r'] [' ', 'v', 'a', 'r'] hname (by decide) hbefore hbehind
  exact happ.trans (by decide +kernel)

end ScriptWeave
