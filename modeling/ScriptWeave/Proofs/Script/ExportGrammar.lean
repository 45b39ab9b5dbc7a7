/-
  ScriptWeave.Proofs.Script.ExportGrammar
  ───────────────────────────────────────
  **WHERE EXPORT STATEMENTS AND SEPARATORS MATCH.**

  The built-in dialect recognises an export statement by the word `export`, a
  list in braces and a semicolon, and separates the names of an entry by the
  word `as` between white space.

      export ␣* { list } ␣* ;        list not empty, without `}`
      ␣+ as ␣+      or      ␣+ as    at the end

  The word `export` does not overlap itself: in a text without it in front of
  a statement it does not begin anywhere.
-/
import ScriptWeave.Proofs.Pattern.Progress
import ScriptWeave.Proofs.Text.Cuts
import ScriptWeave.Script.Exports

namespace ScriptWeave

open Pattern Text

variable {prev : Option Char} {t u v w w' list : Text}

/-! ## §1. Export statements. -/

/-- The word that an export statement begins with. -/
def exportWord : Text := "export"

/-- The word between the names of an entry. -/
def asWord : Text := "as"

/-- An export statement as it is written: white space before the list, the list, and white
space before the semicolon. -/
def exportText (w list w' : Text) : Text :=
  exportWord ++ (w ++ '{' :: (list ++ '}' :: (w' ++ [';'])))

/-- **An export statement is matched**, with its list as group 1. -/
theorem matchAt_exportText (hw : IsBlanks w) (hne : list ≠ []) (hlist : '}' ∉ list)
    (hw' : IsBlanks w') (prev : Option Char) (u : Text) :
    ∃ m, DialectRules.builtin.exportStatement.matchAt ⟨prev, exportText w list w' ++ u⟩ = some m
      ∧ m.whole.length = (exportText w list w').length ∧ m.groupText 1 = list := by
  have hrest : exportText w list w' ++ u
      = exportWord ++ (w ++ '{' :: (list ++ '}' :: (w' ++ ';' :: u))) := by
    simp [exportText]
  have hset : IsRun (CharSet.compl (.single '}')).contains list := by
    refine ⟨hne, ?_⟩
    intro c hc
    have hcne : '}' ≠ c := by
      rintro rfl
      exact hlist hc
    simpa [CharSet.contains] using hcne
  have hrun : DialectRules.builtin.exportStatement.node.run ⟨prev, exportText w list w' ++ u⟩ []
      (fun c' g => some (c', g))
      = some (⟨some ';', u⟩,
          [(1, ⟨list ++ '}' :: (w' ++ ';' :: u), '}' :: (w' ++ ';' :: u)⟩)]) := by
    -- part by part: the word, white space and a brace, the list and a brace, and the semicolon
    rw [hrest]
    show (Node.ofList (Node.chars exportWord ++ _)).run _ _ _ = _
    rw [run_chars_append, if_pos (List.prefix_append _ _), List.drop_left,
      run_many_single (s := .blank) hw (by decide), run_group_single hset (by decide),
      run_many_single (s := .blank) hw' (by decide), run_ofList_nil]
  refine ⟨_, by rw [matchAt, hrun, Option.map_some], ?_, ?_⟩
  · simp [Span.length]
  · simp [Match.groupText, Match.group?, Span.text, Span.length]

theorem advances_exportStatement : Advances DialectRules.builtin.exportStatement :=
  advances_of_not_nullable rfl

/-! ## §2. The word of an export statement. -/

/-- No end of the word is a beginning of it. -/
theorem exportWord_no_border : ∀ n, n < exportWord.length → 0 < n →
    ¬ exportWord.drop n <+: exportWord := by
  decide

/-- An occurrence of the word in a text in front of the word lies within that text, or is the
word itself. -/
theorem not_prefix_append_exportWord (hv : v ≠ []) (h : ¬ exportWord <+: v) (u : Text) :
    ¬ exportWord <+: v ++ (exportWord ++ u) := by
  intro hpre
  rcases List.prefix_or_prefix_of_prefix hpre (List.prefix_append v _) with hin | ⟨e, he⟩
  · exact h hin
  · -- the word begins in the text and ends behind it, so its end is a beginning of it
    have hlen : v.length + e.length = exportWord.length := by rw [← he, List.length_append]
    have hdrop : exportWord.drop v.length = e := by rw [← he, List.drop_left]
    rw [← he, List.prefix_append_right_inj] at hpre
    have hborder : e <+: exportWord :=
      List.prefix_of_prefix_length_le (by rwa [he] at hpre) (List.prefix_append exportWord u)
        (by omega)
    have hpos := List.length_pos_iff.mpr hv
    by_cases hshort : v.length < exportWord.length
    · exact exportWord_no_border v.length hshort hpos (hdrop ▸ hborder)
    · have hnil : e = [] := List.length_eq_zero_iff.mp (by omega)
      rw [hnil, List.append_nil] at he
      exact h (he ▸ List.prefix_refl v)

/-! ## §3. Separators. -/

/-- The parts of a separator behind its white space: the word, and more white space or the end. -/
def behindBlanks : List Node := Node.chars asWord ++ [.alt (.many1 .blank) (.anchor .textEnd)]

/-- The white space in front of a separator is passed as a whole: it does not begin with the
word, so no other position will do. -/
theorem run_separator {k : Next} (hw : IsRun isBlank w) (hu : StartsOutside isBlank u)
    (prev : Option Char) :
    DialectRules.builtin.aliasSeparator.node.run ⟨prev, w ++ u⟩ [] k
      = (Node.ofList behindBlanks).run ⟨lastOr prev w, u⟩ [] k := by
  obtain ⟨x, w, rfl⟩ := List.exists_cons_of_ne_nil hw.1
  have hx : CharSet.blank.contains x = true := hw.2 x List.mem_cons_self
  have htail : ∀ c ∈ w, CharSet.blank.contains c = true :=
    fun c hc => hw.2 c (List.mem_cons_of_mem x hc)
  have hfail : ∀ prev y t, CharSet.blank.contains y = true →
      (Node.ofList behindBlanks).run ⟨prev, y :: t⟩ [] k = none := by
    intro prev y t hy
    apply run_single_of_ne
    rintro rfl
    exact absurd hy (by decide)
  have htake : (w ++ u).takeWhile CharSet.blank.contains = w := takeWhile_run_append htail hu
  have hdrop : (w ++ u).dropWhile CharSet.blank.contains = u := dropWhile_run_append htail hu
  show (Node.ofList (.many1 .blank :: behindBlanks)).run _ _ _ = _
  rw [run_ofList_cons, run_many1, List.cons_append, run_char_cons, if_pos hx, most_eq hfail, htake,
    hdrop, lastOr_cons]

/-- Behind the word, white space is taken as a whole. -/
theorem run_behindBlanks (hw : IsRun isBlank w) (hu : StartsOutside isBlank u)
    (prev : Option Char) :
    (Node.ofList behindBlanks).run ⟨prev, asWord ++ (w ++ u)⟩ [] (fun c' g => some (c', g))
      = some (⟨lastOr (some 's') w, u⟩, []) := by
  obtain ⟨y, w, rfl⟩ := List.exists_cons_of_ne_nil hw.1
  have hy : CharSet.blank.contains y = true := hw.2 y List.mem_cons_self
  have htail : ∀ c ∈ w, CharSet.blank.contains c = true :=
    fun c hc => hw.2 c (List.mem_cons_of_mem y hc)
  have htake : (w ++ u).takeWhile CharSet.blank.contains = w := takeWhile_run_append htail hu
  have hdrop : (w ++ u).dropWhile CharSet.blank.contains = u := dropWhile_run_append htail hu
  rw [behindBlanks, run_chars_append, if_pos (List.prefix_append _ _), List.drop_left]
  show ((Node.many1 .blank).run ⟨some 's', y :: (w ++ u)⟩ _ _).or _ = _
  rw [run_many1, run_char_cons, if_pos hy,
    most_eq_some (r := (⟨lastOr (some y) w, u⟩, [])) (by rw [htake, hdrop]), Option.some_or,
    lastOr_cons]

/-- A separator between two names is matched with all white space around it. -/
theorem matchAt_separator (hw : IsRun isBlank w) (hw' : IsRun isBlank w')
    (hu : StartsOutside isBlank u) (prev : Option Char) :
    ∃ m, DialectRules.builtin.aliasSeparator.matchAt ⟨prev, (w ++ asWord ++ w') ++ u⟩ = some m
      ∧ m.whole.length = (w ++ asWord ++ w').length := by
  have hword : StartsOutside isBlank (asWord ++ (w' ++ u)) := startsOutside_cons.mpr (by decide)
  refine ⟨⟨⟨(w ++ asWord ++ w') ++ u, u⟩, []⟩, ?_, by simp [Span.length]; omega⟩
  rw [matchAt, List.append_assoc, List.append_assoc, run_separator hw hword,
    run_behindBlanks hw' hu]
  rfl

/-- Behind the last name, a separator ends with its word. -/
theorem matchAt_separator_end (hw : IsRun isBlank w) (prev : Option Char) :
    ∃ m, DialectRules.builtin.aliasSeparator.matchAt ⟨prev, w ++ asWord⟩ = some m
      ∧ m.whole.length = (w ++ asWord).length := by
  have hword : StartsOutside isBlank asWord := startsOutside_cons.mpr (by decide)
  refine ⟨⟨⟨w ++ asWord, []⟩, []⟩, ?_, by simp [Span.length]⟩
  rw [matchAt, run_separator hw hword]
  rfl

/-- A separator begins with white space. -/
theorem matchAt_separator_of_outside (h : StartsOutside isBlank t) :
    DialectRules.builtin.aliasSeparator.matchAt ⟨prev, t⟩ = none := by
  cases t with
  | nil => rfl
  | cons x t =>
    have hx : ¬ CharSet.blank.contains x = true := by
      simpa [CharSet.contains] using startsOutside_cons.mp h
    have hrun : DialectRules.builtin.aliasSeparator.node.run ⟨prev, x :: t⟩ []
        (fun c' g => some (c', g)) = none := by
      show (Node.ofList (.many1 .blank :: _)).run _ _ _ = _
      rw [run_ofList_cons, run_many1, run_char_cons, if_neg hx]
    rw [matchAt, hrun, Option.map_none]

theorem advances_separator : Advances DialectRules.builtin.aliasSeparator :=
  advances_of_not_nullable rfl

/-- A name without white space is passed. -/
theorem piecesFrom_separator (ht : ∀ c ∈ t, isBlank c = false) (prev : Option Char) (u : Text) :
    piecesFrom DialectRules.builtin.aliasSeparator prev (t ++ u)
      = t.map .plain ++ piecesFrom DialectRules.builtin.aliasSeparator (lastOr prev t) u := by
  apply piecesFrom_append
  intro a x b hab
  have hx : isBlank x = false := ht x (by simp [hab])
  exact matchAt_separator_of_outside (startsOutside_cons.mpr hx)

theorem piecesFrom_separator_nil :
    piecesFrom DialectRules.builtin.aliasSeparator prev [] = [] :=
  piecesFrom_nil (matchAt_separator_of_outside startsOutside_nil)

/-- A name alone is one part. -/
theorem split_separator_name (ht : ∀ c ∈ t, isBlank c = false) :
    DialectRules.builtin.aliasSeparator.split t = [t] := by
  have hpieces := piecesFrom_separator ht none []
  rw [List.append_nil, piecesFrom_separator_nil, List.append_nil] at hpieces
  rw [split_eq rfl, hpieces, gaps_plain]

/-- **Two names are separated**, even where one of them is the word `as` itself. -/
theorem split_separator_names (ht : ∀ c ∈ t, isBlank c = false) (hw : IsRun isBlank w)
    (hw' : IsRun isBlank w') (hu : ∀ c ∈ u, isBlank c = false) :
    DialectRules.builtin.aliasSeparator.split (t ++ ((w ++ asWord ++ w') ++ u)) = [t, u] := by
  have hstart : StartsOutside isBlank u := fun c hc => hu c (List.mem_of_mem_head? hc)
  obtain ⟨m, hm, hlen⟩ := matchAt_separator hw hw' hstart (lastOr none t)
  have hpieces := piecesFrom_separator hu (lastOr (lastOr none t) (w ++ asWord ++ w')) []
  rw [List.append_nil, piecesFrom_separator_nil, List.append_nil] at hpieces
  rw [split_eq rfl, piecesFrom_separator ht, piecesFrom_match advances_separator hm hlen,
    gaps_plain_append_hit, hpieces, gaps_plain]

end ScriptWeave
