/-
  ScriptWeave.Proofs.Script.Renaming
  ──────────────────────────────────
  **ADAPTING A SCRIPT IS RENAMING ITS NAMES.**

  Each pass over a script looks at characters in its own way: one deletes
  statements, one replaces texts inside other texts, one replaces single
  characters, one whole words.  If no name hides in another, all of them
  together replace every run of name characters as a whole:

      (adapt builtin order (weave t parts) map).code
        = mapRuns (name character) (adaptToken "var" ∘ T.rename) (unwoven t parts)

  The invariant of the renames is `Apart`: each run of the text so far is a
  name that is still to be replaced, or contains none.  A public name put in
  contains none, and a longer name is replaced before a name inside it.
-/
import ScriptWeave.Proofs.Alias.Order
import ScriptWeave.Proofs.Script.Words
import ScriptWeave.Proofs.Script.WrittenExports
import ScriptWeave.Script.Adapted

namespace ScriptWeave

open Text (mapRuns runs IsRun)

/-! ## §1. One rename after the other. -/

/-- What becomes of a run: the public name, if it is an internal one. -/
def renameRun (es : List (Text × Text)) (r : Text) : Text := (es.lookup r).getD r

/-- What becomes of a run under a table. -/
def AliasTable.rename (t : AliasTable) (r : Text) : Text := renameRun t.entries r

/-- No name of the entries hides in another name or in the text, and none is replaced before a
longer one that contains it. -/
structure Apart (p : Char → Bool) (es : List (Text × Text)) (t : Text) : Prop where
  /-- Internal names are runs. -/
  internal_run : ∀ e ∈ es, IsRun p e.1
  /-- Public names are runs. -/
  shown_run : ∀ e ∈ es, IsRun p e.2
  /-- No internal name is contained in a public one, unless it is that name itself under which
  it is exported. -/
  shown_apart : ∀ e ∈ es, ∀ b ∈ es, b.1 <:+: e.2 → e.2 = e.1 ∧ b.1 = e.1
  /-- A run of the text is an internal name or contains none. -/
  text_apart : ∀ r ∈ runs p t, (∃ e ∈ es, e.1 = r) ∨ ∀ e ∈ es, ¬ e.1 <:+: r
  /-- An internal name is not contained in a later one. -/
  order : es.Pairwise (fun a b => ¬ a.1 <:+: b.1)

section

variable {p : Char → Bool} {e : Text × Text} {es : List (Text × Text)} {t : Text}

/-- What one entry makes of a run. -/
def stepRun (e : Text × Text) (r : Text) : Text := if r = e.1 then e.2 else r

/-- An entry is applied run by run. -/
theorem applyRename_eq_mapRuns (h : Apart p (e :: es) t) :
    applyRename t e = mapRuns p (stepRun e) t := by
  have hruns : ∀ r ∈ runs p t, r = e.1 ∨ ¬ e.1 <:+: r := by
    intro r hr
    rcases h.text_apart r hr with ⟨b, hb, rfl⟩ | hno
    · rcases List.mem_cons.mp hb with rfl | hb
      · exact Or.inl rfl
      · exact Or.inr ((List.pairwise_cons.mp h.order).1 b hb)
    · exact Or.inr (hno e List.mem_cons_self)
  unfold applyRename
  split
  next heq =>
    have hid : ∀ r ∈ runs p t, stepRun e r = r := by
      intro r _
      unfold stepRun
      split
      next hre => rw [hre, heq]
      next => rfl
    exact (Text.mapRuns_eq_self hid).symm
  next => exact Text.replace_eq_mapRuns (h.internal_run e List.mem_cons_self) hruns

/-- A later internal name is not contained in the public name of the first entry. -/
theorem Apart.not_infix_shown (h : Apart p (e :: es) t) {b : Text × Text} (hb : b ∈ es) :
    ¬ b.1 <:+: e.2 := by
  intro hin
  obtain ⟨-, hbe⟩ := h.shown_apart e List.mem_cons_self b (List.mem_cons_of_mem e hb) hin
  exact (List.pairwise_cons.mp h.order).1 b hb (hbe ▸ List.infix_refl b.1)

theorem Apart.isRun_stepRun (h : Apart p (e :: es) t) {r : Text} (hr : IsRun p r) :
    IsRun p (stepRun e r) := by
  unfold stepRun
  split
  next => exact h.shown_run e List.mem_cons_self
  next => exact hr

/-- **The rest of the entries stays apart** when the first one is applied. -/
theorem Apart.step (h : Apart p (e :: es) t) : Apart p es (applyRename t e) where
  internal_run b hb := h.internal_run b (List.mem_cons_of_mem e hb)
  shown_run b hb := h.shown_run b (List.mem_cons_of_mem e hb)
  shown_apart a ha b hb := h.shown_apart a (List.mem_cons_of_mem e ha) b (List.mem_cons_of_mem e hb)
  text_apart := by
    rw [applyRename_eq_mapRuns h,
      Text.runs_mapRuns (fun r hr => h.isRun_stepRun (Text.isRun_of_mem_runs hr))]
    intro r' hr'
    obtain ⟨r, hr, rfl⟩ := List.mem_map.mp hr'
    unfold stepRun
    split
    -- a run that was replaced is a public name, which contains no later internal name
    next => exact Or.inr (fun b hb => h.not_infix_shown hb)
    next hne =>
      rcases h.text_apart r hr with ⟨b, hb, rfl⟩ | hno
      · rcases List.mem_cons.mp hb with rfl | hb
        · exact absurd rfl hne
        · exact Or.inl ⟨b, hb, rfl⟩
      · exact Or.inr (fun b hb => hno b (List.mem_cons_of_mem e hb))
  order := (List.pairwise_cons.mp h.order).2

/-- The rest of the entries leaves what the first one made. -/
theorem Apart.renameRun_stepRun (h : Apart p (e :: es) t) (r : Text) :
    renameRun es (stepRun e r) = renameRun (e :: es) r := by
  obtain ⟨a, b⟩ := e
  unfold renameRun stepRun
  rw [List.lookup_cons]
  by_cases hra : r = a
  · -- a public name is not looked up again
    have hfree : es.lookup b = none := by
      rw [List.lookup_eq_none_iff]
      intro c hc
      have hnot := h.not_infix_shown hc
      have hne : b ≠ c.1 := fun hbc => hnot (hbc ▸ List.infix_refl c.1)
      simpa using hne
    simp [hra, hfree]
  · have hbeq : (r == a) = false := beq_false_of_ne hra
    simp [hra, hbeq]

/-- **Entries that are apart rename run by run.** -/
theorem foldl_applyRename (h : Apart p es t) :
    es.foldl applyRename t = mapRuns p (renameRun es) t := by
  induction es generalizing t with
  | nil => exact (Text.mapRuns_eq_self (fun _ _ => rfl)).symm
  | cons e es ih =>
    rw [List.foldl_cons, ih h.step, applyRename_eq_mapRuns h,
      Text.mapRuns_mapRuns (fun r hr => h.isRun_stepRun (Text.isRun_of_mem_runs hr))]
    exact Text.mapRuns_congr (fun r _ => h.renameRun_stepRun r)

theorem isRun_renameRun (hes : ∀ e ∈ es, IsRun p e.2) {r : Text} (hr : IsRun p r) :
    IsRun p (renameRun es r) := by
  unfold renameRun
  cases hl : es.lookup r with
  | none => exact hr
  | some b =>
    obtain ⟨us, vs, rfl, -⟩ := List.lookup_eq_some_iff.mp hl
    exact hes (r, b) (by simp)

end

/-! ## §2. All passes. -/

/-- Whether a character is one of names as the built-in dialect writes them: a word character or
the dollar sign. -/
abbrev isDialectChar : Char → Bool := isTokenChar .builtin

/-- The table of what a script exports. -/
def exportedTable (parts : List (WrittenExport × Text)) : AliasTable :=
  (AliasLog.ofPairs (writtenPairs parts)).table

/-- What becomes of a run of name characters: an internal name is replaced by its public name,
and then the keyword `var` by `let`, or the dollar signs of any other run by `scala_`. -/
def adaptRun (table : AliasTable) (r : Text) : Text := adaptToken .builtin "var" (table.rename r)

/-- A name of such characters can stand in an export list. -/
theorem isEntryName_of_isRun {a : Text} (h : IsRun isDialectChar a) : IsEntryName a := by
  refine ⟨h.1, ?_⟩
  intro c hc
  have hin := h.2 c hc
  refine ⟨?_, ?_, ?_⟩
  · cases hb : isBlank c with
    | false => rfl
    | true =>
      rw [isDialectChar, isTokenChar, isWordChar_eq_false_of_isBlank hb, Bool.false_or,
        beq_iff_eq] at hin
      rw [hin] at hb
      exact absurd hb (by decide)
  · rintro rfl
    exact absurd hin (by decide)
  · rintro rfl
    exact absurd hin (by decide)

section

variable {t : Text} {parts : List (WrittenExport × Text)}

theorem exportedTable_eq (ht : ¬ exportWord <:+: t) (hp : ∀ p ∈ parts, ¬ exportWord <:+: p.2) :
    (collectExports .builtin (weave t parts)).table = exportedTable parts := by
  rw [collectExports_weave ht hp, exportedTable]

/-- In either order the entries of a table are renamed run by run. -/
theorem applyRenames_eq_mapRuns {table : AliasTable} {order : RenameOrder}
    (hdistinct : table.Distinct) (h : Apart isDialectChar (table.ordered order) t) :
    applyRenames table order t = mapRuns isDialectChar table.rename t := by
  rw [applyRenames, foldl_applyRename h]
  apply Text.mapRuns_congr
  intro r _
  rw [AliasTable.rename, renameRun, renameRun,
    lookup_eq_of_perm hdistinct (table.ordered_perm order)]

/-- The last two passes act on runs of name characters. -/
theorem downgrade_sanitize_builtin (t : Text) :
    downgrade .builtin (sanitize .builtin t) = mapRuns isDialectChar (adaptToken .builtin "var") t :=
  downgrade_sanitize rfl (by decide) (by decide) (by decide) (by decide) t

/-- **Adapting a script renames its names and does nothing else.**  Between the export
statements, every run of name characters is replaced as a whole, provided no internal name hides
in a public name or in a run of the text. -/
theorem adapt_weave (order : RenameOrder) (map : Text)
    (ht : ¬ exportWord <:+: t) (hp : ∀ p ∈ parts, ¬ exportWord <:+: p.2)
    (hnames : ∀ e ∈ writtenPairs parts, IsRun isDialectChar e.1 ∧ IsRun isDialectChar e.2)
    (hshown : ∀ e ∈ (exportedTable parts).entries, ∀ b ∈ (exportedTable parts).entries,
      b.1 <:+: e.2 → e.2 = e.1 ∧ b.1 = e.1)
    (htext : ∀ r ∈ runs isDialectChar (unwoven t parts),
      (∃ e ∈ (exportedTable parts).entries, e.1 = r)
        ∨ ∀ e ∈ (exportedTable parts).entries, ¬ e.1 <:+: r)
    (horder : order = .discovery →
      (exportedTable parts).entries.Pairwise (fun a b => a.1 <:+: b.1 → a.1 = b.1)) :
    adapt .builtin order (weave t parts) map
      = ⟨mapRuns isDialectChar (adaptRun (exportedTable parts)) (unwoven t parts), map,
          exportedTable parts⟩ := by
  have hdistinct : (exportedTable parts).Distinct := AliasLog.distinct_ofPairs _
  have hmem : ∀ e ∈ (exportedTable parts).ordered order, e ∈ (exportedTable parts).entries :=
    fun e he => ((exportedTable parts).ordered_perm order).mem_iff.mp he
  have hruns : ∀ e ∈ (exportedTable parts).entries,
      IsRun isDialectChar e.1 ∧ IsRun isDialectChar e.2 :=
    fun e he => hnames e (AliasLog.mem_ofPairs he)
  -- in the chosen order the entries are apart
  have hapart : Apart isDialectChar ((exportedTable parts).ordered order) (unwoven t parts) := by
    constructor
    case internal_run => exact fun e he => (hruns e (hmem e he)).1
    case shown_run => exact fun e he => (hruns e (hmem e he)).2
    case shown_apart => exact fun e he b hb => hshown e (hmem e he) b (hmem b hb)
    case text_apart =>
      intro r hr
      rcases htext r hr with ⟨e, he, hre⟩ | hno
      · exact Or.inl ⟨e, ((exportedTable parts).ordered_perm order).mem_iff.mpr he, hre⟩
      · exact Or.inr (fun e he => hno e (hmem e he))
    case order =>
      cases order with
      | longestFirst => exact hdistinct.longestFirst_apart
      | discovery =>
        refine ((hdistinct.ordered .discovery).and (horder rfl)).imp ?_
        rintro a b ⟨hne, hsame⟩ hin
        exact hne (hsame hin)
  -- all passes act run by run, so their composition does
  have hcode : adaptCode .builtin order (exportedTable parts) (weave t parts)
      = mapRuns isDialectChar (adaptRun (exportedTable parts)) (unwoven t parts) := by
    rw [adaptCode, deleteExports_weave ht hp, applyRenames_eq_mapRuns hdistinct hapart,
      downgrade_sanitize_builtin]
    refine Text.mapRuns_mapRuns ?_
    intro r hr
    exact isRun_renameRun (fun e he => (hruns e he).2) (Text.isRun_of_mem_runs hr)
  show (⟨adaptCode .builtin order _ _, map, _⟩ : Adapted) = _
  rw [exportedTable_eq ht hp, hcode]

/-- The statement that exports `$a` as `b`, with a blank between all its parts. -/
def exportOfA : WrittenExport where
  beforeList := " "
  entries :=
    [{ before := " "
       internal := "$a"
       shown? := some
        { before := " "
          behind := " "
          name := "b"
          before_run := by decide
          behind_run := by decide
          name_ok := isEntryName_of_isRun (by decide) }
       behind := " "
       before_blanks := by decide
       internal_ok := isEntryName_of_isRun (by decide)
       behind_blanks := by decide }]
  behindComma? := none
  beforeEnd := []
  beforeList_blanks := by decide
  entries_ne_nil := List.cons_ne_nil _ _
  behindComma_blanks := by simp
  beforeEnd_blanks := by decide

/-- A script with a declaration, an export and a sigil that is no name. -/
theorem adapt_weave_exportOfA :
    weave "var $a=$;\n" [(exportOfA, "\n")] = "var $a=$;\nexport { $a as b };\n".toList
      ∧ adapt .builtin .discovery (weave "var $a=$;\n" [(exportOfA, "\n")]) []
        = ⟨"let b=scala_;\n\n", [], ⟨[("$a", "b")]⟩⟩ := by
  have hout : isDialectChar ' ' = false ∧ isDialectChar '=' = false ∧ isDialectChar ';' = false
      ∧ isDialectChar '\n' = false := by decide
  have hin : isDialectChar 'v' = true ∧ isDialectChar 'a' = true ∧ isDialectChar 'r' = true
      ∧ isDialectChar '$' = true := by decide
  have htext : unwoven "var $a=$;\n" [(exportOfA, "\n")]
      = ['v', 'a', 'r', ' ', '$', 'a', '=', '$', ';', '\n', '\n'] := by decide
  have hruns : runs isDialectChar (unwoven "var $a=$;\n" [(exportOfA, "\n")])
      = [['v', 'a', 'r'], ['$', 'a'], ['$']] := by
    rw [htext]
    simp [runs, hout, hin]
  have hword : ∀ u : Text, 'x' ∉ u → ¬ exportWord <:+: u :=
    fun u hu h => hu (h.subset (by decide))
  have hnames : ∀ e ∈ writtenPairs [(exportOfA, ("\n" : String).toList)],
      IsRun isDialectChar e.1 ∧ IsRun isDialectChar e.2 := by
    intro e he
    obtain rfl : e = (['$', 'a'], ['b']) := List.mem_singleton.mp he
    exact ⟨by decide, by decide⟩
  refine ⟨by decide, ?_⟩
  have hparts : ∀ p ∈ [(exportOfA, ("\n" : String).toList)], ¬ exportWord <:+: p.2 := by
    intro p hp
    rw [List.mem_singleton.mp hp]
    exact hword _ (by decide)
  rw [adapt_weave .discovery [] (hword _ (by decide)) hparts hnames (by decide)
    (by rw [hruns]; decide) (by decide), htext]
  simp only [mapRuns, hout, hin, List.takeWhile, List.dropWhile]
  decide

end

end ScriptWeave
