/-
  ScriptWeave.Proofs.Script.NormalForm
  ────────────────────────────────────
  **WHAT REMAINS TO BE ADAPTED.**

  A script is in normal form if no export statement can be read in it, and it
  has neither a dollar sign nor the word `var`.  Whatever the names are that
  are put in, an adapted script has no dollar sign and no such word, since
  these are replaced last and what replaces them makes no new ones.

      code = source and nothing exported    ↔    source in normal form

  From left to right lengths decide: a statement that is deleted leaves the
  text shorter, and without dollar signs nothing makes it longer again.
-/
import ScriptWeave.Proofs.Script.ExportScan
import ScriptWeave.Proofs.Script.Sigils
import ScriptWeave.Script.Adapted

namespace ScriptWeave

open Pattern Text

/-! ## §1. Keywords that are left. -/

section

variable {rules : DialectRules} {k t : Text}

/-- Replacing declarations is a replacement run by run. -/
theorem downgrade_eq_mapRuns (hd : rules.declaration = wholeWord k) (hk : IsRun isWordChar k)
    (t : Text) :
    downgrade rules t
      = mapRuns isWordChar (fun r => if r = k then rules.blockScopedKeyword else r) t := by
  rw [downgrade, hd, replaceAll_wholeWord hk]

/-- Replacing declarations puts in no sigil. -/
theorem sigil_not_mem_downgrade (hd : rules.declaration = wholeWord k) (hk : IsRun isWordChar k)
    (hb : rules.sigil ∉ rules.blockScopedKeyword) (ht : rules.sigil ∉ t) :
    rules.sigil ∉ downgrade rules t := by
  rw [downgrade_eq_mapRuns hd hk]
  intro hmem
  rcases mem_mapRuns hmem with hin | ⟨r, hr, hin⟩
  · exact ht hin
  · split at hin
    next => exact hb hin
    next => exact ht (mem_of_mem_runs hr hin)

/-- **No keyword is left** when declarations are replaced by another word. -/
theorem keyword_not_mem_runs_downgrade (hd : rules.declaration = wholeWord k)
    (hk : IsRun isWordChar k) (hb : IsRun isWordChar rules.blockScopedKeyword)
    (hne : rules.blockScopedKeyword ≠ k) (t : Text) :
    k ∉ runs isWordChar (downgrade rules t) := by
  have hruns : ∀ r ∈ runs isWordChar t,
      IsRun isWordChar (if r = k then rules.blockScopedKeyword else r) := by
    intro r hr
    split
    next => exact hb
    next => exact isRun_of_mem_runs hr
  rw [downgrade_eq_mapRuns hd hk, runs_mapRuns hruns, List.mem_map]
  rintro ⟨r, -, hr⟩
  split at hr
  next => exact hne hr
  next hrk => exact hrk hr

/-- A text without the keyword keeps its declarations. -/
theorem downgrade_eq_self (hd : rules.declaration = wholeWord k) (hk : IsRun isWordChar k)
    (h : k ∉ runs isWordChar t) : downgrade rules t = t := by
  rw [downgrade_eq_mapRuns hd hk]
  apply mapRuns_eq_self
  intro r hr
  rw [if_neg]
  rintro rfl
  exact h hr

/-- Declarations are replaced without a change of length by a keyword that is as long. -/
theorem length_downgrade (hd : rules.declaration = wholeWord k) (hk : IsRun isWordChar k)
    (hlen : rules.blockScopedKeyword.length = k.length) (t : Text) :
    (downgrade rules t).length = t.length := by
  rw [downgrade_eq_mapRuns hd hk]
  apply length_mapRuns
  intro r _
  split
  next hr => rw [hlen, hr]
  next => rfl

end

/-! ## §2. Statements that are deleted. -/

/-- Whether an export statement can be read somewhere in a text. -/
def HasExport (t : Text) : Prop := ∃ v, v <:+ t ∧ BeginsExport v

/-- What the statements of a text take up is missing when they are deleted. -/
theorem CutAtExports.length_eq {t last : Text} {cuts : List (Text × ReadExport)}
    (h : CutAtExports t cuts last) :
    t.length = (deleteExports .builtin t).length + (cuts.flatMap (fun c => c.2.text)).length := by
  have hsum : ∀ cuts : List (Text × ReadExport),
      (cuts.flatMap (fun c => c.1 ++ c.2.text)).length
        = (cuts.flatMap Prod.fst).length + (cuts.flatMap (fun c => c.2.text)).length := by
    intro cuts
    induction cuts with
    | nil => rfl
    | cons c cuts ih =>
      simp only [List.flatMap_cons, List.length_append] at ih ⊢
      omega
  have htext := congrArg List.length h.eq_append
  rw [List.length_append, hsum] at htext
  rw [h.deleteExports_eq, List.length_append]
  omega

/-- **A text with a statement is shorter without its statements.** -/
theorem length_deleteExports_lt {t : Text} (h : HasExport t) :
    (deleteExports .builtin t).length < t.length := by
  obtain ⟨cuts, last, hcut⟩ := exists_cutAtExports t
  have hlen := hcut.length_eq
  cases hcut with
  | done hnone =>
    obtain ⟨v, hv, hbegins⟩ := h
    exact absurd hbegins (hnone v hv)
  | @next gap u last s cuts hleft hrest =>
    have hsum : (s.text ++ cuts.flatMap (fun c => c.2.text)).length
        = s.text.length + (cuts.flatMap (fun c => c.2.text)).length := List.length_append
    rw [List.flatMap_cons, hsum] at hlen
    have hpos : exportWord.length ≤ s.text.length := by
      rw [ReadExport.text, exportText, List.length_append]
      omega
    have hword : exportWord.length = 6 := rfl
    omega

/-- What is left when statements are deleted was there. -/
theorem mem_of_mem_deleteExports {t : Text} {c : Char} (h : c ∈ deleteExports .builtin t) :
    c ∈ t := by
  obtain ⟨cuts, last, hcut⟩ := exists_cutAtExports t
  rw [hcut.deleteExports_eq, List.mem_append, List.mem_flatMap] at h
  rw [hcut.eq_append, List.mem_append, List.mem_flatMap]
  rcases h with ⟨cut, hmem, hc⟩ | hc
  · exact Or.inl ⟨cut, hmem, List.mem_append_left _ hc⟩
  · exact Or.inr hc

/-! ## §3. Normal forms. -/

/-- Whether there is nothing in a script that the built-in dialect would adapt. -/
structure IsNormal (t : Text) : Prop where
  no_export : ¬ HasExport t
  no_sigil : '$' ∉ t
  no_keyword : "var".toList ∉ runs isWordChar t

variable {source map : Text} {order : RenameOrder}

/-- Without entries nothing is renamed. -/
theorem applyRenames_empty (order : RenameOrder) (t : Text) : applyRenames .empty order t = t := by
  cases order <;> rfl

/-- The declarations of the built-in dialect. -/
theorem declaration_builtin : DialectRules.builtin.declaration = wholeWord "var" := rfl

theorem isRun_var : IsRun isWordChar "var" := by decide

theorem sigil_not_mem_adapt : '$' ∉ (adapt .builtin order source map).code := by
  refine sigil_not_mem_downgrade declaration_builtin isRun_var (by decide) ?_
  exact sigil_not_mem_sanitize (by decide) _

theorem keyword_not_mem_runs_adapt :
    "var".toList ∉ runs isWordChar (adapt .builtin order source map).code :=
  keyword_not_mem_runs_downgrade declaration_builtin isRun_var (by decide) (by decide) _

/-- A script in normal form is not changed, and exports nothing. -/
theorem IsNormal.adapt_eq (h : IsNormal source) (order : RenameOrder) (map : Text) :
    adapt .builtin order source map = ⟨source, map, .empty⟩ := by
  have hcut : CutAtExports source [] source :=
    .done (fun v hv hbegins => h.no_export ⟨v, hv, hbegins⟩)
  have htable : (collectExports .builtin source).table = .empty := by
    rw [hcut.collectExports_eq]
    rfl
  have hsigil : DialectRules.builtin.sigil ∉ source := h.no_sigil
  have hcode : adaptCode .builtin order .empty source = source := by
    rw [adaptCode, hcut.deleteExports_eq, List.flatMap_nil, List.nil_append, applyRenames_empty,
      sanitize_eq_self hsigil, downgrade_eq_self declaration_builtin isRun_var h.no_keyword]
  rw [adapt, htable]
  exact congrArg (Adapted.mk · map .empty) hcode

/-- A script without sigil that exports no names is as long, when adapted, as without its
statements. -/
theorem length_adapt (hsigil : '$' ∉ source)
    (htable : (collectExports .builtin source).table = .empty) :
    (adapt .builtin order source map).code.length = (deleteExports .builtin source).length := by
  have hdeleted : DialectRules.builtin.sigil ∉ deleteExports .builtin source :=
    fun h => hsigil (mem_of_mem_deleteExports h)
  show (adaptCode .builtin order _ source).length = _
  rw [htable, adaptCode, length_downgrade declaration_builtin isRun_var rfl, applyRenames_empty,
    sanitize_eq_self hdeleted]

/-- **Scripts in normal form are those that adapting leaves as they are**, with nothing
exported. -/
theorem adapt_eq_self_iff :
    ((adapt .builtin order source map).code = source
        ∧ (adapt .builtin order source map).aliases = .empty) ↔ IsNormal source := by
  constructor
  · rintro ⟨hcode, htable⟩
    have hsigil : '$' ∉ source := hcode ▸ sigil_not_mem_adapt
    refine ⟨?_, hsigil, hcode ▸ keyword_not_mem_runs_adapt⟩
    intro hexport
    -- a deleted statement would be missing from the code
    have hlt := length_deleteExports_lt hexport
    have hlen : (adapt .builtin order source map).code.length
        = (deleteExports .builtin source).length := length_adapt hsigil htable
    rw [hcode] at hlen
    omega
  · intro h
    rw [h.adapt_eq]
    exact ⟨rfl, rfl⟩

/-- **Normal forms of scripts.**  Adapted code has no dollar sign and no word `var`.  Adapting
keeps a script, and records nothing, if and only if it is in normal form.  So adapting code once
more changes nothing, in whichever order names are replaced, if and only if no export statement
can be read in it. -/
theorem adapt_normalForm (source map : Text) (order : RenameOrder) :
    ('$' ∉ (adapt .builtin order source map).code
        ∧ "var".toList ∉ runs isWordChar (adapt .builtin order source map).code)
      ∧ (((adapt .builtin order source map).code = source
          ∧ (adapt .builtin order source map).aliases = .empty) ↔ IsNormal source)
      ∧ ((∀ order' map', adapt .builtin order' (adapt .builtin order source map).code map'
            = ⟨(adapt .builtin order source map).code, map', .empty⟩)
          ↔ ¬ HasExport (adapt .builtin order source map).code) := by
  refine ⟨⟨sigil_not_mem_adapt, keyword_not_mem_runs_adapt⟩, adapt_eq_self_iff, ?_, ?_⟩
  · intro hsame
    have hagain := hsame order map
    have hkept := adapt_eq_self_iff.mp
      ⟨(congrArg Adapted.code hagain :), (congrArg Adapted.aliases hagain :)⟩
    exact hkept.no_export
  · intro hexport order' map'
    have hnormal : IsNormal (adapt .builtin order source map).code :=
      ⟨hexport, sigil_not_mem_adapt, keyword_not_mem_runs_adapt⟩
    exact hnormal.adapt_eq order' map'

end ScriptWeave
