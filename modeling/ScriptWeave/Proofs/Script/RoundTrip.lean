/-
  ScriptWeave.Proofs.Script.RoundTrip
  ───────────────────────────────────
  **WHAT IS WRITTEN INTO EXPORT STATEMENTS IS READ BACK.**

  However the entries of well-formed statements are laid out, and whatever
  their names are made of, reading a script gives the texts between the
  statements and the names of the entries.  The separator may be a name
  itself, and names may contain the words and braces of a statement:

      export { as as as, x as export{, } ;     as ↦ as, x ↦ export{

  Nothing is noted except names that come a second time and differ.
-/
import ScriptWeave.Proofs.Alias.FirstNames
import ScriptWeave.Proofs.Script.WrittenExports

namespace ScriptWeave

/-- **Exports that are written are read back.**  Between texts without the word, statements are
deleted and nothing else; the table holds each internal name once, with the public name that
it is written with first; and later public names that differ are all that is noted. -/
theorem exports_weave {t : Text} {parts : List (WrittenExport × Text)}
    (ht : ¬ exportWord <:+: t) (hp : ∀ p ∈ parts, ¬ exportWord <:+: p.2) :
    deleteExports .builtin (weave t parts) = unwoven t parts
      ∧ (collectExports .builtin (weave t parts)).table.entries = firstPairs (writtenPairs parts)
      ∧ (collectExports .builtin (weave t parts)).notes = secondNames (writtenPairs parts) := by
  refine ⟨deleteExports_weave ht hp, ?_, ?_⟩
  · rw [collectExports_weave ht hp, AliasLog.entries_ofPairs]
  · rw [collectExports_weave ht hp, AliasLog.notes_ofPairs]

/-- A statement whose names are the separator and parts of a statement, with a comma behind the
last entry. -/
def exportOfWords : WrittenExport where
  beforeList := "\n"
  entries :=
    [{ before := "\t"
       internal := "as"
       shown? := some
        { before := "\t"
          behind := "\n"
          name := "as"
          before_run := by decide
          behind_run := by decide
          name_ok := by decide }
       behind := "\n"
       before_blanks := by decide
       internal_ok := by decide
       behind_blanks := by decide },
     { before := "\n"
       internal := "x"
       shown? := some
        { before := "\n"
          behind := "\t\t"
          name := "export\x7b"
          before_run := by decide
          behind_run := by decide
          name_ok := by decide }
       behind := "\t"
       before_blanks := by decide
       internal_ok := by decide
       behind_blanks := by decide }]
  behindComma? := some "\n"
  beforeEnd := "\t"
  beforeList_blanks := by decide
  entries_ne_nil := List.cons_ne_nil _ _
  behindComma_blanks := by decide
  beforeEnd_blanks := by decide

/-- A statement that exports a name under itself. -/
def exportOfX : WrittenExport where
  beforeList := "\t"
  entries :=
    [{ before := "\n"
       internal := "x"
       shown? := none
       behind := "\t"
       before_blanks := by decide
       internal_ok := by decide
       behind_blanks := by decide }]
  behindComma? := some "\t"
  beforeEnd := "\n"
  beforeList_blanks := by decide
  entries_ne_nil := List.cons_ne_nil _ _
  behindComma_blanks := by decide
  beforeEnd_blanks := by decide

/-- Two statements, the second of which exports a name of the first again. -/
theorem exports_weave_twoStatements :
    weave "exp" [(exportOfWords, ";"), (exportOfX, "ort")]
        = ("expexport\n\x7b\tas\tas\nas\n,\nx\nas\t\texport\x7b\t,\n\x7d\t;;"
          ++ "export\t\x7b\nx\t,\t\x7d\n;ort").toList
      ∧ deleteExports .builtin (weave "exp" [(exportOfWords, ";"), (exportOfX, "ort")])
        = "exp;ort".toList
      ∧ (collectExports .builtin (weave "exp" [(exportOfWords, ";"), (exportOfX, "ort")]))
        = ⟨⟨[("as", "as"), ("x", "export\x7b")]⟩, [.secondName "x" "export\x7b" "x"]⟩ := by
  have ht : ¬ exportWord <:+: ("exp" : String).toList := by decide
  have hp : ∀ p ∈ [(exportOfWords, (";" : String).toList), (exportOfX, "ort")],
      ¬ exportWord <:+: p.2 := by
    intro p hp
    rcases List.mem_cons.mp hp with rfl | hp
    · decide
    · rw [List.mem_singleton.mp hp]
      decide
  obtain ⟨hdeleted, hentries, hnotes⟩ := exports_weave ht hp
  refine ⟨by decide, hdeleted, ?_⟩
  have hlog : ∀ l : AliasLog, l = ⟨⟨l.table.entries⟩, l.notes⟩ := fun _ => rfl
  rw [hlog (collectExports _ _), hentries, hnotes]
  decide

end ScriptWeave
