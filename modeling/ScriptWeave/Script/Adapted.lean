/-
  ScriptWeave.Script.Adapted
  ──────────────────────────
  **AN ADAPTED SCRIPT.**

  A compiled script is adapted to its place in a component in a fixed order:
  exports are collected and deleted, names replaced, sigils replaced,
  declarations replaced.  The source map is passed on as it is.
-/
import ScriptWeave.Script.Exports
import ScriptWeave.Script.Renames
import ScriptWeave.Script.Words

namespace ScriptWeave

/-- An adapted script. -/
structure Adapted where
  /-- The text of the script. -/
  code : Text
  /-- Its source map, as the compiler wrote it. -/
  map : Text
  /-- What it exported. -/
  aliases : AliasTable
  deriving Repr, DecidableEq

/-- The text of a script adapted under the given aliases. -/
def adaptCode (rules : DialectRules) (order : RenameOrder) (aliases : AliasTable)
    (source : Text) : Text :=
  downgrade rules (sanitize rules (applyRenames aliases order (deleteExports rules source)))

/-- Adapts a compiled script. -/
def adapt (rules : DialectRules) (order : RenameOrder) (source map : Text) : Adapted :=
  let aliases := (collectExports rules source).table
  ⟨adaptCode rules order aliases source, map, aliases⟩

/-- What there is to note about the exports of a compiled script. -/
def adaptNotes (rules : DialectRules) (source : Text) : List AliasNote :=
  (collectExports rules source).notes

end ScriptWeave
