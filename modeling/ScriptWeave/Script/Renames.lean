/-
  ScriptWeave.Script.Renames
  ──────────────────────────
  **RENAMING.**

  The entries of an alias table are applied one after the other, each to the
  text that its predecessors made.  An entry replaces every occurrence of
  its internal name, also inside longer names and inside strings.  An entry
  that names the same name twice changes nothing.
-/
import ScriptWeave.Alias.Table

namespace ScriptWeave

/-- Applies one entry. -/
def applyRename (source : Text) (entry : Text × Text) : Text :=
  if entry.1 = entry.2 then source else Text.replace entry.1 entry.2 source

/-- Applies the entries of a table in the given order. -/
def applyRenames (table : AliasTable) (order : RenameOrder) (source : Text) : Text :=
  (table.ordered order).foldl applyRename source

end ScriptWeave
