/-
  ScriptWeave.Script.Exports
  ──────────────────────────
  **EXPORT STATEMENTS.**

  Every export statement of a compiled script is deleted, and what it
  exports is recorded in an alias table.  The list of a statement is cut at
  its commas.  An entry names an internal name and, behind the separator,
  the name it is exported under; an entry of one name exports it under its
  own.  Malformed entries are noted and read as far as they go.
-/
import ScriptWeave.Alias.Table
import ScriptWeave.Dialect.Rules

namespace ScriptWeave

namespace AliasLog

/-- Records the parts of an entry: the internal name, the public name, and what should not
be there. -/
def recordParts (l : AliasLog) (entry : Text) : List Text → AliasLog
  | [] => l
  | [name] => recordNames l entry name name
  | [internal, shown] => recordNames l entry internal shown
  | internal :: shown :: _ => recordNames (l.note (.extraParts entry)) entry internal shown
where
  recordNames (l : AliasLog) (entry internal shown : Text) : AliasLog :=
    if internal.isEmpty then l.note (.noInternalName entry)
    else if shown.isEmpty then (l.note (.noPublicName entry)).insert internal internal
    else l.insert internal shown

/-- Records an entry of an export list; a blank one, as behind a last comma, is nothing. -/
def recordEntry (rules : DialectRules) (l : AliasLog) (entry : Text) : AliasLog :=
  let entry := Text.trim entry
  if entry.isEmpty then l
  else l.recordParts entry ((rules.aliasSeparator.split entry).map Text.trim)

/-- Records the entries of an export list. -/
def recordList (rules : DialectRules) (l : AliasLog) (list : Text) : AliasLog :=
  (Text.splitOn ',' list).foldl (recordEntry rules) l

end AliasLog

/-- The export lists of a script, statement by statement. -/
def exportLists (rules : DialectRules) (source : Text) : List Text :=
  (rules.exportStatement.matchesIn source).map (·.groupText 1)

/-- What the export statements of a script record. -/
def collectExports (rules : DialectRules) (source : Text) : AliasLog :=
  (exportLists rules source).foldl (AliasLog.recordList rules) .empty

/-- The script without its export statements. -/
def deleteExports (rules : DialectRules) (source : Text) : Text :=
  rules.exportStatement.replaceAll (fun _ => []) source

end ScriptWeave
