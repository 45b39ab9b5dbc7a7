/-
  ScriptWeave.SetupError
  ──────────────────────
  **WHY A CONFIGURATION IS REFUSED.**

  A configuration is refused because its text is not the JSON that was
  expected, because a pattern of its dialect is malformed, or because a value
  is not acceptable.
-/
import ScriptWeave.Json.Error
import ScriptWeave.Pattern.Error

namespace ScriptWeave

/-- The fields of a dialect from which patterns are made. -/
inductive PatternField where
  /-- The pattern of export statements. -/
  | exportPattern
  /-- The pattern between the names of an entry. -/
  | aliasSeparator
  /-- The keyword of function-scoped declarations, for which a pattern is made. -/
  | functionScopedKeyword
  deriving Repr, DecidableEq

/-- The name of a field. -/
def PatternField.name : PatternField → Text
  | .exportPattern => "exportPattern"
  | .aliasSeparator => "aliasSeparator"
  | .functionScopedKeyword => "functionScopedKeyword"

/-- Why a value of a configuration is not acceptable. -/
inductive BadSetting where
  /-- The export pattern has no group for the export list. -/
  | noListGroup
  /-- The keyword of function-scoped declarations is blank. -/
  | blankKeyword
  /-- The language is blank. -/
  | blankLang
  /-- The program of the compiler is blank. -/
  | blankProgram
  /-- The stem of scratch files is empty or contains a separator of paths. -/
  | stemNotPlain (stem : Text)
  deriving Repr, DecidableEq

/-- The sentence that states what is not acceptable. -/
def BadSetting.text : BadSetting → Text
  | .noListGroup => "exportPattern must capture the alias list in group 1"
  | .blankKeyword => "functionScopedKeyword must not be empty"
  | .blankLang => "lang must not be empty"
  | .blankProgram => "compiler.program must not be empty"
  | .stemNotPlain stem => "scratchStem \"" ++ stem ++ "\" must be a plain file name"

/-- Why a configuration is refused. -/
inductive SetupError where
  /-- Its text is not the JSON that was expected. -/
  | json (e : Json.Error)
  /-- A pattern is malformed. -/
  | pattern (field : PatternField) (e : Pattern.Error)
  /-- A value is not acceptable. -/
  | setting (s : BadSetting)
  deriving Repr, DecidableEq

/-- A refusal as it is shown. -/
def SetupError.text : SetupError → Text
  | .json e => e.text
  | .pattern field e =>
    "invalid dialect pattern `" ++ field.name ++ "`: " ++ e.message.toList
  | .setting s => "invalid configuration: " ++ s.text

end ScriptWeave
