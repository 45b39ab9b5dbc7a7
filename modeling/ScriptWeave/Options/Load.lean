/-
  ScriptWeave.Options.Load
  ────────────────────────
  **OPTIONS FROM FILES.**

  A configuration is read from a file, or looked for in a directory under
  its usual name; a directory without one has the default options.
-/
import ScriptWeave.Build.World
import ScriptWeave.Options.Format

namespace ScriptWeave.Options

/-- The usual name of a configuration. -/
def configName : Text := "svala.config.json"

/-- The options in a file. -/
def ofFile (path : Text) : Action Options := do
  let t ← orFail path (← World.readText path)
  match parse t with
  | .ok o => return o
  | .error e => throw (.setup e)

/-- The options of a directory. -/
def discover (dir : Text) : Action Options := do
  let path := Path.join dir configName
  if ← World.existsAt path then ofFile path else return builtin

end ScriptWeave.Options
