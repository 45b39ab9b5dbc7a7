/-
  ScriptWeave.Build.Failure
  ─────────────────────────
  **WHY PREPROCESSING FAILS.**

  Adapting a script never fails.  What fails is an operation on files, the compiler,
  a configuration, or code that must be acceptable and is not.
-/
import ScriptWeave.Files.Error
import ScriptWeave.Program.Diagnostic
import ScriptWeave.SetupError

namespace ScriptWeave

/-- Why preprocessing fails. -/
inductive Failure where
  /-- An operation on a file failed. -/
  | io (path : Text) (e : IoError)
  /-- The compiler could not be started. -/
  | spawn (command : Text) (e : IoError)
  /-- The compiler failed; a signal leaves no status. -/
  | compiler (command : Text) (status : Option Int) (output : Text)
  /-- The compiler left no file where one is due. -/
  | missingArtifact (path : Text)
  /-- A configuration is refused. -/
  | setup (e : SetupError)
  /-- The adapted code is no acceptable script. -/
  | unacceptable (file : Text) (diagnostics : List Program.Diagnostic)
  deriving Repr, DecidableEq

/-- The decimal text of an integer. -/
def statusText (n : Int) : Text :=
  (if n < 0 then ['-'] else []) ++ Decimal.digits n.natAbs

/-- A failure as it is shown. -/
def Failure.text : Failure → Text
  | .io path e => "I/O error on " ++ path ++ ": " ++ e.text
  | .spawn command e => "failed to spawn compiler `" ++ command ++ "`: " ++ e.text
  | .compiler command status output =>
    let ending : Text :=
      match status with
      | some n => "status " ++ statusText n
      | none => "no status (terminated by signal)"
    "compiler `" ++ command ++ "` exited with " ++ ending ++ ": " ++ output
  | .missingArtifact path => "compiler artifact not found: " ++ path
  | .setup e => e.text
  | .unacceptable file diagnostics =>
    "rewritten script in " ++ file ++ " is not valid JavaScript: "
      ++ Text.join "; " (diagnostics.map (·.text))

end ScriptWeave
