/-
  ScriptWeave.Program.Validity
  ────────────────────────────
  **IS A SCRIPT ACCEPTABLE?**

  A script that cannot be read gets the problems met while reading, and then
  a name that is exported twice counts as one of them.  A script that can be
  read gets what is wrong with its names and jumps, in the order of the
  script, and then the exports of names that it does not declare.
-/
import ScriptWeave.Program.Naming
import ScriptWeave.Program.Parser

namespace ScriptWeave.Program

/-- What the statements of a module export from it. -/
def exportItems (body : List Statement) : List (Text × Text) :=
  body.flatMap (fun
    | .exports items => items
    | _ => [])

/-- The names that repeat a name before them. -/
def repeated : (seen : List Text) → List Text → List Text
  | _, [] => []
  | seen, t :: rest => if t ∈ seen then t :: repeated seen rest else repeated (t :: seen) rest

/-- What is wrong with the names and jumps of a module. -/
def namingProblems (body : List Statement) : List Diagnostic :=
  let n := walkStatements .module body .start
  n.reports.reverse
    ++ (((exportItems body).map (·.1)).filter (fun t => !n.bindsOutside t)).map
      Diagnostic.undefinedExport

/-- What is wrong with a script. -/
def check (source : Text) : List Diagnostic :=
  let r := readModule source
  let problems := r.2.problems ++ (repeated [] r.2.exported).map Diagnostic.duplicateExport
  if problems.isEmpty then namingProblems r.1 else problems

end ScriptWeave.Program
