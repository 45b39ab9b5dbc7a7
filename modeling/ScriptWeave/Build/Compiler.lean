/-
  ScriptWeave.Build.Compiler
  ──────────────────────────
  **RUNNING THE COMPILER.**

  The source goes into a scratch file, the compiler runs, and the two files
  that it leaves are read.  The scratch file is gone afterwards, unless it
  is to be kept and all went well.  How a process runs is a parameter: it
  answers and may change any files.
-/
import ScriptWeave.Build.Scratch
import ScriptWeave.Options.Basic

namespace ScriptWeave

/-! ## §1. Processes. -/

/-- How a process ended, and what it printed. -/
structure ProcessResult where
  /-- Its status, none if a signal ended it. -/
  status : Option Int
  /-- What it printed to standard output. -/
  stdout : ByteArray
  /-- What it printed to standard error. -/
  stderr : ByteArray

/-- How a program with arguments runs in a directory: it may fail to start, and it may
change files. -/
abbrev Spawn :=
  (program : Text) → (args : List Text) → (workingDir : Text) → Files →
    Except IoError ProcessResult × Files

/-! ## §2. Compilers. -/

/-- What a compiler leaves. -/
structure Artifacts where
  /-- The compiled script. -/
  js : Text
  /-- Its source map. -/
  map : Text
  deriving Repr, DecidableEq

/-- A compiler. -/
abbrev Compiler := (source : Text) → Action Artifacts

/-- A compiler that is run as a process. -/
structure Toolchain where
  /-- The command. -/
  command : CompilerCommand
  /-- The directory of scratch files. -/
  scratchDir : Text
  /-- How their names begin. -/
  scratchStem : Text
  /-- Their extension. -/
  scratchExtension : Text
  /-- Whether they are kept. -/
  keepScratch : Bool
  /-- Where the compiled script is left. -/
  outputJs : Text
  /-- Where the source map is left. -/
  outputMap : Text
  deriving Repr, DecidableEq

namespace Toolchain

/-- The toolchain that options describe. -/
def ofOptions (o : Options) : Toolchain where
  command := o.compiler
  scratchDir := o.scratchDir
  scratchStem := o.scratchStem
  scratchExtension := o.scratchExtension
  keepScratch := o.keepScratch
  outputJs := o.outputJs
  outputMap := o.outputMapPath

/-- What stands for the path of the source in arguments. -/
def placeholder : Text := "\x7bsource\x7d"

/-- The directory of kept scratch files. -/
def keptDir (t : Toolchain) : Text := Path.join t.scratchDir "kept"

/-- What is shown of a failed process: what it printed to standard error, or else to
standard output. -/
def shownOutput (r : ProcessResult) : Text :=
  let err := Text.lossy r.stderr
  Text.trim (if (Text.trim err).isEmpty then Text.lossy r.stdout else err)

/-- Runs the compiler on a scratch file. -/
def run (t : Toolchain) (spawn : Spawn) (scratch : Text) : Action Unit := do
  let args := t.command.args.map (Text.replace placeholder scratch)
  let (r, s) := spawn t.command.program args t.command.workingDir (← get).files
  modify (fun w => { w with files := s })
  match r with
  | .error e => throw (.spawn t.command.line e)
  | .ok r =>
    unless r.status = some 0 do
      throw (.compiler t.command.line r.status (shownOutput r))

/-- Reads a file that the compiler leaves. -/
def readArtifact (path : Text) : Action Text := do
  unless ← World.existsAt path do throw (.missingArtifact path)
  orFail path (← World.readText path)

/-- Runs the compiler on a scratch file and reads what it leaves. -/
def produce (t : Toolchain) (spawn : Spawn) (scratch : Text) : Action Artifacts := do
  t.run spawn scratch
  let js ← readArtifact t.outputJs
  let map ← readArtifact t.outputMap
  return ⟨js, map⟩

/-- Compiles a source. -/
def compile (t : Toolchain) (spawn : Spawn) : Compiler := fun source => do
  let scratch ← Scratch.create t.scratchDir t.scratchStem t.scratchExtension source
  let artifacts ←
    try t.produce spawn scratch.path
    catch e =>
      scratch.drop
      throw e
  if t.keepScratch then
    let _ ← scratch.keepIn t.keptDir
  else
    scratch.drop
  return artifacts

end Toolchain

end ScriptWeave
