/-
  ScriptWeave.Build.Preprocessor
  ──────────────────────────────
  **PREPROCESSING COMPONENTS.**

  The blocks of a component that declare the configured language are
  compiled, adapted and put back; all else stays as it is.  A block is
  looked up in the cache first, and stored there after it passed the check.
  In a directory a component that fails does not stop the others.
-/
import ScriptWeave.Build.ScriptCache
import ScriptWeave.Build.ComponentFiles
import ScriptWeave.Build.Compiler
import ScriptWeave.Component.Block
import ScriptWeave.Component.Splice
import ScriptWeave.Options.Format
import ScriptWeave.Program.Validity

namespace ScriptWeave

/-! ## §1. Results. -/

/-- A preprocessed block. -/
structure Processed where
  /-- The adapted script. -/
  script : Adapted
  /-- Whether it comes from the cache. -/
  cached : Bool
  deriving Repr, DecidableEq

/-- A preprocessed component. -/
structure ComponentOutput where
  /-- The text of the component. -/
  code : Text
  /-- The source maps of the adapted blocks in order. -/
  maps : List Text
  /-- How many blocks were adapted. -/
  blocksAdapted : Nat
  deriving Repr, DecidableEq

/-- What became of the components of a directory. -/
structure DirReport where
  /-- The components with adapted blocks. -/
  outputs : List (Text × ComponentOutput)
  /-- The components that failed. -/
  failures : List (Text × Failure)
  /-- How many components there are. -/
  filesScanned : Nat
  deriving Repr, DecidableEq

/-- Whether no component failed. -/
def DirReport.isSuccess (r : DirReport) : Bool := r.failures.isEmpty

/-! ## §2. Preprocessors. -/

/-- A preprocessor. -/
structure Preprocessor where
  /-- Its options. -/
  options : Options
  /-- The rules of its dialect. -/
  rules : DialectRules
  /-- Its compiler. -/
  compiler : Compiler
  /-- Its cache, if it has one. -/
  cache : Option ScriptCache

namespace Preprocessor

/-- The rules of acceptable options. -/
def rulesOf (o : Options) : Except SetupError DialectRules :=
  match o.validate with
  | .error s => .error (.setting s)
  | .ok () => o.dialect.rules

/-- A preprocessor with the given options and compiler.  Nothing is changed if the options
are refused. -/
def new (o : Options) (compiler : Compiler) : Action Preprocessor := do
  match rulesOf o with
  | .error e => throw (.setup e)
  | .ok rules =>
    let cache ← if o.cache then some <$> ScriptCache.open o.cacheDir o.cacheSalt else pure none
    return ⟨o, rules, compiler, cache⟩

/-- A preprocessor that runs the compiler of its options. -/
def ofOptions (spawn : Spawn) (o : Options) : Action Preprocessor :=
  new o ((Toolchain.ofOptions o).compile spawn)

/-! ## §3. Blocks. -/

/-- Checks adapted code as the options demand. -/
def check (p : Preprocessor) (code file : Text) : Action Unit := do
  if p.options.outputCheck = .off then return ()
  let diagnostics := Program.check code
  if diagnostics.isEmpty then return ()
  if p.options.outputCheck = .deny then throw (.unacceptable file diagnostics)
  World.warnAll (diagnostics.map (Warning.suspectScript file))

/-- Compiles, adapts and checks a source. -/
def produce (p : Preprocessor) (content file : Text) : Action Adapted := do
  modify (fun w => { w with compilations := w.compilations + 1 })
  let artifacts ← p.compiler content
  World.warnAll ((adaptNotes p.rules artifacts.js).map Warning.exports)
  let r := adapt p.rules p.options.renameOrder artifacts.js artifacts.map
  p.check r.code file
  return r

/-- Looks a source up in the cache, if there is one. -/
def lookUp (p : Preprocessor) (content : Text) : Effect (Option Adapted) :=
  match p.cache with
  | some c => c.get? content
  | none => return none

/-- Stores an adapted script in the cache, if there is one. -/
def store (p : Preprocessor) (content : Text) (r : Adapted) : Effect Unit :=
  match p.cache with
  | some c => c.set content r
  | none => return ()

/-- Preprocesses a block of the configured language. -/
def process (p : Preprocessor) (content file : Text) : Action Processed := do
  match ← p.lookUp content with
  | some r => return ⟨r, true⟩
  | none =>
    let r ← p.produce content file
    p.store content r
    return ⟨r, false⟩

/-- Preprocesses a block unless it is in another language. -/
def processBlock (p : Preprocessor) (content : Text) (attributes : Attributes) (file : Text) :
    Action (Option Processed) :=
  if attributes.isLang p.options.lang then some <$> p.process content file else return none

/-- Preprocesses a block that stands alone. -/
def script (p : Preprocessor) (content : Text) (attributes : Attributes) :
    Action (Option Processed) :=
  p.processBlock content attributes "<script>"

/-! ## §4. Components. -/

/-- Preprocesses blocks in order; those in other languages are left out. -/
def processBlocks (p : Preprocessor) (file : Text) :
    List ScriptBlock → Action (List (ScriptBlock × Adapted))
  | [] => return []
  | b :: rest => do
    match ← p.processBlock b.content b.attributes file with
    | some r => return (b, r.script) :: (← processBlocks p file rest)
    | none => processBlocks p file rest

/-- The component with adapted blocks put back. -/
def assemble (source : Text) (done : List (ScriptBlock × Adapted)) : ComponentOutput where
  code := splice source (done.map (fun d => ⟨d.1.start, d.1.stop, d.2.code⟩))
  maps := done.map (·.2.map)
  blocksAdapted := done.length

/-- Preprocesses a component. -/
def component (p : Preprocessor) (source file : Text) : Action ComponentOutput := do
  return assemble source (← p.processBlocks file (findBlocks source))

/-- Preprocesses the component in a file. -/
def file (p : Preprocessor) (path : Text) : Action ComponentOutput := do
  let source ← orFail path (← World.readText path)
  p.component source path

/-! ## §5. Directories. -/

/-- What became of components, path by path, as a report. -/
def report (results : List (Text × Except Failure ComponentOutput)) : DirReport where
  outputs := results.filterMap (fun r =>
    match r.2 with
    | .ok o => if o.blocksAdapted = 0 then none else some (r.1, o)
    | .error _ => none)
  failures := results.filterMap (fun r =>
    match r.2 with
    | .ok _ => none
    | .error e => some (r.1, e))
  filesScanned := results.length

/-- Preprocesses the components in files, one after the other. -/
def files (p : Preprocessor) : List Text → Effect (List (Text × Except Failure ComponentOutput))
  | [] => return []
  | path :: rest => do
    let r ← attempt (p.file path)
    return (path, r) :: (← files p rest)

/-- Preprocesses the components below a directory, and warns of those that failed. -/
def dir (p : Preprocessor) (path : Text) : Action DirReport := do
  unless ← World.isDirAt path do throw (.io path .noDirectory)
  let paths ← findComponentFiles path p.options.componentExtensions
  let r := report (← p.files paths)
  World.warnAll (r.failures.map (fun f => Warning.componentFailed f.1 f.2))
  return r

end Preprocessor

end ScriptWeave
