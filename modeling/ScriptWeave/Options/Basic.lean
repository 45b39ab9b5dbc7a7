/-
  ScriptWeave.Options.Basic
  ─────────────────────────
  **WHAT CAN BE CONFIGURED.**

  The options say which blocks to preprocess, how to run the compiler and
  where it leaves its output, what to cache, and how to adapt and check.
  Every option has a default that suits a stock Scala.js build.
-/
import ScriptWeave.Alias.Table
import ScriptWeave.Dialect.Basic
import ScriptWeave.SetupError
import ScriptWeave.Text.Blank

namespace ScriptWeave

/-! ## §1. Options. -/

/-- The command that runs the compiler. -/
structure CompilerCommand where
  /-- The program. -/
  program : Text
  /-- Its arguments, in which a placeholder stands for the path of the source. -/
  args : List Text
  /-- The directory it runs in. -/
  workingDir : Text
  deriving Repr, DecidableEq

/-- The default command. -/
def CompilerCommand.builtin : CompilerCommand := ⟨"sbt", ["fastOptJS"], "."⟩

/-- The command on one line, its parts separated by blanks. -/
def CompilerCommand.line (c : CompilerCommand) : Text := Text.join [' '] (c.program :: c.args)

/-- What to do about adapted code that is no acceptable script. -/
inductive OutputCheck where
  /-- Do not look. -/
  | off
  /-- Warn. -/
  | warn
  /-- Fail. -/
  | deny
  deriving Repr, DecidableEq

/-- The options of a preprocessor. -/
structure Options where
  /-- The language whose blocks are preprocessed. -/
  lang : Text
  /-- The directory of scratch files. -/
  scratchDir : Text
  /-- How the names of scratch files begin. -/
  scratchStem : Text
  /-- The extension of scratch files. -/
  scratchExtension : Text
  /-- Whether scratch files are kept. -/
  keepScratch : Bool
  /-- The command that runs the compiler. -/
  compiler : CompilerCommand
  /-- Where the compiler leaves the compiled script. -/
  outputJs : Text
  /-- Where it leaves the source map, if not beside the script. -/
  outputMap : Option Text
  /-- Whether adapted scripts are cached. -/
  cache : Bool
  /-- The directory of the cache. -/
  cacheDir : Text
  /-- The extensions of component files. -/
  componentExtensions : List Text
  /-- The order of renames. -/
  renameOrder : RenameOrder
  /-- What to do about code that is no acceptable script. -/
  outputCheck : OutputCheck
  /-- The dialect of the compiled script. -/
  dialect : Dialect
  deriving Repr, DecidableEq

namespace Options

/-- The default options. -/
def builtin : Options where
  lang := "scala"
  scratchDir := "./tmp"
  scratchStem := "Script"
  scratchExtension := "scala"
  keepScratch := false
  compiler := .builtin
  outputJs := "./target/scala-3.3.3/svala-fastopt.js"
  outputMap := none
  cache := true
  cacheDir := ".svala/cache"
  componentExtensions := ["svelte"]
  renameOrder := .discovery
  outputCheck := .warn
  dialect := .builtin

/-- Where the source map is. -/
def outputMapPath (o : Options) : Text := o.outputMap.getD (o.outputJs ++ ".map".toList)

/-! ## §2. Acceptable options. -/

/-- Whether a text can stand for itself in the name of a file. -/
def isPlainStem (stem : Text) : Bool :=
  !stem.isEmpty && !stem.contains '/' && !stem.contains '\\'

/-- Refuses options with a blank language, a blank program, or a stem that is no plain
name, the first of these. -/
def validate (o : Options) : Except BadSetting Unit :=
  if (Text.trim o.lang).isEmpty then .error .blankLang
  else if (Text.trim o.compiler.program).isEmpty then .error .blankProgram
  else if isPlainStem o.scratchStem then .ok ()
  else .error (.stemNotPlain o.scratchStem)

/-! ## §3. Fingerprints. -/

/-- A text that tells compiler set-ups apart: the command on one line, its directory, and
the two files it leaves. -/
def toolchainFingerprint (o : Options) : Text :=
  Text.join [Dialect.unitSeparator]
    [o.compiler.line, o.compiler.workingDir, o.outputJs, o.outputMapPath]

/-- How an order is spelt in a salt. -/
def orderTag : RenameOrder → Text
  | .discovery => "Discovery"
  | .longestFirst => "LongestFirst"

/-- The text that salts the keys of the cache: the fingerprint of the dialect, the order of
renames and the fingerprint of the set-up. -/
def cacheSalt (o : Options) : Text :=
  Text.join [Dialect.unitSeparator]
    [o.dialect.fingerprint, orderTag o.renameOrder, o.toolchainFingerprint]

end Options

end ScriptWeave
