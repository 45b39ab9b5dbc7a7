/-
  ScriptWeave.Options.Format
  ──────────────────────────
  **OPTIONS AS JSON.**

  Options are a record of named fields; the command and the dialect are
  records inside it.  A field that does not occur has its default, so the
  empty object stands for the default options.
-/
import ScriptWeave.Alias.Format
import ScriptWeave.Options.Basic

namespace ScriptWeave

namespace CompilerCommand

/-- A command as JSON. -/
def toJson (c : CompilerCommand) : Json.Value :=
  .obj
    [("program", .str c.program),
      ("args", .arr (c.args.map .str)),
      ("workingDir", .str c.workingDir)]

/-- Reads a command. -/
def decoder : Json.Decoder CompilerCommand :=
  Json.Shape.decoder
    { name := "struct CompilerCommand"
      complete := false
      fields :=
        [.of "program" Json.string (fun t c => { c with program := t }),
          .of "args" (Json.list Json.string) (fun ts c => { c with args := ts }),
          .of "workingDir" Json.path (fun t c => { c with workingDir := t })] }
    builtin

end CompilerCommand

namespace OutputCheck

/-- The names of the checks. -/
def names : List (Text × OutputCheck) := [("off", .off), ("warn", .warn), ("deny", .deny)]

/-- The name of a check. -/
def name : OutputCheck → Text
  | .off => "off"
  | .warn => "warn"
  | .deny => "deny"

/-- Reads a check by its name. -/
def decoder : Json.Decoder OutputCheck := Json.oneOf names

end OutputCheck

namespace Options

/-- Options as JSON. -/
def toJson (o : Options) : Json.Value :=
  .obj
    [("lang", .str o.lang),
      ("scratchDir", .str o.scratchDir),
      ("scratchStem", .str o.scratchStem),
      ("scratchExtension", .str o.scratchExtension),
      ("keepScratch", .bool o.keepScratch),
      ("compiler", o.compiler.toJson),
      ("outputJs", .str o.outputJs),
      ("outputMap", (o.outputMap.map Json.Value.str).getD .null),
      ("cache", .bool o.cache),
      ("cacheDir", .str o.cacheDir),
      ("componentExtensions", .arr (o.componentExtensions.map .str)),
      ("renameOrder", o.renameOrder.toJson),
      ("outputCheck", .str o.outputCheck.name),
      ("dialect", o.dialect.toJson)]

/-- The fields of options. -/
def shape : Json.Shape Options where
  name := "struct PreprocessOptions"
  complete := false
  fields :=
    [.of "lang" Json.string (fun t o => { o with lang := t }),
      .of "scratchDir" Json.path (fun t o => { o with scratchDir := t }),
      .of "scratchStem" Json.string (fun t o => { o with scratchStem := t }),
      .of "scratchExtension" Json.string (fun t o => { o with scratchExtension := t }),
      .of "keepScratch" Json.boolean (fun b o => { o with keepScratch := b }),
      .of "compiler" CompilerCommand.decoder (fun c o => { o with compiler := c }),
      .of "outputJs" Json.path (fun t o => { o with outputJs := t }),
      .of "outputMap" (Json.optional Json.path) (fun t o => { o with outputMap := t }),
      .of "cache" Json.boolean (fun b o => { o with cache := b }),
      .of "cacheDir" Json.path (fun t o => { o with cacheDir := t }),
      .of "componentExtensions" (Json.list Json.string)
        (fun ts o => { o with componentExtensions := ts }),
      .of "renameOrder" RenameOrder.decoder (fun r o => { o with renameOrder := r }),
      .of "outputCheck" OutputCheck.decoder (fun c o => { o with outputCheck := c }),
      .of "dialect" Dialect.decoder (fun d o => { o with dialect := d })]

/-- Reads options. -/
def decoder : Json.Decoder Options := shape.decoder builtin

/-- Reads options from a text, without asking whether they are acceptable. -/
def decode (t : Text) : Except SetupError Options :=
  match decoder.decode t with
  | .ok o => .ok o
  | .error e => .error (.json e)

/-- Reads acceptable options from a text. -/
def parse (t : Text) : Except SetupError Options :=
  match decode t with
  | .error e => .error e
  | .ok o =>
    match o.validate with
    | .ok () => .ok o
    | .error s => .error (.setting s)

end Options

end ScriptWeave
