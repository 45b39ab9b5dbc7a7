/-
  ScriptWeave.Dialect.Basic
  ─────────────────────────
  **WHAT A COMPILED SCRIPT LOOKS LIKE.**

  A dialect says how a compiler writes what must be recognised in a script:
  export statements, the word between two names of an export, the character
  that leads its own identifiers, and the keyword of function-scoped
  declarations; and what the last two become.  The built-in dialect is that
  of Scala.js.
-/
import ScriptWeave.Json.Decoder

namespace ScriptWeave

/-- The shapes that are recognised, and what is made of them. -/
structure Dialect where
  /-- The pattern of an export statement, whose group 1 is the export list. -/
  exportPattern : Text
  /-- The pattern between the internal and the public name of an entry. -/
  aliasSeparator : Text
  /-- The character that must not remain. -/
  sigil : Char
  /-- What stands for it. -/
  sigilReplacement : Text
  /-- The keyword of function-scoped declarations. -/
  functionScopedKeyword : Text
  /-- The keyword of block-scoped declarations, which stands for it. -/
  blockScopedKeyword : Text
  deriving Repr, DecidableEq

namespace Dialect

/-- The built-in dialect. -/
def builtin : Dialect where
  exportPattern := "export\\s*\\\x7b([^\x7d]+)\\\x7d\\s*;"
  aliasSeparator := "\\s+as(?:\\s+|$)"
  sigil := '$'
  sigilReplacement := "scala_"
  functionScopedKeyword := "var"
  blockScopedKeyword := "let"

instance : Inhabited Dialect := ⟨builtin⟩

/-- The character that separates the parts of a fingerprint. -/
def unitSeparator : Char := '\x1f'

/-- A text that tells dialects apart. -/
def fingerprint (d : Dialect) : Text :=
  Text.join [unitSeparator]
    [d.exportPattern, d.aliasSeparator, [d.sigil], d.sigilReplacement,
      d.functionScopedKeyword, d.blockScopedKeyword]

/-! ## §1. The dialect as JSON. -/

/-- A dialect as JSON. -/
def toJson (d : Dialect) : Json.Value :=
  .obj
    [("exportPattern", .str d.exportPattern),
      ("aliasSeparator", .str d.aliasSeparator),
      ("sigil", .str [d.sigil]),
      ("sigilReplacement", .str d.sigilReplacement),
      ("functionScopedKeyword", .str d.functionScopedKeyword),
      ("blockScopedKeyword", .str d.blockScopedKeyword)]

/-- The fields of a dialect; one that does not occur is as in the built-in dialect. -/
def shape : Json.Shape Dialect where
  name := "struct Dialect"
  complete := false
  fields :=
    [.of "exportPattern" Json.string (fun t d => { d with exportPattern := t }),
      .of "aliasSeparator" Json.string (fun t d => { d with aliasSeparator := t }),
      .of "sigil" Json.character (fun c d => { d with sigil := c }),
      .of "sigilReplacement" Json.string (fun t d => { d with sigilReplacement := t }),
      .of "functionScopedKeyword" Json.string (fun t d => { d with functionScopedKeyword := t }),
      .of "blockScopedKeyword" Json.string (fun t d => { d with blockScopedKeyword := t })]

/-- Reads a dialect. -/
def decoder : Json.Decoder Dialect := shape.decoder builtin

end Dialect

end ScriptWeave
