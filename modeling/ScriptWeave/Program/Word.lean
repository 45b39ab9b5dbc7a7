/-
  ScriptWeave.Program.Word
  ────────────────────────
  **THE WORDS OF THE LANGUAGE.**

  A word is a name unless the language keeps it for itself.  Some words are
  kept everywhere, some only in strict code, and some have a meaning in a
  few places and are ordinary names elsewhere.  A message calls a word of
  any of these kinds by itself, and every other word an identifier.
-/
import ScriptWeave.Text.Basic

namespace ScriptWeave.Program

/-- The words that are never names. -/
def languageWords : List Text :=
  List.map String.toList
    ["break", "case", "catch", "class", "const", "continue", "debugger", "default", "delete",
      "do", "else", "enum", "export", "extends", "false", "finally", "for", "function", "if",
      "import", "in", "instanceof", "new", "null", "return", "super", "switch", "this", "throw",
      "true", "try", "typeof", "var", "void", "while", "with"]

/-- The words that are names only outside asynchronous functions and generators. -/
def operatorNames : List Text := List.map String.toList ["await", "yield"]

/-- The words that strict code keeps, `let` apart. -/
def futureWords : List Text :=
  List.map String.toList
    ["implements", "interface", "package", "private", "protected", "public", "static"]

/-- The words that are no names in modules, although they look like names. -/
def reservedWords : List Text := operatorNames ++ ['l', 'e', 't'] :: futureWords

/-- The words that are names and have a meaning in some places. -/
def contextualWords : List Text :=
  List.map String.toList
    ["abstract", "accessor", "any", "as", "assert", "asserts", "async", "bigint", "boolean",
      "constructor", "declare", "defer", "from", "get", "global", "infer", "intrinsic", "is",
      "keyof", "meta", "module"]
    ++ List.map String.toList
    ["namespace", "never", "number", "object", "of", "out", "override", "readonly", "require",
      "satisfies", "set", "source", "string", "symbol", "target", "type", "undefined", "unique",
      "unknown", "using"]

/-- How a message calls a word. -/
def wordName (t : Text) : Text :=
  if t ∈ languageWords || t ∈ reservedWords || t ∈ contextualWords then t else "Identifier"

/-- Whether a word can be declared as a name, as far as the grammar goes. -/
def isBindingWord (t : Text) : Bool := !languageWords.contains t

/-- Whether a word is a name wherever it stands, as far as the grammar goes. -/
def isPlainName (t : Text) : Bool := isBindingWord t && !operatorNames.contains t

/-- The words that start the name of a value. -/
def literalWords : List Text := List.map String.toList ["null", "true", "false"]

/-- The names that strict code does not assign to. -/
def strictNames : List Text := List.map String.toList ["arguments", "eval"]

end ScriptWeave.Program
