/-
  ScriptWeave.Json.Error
  ──────────────────────
  **WHY A JSON TEXT IS REFUSED, AND WHERE.**

  A reader works on what is still unread and reports a fault by what was
  unread then.  Only when the whole text is known does the fault get a
  position: the line, counted from 1, and the number of bytes consumed on it.
  A fault may count bytes beyond the characters consumed, because the
  offending character belongs to the position only with its first byte.
-/
import ScriptWeave.Json.Value
import ScriptWeave.Text.Quoted

namespace ScriptWeave.Json

/-! ## §1. Causes. -/

/-- What a reader found instead of what it expected. -/
inductive Found where
  /-- The value `null`. -/
  | null
  /-- A truth value. -/
  | bool (b : Bool)
  /-- A number. -/
  | number (n : Number)
  /-- A text. -/
  | str (t : Text)
  /-- An array. -/
  | sequence
  /-- An object. -/
  | map
  deriving Repr, DecidableEq

/-- Why a text is not the JSON that was expected. -/
inductive Cause where
  /-- The text ends where a value is due. -/
  | eofValue
  /-- The text ends in a string. -/
  | eofString
  /-- The text ends in an object. -/
  | eofObject
  /-- The text ends in an array. -/
  | eofList
  /-- A character that begins no value. -/
  | expectedValue
  /-- A misspelt `true`, `false` or `null`. -/
  | expectedIdent
  /-- No colon after a name. -/
  | expectedColon
  /-- No comma and no brace after a member. -/
  | expectedCommaOrBrace
  /-- No comma and no bracket after an item. -/
  | expectedCommaOrBracket
  /-- A name that is no string. -/
  | keyNotString
  /-- A comma before the end of an array or object. -/
  | trailingComma
  /-- Something after the end. -/
  | trailingCharacters
  /-- A malformed number. -/
  | invalidNumber
  /-- A number too large for double precision. -/
  | numberOutOfRange
  /-- A malformed escape. -/
  | invalidEscape
  /-- A surrogate without its partner. -/
  | loneSurrogate
  /-- A high surrogate that no escape follows. -/
  | endOfHexEscape
  /-- A control character in a string. -/
  | controlCharacter
  /-- A value of another kind. -/
  | wrongType (found : Found) (expected : String)
  /-- A value of the right kind that is not allowed. -/
  | wrongValue (found : Found) (expected : String)
  /-- An array of the wrong length. -/
  | wrongLength (n : Nat) (expected : String)
  /-- A name that is none of the alternatives. -/
  | unknownVariant (name : Text) (known : List Text)
  /-- A name that occurs twice. -/
  | duplicateField (name : Text)
  /-- A name that must occur. -/
  | missingField (name : Text)
  deriving Repr, DecidableEq

/-- How a found value is described. -/
def Found.describe : Found → Text
  | .null => "null"
  | .bool true => "boolean `true`"
  | .bool false => "boolean `false`"
  | .number (.float bits) => "floating point `" ++ floatText bits ++ ['`']
  | .number n => "integer `" ++ n.text ++ ['`']
  | .str t => "string " ++ Text.quote t
  | .sequence => "sequence"
  | .map => "map"

/-- The alternatives to choose from, as a message lists them. -/
def describeKnown (known : List Text) : Text :=
  let quoted := known.map (fun t => '`' :: t ++ ['`'])
  match quoted with
  | [] => "there are no variants"
  | [a] => "expected " ++ a
  | [a, b] => "expected " ++ a ++ " or " ++ b
  | all => "expected one of " ++ Text.join ", " all

/-- The sentence that states a cause. -/
def Cause.text : Cause → Text
  | .eofValue => "EOF while parsing a value"
  | .eofString => "EOF while parsing a string"
  | .eofObject => "EOF while parsing an object"
  | .eofList => "EOF while parsing a list"
  | .expectedValue => "expected value"
  | .expectedIdent => "expected ident"
  | .expectedColon => "expected `:`"
  | .expectedCommaOrBrace => "expected `,` or `\x7d`"
  | .expectedCommaOrBracket => "expected `,` or `]`"
  | .keyNotString => "key must be a string"
  | .trailingComma => "trailing comma"
  | .trailingCharacters => "trailing characters"
  | .invalidNumber => "invalid number"
  | .numberOutOfRange => "number out of range"
  | .invalidEscape => "invalid escape"
  | .loneSurrogate => "lone leading surrogate in hex escape"
  | .endOfHexEscape => "unexpected end of hex escape"
  | .controlCharacter => "control character (\\u0000-\\u001F) found while parsing a string"
  | .wrongType found expected =>
    "invalid type: " ++ found.describe ++ ", expected " ++ expected.toList
  | .wrongValue found expected =>
    "invalid value: " ++ found.describe ++ ", expected " ++ expected.toList
  | .wrongLength n expected =>
    "invalid length " ++ Decimal.digits n ++ ", expected " ++ expected.toList
  | .unknownVariant name known =>
    "unknown variant `" ++ name ++ "`, " ++ describeKnown known
  | .duplicateField name => "duplicate field `" ++ name ++ ['`']
  | .missingField name => "missing field `" ++ name ++ ['`']

/-! ## §2. Positions. -/

/-- A fault while reading: its cause, what was unread, and how many of the bytes unread
belong to the position nevertheless. -/
structure Fault where
  /-- The cause. -/
  cause : Cause
  /-- What was unread. -/
  rest : Text
  /-- How many bytes of it count as consumed. -/
  beyond : Nat
  deriving Repr, DecidableEq

/-- A fault noticed behind the last consumed character. -/
def Fault.behind (cause : Cause) (rest : Text) : Fault := ⟨cause, rest, 0⟩

/-- A fault in the next character, which counts with its first byte. -/
def Fault.next (cause : Cause) (rest : Text) : Fault := ⟨cause, rest, 1⟩

/-- A refusal of a JSON text; without a position when the value was not read from a text
of its own. -/
structure Error where
  /-- The cause. -/
  cause : Cause
  /-- The line, from 1 on, and the bytes consumed on it. -/
  position : Option (Nat × Nat)
  deriving Repr, DecidableEq

/-- The bytes behind the last line break of a text. -/
def column (t : Text) : Nat := Text.byteSize (t.reverse.takeWhile (· ≠ '\n'))

/-- The position of a fault in a text. -/
def Fault.locate (f : Fault) (whole : Text) : Nat × Nat :=
  let consumed := whole.take (whole.length - f.rest.length)
  let more := Text.takeBytes f.beyond f.rest
  let passed := consumed ++ more
  let part := min (f.beyond - Text.byteSize more) (Text.byteSize f.rest - Text.byteSize more)
  (1 + passed.count '\n', column passed + part)

/-- The refusal of a text that a fault stands for. -/
def Fault.toError (f : Fault) (whole : Text) : Error := ⟨f.cause, some (f.locate whole)⟩

/-- A refusal as it is shown. -/
def Error.text (e : Error) : Text :=
  match e.position with
  | none => e.cause.text
  | some (line, column) =>
    e.cause.text ++ " at line " ++ Decimal.digits line ++ " column " ++ Decimal.digits column

end ScriptWeave.Json
