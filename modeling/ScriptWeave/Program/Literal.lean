/-
  ScriptWeave.Program.Literal
  ───────────────────────────
  **NUMBERS, STRINGS, TEMPLATES AND REGULAR EXPRESSIONS.**

  Each reader starts behind the first character of a literal and tells what
  it is and what follows it.  A fault in a literal does not always end the
  script: a number without the digits of its exponent and a string with a
  wrong backslash still are literals.

  Strict code refuses numbers and escapes in base 8 that start with a zero
  and decimal numbers with a leading zero; a literal remembers that.
-/
import ScriptWeave.Program.Diagnostic
import ScriptWeave.Text.NameChar

namespace ScriptWeave.Program

/-! ## §1. Characters. -/

/-- Whether a character ends a line. -/
def isLineBreak (c : Char) : Bool := c == '\n' || c == '\r' || c == '\u2028' || c == '\u2029'

/-- Whether a character is white space within a line. -/
def isSpace (c : Char) : Bool :=
  c == ' ' || c == '\t' || c == '\x0b' || c == '\x0c' || c == '\u0085' || c == '\u00a0'
    || c == '\ufeff' || c == '\u1680' || ('\u2000' ≤ c && c ≤ '\u200b') || c == '\u202f'
    || c == '\u205f' || c == '\u3000'

/-- Whether a character is a digit in base 2. -/
def isBinaryDigit (c : Char) : Bool := c == '0' || c == '1'

/-- Whether a character is a digit in base 8. -/
def isOctalDigit (c : Char) : Bool := '0' ≤ c && c ≤ '7'

/-- Whether a character is a digit in base 16. -/
def isHexDigit (c : Char) : Bool :=
  c.isDigit || ('a' ≤ c && c ≤ 'f') || ('A' ≤ c && c ≤ 'F')

/-- The value of a digit in base 16. -/
def hexValue (c : Char) : Nat :=
  if c.isDigit then c.toNat - 0x30
  else if 'a' ≤ c && c ≤ 'f' then c.toNat - 0x57
  else c.toNat - 0x37

/-- The number that digits in base 16 stand for. -/
def hexNumber (digits : Text) : Nat := digits.foldl (fun n c => 16 * n + hexValue c) 0

/-! ## §2. Numbers. -/

/-- How a number is written. -/
inductive NumberForm where
  /-- In base 10 without fraction and exponent. -/
  | decimal
  /-- With a fraction or an exponent. -/
  | float
  /-- In base 2. -/
  | binary
  /-- In base 8. -/
  | octal
  /-- In base 16. -/
  | hex
  deriving Repr, DecidableEq

/-- How a message calls a number. -/
def NumberForm.name : NumberForm → Text
  | .decimal => "decimal"
  | .float => "float"
  | .binary => "binary"
  | .octal => "octal"
  | .hex => "hex"

/-- A number that was read. -/
structure NumberRead where
  /-- How it is written. -/
  form : NumberForm
  /-- What follows it. -/
  rest : Text
  /-- What is wrong with it. -/
  faults : List Diagnostic
  /-- Whether it is a number nevertheless. -/
  readable : Bool
  /-- Whether its exponent has digits, if it has an exponent. -/
  complete : Bool
  deriving Repr, DecidableEq

/-- What is wrong where a digit is due. -/
def missingDigit : Text → Diagnostic
  | [] => .unexpectedEnd
  | c :: _ => .badCharacter c

/-- Passes digits and single low lines between them. -/
def dropDigits (isDigit : Char → Bool) : Text → Text × List Diagnostic
  | [] => ([], [])
  -- a low line needs a digit on both sides
  | ['_'] => ([], [.unexpectedEnd])
  | '_' :: c :: t => if isDigit c then dropDigits isDigit t else (c :: t, [.badCharacter c])
  | c :: t => if isDigit c then dropDigits isDigit t else (c :: t, [])

/-- Ends a number: no digit and no name can follow it at once. -/
def NumberRead.close (n : NumberRead) : NumberRead :=
  match n.rest with
  | [] => n
  | c :: t =>
    if c.isDigit || isNameStart c then
      { n with rest := t.dropWhile isNameStart, faults := n.faults ++ [.badNumber],
               readable := false }
    else n

/-- Reads an exponent behind its letter. -/
def readExponent (faults : List Diagnostic) (t : Text) : NumberRead :=
  let t := match t with
    | '+' :: u => u
    | '-' :: u => u
    | u => u
  match t with
  | c :: u =>
    if c.isDigit then
      let r := dropDigits Char.isDigit u
      NumberRead.close ⟨.float, r.1, faults ++ r.2, true, true⟩
    else NumberRead.close ⟨.float, c :: u, faults ++ [.badCharacter c], true, false⟩
  | [] => ⟨.float, [], faults ++ [.unexpectedEnd], true, false⟩

/-- Reads what may follow the digits before a point. -/
def readFraction (faults : List Diagnostic) (t : Text) : NumberRead :=
  let r := match t with
    | c :: u => if c.isDigit then dropDigits Char.isDigit u else (c :: u, [])
    | [] => ([], [])
  match r.1 with
  | 'e' :: u => readExponent (faults ++ r.2) u
  | 'E' :: u => readExponent (faults ++ r.2) u
  | u => NumberRead.close ⟨.float, u, faults ++ r.2, true, true⟩

/-- Reads a number in another base than 10 behind the letter of the base. -/
def readBased (form : NumberForm) (isDigit : Char → Bool) (t : Text) : NumberRead :=
  match t with
  | c :: u =>
    if isDigit c then
      let r := dropDigits isDigit u
      if r.2.isEmpty then
        let rest := match r.1 with
          | 'n' :: v => v
          | v => v
        NumberRead.close ⟨form, rest, [], true, true⟩
      else ⟨form, r.1, r.2, false, true⟩
    else ⟨form, t, [missingDigit t], false, true⟩
  | [] => ⟨form, [], [missingDigit []], false, true⟩

/-- Reads a number with a leading zero behind that zero. -/
def readLeadingZero (t : Text) : NumberRead :=
  let digits := t.takeWhile Char.isDigit
  let rest := t.dropWhile Char.isDigit
  -- an eight or a nine makes it decimal, and only then a fraction can follow
  if digits.all isOctalDigit then NumberRead.close ⟨.octal, rest, [], true, true⟩
  else
    match rest with
    | '.' :: u => readFraction [] u
    | 'e' :: u => readExponent [] u
    | u => NumberRead.close ⟨.decimal, u, [], true, true⟩

/-- Reads a number behind its first digits. -/
def readDecimal (faults : List Diagnostic) (t : Text) : NumberRead :=
  match t with
  | '.' :: u => readFraction faults u
  | 'n' :: u => NumberRead.close ⟨.decimal, u, faults, true, true⟩
  | 'e' :: u => readExponent faults u
  | 'E' :: u => readExponent faults u
  | u => NumberRead.close ⟨.decimal, u, faults, true, true⟩

/-- Reads a number that starts with a digit. -/
def readNumber : Text → NumberRead
  | '0' :: 'b' :: t => readBased .binary isBinaryDigit t
  | '0' :: 'B' :: t => readBased .binary isBinaryDigit t
  | '0' :: 'o' :: t => readBased .octal isOctalDigit t
  | '0' :: 'O' :: t => readBased .octal isOctalDigit t
  | '0' :: 'x' :: t => readBased .hex isHexDigit t
  | '0' :: 'X' :: t => readBased .hex isHexDigit t
  | '0' :: c :: t => if c.isDigit then readLeadingZero (c :: t) else readDecimal [] (c :: t)
  | t =>
    let r := dropDigits Char.isDigit t
    readDecimal r.2 r.1

/-- What strict code says to a number that starts with `t`. -/
def outdatedNumber? (form : NumberForm) (t : Text) : Option Diagnostic :=
  match t with
  | '0' :: c :: _ =>
    if !c.isDigit then none
    else if form = .octal then some .outdatedOctal
    else some .outdatedDecimal
  | _ => none

/-! ## §3. Escapes. -/

/-- What a backslash and what follows it stand for. -/
structure EscapeRead where
  /-- The characters it stands for. -/
  value : Text
  /-- How many characters behind the backslash belong to it. -/
  size : Nat
  /-- Whether it is an escape. -/
  valid : Bool
  deriving Repr, DecidableEq

/-- The character with a code point; half a character counts as the replacement character. -/
def codeChar (n : Nat) : Char := if n.isValidChar then Char.ofNat n else '\ufffd'

/-- Reads a code point behind `\u`. -/
def readCodePoint (t : Text) : EscapeRead :=
  match t with
  | '{' :: u =>
    let digits := u.takeWhile isHexDigit
    let size := digits.length
    match u.dropWhile isHexDigit with
    | '}' :: _ =>
      ⟨[codeChar (hexNumber digits)], size + 3, size != 0 && hexNumber digits ≤ 0x10ffff⟩
    | _ => ⟨[], size + 2, false⟩
  | u =>
    let digits := (u.take 4).takeWhile isHexDigit
    ⟨[codeChar (hexNumber digits)], digits.length + 1, digits.length == 4⟩

/-- Reads what follows a backslash in a string. -/
def readEscape (t : Text) : EscapeRead :=
  match t with
  | [] => ⟨[], 0, true⟩
  -- an escaped line break stands for nothing
  | '\r' :: '\n' :: _ => ⟨[], 2, true⟩
  | 'x' :: u =>
    let digits := (u.take 2).takeWhile isHexDigit
    ⟨[codeChar (hexNumber digits)], digits.length + 1, digits.length == 2⟩
  | 'u' :: u => readCodePoint u
  | 'b' :: _ => ⟨['\x08'], 1, true⟩
  | 'f' :: _ => ⟨['\x0c'], 1, true⟩
  | 'n' :: _ => ⟨['\n'], 1, true⟩
  | 'r' :: _ => ⟨['\r'], 1, true⟩
  | 't' :: _ => ⟨['\t'], 1, true⟩
  | 'v' :: _ => ⟨['\x0b'], 1, true⟩
  | c :: _ =>
    if isLineBreak c then ⟨[], 1, true⟩
    else if isOctalDigit c then
      -- three digits only while they stay below 256
      let digits := (t.take (if c ≤ '3' then 3 else 2)).takeWhile isOctalDigit
      ⟨[codeChar (digits.foldl (fun n d => 8 * n + hexValue d) 0)], digits.length, true⟩
    else ⟨[c], 1, true⟩

/-- What strict code says to an escape. -/
def outdatedEscape? : Text → Option Diagnostic
  | '0' :: c :: _ => if c.isDigit then some .outdatedOctal else none
  | c :: _ =>
    if '1' ≤ c && c ≤ '7' then some .outdatedOctal
    else if c == '8' || c == '9' then some .badEscape
    else none
  | [] => none

/-! ## §4. Strings, templates and regular expressions. -/

/-- A string that was read. -/
structure StringRead where
  /-- The characters it stands for. -/
  value : Text
  /-- What follows it. -/
  rest : Text
  /-- What is wrong with its escapes. -/
  faults : List Diagnostic
  /-- What strict code says to it. -/
  outdated : Option Diagnostic
  deriving Repr, DecidableEq

/-- Reads a string behind its opening quote, if it ends on its line.  `skip` characters belong
to the escape before. -/
def readString (quote : Char) : (skip : Nat) → Text → Option StringRead
  | _, [] => none
  | skip + 1, _ :: t => readString quote skip t
  | 0, '\\' :: t =>
    let e := readEscape t
    (readString quote e.size t).map (fun s =>
      { s with value := e.value ++ s.value,
               faults := if e.valid then s.faults else .badEscape :: s.faults,
               outdated := (outdatedEscape? t).or s.outdated })
  | 0, c :: t =>
    if c = quote then some ⟨[], t, [], none⟩
    else if c = '\n' || c = '\r' then none
    else (readString quote 0 t).map (fun s => { s with value := c :: s.value })

/-- A piece of a template that was read. -/
structure TemplateRead where
  /-- What follows it. -/
  rest : Text
  /-- Whether the template ends with it. -/
  last : Bool
  /-- Whether all its escapes are escapes. -/
  valid : Bool
  deriving Repr, DecidableEq

/-- Reads a piece of a template, up to the closing quote or the next inserted expression.
`skip` characters belong to the escape before. -/
def readTemplate : (skip : Nat) → Text → Option TemplateRead
  | _, [] => none
  | skip + 1, _ :: t => readTemplate skip t
  | 0, '\x60' :: t => some ⟨t, true, true⟩
  | 0, '$' :: '{' :: t => some ⟨t, false, true⟩
  | 0, '\\' :: t =>
    let e := readEscape t
    -- templates are always strict
    let ok := e.valid && (outdatedEscape? t).isNone
    (readTemplate e.size t).map (fun s => { s with valid := s.valid && ok })
  | 0, _ :: t => readTemplate 0 t

/-- What follows the slash that closes a regular expression.  `inClass` says whether a
character class is open. -/
def closePattern (inClass : Bool) : Text → Option Text
  | [] => none
  | [c] => if c = '/' && !inClass then some [] else none
  | '\\' :: c :: t => if isLineBreak c then none else closePattern inClass t
  | c :: t =>
    if isLineBreak c then none
    else if c = '[' then closePattern true t
    else if c = ']' then closePattern false t
    else if c = '/' && !inClass then some t
    else closePattern inClass t

/-- The flags of regular expressions. -/
def patternFlags : Text := ['d', 'g', 'i', 'm', 's', 'u', 'v', 'y']

/-- What is wrong with the flags of a regular expression.  `seen` holds those before. -/
def flagFaults (seen : Text) : Text → List Diagnostic
  | [] => []
  | c :: t =>
    if !patternFlags.contains c then .unknownFlag c :: flagFaults seen t
    else if seen.contains c then .repeatedFlag c :: flagFaults seen t
    else flagFaults (c :: seen) t

end ScriptWeave.Program
