/-
  ScriptWeave.Program.Token
  ─────────────────────────
  **THE TOKENS OF A SCRIPT.**

  A script is read token by token: words, numbers, strings, templates,
  regular expressions and marks.  White space and comments are dropped; a
  token remembers only whether it starts a line, because the end of a line
  can end a statement.

  A slash divides or starts a regular expression, and a closing brace ends a
  block or an inserted expression of a template.  Which of them it is only
  the grammar knows, so a token also remembers where it starts and can be
  read again as the other.
-/
import ScriptWeave.Program.Literal
import ScriptWeave.Program.Word

namespace ScriptWeave.Program

/-! ## §1. Tokens. -/

/-- Which piece of a template a token is. -/
inductive Piece where
  /-- The whole template. -/
  | whole
  /-- The piece before the first inserted expression. -/
  | head
  /-- A piece between inserted expressions. -/
  | middle
  /-- The piece behind the last inserted expression. -/
  | tail
  deriving Repr, DecidableEq

/-- A token. -/
inductive Token where
  /-- A name or a word of the language. -/
  | word (t : Text)
  /-- A name behind a hash sign. -/
  | privateName (t : Text)
  /-- A number, what strict code says to it, and whether it has a value. -/
  | number (form : NumberForm) (outdated : Option Diagnostic) (complete : Bool)
  /-- A string, and what strict code says to it. -/
  | string (value : Text) (outdated : Option Diagnostic)
  /-- A piece of a template, and whether its escapes are escapes. -/
  | template (piece : Piece) (valid : Bool)
  /-- A regular expression. -/
  | pattern
  /-- An operator or a mark of punctuation. -/
  | mark (t : Text)
  /-- Something that cannot be read. -/
  | unreadable
  /-- The end of the script. -/
  | finish
  deriving Repr, DecidableEq

/-- How a message calls a token. -/
def Token.name : Token → Text
  | .word t => wordName t
  | .privateName _ => "#identifier"
  | .number form _ _ => form.name
  | .string _ _ => "string"
  | .template .whole _ => "template"
  | .template .head _ => "$\x7b"
  | .template .middle _ => "$\x7bexpr\x7d"
  | .template .tail _ => "\x7d"
  | .pattern => "/regexp/"
  | .mark t => t
  | .unreadable => "Unknown"
  | .finish => "EOF"

/-- The name of a member that a token is, and that every script could use. -/
def Token.memberName? : Token → Option Text
  | .word t => some t
  | .string t _ => some t
  | _ => none

/-- The name behind a hash sign that a token is. -/
def Token.hiddenName? : Token → Option Text
  | .privateName t => some t
  | _ => none

/-- A token where it stands in a script. -/
structure Lexeme where
  /-- The token. -/
  token : Token
  /-- Whether a line ends between it and its predecessor. -/
  newLine : Bool
  /-- The script from the token on. -/
  start : Text
  /-- The script behind the token. -/
  rest : Text
  deriving Repr, DecidableEq

/-! ## §2. Words and marks. -/

/-- A name that was read. -/
structure NameRead where
  /-- The name. -/
  name : Text
  /-- What follows it. -/
  rest : Text
  /-- Whether all its characters are characters of names. -/
  valid : Bool
  deriving Repr, DecidableEq

/-- Reads a name from its first or any further character on.  `skip` characters belong to the
code point before. -/
def readName : (skip : Nat) → Text → NameRead
  | _, [] => ⟨[], [], true⟩
  | skip + 1, _ :: t => readName skip t
  | 0, '\\' :: 'u' :: t =>
    let e := readCodePoint t
    if e.valid && e.value.all isNamePart then
      let r := readName e.size ('u' :: t)
      { r with name := e.value ++ r.name }
    else ⟨[], t, false⟩
  | 0, '\\' :: t => ⟨[], t, false⟩
  | 0, c :: t =>
    if isNamePart c then
      let r := readName 0 t
      { r with name := c :: r.name }
    else ⟨[], c :: t, true⟩

/-- The word with a name, if that is one. -/
def NameRead.word (r : NameRead) : Token × Text × List Diagnostic :=
  if r.valid && (r.name.head?.map isNameStart).getD false then (.word r.name, r.rest, [])
  else (.unreadable, r.rest, [.badUnicodeEscape])

/-- The marks, longer ones before those they start with. -/
def marks : List Text :=
  List.map String.toList
    [">>>=", "...", "===", "!==", "**=", "<<=", ">>=", ">>>", "&&=", "||=", "??=",
      "=>", "==", "!=", "<=", ">=", "&&", "||", "??", "?.", "++", "--", "+=", "-=", "*=", "/=",
      "%=", "&=", "|=", "^=", "<<", ">>"]
    ++ List.map String.toList
    ["**", "\x7b", "\x7d", "(", ")", "[", "]", ";", ",", ".", "=", "<", ">", "+", "-", "*", "/",
      "%", "&", "|", "^", "!", "~", "?", ":", "@"]

/-- The longest mark that a text starts with, and what follows it.  A question mark before a
fraction is a mark of its own. -/
def readMark (t : Text) : Option (Text × Text) :=
  match t with
  | '?' :: '.' :: c :: u =>
    if c.isDigit then some (['?'], '.' :: c :: u) else some (['?', '.'], c :: u)
  | _ => marks.findSome? (fun m => (Text.dropStart? m t).map (fun rest => (m, rest)))

/-! ## §3. The token that comes next. -/

/-- The token that a text starts with, what follows it, and what is wrong with it. -/
def readToken (t : Text) : Token × Text × List Diagnostic :=
  match t with
  | [] => (.finish, [], [])
  | '\\' :: _ => (readName 0 t).word
  | '#' :: c :: u =>
    if isNameStart c then
      let r := readName 0 (c :: u)
      if r.valid then (.privateName r.name, r.rest, [])
      else (.unreadable, r.rest, [.badUnicodeEscape])
    else (.unreadable, u, [.badCharacter c])
  | ['#'] => (.unreadable, [], [.unexpectedEnd])
  | '\x60' :: u =>
    match readTemplate 0 u with
    | some r => (.template (if r.last then .whole else .head) r.valid, r.rest, [])
    | none => (.unreadable, [], [.unterminatedString])
  | c :: u =>
    if isNameStart c then (readName 0 t).word
    else if c.isDigit then
      let n := readNumber t
      if n.readable then (.number n.form (outdatedNumber? n.form t) n.complete, n.rest, n.faults)
      else (.unreadable, n.rest, n.faults)
    else if c == '.' && (u.head?.map Char.isDigit).getD false then
      let n := readFraction [] u
      if n.readable then (.number n.form none n.complete, n.rest, n.faults)
      else (.unreadable, n.rest, n.faults)
    else if c = '"' || c = '\x27' then
      match readString c 0 u with
      | some s => (.string s.value s.outdated, s.rest, s.faults)
      | none => (.unreadable, [], [.unterminatedString])
    else
      match readMark t with
      | some (m, rest) => (.mark m, rest, [])
      | none => (.unreadable, u, [.badCharacter c])

/-- What stands between two tokens at some place. -/
inductive Gap where
  /-- White space. -/
  | blank
  /-- A comment up to the end of the line. -/
  | line
  /-- A comment up to its closing mark. -/
  | comment
  deriving Repr, DecidableEq

/-- What follows the white space and the comments that a text starts with, and whether a line
ends in them.  Without an answer, a comment does not end. -/
def skipGap : Gap → (newLine : Bool) → Text → Option (Bool × Text)
  | .comment, _, [] => none
  | _, newLine, [] => some (newLine, [])
  | .blank, newLine, '/' :: '/' :: t => skipGap .line newLine t
  | .blank, newLine, '/' :: '*' :: t => skipGap .comment newLine t
  | .blank, newLine, c :: t =>
    if isLineBreak c then skipGap .blank true t
    else if isSpace c then skipGap .blank newLine t
    else some (newLine, c :: t)
  | .line, newLine, c :: t =>
    if isLineBreak c then skipGap .blank true t else skipGap .line newLine t
  | .comment, newLine, '*' :: '/' :: t => skipGap .blank newLine t
  | .comment, newLine, c :: t => skipGap .comment (newLine || isLineBreak c) t

/-- The token that comes next in a text, and what is wrong up to its end. -/
def nextLexeme (t : Text) : Lexeme × List Diagnostic :=
  match skipGap .blank false t with
  | none => (⟨.finish, false, [], []⟩, [.unterminatedComment])
  | some (newLine, u) =>
    let r := readToken u
    (⟨r.1, newLine, u, r.2.1⟩, r.2.2)

/-- The first token of a script; a first line that starts with `#!` is passed. -/
def firstLexeme (source : Text) : Lexeme × List Diagnostic :=
  match source with
  | '#' :: '!' :: t => nextLexeme (t.dropWhile (fun c => !isLineBreak c))
  | t => nextLexeme t

/-- The regular expression that starts with the slash of a token, and what is wrong with it. -/
def Lexeme.asPattern (l : Lexeme) : Lexeme × List Diagnostic :=
  match closePattern false l.start.tail with
  | none => ({ l with token := .pattern, rest := [] }, [.unterminatedPattern])
  | some rest =>
    let isFlag (c : Char) : Bool := isNamePart c && c.toNat < 0x80
    ({ l with token := .pattern, rest := rest.dropWhile isFlag },
      flagFaults [] (rest.takeWhile isFlag))

/-- The piece of a template that starts with the closing brace of a token. -/
def Lexeme.asTemplate (l : Lexeme) : Lexeme × List Diagnostic :=
  let t := l.start.tail
  match readTemplate 0 t with
  | some r => ({ l with token := .template (if r.last then .tail else .middle) r.valid,
                        rest := r.rest }, [])
  | none => ({ l with token := .unreadable, rest := [] }, [.unterminatedString])

end ScriptWeave.Program
