/-
  ScriptWeave.Shell.Token
  ───────────────────────
  **THE TOKENS OF A SCRIPT.**

  A script is read line by line, because what a line says is done before the
  next line is looked at.  Whether a word is a keyword depends on where it
  stands, so a reader asks for keywords before it reads a token, and a token
  that was read can be put back.
-/
import ScriptWeave.Shell.Syntax

namespace ScriptWeave.Shell

/-! ## §1. Tokens. -/

/-- The words with a meaning of their own. -/
inductive Keyword where
  /-- Negates a command. -/
  | not
  /-- Begins a choice by shape. -/
  | case
  /-- Begins the body of a loop. -/
  | do
  /-- Ends the body of a loop. -/
  | done
  /-- Begins another test. -/
  | elif
  /-- Begins what is done otherwise. -/
  | else
  /-- Ends a choice by shape. -/
  | esac
  /-- Ends a choice. -/
  | fi
  /-- Begins a loop over words. -/
  | for
  /-- Begins a choice. -/
  | if
  /-- Comes before words or branches. -/
  | in
  /-- Begins what is done if the test succeeds. -/
  | then
  /-- Begins a loop that ends with success. -/
  | until
  /-- Begins a loop that ends with failure. -/
  | while
  /-- Begins a group. -/
  | begin
  /-- Ends a group. -/
  | end
  deriving Repr, DecidableEq

/-- A keyword as it is written. -/
def Keyword.text : Keyword → Text
  | .not => "!"
  | .case => "case"
  | .do => "do"
  | .done => "done"
  | .elif => "elif"
  | .else => "else"
  | .esac => "esac"
  | .fi => "fi"
  | .for => "for"
  | .if => "if"
  | .in => "in"
  | .then => "then"
  | .until => "until"
  | .while => "while"
  | .begin => "\x7b"
  | .end => "\x7d"

/-- All keywords. -/
def Keyword.all : List Keyword :=
  [.not, .case, .do, .done, .elif, .else, .esac, .fi, .for, .if, .in, .then, .until, .while,
    .begin, .end]

/-- The keyword that a text is. -/
def Keyword.of? (t : Text) : Option Keyword := Keyword.all.find? (fun k => k.text == t)

/-- What an arrow asks for. -/
inductive Arrow where
  /-- A file. -/
  | file (kind : RedirectKind)
  /-- Another stream. -/
  | same
  /-- A document in the script; `strip` says that tabs at the start of lines do not count. -/
  | document (strip : Bool)
  deriving Repr, DecidableEq

/-- A token. -/
inductive Token where
  /-- The end of the script. -/
  | finish
  /-- The end of a line. -/
  | newline
  /-- The sign `;`. -/
  | semicolon
  /-- The sign `&`. -/
  | ampersand
  /-- The sign `&&`. -/
  | andAnd
  /-- The sign `||`. -/
  | orOr
  /-- The sign `|`. -/
  | bar
  /-- The sign `(`. -/
  | openParen
  /-- The sign `)`. -/
  | closeParen
  /-- The sign `;;`. -/
  | doubleSemicolon
  /-- A redirection of a stream. -/
  | redirect (stream : Nat) (arrow : Arrow)
  /-- A word; `quoted` says that a part of it is quoted. -/
  | word (w : Word) (quoted : Bool)
  /-- A keyword. -/
  | keyword (k : Keyword)

/-- A token as a message names it. -/
def Token.shown : Token → Text
  | .finish => "end of file"
  | .newline => "newline"
  | .semicolon => "\";\""
  | .ampersand => "\"&\""
  | .andAnd => "\"&&\""
  | .orOr => "\"||\""
  | .bar => "\"|\""
  | .openParen => "\"(\""
  | .closeParen => "\")\""
  | .doubleSemicolon => "\";;\""
  | .redirect _ _ => "redirection"
  | .word _ _ => "word"
  | .keyword k => '"' :: k.text ++ ['"']

/-- Whether a token is a certain keyword. -/
def Token.isKeyword (t : Token) (k : Keyword) : Bool :=
  match t with
  | .keyword l => k == l
  | _ => false

/-- Whether a list of commands ends before a token. -/
def Token.endsList : Token → Bool
  | .finish => true
  | .closeParen => true
  | .doubleSemicolon => true
  | .keyword k => [Keyword.do, .done, .elif, .else, .esac, .fi, .then, .end].contains k
  | _ => false

/-! ## §2. Reading characters. -/

/-- Why a script cannot be read on. -/
inductive SyntaxCause where
  /-- A token stands where it cannot; another may be expected. -/
  | unexpected (found : Text) (expected : Option Text)
  /-- A quote does not end. -/
  | openQuote
  /-- A backquote does not end. -/
  | openBackquote
  /-- A parameter in braces does not end. -/
  | openBrace
  /-- An arithmetic expression does not end. -/
  | openArithmetic
  /-- A loop has no name for its words. -/
  | loopName
  /-- A function cannot have this name. -/
  | functionName
  deriving Repr, DecidableEq

/-- The sentence that states a cause. -/
def SyntaxCause.text : SyntaxCause → Text
  | .unexpected found none => found ++ " unexpected"
  | .unexpected found (some e) => found ++ " unexpected (expecting " ++ e ++ ")"
  | .openQuote => "Unterminated quoted string"
  | .openBackquote => "EOF in backquote substitution"
  | .openBrace => "Missing \x27\x7d\x27"
  | .openArithmetic => "Missing \x27))\x27"
  | .loopName => "Bad for loop variable"
  | .functionName => "Bad function name"

/-- Why and in which line a script cannot be read on. -/
structure SyntaxProblem where
  /-- The line. -/
  line : Nat
  /-- The cause. -/
  cause : SyntaxCause
  deriving Repr, DecidableEq

/-- A document that a redirection announced and whose lines are still to come. -/
structure Announced where
  /-- Its number. -/
  number : Nat
  /-- The line behind its last. -/
  delimiter : Text
  /-- Whether tabs at the start of lines do not count. -/
  strip : Bool
  /-- Whether it is taken as it is. -/
  literal : Bool
  deriving Repr, DecidableEq

/-- A script that is being read. -/
structure Reader where
  /-- What is still to be read. -/
  rest : Text
  /-- The number of the line. -/
  line : Nat
  /-- The token read last. -/
  last : Token
  /-- Whether that token was put back. -/
  putBack : Bool
  /-- Whether line breaks before the next token are passed. -/
  passLines : Bool
  /-- Whether the next token may be a keyword. -/
  keywords : Bool
  /-- The documents announced in this line. -/
  announced : List Announced
  /-- The documents so far, with their numbers. -/
  documents : List (Nat × Word)
  /-- The number of the next document. -/
  nextDocument : Nat

/-- A reader of a script. -/
def Reader.start (script : Text) (line nextDocument : Nat) : Reader where
  rest := script
  line := line
  last := .newline
  putBack := false
  passLines := false
  keywords := false
  announced := []
  documents := []
  nextDocument := nextDocument

/-- A step of reading. -/
abbrev Parse := StateT Reader (Except SyntaxProblem)

/-- Fails. -/
def refuse {α : Type} (cause : SyntaxCause) : Parse α := do
  throw ⟨(← get).line, cause⟩

/-- Fails because of the token read last. -/
def refuseToken {α : Type} (expected : Option Token) : Parse α := do
  refuse (.unexpected (← get).last.shown (expected.map Token.shown))

/-- Puts the token read last back. -/
def putBack : Parse Unit := modify (fun r => { r with putBack := true })

/-- Says what the next token may be. -/
def expecting (passLines keywords : Bool) : Parse Unit :=
  modify (fun r => { r with passLines := passLines, keywords := keywords })

/-- A text behind the escaped line breaks at its start, and their number. -/
def dropJoins : Text → Text × Nat
  | '\\' :: '\n' :: t => ((dropJoins t).1, (dropJoins t).2 + 1)
  | t => (t, 0)

/-- Passes escaped line breaks. -/
def joinLines : Parse Unit :=
  modify (fun r =>
    match r.rest with
    | '\\' :: '\n' :: t =>
      { r with rest := (dropJoins t).1, line := r.line + (dropJoins t).2 + 1 }
    | _ => r)

/-- The next character, behind escaped line breaks. -/
def peekChar : Parse (Option Char) := do
  joinLines
  return (← get).rest.head?

/-- Passes a character. -/
def pass : Parse Unit :=
  modify (fun r =>
    match r.rest with
    | [] => r
    | c :: t => { r with rest := t, line := if c = '\n' then r.line + 1 else r.line })

/-- Passes the next character if it is the given one, and says whether it did. -/
def passIf (c : Char) : Parse Bool := do
  if (← peekChar) = some c then
    pass
    return true
  else return false

/-- Whether a name can start with a character. -/
def startsName (c : Char) : Bool := c.isAlpha || c == '_'

/-- Whether a character can stand in a name. -/
def inName (c : Char) : Bool := c.isAlphanum || c == '_'

/-- Whether a text is a name. -/
def isName (t : Text) : Bool := (t.head?.map startsName).getD false && t.all inName

/-- Whether a character is the name of a special parameter. -/
def isSpecial (c : Char) : Bool := c.isDigit || "*@#?$!-".toList.contains c

/-- Passes the characters with a property and gives them back. -/
def passWhile (p : Char → Bool) : (fuel : Nat) → Parse Text
  | 0 => return []
  | fuel + 1 => do
    match ← peekChar with
    | some c =>
      if p c then
        pass
        return c :: (← passWhile p fuel)
      else return []
    | none => return []

/-- Passes a name. -/
def passName : Parse Text := do passWhile inName ((← get).rest.length + 1)

/-- Whether a character ends a word. -/
def endsWord (c : Char) : Bool := " \t\n&|;()<>".toList.contains c

/-- Passes blanks and a comment. -/
def passBlanks : Parse Unit := do
  let n := (← get).rest.length + 1
  let _ ← passWhile (fun c => c == ' ' || c == '\t') n
  if (← peekChar) = some '#' then
    modify (fun r => { r with rest := r.rest.dropWhile (· != '\n') })

/-- The rest of a text that single quotes enclose. -/
def passSingle : Parse Text := do
  let r ← get
  let inside := r.rest.takeWhile (· != '\x27')
  let line := r.line + inside.count '\n'
  match r.rest.dropWhile (· != '\x27') with
  | [] => throw ⟨line, .openQuote⟩
  | _ :: t =>
    set { r with rest := t, line := line }
    return inside

/-- The raw text that backquotes enclose, without the backslashes that belong to the
backquotes; `quoted` says that double quotes are around. -/
def dropBackslashes (quoted : Bool) : Text → Text
  | '\\' :: c :: t =>
    -- an escaped line break joins lines
    if c = '\n' then dropBackslashes quoted t
    else if c = '\\' || c = '\x60' || c = '$' || (quoted && c = '"') then
      c :: dropBackslashes quoted t
    else '\\' :: c :: dropBackslashes quoted t
  | c :: t => c :: dropBackslashes quoted t
  | [] => []

/-- The text before the next backquote without a backslash before it, and the text after
it. -/
def cutBackquote : Text → Option (Text × Text)
  | [] => none
  | '\\' :: c :: t => (cutBackquote t).map (fun r => ('\\' :: c :: r.1, r.2))
  | c :: t =>
    if c = '\x60' then some ([], t) else (cutBackquote t).map (fun r => (c :: r.1, r.2))

/-- The lines of a document before its delimiter, and what follows it. -/
def cutDocument (a : Announced) : (fuel : Nat) → Text → Text × Text
  | 0, t => ([], t)
  | _, [] => ([], [])
  | fuel + 1, t =>
    let whole := t.takeWhile (· != '\n')
    let rest := t.dropWhile (· != '\n')
    let line := if a.strip then whole.dropWhile (· == '\t') else whole
    -- the delimiter has a line of its own
    if line = a.delimiter then ([], rest.tail)
    else
      let (body, after) := cutDocument a fuel rest.tail
      (line ++ (rest.take 1) ++ body, after)

end ScriptWeave.Shell
