/-
  ScriptWeave.Pattern.Error
  ─────────────────────────
  **WHY A PATTERN IS REFUSED.**

  A refusal names its cause and the stretch of the pattern it lies in.  It is
  shown below the pattern, with carets under the stretch, counted in
  characters; a stretch of no length gets one caret.  A pattern of several
  lines is shown between rules, with numbered lines.  A pattern that is well
  written may still ask for too much room.
-/
import ScriptWeave.Text.Basic

namespace ScriptWeave.Pattern

/-! ## §1. Causes. -/

/-- Why a pattern is refused. -/
inductive Cause where
  /-- A group has no closing parenthesis. -/
  | groupUnclosed
  /-- A closing parenthesis has no group. -/
  | groupUnopened
  /-- A class has no closing bracket. -/
  | classUnclosed
  /-- A repetition follows nothing that could be repeated. -/
  | repetitionMissing
  /-- A backslash before a character that means nothing there. -/
  | escapeUnrecognized
  /-- A backslash or a code point with nothing after it. -/
  | escapeUnfinished
  /-- A look-around group. -/
  | lookAround
  /-- A backslash before a digit. -/
  | backreference
  /-- A range of a class that runs backwards. -/
  | rangeBackwards
  /-- A range of a class with an end that is no character. -/
  | rangeEnd
  /-- An anchor in a class. -/
  | classEscape
  /-- A counted repetition that runs backwards. -/
  | countBackwards
  /-- A counted repetition without its closing brace. -/
  | countUnclosed
  /-- A counted repetition without a number. -/
  | countEmpty
  /-- A number that is too large. -/
  | decimalInvalid
  /-- The name of a word boundary without its closing brace, or no name. -/
  | edgeUnclosed
  /-- The name of no word boundary. -/
  | edgeUnrecognized
  /-- A brace behind a word boundary and nothing after it. -/
  | edgeUnfinished
  /-- A code point without digits. -/
  | hexEmpty
  /-- A code point that is no character. -/
  | hexInvalid
  /-- A code point with a digit that is not hexadecimal. -/
  | hexDigit
  /-- An unknown flag. -/
  | flagUnrecognized
  /-- Flags that the end of the pattern cuts off. -/
  | flagUnfinished
  /-- A flag given twice. -/
  | flagDuplicate
  /-- Two negations among the flags of one group. -/
  | flagNegationRepeated
  /-- A negation with no flag after it. -/
  | flagNegationDangling
  /-- A group without a name between its angle brackets. -/
  | nameEmpty
  /-- A group name with a character that is not allowed. -/
  | nameInvalid
  /-- A group name without its closing angle bracket. -/
  | nameUnfinished
  /-- A group name given twice. -/
  | nameDuplicate
  /-- A property named by a backslash. -/
  | propertyName
  /-- A property that does not exist. -/
  | propertyUnknown
  /-- A value that a property does not have. -/
  | propertyValueUnknown
  /-- A part that is limited to ASCII, and could match half a character. -/
  | splitsCharacter
  /-- A property or a character beyond ASCII in a part that is limited to ASCII. -/
  | beyondAscii
  /-- Groups, classes and repetitions too deep in one another. -/
  | tooDeep
  deriving Repr, DecidableEq

/-- How deep the parts of a pattern may lie in one another. -/
def depthLimit : Nat := 250

/-- How many bytes the automaton of a pattern may take. -/
def sizeLimit : Nat := 10 * 1024 * 1024

/-- The sentence that states a cause. -/
def Cause.message : Cause → String
  | .groupUnclosed => "unclosed group"
  | .groupUnopened => "unopened group"
  | .classUnclosed => "unclosed character class"
  | .repetitionMissing => "repetition operator missing expression"
  | .escapeUnrecognized => "unrecognized escape sequence"
  | .escapeUnfinished => "incomplete escape sequence, reached end of pattern prematurely"
  | .lookAround => "look-around, including look-ahead and look-behind, is not supported"
  | .backreference => "backreferences are not supported"
  | .rangeBackwards => "invalid character class range, the start must be <= the end"
  | .rangeEnd => "invalid range boundary, must be a literal"
  | .classEscape => "invalid escape sequence found in character class"
  | .countBackwards => "invalid repetition count range, the start must be <= the end"
  | .countUnclosed => "unclosed counted repetition"
  | .countEmpty => "repetition quantifier expects a valid decimal"
  | .decimalInvalid => "decimal literal invalid"
  | .edgeUnclosed =>
    "special word boundary assertion is either unclosed or contains an invalid character"
  | .edgeUnrecognized =>
    "unrecognized special word boundary assertion, valid choices are: start, end, start-half or end-half"
  | .edgeUnfinished =>
    "found either the beginning of a special word boundary or a bounded repetition on a \\b with an opening brace, but no closing brace"
  | .hexEmpty => "hexadecimal literal empty"
  | .hexInvalid => "hexadecimal literal is not a Unicode scalar value"
  | .hexDigit => "invalid hexadecimal digit"
  | .flagUnrecognized => "unrecognized flag"
  | .flagUnfinished => "expected flag but got end of regex"
  | .flagDuplicate => "duplicate flag"
  | .flagNegationRepeated => "flag negation operator repeated"
  | .flagNegationDangling => "dangling flag negation operator"
  | .nameEmpty => "empty capture group name"
  | .nameInvalid => "invalid capture group character"
  | .nameUnfinished => "unclosed capture group name"
  | .nameDuplicate => "duplicate capture group name"
  | .propertyName => "invalid Unicode character class"
  | .propertyUnknown => "Unicode property not found"
  | .propertyValueUnknown => "Unicode property value not found"
  | .splitsCharacter => "pattern can match invalid UTF-8"
  | .beyondAscii => "Unicode not allowed here"
  | .tooDeep => s!"exceed the maximum number of nested parentheses/brackets ({depthLimit})"

/-- A stretch of a pattern, by what is unread at its start and behind its end. -/
structure Stretch where
  /-- The pattern from the start of the stretch on. -/
  start : Text
  /-- The pattern behind the stretch. -/
  stop : Text
  deriving Repr, DecidableEq

/-- A fault: its cause and the stretches it concerns. -/
structure Fault where
  /-- The cause. -/
  cause : Cause
  /-- The stretches, in the order of the pattern. -/
  stretches : List Stretch
  deriving Repr, DecidableEq

namespace Fault

/-- A fault in one stretch. -/
def at_ (cause : Cause) (s : Stretch) : Fault := ⟨cause, [s]⟩

/-- A fault in the stretch between two points, given by what is unread there. -/
def between (cause : Cause) (start stop : Text) : Fault := .at_ cause ⟨start, stop⟩

/-- A fault in the first character. -/
def head (cause : Cause) (start : Text) : Fault := .between cause start start.tail

end Fault

/-- A fault in its pattern: the stretches are given by the places of their first character and
of the one behind their last. -/
structure Malformed where
  /-- The pattern. -/
  pattern : Text
  /-- The cause. -/
  cause : Cause
  /-- The stretches, in the order of the pattern. -/
  stretches : List (Nat × Nat)
  deriving Repr, DecidableEq

/-- The fault as a place in its pattern. -/
def Fault.locate (f : Fault) (pattern : Text) : Malformed :=
  ⟨pattern, f.cause,
    f.stretches.map (fun s =>
      (pattern.length - s.start.length, pattern.length - s.stop.length))⟩

/-! ## §2. How a refusal is shown. -/

namespace Malformed

/-- A line without the carriage return that belongs to the line break after it. -/
def dropReturn (line : Text) : Text :=
  if line.getLast? = some '\r' then line.dropLast else line

/-- The lines of a pattern; a line break at the end starts no line. -/
def lines (t : Text) : List Text :=
  let all := Text.splitOn '\n' t
  let last := all.getLast?.getD []
  all.dropLast.map dropReturn ++ (if last.isEmpty then [] else [last])

/-- The line and the column of a character, both from 0 on. -/
def place (t : Text) (at_ : Nat) : Nat × Nat :=
  let before := t.take at_
  (before.count '\n', (before.reverse.takeWhile (· ≠ '\n')).length)

/-- The carets under the stretches of one line, given as columns. -/
def carets : (column : Nat) → List (Nat × Nat) → Text
  | _, [] => []
  | column, (start, stop) :: rest =>
    List.replicate (start - column) ' ' ++ List.replicate (max 1 (stop - start)) '^'
      ++ carets (max column start + max 1 (stop - start)) rest

/-- The stretches that lie in line `n`, as columns. -/
def inLine (e : Malformed) (n : Nat) : List (Nat × Nat) :=
  e.stretches.filterMap (fun (start, stop) =>
    let s := place e.pattern start
    let z := place e.pattern stop
    if s.1 = n ∧ z.1 = n then some (s.2, z.2) else none)

/-- A line of the pattern with its carets below, `margin` columns to the right. -/
def showLine (e : Malformed) (label : Text) (n : Nat) (line : Text) : Text :=
  let under := e.inLine n
  let margin := List.replicate label.length ' '
  label ++ line ++ "\n"
    ++ (if under.isEmpty then [] else margin ++ carets 0 under ++ ['\n'])

/-- The lines of the pattern, the first of them line `n`, each behind its number. -/
def showLines (e : Malformed) (width : Nat) : (n : Nat) → List Text → Text
  | _, [] => []
  | n, line :: rest =>
    let number := (Nat.repr (n + 1)).toList
    e.showLine (List.replicate (width - number.length) ' ' ++ number ++ ": ") n line
      ++ showLines e width (n + 1) rest

/-- The notes on stretches that reach over several lines. -/
def overLines (e : Malformed) : List Text :=
  e.stretches.filterMap (fun (start, stop) =>
    let s := place e.pattern start
    let z := place e.pattern stop
    if s.1 = z.1 then none
    else some s!"on line {s.1 + 1} (column {s.2 + 1}) through line {z.1 + 1} (column {z.2})".toList)

/-- The refusal as it is shown. -/
def message (e : Malformed) : String :=
  let head : Text := "regex parse error:\n"
  let tail : Text := "error: " ++ e.cause.message.toList
  let body : Text :=
    if e.pattern.contains '\n' then
      let rule : Text := List.replicate 79 '~' ++ ['\n']
      let all := lines e.pattern
      let count := all.length + (if e.pattern.getLast? = some '\n' then 1 else 0)
      let notes := e.overLines
      rule ++ e.showLines (Nat.repr count).length 0 all ++ rule
        ++ (if notes.isEmpty then [] else Text.join "\n" notes ++ ['\n'])
    else e.showLine "    " 0 e.pattern
  String.ofList (head ++ body ++ tail)

end Malformed

/-- A refusal. -/
inductive Error where
  /-- The pattern is not well written. -/
  | malformed (m : Malformed)
  /-- The automaton of the pattern takes too many bytes. -/
  | tooLarge
  deriving Repr, DecidableEq

/-- The refusal as it is shown. -/
def Error.message : Error → String
  | .malformed m => m.message
  | .tooLarge => s!"Compiled regex exceeds size limit of {sizeLimit} bytes."

end ScriptWeave.Pattern
