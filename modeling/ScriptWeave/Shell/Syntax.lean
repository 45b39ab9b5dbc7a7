/-
  ScriptWeave.Shell.Syntax
  ────────────────────────
  **COMMANDS AND WORDS.**

  A command is simple, or made of other commands.  A simple command has words,
  assignments before them, and redirections.  A word is a list of parts, each
  of which stands for characters; a part that is quoted stands for itself in
  any case, and is neither cut nor compared with names of files.
-/
import ScriptWeave.Text.Basic

namespace ScriptWeave.Shell

/-- What becomes of the value of a parameter. -/
inductive ParamRule where
  /-- It is put in. -/
  | value
  /-- Its length is put in. -/
  | length
  /-- A word stands for it if it is unset. -/
  | default
  /-- A word is assigned to it if it is unset. -/
  | assign
  /-- It must not be unset. -/
  | require
  /-- A word stands for it unless it is unset. -/
  | alternative
  /-- Its shortest or longest beginning of a shape is cut off. -/
  | cutStart (longest : Bool)
  /-- Its shortest or longest end of a shape is cut off. -/
  | cutEnd (longest : Bool)
  /-- The rule makes no sense. -/
  | bad
  deriving Repr, DecidableEq

/-- What a redirection does with a file. -/
inductive RedirectKind where
  /-- Reads it. -/
  | read
  /-- Writes it from its start. -/
  | write
  /-- Writes it from its start, even if files are not to be overwritten. -/
  | overwrite
  /-- Writes to its end. -/
  | append
  /-- Reads and writes it. -/
  | update
  deriving Repr, DecidableEq

mutual

/-- A part of a word. -/
inductive Part where
  /-- A character. -/
  | char (c : Char) (quoted : Bool)
  /-- A pair of quotes, which makes a word even if nothing else does. -/
  | quotes
  /-- A parameter; `orNull` says that an empty one counts as unset. -/
  | param (name : Text) (rule : ParamRule) (orNull : Bool) (arg : List Part) (quoted : Bool)
  /-- What a command prints. -/
  | output (c : Command) (quoted : Bool)
  /-- The value of an arithmetic expression. -/
  | arithmetic (expr : List Part) (quoted : Bool)

/-- A redirection of one stream. -/
inductive Redirect where
  /-- From or to a file. -/
  | file (stream : Nat) (kind : RedirectKind) (target : List Part)
  /-- To where another stream goes, or to nowhere. -/
  | same (stream : Nat) (other : List Part)
  /-- From a document in the script itself. -/
  | document (stream : Nat) (number : Nat)

/-- A command. -/
inductive Command where
  /-- Nothing to do. -/
  | nothing
  /-- A simple command. -/
  | simple (line : Nat) (assignments : List (Text × List Part)) (words : List (List Part))
      (redirects : List Redirect)
  /-- The definition of a function. -/
  | define (name : Text) (body : Command)
  /-- Commands of which each reads what its predecessor prints. -/
  | pipe (cs : List Command)
  /-- A command that succeeds if another fails. -/
  | negate (c : Command)
  /-- The second if the first succeeds. -/
  | both (a b : Command)
  /-- The second if the first fails. -/
  | either (a b : Command)
  /-- One after the other. -/
  | chain (a b : Command)
  /-- A command that is not waited for. -/
  | background (c : Command)
  /-- A command with redirections around it. -/
  | redirected (line : Nat) (c : Command) (redirects : List Redirect)
  /-- A command in a shell of its own. -/
  | subshell (line : Nat) (c : Command) (redirects : List Redirect)
  /-- The second or third, as the first succeeds or fails. -/
  | choose (test yes no : Command)
  /-- The second as long as the first succeeds, or fails. -/
  | repeat_ (untilOk : Bool) (test body : Command)
  /-- The body for each word. -/
  | each (line : Nat) (name : Text) (words : List (List Part)) (body : Command)
  /-- The first branch with a shape that the word has. -/
  | select (line : Nat) (word : List Part) (branches : List (List (List Part) × Command))

end

instance : Inhabited Command := ⟨.nothing⟩

/-- A word. -/
abbrev Word := List Part

/-- A list of characters as a word of characters of its own. -/
def Word.literal (t : Text) (quoted : Bool) : Word := t.map (fun c => .char c quoted)

/-- The characters of a word that holds nothing else, all of them unquoted. -/
def Word.plain? : Word → Option Text
  | [] => some []
  | .char c false :: rest => (Word.plain? rest).map (c :: ·)
  | _ => none

end ScriptWeave.Shell
