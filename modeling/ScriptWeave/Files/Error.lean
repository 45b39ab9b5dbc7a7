/-
  ScriptWeave.Files.Error
  ───────────────────────
  **WHY AN OPERATION ON FILES FAILS.**

  The causes are those of the operating system, with its numbers, and two of
  reading: a file that is no text, and a path that should name a directory.
-/
import ScriptWeave.Text.Basic

namespace ScriptWeave

/-- Why an operation on files fails. -/
inductive IoError where
  /-- There is nothing at the path. -/
  | missing
  /-- An argument of a process is too long. -/
  | argumentTooLong
  /-- The file may not be run. -/
  | permissionDenied
  /-- There is something at the path already. -/
  | exists
  /-- A part of the path is no directory. -/
  | notDirectory
  /-- The path leads to a directory. -/
  | isDirectory
  /-- The directory is not empty. -/
  | notEmpty
  /-- A part of the path is too long. -/
  | nameTooLong
  /-- The path leads through too many links. -/
  | tooManyLinks
  /-- The device has no room for what is written. -/
  | noSpace
  /-- The device fails. -/
  | deviceFailed
  /-- The path contains the character U+0000. -/
  | nulInPath
  /-- An argument of a process contains the character U+0000. -/
  | nulInArgument
  /-- The file is not UTF-8. -/
  | notText
  /-- The path was to lead to a directory and does not. -/
  | noDirectory
  deriving Repr, DecidableEq

/-- The sentence that states a cause. -/
def IoError.text : IoError → Text
  | .missing => "No such file or directory (os error 2)"
  | .argumentTooLong => "Argument list too long (os error 7)"
  | .permissionDenied => "Permission denied (os error 13)"
  | .exists => "File exists (os error 17)"
  | .notDirectory => "Not a directory (os error 20)"
  | .isDirectory => "Is a directory (os error 21)"
  | .notEmpty => "Directory not empty (os error 39)"
  | .nameTooLong => "File name too long (os error 36)"
  | .tooManyLinks => "Too many levels of symbolic links (os error 40)"
  | .noSpace => "No space left on device (os error 28)"
  | .deviceFailed => "Input/output error (os error 5)"
  | .nulInPath => "file name contained an unexpected NUL byte"
  | .nulInArgument => "nul byte found in provided data"
  | .notText => "stream did not contain valid UTF-8"
  | .noDirectory => "not a directory"

end ScriptWeave
