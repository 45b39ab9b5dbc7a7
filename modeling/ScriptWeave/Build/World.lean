/-
  ScriptWeave.Build.World
  ───────────────────────
  **WHAT PREPROCESSING READS AND CHANGES.**

  Preprocessing sees files, has a process number and a counter for the names
  of scratch files, and logs warnings.  An action is a step from one such
  world to the next that may fail; what it changed before it failed stays
  changed.

  Writing a text is more than one operation on files: the file is opened,
  which makes it or empties it, and then takes the bytes.  It may take some of
  them and no more, since a device is full, say.  Which writes end so is up to
  the world.
-/
import ScriptWeave.Alias.Table
import ScriptWeave.Build.Failure
import ScriptWeave.Files.Operations

namespace ScriptWeave

/-! ## §1. Warnings. -/

/-- Why a directory entry is skipped. -/
inductive SkippedEntry where
  /-- The entry cannot be looked at. -/
  | unreadable (path : Text) (e : IoError)
  /-- The entry is a link to a directory around it. -/
  | loop (link ancestor : Text)
  deriving Repr, DecidableEq

/-- A skipped entry as it is shown. -/
def SkippedEntry.text : SkippedEntry → Text
  | .unreadable path e => "IO error for operation on " ++ path ++ ": " ++ e.text
  | .loop link ancestor =>
    "File system loop found: " ++ link ++ " points to an ancestor " ++ ancestor

/-- Something worth a warning. -/
inductive Warning where
  /-- A note about exports. -/
  | exports (n : AliasNote)
  /-- The directory of the cache could not be made. -/
  | noCacheDir (dir : Text) (e : IoError)
  /-- An entry of the cache is malformed and was removed. -/
  | corruptEntry (path : Text) (e : Json.Error)
  /-- An entry of the cache could not be written. -/
  | cacheNotWritten (path : Text) (e : IoError)
  /-- Adapted code is no acceptable script. -/
  | suspectScript (file : Text) (d : Program.Diagnostic)
  /-- A component could not be preprocessed. -/
  | componentFailed (path : Text) (f : Failure)
  /-- A directory entry is skipped. -/
  | entrySkipped (s : SkippedEntry)
  /-- A scratch file could not be removed. -/
  | scratchNotRemoved (path : Text) (e : IoError)
  deriving Repr, DecidableEq

/-! ## §2. Worlds and actions. -/

/-- What is wrong with a write: the file takes so many bytes, and then no more. -/
structure WriteFault where
  /-- How many bytes the file takes. -/
  room : Nat
  /-- How the write fails. -/
  error : IoError
  deriving Repr, DecidableEq

/-- What the file takes of a text. -/
def WriteFault.taken (x : WriteFault) (t : Text) : ByteArray := (Text.encode t).extract 0 x.room

/-- What preprocessing reads and changes. -/
structure World where
  /-- The files below the working directory. -/
  files : Files
  /-- The number of the process. -/
  processId : Nat
  /-- The number of the next scratch file. -/
  nextScratch : Nat
  /-- How often a compiler was called. -/
  compilations : Nat
  /-- The warnings so far. -/
  warnings : List Warning
  /-- What is wrong with the writes to come, one after the other; no more is wrong behind them. -/
  faults : List (Option WriteFault)

/-- A step that may fail. -/
abbrev Action := ExceptT Failure (StateM World)

/-- A step that does not fail. -/
abbrev Effect := StateM World

namespace World

/-- Logs a warning. -/
def warn (x : Warning) : Effect Unit :=
  modify (fun w => { w with warnings := w.warnings ++ [x] })

/-- Logs several warnings in order. -/
def warnAll (xs : List Warning) : Effect Unit :=
  modify (fun w => { w with warnings := w.warnings ++ xs })

/-- Reads something off the files. -/
def look {α : Type} (f : Files → α) : Effect α := do
  return f (← get).files

/-- Whether a path leads to an entry. -/
def existsAt (p : Text) : Effect Bool := look (fun s => s.existsAt p)

/-- Whether a path leads to a directory. -/
def isDirAt (p : Text) : Effect Bool := look (fun s => s.isDirAt p)

/-- The text of a file. -/
def readText (p : Text) : Effect (Except IoError Text) := look (fun s => s.readText p)

/-- Makes a change to the files by one operation, which changes nothing if it fails. -/
def change (f : Files → Except IoError Files) : Effect (Except IoError Unit) := do
  match f (← get).files with
  | .error e => return .error e
  | .ok s =>
    modify (fun w => { w with files := s })
    return .ok ()

/-- The fault of the next write, if the text is too long for it. -/
def fault? (w : World) (t : Text) : Option WriteFault :=
  w.faults.head?.join.filter (fun x => x.room < Text.byteSize t)

/-- Writes a text to a file, which is made if there is none and else emptied first. -/
def write (p t : Text) : Effect (Except IoError Unit) := do
  let fault := (← get).fault? t
  modify (fun w => { w with faults := w.faults.tail })
  match fault with
  | none => change (fun s => s.writeText p t)
  | some x =>
    match ← change (fun s => s.writeBytes p (x.taken t)) with
    | .ok () => return .error x.error
    | .error e => return .error e

/-- Makes a directory and those above it that are missing. -/
def makeDirAll (p : Text) : Effect (Except IoError Unit) := do
  let (r, s) := (← get).files.makeDirAll p
  modify (fun w => { w with files := s })
  return r

end World

/-- Fails as an operation on a path failed. -/
def orFail {α : Type} (path : Text) (r : Except IoError α) : Action α :=
  match r with
  | .ok a => return a
  | .error e => throw (.io path e)

/-- Runs an action and hands out what became of it. -/
def attempt {α : Type} (a : Action α) : Effect (Except Failure α) := a.run

end ScriptWeave
