/-
  ScriptWeave.Build.Scratch
  ─────────────────────────
  **SCRATCH FILES.**

  A scratch file holds a source for the compiler.  Its name contains the
  number of the process and a number that no other scratch file of the
  process has, as long as there are numbers left: after 2^64 of them they
  begin again.  It is removed when it is dropped, or moved to another
  directory and kept.
-/
import ScriptWeave.Build.World

namespace ScriptWeave

/-- A scratch file. -/
structure Scratch where
  /-- Its path. -/
  path : Text
  deriving Repr, DecidableEq

namespace Scratch

/-- The name of a scratch file. -/
def fileName (stem : Text) (process number : Nat) (extension : Text) : Text :=
  stem ++ '_' :: Decimal.digits process ++ '_' :: Decimal.digits number ++ '.' :: extension

/-- How many numbers there are for scratch files. -/
def numberLimit : Nat := 18446744073709551616

/-- The number that follows a number. -/
def followingNumber (n : Nat) : Nat := (n + 1) % numberLimit

/-- The next number for a scratch file. -/
def takeNumber : Effect Nat := do
  let n := (← get).nextScratch
  modify (fun w => { w with nextScratch := followingNumber n })
  return n

/-- Makes a scratch file, and its directory if there is none.  If the file cannot be written to
its end there is no scratch file to drop, and what was written stays. -/
def create (dir stem extension contents : Text) : Action Scratch := do
  unless ← World.existsAt dir do
    orFail dir (← World.makeDirAll dir)
  let number ← takeNumber
  let path := Path.join dir (fileName stem (← get).processId number extension)
  orFail path (← World.write path contents)
  return ⟨path⟩

/-- Drops a scratch file: removes it, or warns if it is gone. -/
def drop (f : Scratch) : Effect Unit := do
  match ← World.change (fun s => s.removeFile f.path) with
  | .ok () => pure ()
  | .error e => World.warn (.scratchNotRemoved f.path e)

/-- Moves a scratch file to a directory. -/
def moveTo (f : Scratch) (dir : Text) : Action Text := do
  orFail dir (← World.makeDirAll dir)
  let kept := Path.join dir ((Path.fileName? f.path).getD [])
  orFail kept (← World.change (fun s => s.rename f.path kept))
  return kept

/-- Moves a scratch file to a directory to keep it there; it is dropped if that fails. -/
def keepIn (f : Scratch) (dir : Text) : Action Text := do
  try f.moveTo dir
  catch e =>
    f.drop
    throw e

end Scratch

end ScriptWeave
