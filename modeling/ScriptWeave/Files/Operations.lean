/-
  ScriptWeave.Files.Operations
  ────────────────────────────
  **READING AND CHANGING FILES.**

  An operation takes a path and fails as the operating system lets it fail.
  One that fails changes nothing, except that the directories above a path
  may have been made already.
-/
import ScriptWeave.Files.Lookup
import ScriptWeave.Text.Utf8

namespace ScriptWeave.Files

/-! ## §1. Reading. -/

/-- The bytes of a file. -/
def readBytes (s : Files) (p : Text) : Except IoError ByteArray :=
  match s.entryAt p with
  | .error e => .error e
  | .ok (_, .file b) => .ok b
  | .ok (_, .dir) => .error .isDirectory
  | .ok (_, .link _) => .error .missing

/-- The text of a file. -/
def readText (s : Files) (p : Text) : Except IoError Text :=
  match s.readBytes p with
  | .error e => .error e
  | .ok b =>
    match Text.decode? b with
    | some t => .ok t
    | none => .error .notText

/-! ## §2. Files. -/

/-- Whether a path ends in a slash, which asks for a directory. -/
def endsInSlash (p : Text) : Bool := p.getLast? == some '/'

/-- Writes a file, which is made if there is none. -/
def writeBytes (s : Files) (p : Text) (b : ByteArray) : Except IoError Files :=
  match s.find .write p with
  | .error e => .error e
  | .ok (.entry _ .dir) => .error .isDirectory
  | .ok (.entry l _) => .ok (s.put l (.file b))
  | .ok (.vacant _ _ true) => .error .isDirectory
  | .ok (.vacant d name false) => .ok (s.put (d ++ [name]) (.file b))

/-- Writes a text to a file. -/
def writeText (s : Files) (p : Text) (t : Text) : Except IoError Files :=
  s.writeBytes p (Text.encode t)

/-- Removes a file or a link. -/
def removeFile (s : Files) (p : Text) : Except IoError Files :=
  match s.find .change p with
  | .error e => .error e
  | .ok (.vacant _ _ _) => .error .missing
  | .ok (.entry _ .dir) => .error .isDirectory
  | .ok (.entry l _) => if endsInSlash p then .error .notDirectory else .ok (s.erase l)

/-- Removes a file, a link, or a directory with all below it. -/
def removeTree (s : Files) (p : Text) : Except IoError Files :=
  match s.find .look p with
  | .error e => .error e
  | .ok (.vacant _ _ _) => .error .missing
  | .ok (.entry l _) => .ok (s.eraseTree l)

/-- Gives an entry another path; a file that is there is replaced. -/
def rename (s : Files) (p q : Text) : Except IoError Files :=
  match s.find .change p, s.find .change q with
  | .error e, _ => .error e
  | .ok _, .error e => .error e
  | .ok (.vacant _ _ _), .ok _ => .error .missing
  | .ok (.entry l e), .ok (.vacant d name slash) =>
    if (slash || endsInSlash p) && e != .dir then .error .notDirectory
    else .ok (s.moveTree l (d ++ [name]))
  | .ok (.entry l .dir), .ok (.entry m .dir) =>
    if (s.namesIn m).isEmpty || l = m then .ok (s.moveTree l m) else .error .notEmpty
  | .ok (.entry _ .dir), .ok (.entry _ _) => .error .notDirectory
  | .ok (.entry _ _), .ok (.entry _ .dir) => .error .isDirectory
  | .ok (.entry l _), .ok (.entry m _) =>
    if endsInSlash p || endsInSlash q then .error .notDirectory else .ok (s.moveTree l m)

/-- Makes a link. -/
def makeLink (s : Files) (p target : Text) : Except IoError Files :=
  if target.isEmpty then .error .missing
  else if target.contains '\x00' then .error .nulInPath
  else if pathLimit ≤ Text.byteSize target then .error .nameTooLong
  else
    match s.find .change p with
    | .error e => .error e
    | .ok (.entry _ _) => .error .exists
    | .ok (.vacant _ _ true) => .error .missing
    | .ok (.vacant d name false) => .ok (s.put (d ++ [name]) (.link target))

/-! ## §3. Directories. -/

/-- Makes a directory. -/
def makeDir (s : Files) (p : Text) : Except IoError Files :=
  match s.find .change p with
  | .error e => .error e
  | .ok (.entry _ _) => .error .exists
  | .ok (.vacant d name _) => .ok (s.put (d ++ [name]) .dir)

/-- Removes a directory that is empty. -/
def removeDir (s : Files) (p : Text) : Except IoError Files :=
  match s.find .change p with
  | .error e => .error e
  | .ok (.vacant _ _ _) => .error .missing
  | .ok (.entry l .dir) =>
    if (s.namesIn l).isEmpty then .ok (s.erase l) else .error .notEmpty
  | .ok (.entry _ _) => .error .notDirectory

/-- Makes a directory and those above it that are missing, at most so many.  The answer comes
with the files, since directories made before a failure stay. -/
def makeDirs (s : Files) : (fuel : Nat) → Text → Except IoError Unit × Files
  | 0, _ => (.error .missing, s)
  | fuel + 1, p =>
    if p.isEmpty then (.ok (), s)
    else
      match s.makeDir p, Path.parent? p with
      | .ok s, _ => (.ok (), s)
      | .error .missing, some q =>
        match makeDirs s fuel q with
        | (.error e, s) => (.error e, s)
        | (.ok (), s) =>
          match s.makeDir p with
          | .ok s => (.ok (), s)
          | .error e => if s.isDirAt p then (.ok (), s) else (.error e, s)
      | .error e, _ => if s.isDirAt p then (.ok (), s) else (.error e, s)

/-- Makes a directory and those above it that are missing. -/
def makeDirAll (s : Files) (p : Text) : Except IoError Unit × Files :=
  s.makeDirs (p.length + 1) p

end ScriptWeave.Files
