/-
  ScriptWeave.Files.Lookup
  ────────────────────────
  **WHERE A PATH LEADS.**

  A path is followed name by name from the working directory.  A link on the
  way is replaced by its target; what becomes of a link at the end depends on
  what the path is followed for.  A path that leads to nothing in an existing
  directory names a vacant place, where an entry can be made.
-/
import ScriptWeave.Files.Error
import ScriptWeave.Files.Store

namespace ScriptWeave

/-- Where a path leads. -/
inductive Place where
  /-- To an entry. -/
  | entry (l : Location) (e : Entry)
  /-- To nothing in a directory; `slash` says that a slash follows the name. -/
  | vacant (dir : Location) (name : Text) (slash : Bool)
  deriving DecidableEq

/-- What a path is followed for. -/
inductive Purpose where
  /-- To read what it leads to: a link at the end is followed. -/
  | read
  /-- To look at what is there: a link at the end is followed if a slash comes after it. -/
  | look
  /-- To make, move or remove an entry: a link at the end is not followed. -/
  | change
  /-- To write a file: a link at the end is followed, and a slash at the end asks for a
  directory. -/
  | write
  deriving Repr, DecidableEq

namespace Files

/-- How many links may be followed on the way. -/
def linkLimit : Nat := 40

/-- How many bytes a name may have. -/
def nameLimit : Nat := 255

/-- How many bytes a path may have at most, and one more. -/
def pathLimit : Nat := 4096

/-- Follows names from a directory; `viaLink` goes on where a link leads. -/
def followNames (s : Files) (purpose : Purpose)
    (viaLink : Location → List Text → Except IoError Place) :
    Location → List Text → Except IoError Place
  | cur, [] => .ok (.entry cur .dir)
  | cur, name :: rest =>
    if name = [] || name = ['.'] then followNames s purpose viaLink cur rest
    else if name = ['.', '.'] then followNames s purpose viaLink cur.dropLast rest
    else
      let last := rest.all (·.isEmpty)
      if last && !rest.isEmpty && purpose = .write then .error .isDirectory
      else if nameLimit < Text.byteSize name then .error .nameTooLong
      else
        match s.get? (cur ++ [name]) with
        | none => if last then .ok (.vacant cur name (!rest.isEmpty)) else .error .missing
        | some .dir => followNames s purpose viaLink (cur ++ [name]) rest
        | some (.file b) =>
          if rest.isEmpty || (last && purpose = .change) then
            .ok (.entry (cur ++ [name]) (.file b))
          else .error .notDirectory
        | some (.link target) =>
          if (rest.isEmpty && purpose = .look) || (last && purpose = .change) then
            .ok (.entry (cur ++ [name]) (.link target))
          else if target.isEmpty then .error .missing
          else
            viaLink (if Path.isAbsolute target then [] else cur) (Text.splitOn '/' target ++ rest)

/-- Follows names from a directory through at most so many links. -/
def followLinks (s : Files) (purpose : Purpose) :
    (links : Nat) → Location → List Text → Except IoError Place
  | 0 => followNames s purpose (fun _ _ => .error .tooManyLinks)
  | links + 1 => followNames s purpose (followLinks s purpose links)

/-- Where a path leads. -/
def find (s : Files) (purpose : Purpose) (p : Text) : Except IoError Place :=
  if p.isEmpty then .error .missing
  else if p.contains '\x00' then .error .nulInPath
  else if pathLimit ≤ Text.byteSize p then .error .nameTooLong
  else followLinks s purpose linkLimit [] (Text.splitOn '/' p)

/-- The entry that a path leads to. -/
def entryAt (s : Files) (p : Text) : Except IoError (Location × Entry) :=
  match s.find .read p with
  | .error e => .error e
  | .ok (.vacant _ _ _) => .error .missing
  | .ok (.entry l e) => .ok (l, e)

/-- Whether a path leads to an entry. -/
def existsAt (s : Files) (p : Text) : Bool :=
  match s.entryAt p with
  | .ok _ => true
  | .error _ => false

/-- Whether a path leads to a directory. -/
def isDirAt (s : Files) (p : Text) : Bool :=
  match s.entryAt p with
  | .ok (_, .dir) => true
  | _ => false

/-- Whether a path leads to a file. -/
def isFileAt (s : Files) (p : Text) : Bool :=
  match s.entryAt p with
  | .ok (_, .file _) => true
  | _ => false

end Files

end ScriptWeave
