/-
  ScriptWeave.Build.ComponentFiles
  ────────────────────────────────
  **FINDING COMPONENT FILES.**

  The directories below a path are walked through, links included, and the
  files with one of the given extensions are listed in the order of paths.
  An entry that cannot be looked at is skipped, and so is a link to a
  directory that the walk is in.
-/
import ScriptWeave.Build.World

namespace ScriptWeave

/-- What a walk meets. -/
inductive WalkItem where
  /-- A file. -/
  | file (path : Text)
  /-- An entry that is skipped. -/
  | skipped (s : SkippedEntry)
  deriving Repr, DecidableEq

namespace Files

/-- What there is to walk to at a path: nothing else than an error, a file or a
directory. -/
def enter (s : Files) (ancestors : List (Text × Location)) (p : Text) :
    Except SkippedEntry (Location × Entry) :=
  match s.find .look p with
  | .error e => .error (.unreadable p e)
  | .ok (.vacant _ _ _) => .error (.unreadable p .missing)
  | .ok (.entry _ (.link _)) =>
    match s.entryAt p with
    | .error e => .error (.unreadable p e)
    | .ok (l, e) =>
      match e, ancestors.find? (fun a => a.2 == l) with
      | .dir, some a => .error (.loop p a.1)
      | _, _ => .ok (l, e)
  | .ok (.entry l e) => .ok (l, e)

/-- What a walk from a path meets.  `ancestors` are the directories that it is in, the
innermost first; there are never more of them than there are entries. -/
def walk (s : Files) : (fuel : Nat) → (ancestors : List (Text × Location)) → Text → List WalkItem
  | 0, _, _ => []
  | fuel + 1, ancestors, p =>
    match s.enter ancestors p with
    | .error e => [.skipped e]
    | .ok (_, .file _) => [.file p]
    | .ok (_, .link _) => []
    | .ok (l, .dir) =>
      (s.namesIn l).flatMap (fun name => s.walk fuel ((p, l) :: ancestors) (Path.join p name))

/-- What a walk from a path meets, to any depth. -/
def walkAll (s : Files) (p : Text) : List WalkItem := s.walk (s.entries.length + 2) [] p

/-- Whether a path names a file with one of some extensions. -/
def hasExtension (extensions : List Text) (p : Text) : Bool :=
  match (Path.fileName? p).bind Path.extension? with
  | some e => extensions.contains e
  | none => false

/-- The component files that a walk met, in the order of paths. -/
def componentFiles (extensions : List Text) (items : List WalkItem) : List Text :=
  Sorted.sort Path.le
    (items.filterMap (fun
      | .file p => if hasExtension extensions p then some p else none
      | .skipped _ => none))

/-- The entries that a walk skipped. -/
def skippedEntries (items : List WalkItem) : List SkippedEntry :=
  items.filterMap (fun
    | .file _ => none
    | .skipped e => some e)

end Files

/-- Finds the component files below a path and warns of what is skipped. -/
def findComponentFiles (p : Text) (extensions : List Text) : Effect (List Text) := do
  let items ← World.look (fun s => s.walkAll p)
  World.warnAll ((Files.skippedEntries items).map Warning.entrySkipped)
  return Files.componentFiles extensions items

end ScriptWeave
