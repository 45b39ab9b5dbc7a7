/-
  ScriptWeave.Shell.FileTools
  ───────────────────────────
  **TOOLS THAT WORK ON FILES.**

  A tool is a program of its own: it takes arguments, reads and writes the
  streams it is given, changes files and ends with a status.  It goes on
  after a file that it cannot deal with, and its status tells of it.
-/
import ScriptWeave.Shell.State

namespace ScriptWeave.Shell

/-! ## §1. Options. -/

/-- A tool: what it does with its arguments, and its status. -/
abbrev Tool := List Text → Run Nat

/-- The options of a tool, each with its value, and its other arguments. -/
structure Given where
  /-- The options in order. -/
  options : List (Char × Text)
  /-- The other arguments. -/
  operands : List Text
  deriving Repr, DecidableEq

/-- Whether an option is given. -/
def Given.has (g : Given) (c : Char) : Bool := g.options.any (fun o => o.1 == c)

/-- The value of an option, the last one that is given. -/
def Given.value? (g : Given) (c : Char) : Option Text := g.options.reverse.lookup c

/-- The letters of one argument as options: those with a value take the rest of the argument
or the next one.  An error is the letter that is wrong, and whether it lacks a value. -/
def readLetters (flags valued : Text) : Text → List Text →
    Except (Char × Bool) (List (Char × Text) × List Text)
  | [], rest => .ok ([], rest)
  | c :: t, rest =>
    if valued.contains c then
      -- a value ends the argument
      match t, rest with
      | [], [] => .error (c, true)
      | [], v :: rest => .ok ([(c, v)], rest)
      | t, rest => .ok ([(c, t)], rest)
    else if flags.contains c then
      match readLetters flags valued t rest with
      | .ok (os, rest) => .ok ((c, []) :: os, rest)
      | .error e => .error e
    else .error (c, false)

/-- Reads arguments; operands may stand between options. -/
def readGiven (flags valued : Text) : (fuel : Nat) → List Text → Except (Text × Char × Bool) Given
  | 0, _ => .ok ⟨[], []⟩
  | _, [] => .ok ⟨[], []⟩
  | fuel + 1, a :: rest =>
    match a with
    | ['-', '-'] => .ok ⟨[], rest⟩
    | '-' :: '-' :: _ => .error (a, '-', false)
    | '-' :: c :: t =>
      match readLetters flags valued (c :: t) rest with
      | .error (x, lacks) => .error ([], x, lacks)
      | .ok (os, rest) =>
        match readGiven flags valued fuel rest with
        | .ok g => .ok { g with options := os ++ g.options }
        | e => e
    | _ =>
      match readGiven flags valued fuel rest with
      | .ok g => .ok { g with operands := a :: g.operands }
      | e => e

/-- Complains about how a tool is used. -/
def misuse (name t : Text) : Run Nat := do
  complain (name ++ ": " ++ t)
  complain ("Try \x27" ++ name ++ " --help\x27 for more information.")
  return 1

/-- Reads the arguments of a tool and goes on with them, or complains. -/
def withOptions (name flags valued : String) (args : List Text) (go : Given → Run Nat) :
    Run Nat := do
  match readGiven flags.toList valued.toList (args.length + 1) args with
  | .ok g => go g
  | .error ([], c, true) =>
    misuse name ("option requires an argument -- \x27" ++ [c] ++ "\x27")
  | .error ([], c, false) => misuse name ("invalid option -- \x27" ++ [c] ++ "\x27")
  | .error (long, _, _) =>
    misuse name ("unrecognized option \x27" ++ long ++ "\x27")

/-- A name of a file as tools show it. -/
def shownName (t : Text) : Text :=
  if !t.contains '\x27' then quoted t
  else if t.any (fun c => "\"$\\\x60".toList.contains c) then
    quoted (Text.replace "\x27" "\x27\\\x27\x27" t)
  else '"' :: t ++ ['"']

/-- Does one thing for each operand; the status is the largest. -/
def forEach (one : Text → Run Nat) : List Text → Run Nat
  | [] => return 0
  | p :: rest => do
    let a ← one p
    let b ← forEach one rest
    return max a b

/-- Complains about a file. -/
def failed (t : Text) (e : IoError) : Run Nat := do
  complain (t ++ ": " ++ reason e)
  return 1

/-! ## §2. Reading files. -/

/-- The bytes of a file, or of standard input for a dash. -/
def readInput (p : Text) : Run (Except IoError Text) := do
  if p = ['-'] then
    let st ← get
    match channelOf? st 0 with
    | some (_, .file l _ _) =>
      if st.files.get? l = some .dir then return .error .isDirectory else return .ok (← readAll 0)
    | _ => return .ok (← readAll 0)
  else
    match ← atPath Files.readBytes p with
    | .ok b => return .ok (ofBytes b)
    | .error e => return .error e

/-- Prints files. -/
def cat : Tool := fun args =>
  withOptions "cat" "u" "" args (fun g =>
    forEach (fun p => do
      match ← readInput p with
      | .ok t =>
        out t
        return 0
      | .error e => failed ("cat: " ++ p) e) (if g.operands.isEmpty then [['-']] else g.operands))

/-! ## §3. Copying and moving. -/

/-- The path that a file gets at a target: below a directory it keeps its name. -/
def targetOf (source target : Text) : Run Text := do
  if ← atPath Files.isDirAt target then
    return Path.join target ((Path.fileName? source).getD [])
  else return target

/-- Whether two paths lead to the same entry. -/
def sameEntry (st : State) (p q : Text) : Bool :=
  match st.files.entryAt (st.path p), st.files.entryAt (st.path q) with
  | .ok (l, _), .ok (m, _) => l == m
  | _, _ => false

/-- The error of writing to a path; one that ends in a slash names no file. -/
def writeReason (p : Text) (e : IoError) : IoError :=
  if e = .isDirectory && p.getLast? = some '/' then .notDirectory else e

/-- Copies a tree of entries to a location. -/
def copyTree (s : Files) (l m : Location) : Files :=
  (s.entries.filter (fun x => l.isPrefixOf x.1)).reverse.foldl
    (fun s x => s.put (m ++ x.1.drop l.length) x.2) s

/-- Copies a file, or with `trees` a directory or a link. -/
def copyOne (trees : Bool) (source target : Text) : Run Nat := do
  let st ← get
  -- with `trees` a link is copied as a link
  let entry : Except IoError (Location × Entry) := match trees, st.files.find .look (st.path source) with
    | true, .ok (.entry l (.link t)) => .ok (l, .link t)
    | _, _ => st.files.entryAt (st.path source)
  match entry with
  | .error e => failed ("cp: cannot stat " ++ shownName source) e
  | .ok (l, .dir) =>
    if trees then
      let target ← targetOf source target
      match st.files.find .change (st.path target) with
      | .ok (.vacant d name _) =>
        set { st with files := copyTree st.files l (d ++ [name]) }
        return 0
      | .ok (.entry m .dir) =>
        set { st with files := copyTree st.files l m }
        return 0
      | .ok (.entry _ _) =>
        complain ("cp: cannot overwrite non-directory " ++ shownName target ++ " with directory "
          ++ shownName source)
        return 1
      | .error e => failed ("cp: cannot create directory " ++ shownName target) e
    else
      complain ("cp: -r not specified; omitting directory " ++ shownName source)
      return 1
  | .ok (_, .link t) =>
    match ← changeAt (fun s p => s.makeLink p t) (← targetOf source target) with
    | .ok () => return 0
    | .error e => failed ("cp: cannot create symbolic link " ++ shownName target) e
  | .ok (_, .file b) =>
    let target ← targetOf source target
    -- writing would empty the file before it is read
    if sameEntry st source target then
      complain ("cp: " ++ shownName source ++ " and " ++ shownName target ++ " are the same file")
      return 1
    match st.files.find .look (st.path target), st.files.existsAt (st.path target) with
    | .ok (.entry _ (.link _)), false =>
      complain ("cp: not writing through dangling symlink " ++ shownName target)
      return 1
    | .ok (.entry _ .dir), _ =>
      complain ("cp: cannot overwrite directory " ++ shownName target ++ " with non-directory")
      return 1
    | _, _ =>
      match ← changeAt (fun s p => s.writeBytes p b) target with
      | .ok () => return 0
      | .error e =>
        failed ("cp: cannot create regular file " ++ shownName target) (writeReason target e)

/-- Moves an entry. -/
def moveOne (source target : Text) : Run Nat := do
  let st ← get
  match st.files.find .look (st.path source) with
  | .error e => failed ("mv: cannot stat " ++ shownName source) e
  | .ok (.vacant _ _ _) => failed ("mv: cannot stat " ++ shownName source) .missing
  | .ok (.entry l e) =>
    let target ← targetOf source target
    match e, st.files.find .look (st.path target) with
    | .dir, .ok (.entry m .dir) =>
      -- a directory cannot move into itself
      if l.isPrefixOf m then
        complain ("mv: cannot move " ++ shownName source ++ " to a subdirectory of itself, "
          ++ shownName target)
        return 1
      else rename source target
    | .dir, .ok (.entry _ _) =>
      complain ("mv: cannot overwrite non-directory " ++ shownName target ++ " with directory "
        ++ shownName source)
      return 1
    | _, .ok (.entry _ .dir) =>
      complain ("mv: cannot overwrite directory " ++ shownName target ++ " with non-directory")
      return 1
    | _, .ok (.entry m _) =>
      if l = m then
        complain ("mv: " ++ shownName source ++ " and " ++ shownName target ++ " are the same file")
        return 1
      else rename source target
    | _, _ => rename source target
where
  rename (source target : Text) : Run Nat := do
    let st ← get
    match ← changeAt (fun s p => s.rename p (st.path target)) source with
    | .ok () => return 0
    | .error e =>
      failed ("mv: cannot move " ++ shownName source ++ " to " ++ shownName target) e

/-- Copies or moves the operands but the last to the last. -/
def transfer (name : Text) (one : Text → Text → Run Nat) (operands : List Text) : Run Nat := do
  match operands.reverse with
  | [] => misuse name "missing file operand"
  | [p] => misuse name ("missing destination file operand after " ++ shownName p)
  | [target, source] => one source target
  | target :: sources =>
    let st ← get
    match st.files.entryAt (st.path target) with
    | .ok (_, .dir) => forEach (fun p => one p target) sources.reverse
    | .ok _ => failed (name ++ ": target " ++ shownName target) .notDirectory
    | .error e => failed (name ++ ": target " ++ shownName target) e

/-- Copies files. -/
def cp : Tool := fun args =>
  withOptions "cp" "rRafpvndPLHxT" "" args (fun g =>
    transfer "cp" (copyOne (g.has 'r' || g.has 'R' || g.has 'a')) g.operands)

/-- Moves files. -/
def mv : Tool := fun args =>
  withOptions "mv" "fnivT" "" args (fun g => transfer "mv" moveOne g.operands)

/-- Makes a symbolic link, or a copy that stands for a hard link. -/
def linkOne (symbolic force : Bool) (source target : Text) : Run Nat := do
  let target ← targetOf source target
  if force then
    let _ ← changeAt Files.removeFile target
  if symbolic then
    match ← changeAt (fun s p => s.makeLink p (outward source)) target with
    | .ok () => return 0
    | .error e => failed ("ln: failed to create symbolic link " ++ shownName target) e
  else
    match ← atPath Files.readBytes source with
    | .error .isDirectory =>
      complain ("ln: " ++ source ++ ": hard link not allowed for directory")
      return 1
    | .error e => failed ("ln: failed to access " ++ shownName source) e
    | .ok b =>
      if ← atPath Files.existsAt target then
        failed ("ln: failed to create hard link " ++ shownName target) .exists
      else
        match ← changeAt (fun s p => s.writeBytes p b) target with
        | .ok () => return 0
        | .error e =>
          failed ("ln: failed to create hard link " ++ shownName target ++ " => "
            ++ shownName source) e

/-- Makes links. -/
def ln : Tool := fun args =>
  withOptions "ln" "sfnTv" "" args (fun g => do
    let one := linkOne (g.has 's') (g.has 'f')
    match g.operands with
    | [] => misuse "ln" "missing file operand"
    | [source] => one source (Path.join "." ((Path.fileName? source).getD []))
    | operands => transfer "ln" one operands)

/-! ## §4. Removing. -/

/-- Removes an entry. -/
def removeOne (trees force : Bool) (p : Text) : Run Nat := do
  let name := (Text.splitOn '/' p).getLast?.getD []
  if trees && (name = ['.'] || name = ['.', '.']) then
    complain ("rm: refusing to remove \x27.\x27 or \x27..\x27 directory: skipping " ++ shownName p)
    return 1
  match ← changeAt (if trees then Files.removeTree else Files.removeFile) p with
  | .ok () => return 0
  | .error e =>
    -- what is not there is as good as removed
    if force && (e = .missing || e = .notDirectory) then return 0
    else failed ("rm: cannot remove " ++ shownName p) e

/-- Removes files. -/
def rm : Tool := fun args =>
  withOptions "rm" "rRfvdiI" "" args (fun g => do
    if g.operands.isEmpty && !g.has 'f' then misuse "rm" "missing operand"
    else forEach (removeOne (g.has 'r' || g.has 'R') (g.has 'f')) g.operands)

/-- Removes empty directories. -/
def rmdir : Tool := fun args =>
  withOptions "rmdir" "pv" "" args (fun g => do
    if g.operands.isEmpty then misuse "rmdir" "missing operand"
    else
      forEach (fun p => do
        match ← changeAt Files.removeDir p with
        | .ok () => return 0
        | .error e => failed ("rmdir: failed to remove " ++ shownName p) e) g.operands)

/-! ## §5. Making. -/

/-- The path up to and with the part that is no directory. -/
def upToObstacle (st : State) (p : Text) : Text :=
  let parts := Text.splitOn '/' p
  let paths := (List.range parts.length).map (fun n => Text.join ['/'] (parts.take (n + 1)))
  (paths.find? (fun q =>
    !q.isEmpty && st.files.existsAt (st.path q) && !st.files.isDirAt (st.path q))).getD p

/-- Makes a directory, and with `parents` those above it. -/
def makeOne (parents : Bool) (p : Text) : Run Nat := do
  let st ← get
  let (r, s) :=
    if parents then st.files.makeDirAll (st.path p)
    else
      match st.files.makeDir (st.path p) with
      | .ok s => (.ok (), s)
      | .error e => (.error e, st.files)
  set { st with files := s }
  match r with
  | .ok () => return 0
  | .error e =>
    failed ("mkdir: cannot create directory "
      ++ shownName (if parents then upToObstacle st p else p)) e

/-- Makes directories. -/
def mkdir : Tool := fun args =>
  withOptions "mkdir" "pv" "m" args (fun g => do
    if g.operands.isEmpty then misuse "mkdir" "missing operand"
    else forEach (makeOne (g.has 'p')) g.operands)

/-- Makes files that are missing. -/
def touch : Tool := fun args =>
  withOptions "touch" "acm" "dtr" args (fun g => do
    if g.operands.isEmpty then misuse "touch" "missing file operand"
    else
      forEach (fun p => do
        if (← atPath Files.existsAt p) || g.has 'c' then return 0
        else
          match ← changeAt (fun s q => s.writeBytes q ByteArray.empty) p with
          | .ok () => return 0
          | .error e => failed ("touch: cannot touch " ++ shownName p) (writeReason p e))
        g.operands)

/-! ## §6. Looking. -/

/-- The names in a directory that a listing shows, each on a line. -/
def listing (st : State) (g : Given) (l : Location) : Text :=
  let all := (st.files.namesIn l).map inward
  let shown := all.filter (fun n => n.head? != some '.' || g.has 'A' || g.has 'a')
  let shown := if g.has 'a' then [['.'], ['.', '.']] ++ shown else shown
  (if g.has 'r' then shown.reverse else shown).flatMap (· ++ ['\n'])

/-- Lists directories; files come first. -/
def ls : Tool := fun args =>
  withOptions "ls" "1aAdr" "" args (fun g => do
    let operands := if g.operands.isEmpty then [['.']] else g.operands
    let status ← forEach (fun p => do
      match ← atPath Files.entryAt p, ← atPath (fun s q => s.find .look q) p with
      | .error e, .ok (.vacant _ _ _) =>
        let _ ← failed ("ls: cannot access " ++ shownName p) e
        return 2
      | .error e, .error _ =>
        let _ ← failed ("ls: cannot access " ++ shownName p) e
        return 2
      | _, _ => return 0) operands
    let st ← get
    let isDir (p : Text) : Bool := st.files.isDirAt (st.path p) && !g.has 'd'
    let found (p : Text) : Bool :=
      match st.files.find .look (st.path p) with
      | .ok (.entry _ _) => true
      | _ => false
    let files := operands.filter (fun p => found p && !isDir p)
    let dirs := operands.filter isDir
    for p in files do out (p ++ ['\n'])
    let mut first := files.isEmpty
    for p in dirs do
      match st.files.entryAt (st.path p) with
      | .ok (l, _) =>
        if 1 < operands.length then
          out ((if first then [] else ['\n']) ++ p ++ ":\n")
        first := false
        out (listing st g l)
      | .error _ => pure ()
    return status)

/-- Shows where links lead. -/
def readlink : Tool := fun args =>
  withOptions "readlink" "nf" "" args (fun g => do
    if g.operands.isEmpty then misuse "readlink" "missing operand"
    else
      forEach (fun p => do
        match ← atPath (fun s q => s.find .look q) p with
        | .ok (.entry _ (.link target)) =>
          out (inward target ++ (if g.has 'n' then [] else ['\n']))
          return 0
        | _ => return 1) g.operands)

/-- Takes the directory, and an ending, off a path. -/
def basename : Tool := fun args => do
  let name (p : Text) : Text :=
    let t := (p.reverse.dropWhile (· == '/')).reverse
    if t.isEmpty then (if p.isEmpty then [] else ['/'])
    else (Text.splitOn '/' t).getLast?.getD []
  match args with
  | [] => misuse "basename" "missing operand"
  | [p] =>
    out (name p ++ ['\n'])
    return 0
  | [p, ending] =>
    let n := name p
    let cut := n.take (n.length - ending.length)
    out ((if ending.isSuffixOf n && cut != [] then cut else n) ++ ['\n'])
    return 0
  | _ :: _ :: extra :: _ => misuse "basename" ("extra operand " ++ shownName extra)

/-- Takes the last name off paths. -/
def dirname : Tool := fun args => do
  let trim (t : Text) : Text := (t.reverse.dropWhile (· == '/')).reverse
  if args.isEmpty then misuse "dirname" "missing operand"
  else
    forEach (fun p => do
      let t := trim p
      let dir := trim ((t.reverse.dropWhile (· != '/')).reverse)
      let shown : Text :=
        if t.isEmpty then (if p.isEmpty then "." else "/")
        else if !t.contains '/' then "."
        else if dir.isEmpty then "/"
        else dir
      out (shown ++ ['\n'])
      return 0) args

end ScriptWeave.Shell
