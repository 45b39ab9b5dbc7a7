/-
  ScriptWeave.Shell.Run
  ─────────────────────
  **RUNNING COMMANDS.**

  A command runs in a shell and changes it, or runs in a shell of its own,
  which shares files and channels with the one around it.  The first argument
  of every function bounds how deep the calls nest.  That a shell ends when a
  command fails is checked behind simple commands, pipes and shells of their
  own, unless somebody looks at the status.
-/
import ScriptWeave.Shell.Builtins
import ScriptWeave.Shell.Filters
import ScriptWeave.Shell.Parser

namespace ScriptWeave.Shell

/-! ## §1. Programs. -/

/-- The tools, by their names. -/
def tool? (name : Text) : Option Tool :=
  match String.ofList name with
  | "cat" => some cat
  | "cp" => some cp
  | "mv" => some mv
  | "ln" => some ln
  | "rm" => some rm
  | "rmdir" => some rmdir
  | "mkdir" => some mkdir
  | "touch" => some touch
  | "ls" => some ls
  | "readlink" => some readlink
  | "basename" => some basename
  | "dirname" => some dirname
  | "head" => some head
  | "tail" => some tail
  | "wc" => some wc
  | "sort" => some sort
  | "uniq" => some uniq
  | "tac" => some tac
  | "rev" => some rev
  | "cut" => some cut
  | "tr" => some tr
  | "tee" => some tee
  | "seq" => some seq
  | "sleep" => some sleep
  | "chmod" => some (fun _ => return 0)
  | "true" => some (fun _ => return 0)
  | "false" => some (fun _ => return 1)
  | "echo" => some (fun args => do
    out (Text.join [' '] args ++ ['\n'])
    return 0)
  | "printf" => some (fun args => do
    out (printf (args.headD []) args.tail).out
    return 0)
  | "test" => some (testStatus (fun t => do
    complain ("test: " ++ t)
    return 2))
  | _ => none

/-- Whether a name is that of a shell. -/
def isShell (name : Text) : Bool := name = "sh" || name = "dash"

/-- The name that a path gives to one of the programs of the system, if it does. -/
def systemName? (path : Text) : Option Text :=
  let (dir, name) := ((path.reverse.dropWhile (· != '/')).reverse,
    (path.reverse.takeWhile (· != '/')).reverse)
  if dir = "/bin/" || dir = "/usr/bin/" then some name else none

/-- Why a file below the working directory cannot be run; none of them can. -/
def whyNotRun (s : Files) (path : Text) : IoError :=
  match s.entryAt path with
  | .error e => e
  | .ok _ => .permissionDenied

/-- What is to be run for a name: the name of a program of the system, or why there is
none. -/
def programOf (s : Files) (at_ : Text → Text) (name : Text) : Except IoError Text :=
  if name.contains '/' then
    match systemName? name with
    | some n => if (tool? n).isSome || isShell n then .ok n else .error .missing
    | none => .error (whyNotRun s (at_ name))
  else if name = ['.'] || name = ['.', '.'] then .error .permissionDenied
  else if Files.nameLimit < name.length then .error .nameTooLong
  else if (tool? name).isSome || isShell name || name = "env" then .ok name
  else .error .missing

/-! ## §2. Parts of running. -/

/-- Sets the status. -/
def setStatus (n : Nat) : Run Unit := modify (fun st => { st with status := n })

/-- Whether the last command succeeded. -/
def succeeded : Run Bool := do return (← get).status = 0

/-- Ends the shell if it is to end when a command fails, and one did. -/
def checkStatus (tested : Bool) : Run Unit := do
  let st ← get
  if st.modes.exitOnFailure && !tested && st.status != 0 then throw (.exit st.status)

/-- Runs one round of a loop, and says whether the loop goes on. -/
def oneRound (a : Run Unit) : Run Bool := do
  let loops := (← get).loops
  modify (fun st => { st with loops := loops + 1 })
  let goOn ← tryCatch (do a; return true) (fun
    | .break n => do
      setStatus 0
      if n ≤ 1 then return false else throw (.break (n - 1))
    | .continue n => do
      setStatus 0
      if n ≤ 1 then return true else throw (.continue (n - 1))
    | s => throw s)
  modify (fun st => { st with loops := loops })
  return goOn

/-- Does something while streams lead elsewhere, and restores them. -/
def keepingStreams {α : Type} (a : Run α) : Run α := do
  let streams := (← get).streams
  let restore : Run Unit := modify (fun st => { st with streams := streams })
  let r ← tryCatch a (fun s => do
    restore
    throw s)
  restore
  return r

/-- Runs a command of the shell itself under its name. -/
def asCommand {α : Type} (name : Text) (a : Run α) : Run α := do
  let outer := (← get).command
  let restore : Run Unit := modify (fun st => { st with command := outer })
  modify (fun st => { st with command := some name })
  let r ← tryCatch a (fun s => do
    restore
    throw s)
  restore
  return r

/-- The words of a failure to open a file. -/
def openReason (e : IoError) (words : Text) : Text :=
  if e = .missing || e = .notDirectory then words else reason e

/-- The stream that a path of the system stands for. -/
def streamOfPath? (path : Text) : Option Nat :=
  match String.ofList path with
  | "/dev/stdin" => some 0
  | "/dev/stdout" => some 1
  | "/dev/stderr" => some 2
  | _ => none

/-- Opens a file for a redirection, or says why it cannot. -/
def openFile (kind : RedirectKind) (path : Text) : Run (Except Text Nat) := do
  let st ← get
  match streamOfPath? path with
  | some n =>
    match channelOf? st n with
    | some (c, _) => return .ok c
    | none => return .error ("cannot open " ++ path ++ ": No such file")
  | none =>
    if path = "/dev/null" then return .ok (← openChannel .nowhere)
    let p := st.path path
    if kind = .read then
      match st.files.entryAt p with
      | .ok (l, _) => return .ok (← openChannel (.file l 0 false))
      | .error e =>
        return .error ("cannot open " ++ path ++ ": " ++ openReason e "No such file")
    else
      let old := st.files.readBytes p
      let keeps := kind = .append || kind = .update
      if kind = .write && st.modes.keepFiles && st.files.isFileAt p then
        return .error ("cannot create " ++ path ++ ": File exists")
      let before := match old with
        | .ok b => if keeps then b else ByteArray.empty
        | .error _ => ByteArray.empty
      -- opening to write empties the file at once, unless its bytes stay
      match st.files.writeBytes p before with
      | .error e =>
        return .error ("cannot create " ++ path ++ ": " ++ openReason e "Directory nonexistent")
      | .ok files =>
        set { st with files := files }
        match files.entryAt p with
        | .ok (l, _) => return .ok (← openChannel (.file l 0 (kind == .append)))
        | .error e => return .error ("cannot create " ++ path ++ ": " ++ reason e)

/-- Connects a stream with what another leads to, given by a text; gives what is wrong. -/
def connectSame (stream : Nat) (other : Text) : Run (Option Text) := do
  match other with
  | ['-'] =>
    connect stream none
    return none
  | [c] =>
    if c.isDigit then
      match channelOf? (← get) (c.toNat - 0x30) with
      | some (n, _) =>
        connect stream (some n)
        return none
      | none => return some (other ++ ": Bad file descriptor")
    else return some "Syntax error: Bad fd number"
  | _ => return some "Syntax error: Bad fd number"

/-- A shell of its own before anything ran in it. -/
def State.child (st : State) : State :=
  { st with traps := [], pending := [], loops := 0, inChild := true }

/-- The shell after something ran in a shell of its own. -/
def State.resume (before after : State) : State :=
  -- all but files and channels is lost
  { before with
    files := after.files, channels := after.channels, nextProcess := after.nextProcess }

/-- A text as a traced command shows it. -/
def traceWords (assigned : List (Text × Text)) (fields : List Text) : Text :=
  Text.join [' '] (['+'] :: (assigned.map (fun a => a.1 ++ '=' :: a.2) ++ fields))

/-- Puts variables back as they were. -/
def restoreVariables (old : List (Text × Option Variable)) : Run Unit := do
  for (name, v) in old do putVariable name v

/-- The kinds of words that are commands by themselves, in the order they are looked up. -/
inductive Callee where
  /-- A special command of the shell. -/
  | special
  /-- A function. -/
  | function (body : Command)
  /-- Another command of the shell. -/
  | builtin
  /-- A program. -/
  | program

/-- The commands of the shell that run other commands. -/
def runsOthers : List Text := ["eval", ".", "exec", "command", "type"].map String.toList

/-- What a name calls. -/
def State.callee (st : State) (name : Text) : Callee :=
  if specialCommands.contains name || name = "local" then .special
  else
    match st.functions.lookup name with
    | some body => .function body
    | none =>
      if (builtin? name).isSome || runsOthers.contains name then .builtin else .program

/-- What is said of a name by `type`. -/
def describeName (st : State) (name : Text) : Run Nat := do
  if (Keyword.of? name).isSome then
    out (name ++ " is a shell keyword\n")
    return 0
  match st.callee name with
  | .special =>
    out (name ++ " is a special shell builtin\n")
    return 0
  | .function _ =>
    out (name ++ " is a shell function\n")
    return 0
  | .builtin =>
    out (name ++ " is a shell builtin\n")
    return 0
  | .program =>
    match programOf st.files st.path name with
    | .ok n =>
      out (name ++ " is /usr/bin/" ++ n ++ ['\n'])
      return 0
    | .error _ =>
      out (name ++ ": not found\n")
      return 127

/-- Shows what a name calls, as `command -v` does. -/
def showCallee (st : State) (name : Text) : Run Nat := do
  if (Keyword.of? name).isSome then
    out (name ++ ['\n'])
    return 0
  match st.callee name with
  | .program =>
    match programOf st.files st.path name with
    | .ok n =>
      out ("/usr/bin/" ++ n ++ ['\n'])
      return 0
    | .error _ => return 127
  | _ =>
    out (name ++ ['\n'])
    return 0

/-- What the arguments of a shell ask for. -/
structure Invocation where
  /-- Whether the first of the other arguments is the script itself. -/
  inArgument : Bool
  /-- Whether the script is read from standard input. -/
  inStream : Bool
  /-- The modes, by their letters, and whether they are turned on. -/
  modes : List (Bool × Char)
  /-- The other arguments. -/
  rest : List Text

/-- Reads the arguments of a shell. -/
def readInvocation : (fuel : Nat) → List Text → Except Text Invocation
  | 0, _ => .ok ⟨false, false, [], []⟩
  | fuel + 1, args =>
    match args with
    | ['-', '-'] :: rest => .ok ⟨false, false, [], rest⟩
    | (s :: letters) :: rest =>
      if (s = '-' || s = '+') && !letters.isEmpty then
        let named := letters.contains 'o'
        let mode := rest.head?.bind (fun n => modeLetter? (String.ofList n))
        match letters.find? (fun c => !"aefuxCbEhiImnsvVco".toList.contains c), named, mode with
        | some c, _, _ => .error ("Illegal option " ++ [s, c])
        | none, true, none => .error ("Illegal option " ++ [s, 'o', ' '] ++ rest.headD [])
        | none, _, _ =>
          let rest := if named then rest.tail else rest
          match readInvocation fuel rest with
          | .error e => .error e
          | .ok i =>
            -- letters that are no modes are left out
            let set := (letters.filter (fun c => c != 'c' && c != 'o' && c != 's')).map (fun c => (s == '-', c))
            let set := if named then set ++ mode.toList.map (fun c => (s == '-', c)) else set
            .ok { i with
              inArgument := i.inArgument || letters.contains 'c'
              inStream := i.inStream || letters.contains 's'
              modes := set ++ i.modes }
      else .ok ⟨false, false, [], args⟩
    | _ => .ok ⟨false, false, [], args⟩

/-! ## §3. Commands. -/

mutual

/-- Runs a command.  `tested` says that somebody looks at its status. -/
def run : (fuel : Nat) → (tested : Bool) → Command → Run Unit
  | 0, _, _ => throw (.exit 2)
  | fuel + 1, tested, c => do
    match c with
    | .nothing => pure ()
    | .simple line assignments words rs =>
      runSimple fuel tested line assignments words rs
      runPending fuel
      checkStatus tested
    | .define name body =>
      modify (fun st =>
        { st with functions := (name, body) :: st.functions.filter (fun f => f.1 != name) })
      setStatus 0
    | .pipe cs =>
      let input ← openChannel .nowhere
      runPipe fuel (((← get).streams.lookup 0).getD input) cs
      checkStatus tested
    | .negate c =>
      run fuel true c
      setStatus (if ← succeeded then 1 else 0)
    | .both a b =>
      -- a command whose status is asked for does not end the shell
      run fuel true a
      if ← succeeded then run fuel tested b
    | .either a b =>
      run fuel true a
      unless ← succeeded do run fuel tested b
    | .chain a b =>
      run fuel tested a
      run fuel tested b
    | .background c =>
      let number := (← get).nextProcess
      modify (fun st => { st with nextProcess := number + 1 })
      let status ← apart fuel (do
        connect 0 (some (← openChannel .nowhere))
        run fuel false c)
      modify (fun st => { st with lastBackground := some (number, status) })
      setStatus 0
    | .redirected line c rs =>
      modify (fun st => { st with line := line })
      keepingStreams (do
        if ← redirectAll fuel rs then run fuel tested c else setStatus 2)
    | .subshell line c rs =>
      modify (fun st => { st with line := line })
      setStatus (← apart fuel (do
        if ← redirectAll fuel rs then run fuel tested c else throw (.mistake 2)))
      checkStatus tested
    | .choose test yes no =>
      run fuel true test
      if ← succeeded then run fuel tested yes
      else
        -- a test that failed is no failure of the choice
        setStatus 0
        run fuel tested no
    | .repeat_ untilOk test body =>
      repeatRun fuel tested untilOk 0 test body
    | .each line name words body =>
      modify (fun st => { st with line := line })
      let fields ← expandAll (captured fuel) fuel words
      setStatus 0
      eachRun fuel tested name fields body
    | .select line word branches =>
      modify (fun st => { st with line := line })
      let t ← expandWhole (captured fuel) fuel word
      setStatus 0
      selectRun fuel tested t branches

/-- Runs a command in a shell of its own, and gives what it prints. -/
def captured : (fuel : Nat) → Command → Run Text
  | 0, _ => throw (.exit 2)
  | fuel + 1, c => do
    let n ← openChannel (.sink [])
    let status ← apart fuel (do
      connect 1 (some n)
      run fuel false c)
    modify (fun st => { st with outputStatus := status })
    return written (← get) n

/-- Does something in a shell of its own, and gives its status. -/
def apart : (fuel : Nat) → Run Unit → Run Nat
  | 0, _ => throw (.exit 2)
  | fuel + 1, a => do
    let before ← get
    set before.child
    let r ← finish fuel a
    -- files and channels stay as the child left them
    set (before.resume (← get))
    match r with
    | .ok status => return status
    | .error n => throw (.signal n)

/-- Does something as the whole work of a shell, and then what is to be done at its end.  The
result is its status, or the signal that ended it. -/
def finish : (fuel : Nat) → Run Unit → Run (Except Nat Nat)
  | 0, _ => return .ok 2
  | fuel + 1, a => do
    let ended (s : Stop) : Run (Except Nat Nat) := do
      match s with
      | .exit n => return .ok n
      | .mistake n => return .ok n
      | .return n => return .ok n
      | .signal n => return .error n
      | _ => return .ok (← get).status
    let r ← tryCatch (do
      a
      return .ok (← get).status) ended
    match r, (← get).traps.lookup (signalName 0) with
    | .ok status, some action =>
      -- what is done at the end is done once
      modify (fun st => { st with traps := [], status := status })
      tryCatch (do
        runScript fuel false (Reader.start action 1 (← get).documents.length)
        return .ok status) ended
    | r, _ => return r

/-- Does what is to be done because signals came. -/
def runPending : (fuel : Nat) → Run Unit
  | 0 => throw (.exit 2)
  | fuel + 1 => do
    let st ← get
    match st.pending with
    | [] => pure ()
    | action :: rest =>
      set { st with pending := rest }
      runScript fuel false (Reader.start action 1 st.documents.length)
      -- commands in between do not see its status
      setStatus st.status
      runPending fuel

/-- Runs commands of which each reads what its predecessor prints; `input` is the channel
that the first one reads. -/
def runPipe : (fuel : Nat) → (input : Nat) → List Command → Run Unit
  | 0, _, _ => throw (.exit 2)
  | _, _, [] => pure ()
  | fuel + 1, input, [c] => do
    setStatus (← apart fuel (do
      connect 0 (some input)
      run fuel true c))
  | fuel + 1, input, c :: rest => do
    -- one after the other: what one prints is complete before the next reads it
    let n ← openChannel (.sink [])
    let _ ← apart fuel (do
      connect 0 (some input)
      connect 1 (some n)
      run fuel true c)
    let next ← openChannel (.source (written (← get) n))
    runPipe fuel next rest

/-- Runs a loop with a test; `status` is that of its last round. -/
def repeatRun : (fuel : Nat) → (tested untilOk : Bool) → (status : Nat) → (test body : Command) →
    Run Unit
  | 0, _, _, _, _, _ => throw (.exit 2)
  | fuel + 1, tested, untilOk, status, test, body => do
    let goOn ← oneRound (do
      run fuel true test
      if (← succeeded) = untilOk then
        setStatus status
        throw (.break 1)
      run fuel tested body)
    if goOn then repeatRun fuel tested untilOk (← get).status test body

/-- Runs a loop over fields. -/
def eachRun : (fuel : Nat) → (tested : Bool) → (name : Text) → List Text → Command → Run Unit
  | 0, _, _, _, _ => throw (.exit 2)
  | _, _, _, [], _ => pure ()
  | fuel + 1, tested, name, f :: rest, body => do
    setVariable name f
    if ← oneRound (run fuel tested body) then eachRun fuel tested name rest body

/-- Runs the first branch with a shape that a text has. -/
def selectRun : (fuel : Nat) → (tested : Bool) → Text → List (List Word × Command) → Run Unit
  | 0, _, _, _ => throw (.exit 2)
  | _, _, _, [] => pure ()
  | fuel + 1, tested, t, (shapes, body) :: rest => do
    match shapes with
    | [] => selectRun fuel tested t rest
    | w :: more =>
      if (← expandShape (captured fuel) fuel w).has t then run fuel tested body
      else selectRun fuel tested t ((more, body) :: rest)

/-- Opens the targets of redirections in order, and says whether it could. -/
def redirectAll : (fuel : Nat) → List Redirect → Run Bool
  | 0, _ => throw (.exit 2)
  | _, [] => return true
  | fuel + 1, r :: rest => do
    let problem ← match r with
      | .file stream kind target => do
        let path ← expandWhole (captured fuel) fuel target
        match ← openFile kind path with
        | .ok n => do
          connect stream (some n)
          pure none
        | .error e => pure (some e)
      | .same stream other => do
        connectSame stream (← expandWhole (captured fuel) fuel other)
      | .document stream number => do
        let w := ((← get).documents.lookup number).getD []
        let t ← expandWhole (captured fuel) fuel w
        connect stream (some (← openChannel (.source t)))
        pure none
    match problem with
    | some e =>
      report e
      return false
    | none => redirectAll fuel rest

/-- The words of a simple command as fields; what looks like an assignment is none of a
command that declares variables, and is not cut. -/
def fieldsOfWords : (fuel : Nat) → (declares : Option Bool) → List Word → Run (List Text)
  | 0, _, _ => throw (.exit 2)
  | _, _, [] => return []
  | fuel + 1, declares, w :: rest => do
    let first ← match declares, assignment? w with
      | some true, some _ => do pure [← expandWhole (captured fuel) fuel w]
      | _, _ => expand (captured fuel) fuel w
    -- known once the first field is, which is the name of the command
    let declares := match declares, first with
      | none, name :: _ => some (["export", "readonly", "local"].contains (String.ofList name))
      | d, _ => d
    return first ++ (← fieldsOfWords fuel declares rest)

/-- The values that assignments before a command give to variables, which are set as they
are found. -/
def assignAll : (fuel : Nat) → List (Text × Word) → Run (List (Text × Text))
  | 0, _ => throw (.exit 2)
  | _, [] => return []
  | fuel + 1, (name, w) :: rest => do
    let value ← expandWhole (captured fuel) fuel w
    setVariable name value
    return (name, value) :: (← assignAll fuel rest)

/-- Runs a simple command. -/
def runSimple : (fuel : Nat) → (tested : Bool) → (line : Nat) → List (Text × Word) → List Word →
    List Redirect → Run Unit
  | 0, _, _, _, _, _ => throw (.exit 2)
  | fuel + 1, tested, line, assignments, words, rs => do
    modify (fun st => { st with line := line, outputStatus := 0 })
    let fields ← fieldsOfWords fuel none words
    let streams := (← get).streams
    -- `exec` alone keeps its redirections
    let persistent := fields = [['e', 'x', 'e', 'c']]
    let restore : Run Unit := modify (fun st => { st with streams := streams })
    let trace (assigned : List (Text × Text)) : Run Unit := do
      let st ← get
      if st.modes.trace then
        -- the trace goes where errors went before the redirections
        restore
        complain (traceWords assigned fields)
        modify (fun s => { s with streams := st.streams })
    let body : Run Unit := do
      let before ← get
      let callee := match fields with
        | [] => Callee.builtin
        | name :: _ => before.callee name
      if ← redirectAll fuel rs then
        match fields, callee with
        | [], _ =>
          let assigned ← assignAll fuel assignments
          trace assigned
          setStatus (← get).outputStatus
        | name :: args, .special =>
          let assigned ← assignAll fuel assignments
          trace assigned
          setStatus (← asCommand name (runBuiltin fuel tested name args))
        | name :: args, callee =>
          let st ← get
          -- the variables of one command are put back behind it
          let old := assignments.map (fun a => (a.1, st.binding? a.1))
          let assigned ← assignAll fuel assignments
          for (a, _) in assigned do
            if let some v := (← get).binding? a then
              putVariable a (some { v with exported := true })
          trace assigned
          let after : Run Unit := restoreVariables old
          tryCatch (do
            match callee with
            | .function body => setStatus (← callFunction fuel tested body args)
            | .builtin =>
              let status ← tryCatch (asCommand name (runBuiltin fuel tested name args)) (fun
                | .mistake n => return n
                | s => throw s)
              setStatus status
            | _ => setStatus (← runProgram fuel false name args)) (fun s => do
              after
              throw s)
          after
      else
        match callee, fields with
        -- a special command that cannot be set up ends the shell
        | .special, _ => throw (.mistake 2)
        | _, _ => setStatus 2
    let r ← tryCatch (do
      body
      return none) (fun s => return some s)
    unless persistent do restore
    match r with
    | some s => throw s
    | none => pure ()

/-- Calls a function, and gives its status. -/
def callFunction : (fuel : Nat) → (tested : Bool) → Command → List Text → Run Nat
  | 0, _, _, _ => throw (.exit 2)
  | fuel + 1, tested, body, args => do
    let outer ← get
    -- loops around the call are out of reach
    set { outer with args := args, loops := 0, saved := [] :: outer.saved }
    let leave : Run Unit := do
      for (name, v) in ((← get).saved.headD []) do putVariable name v
      modify (fun st =>
        { st with args := outer.args, loops := outer.loops, saved := outer.saved })
    let status ← tryCatch (do
      run fuel tested body
      return (← get).status) (fun
        | .return n => return n
        | s => do
          leave
          throw s)
    leave
    return status

/-- Runs a command of the shell itself. -/
def runBuiltin : (fuel : Nat) → (tested : Bool) → Text → List Text → Run Nat
  | 0, _, _, _ => throw (.exit 2)
  | fuel + 1, tested, name, args => do
    match String.ofList name, args with
    | "eval", args =>
      runScript fuel tested (Reader.start (Text.join [' '] args) 1 (← get).documents.length)
      return (← get).status
    | ".", [] => return 0
    | ".", file :: _ =>
      match ← atPath Files.readBytes file with
      | .ok b =>
        tryCatch (asCommand file (do
          runScript fuel tested (Reader.start (ofBytes b) 1 (← get).documents.length)
          return (← get).status)) (fun
            | .return n => return n
            | s => throw s)
      | .error e => mistake ("cannot open " ++ file ++ ": " ++ openReason e "No such file")
    | "exec", [] => return 0
    | "exec", program :: rest =>
      -- the shell ends here, and nothing of it is left to be done
      modify (fun st => { st with traps := [] })
      throw (.exit (← runProgram fuel true program rest))
    | "type", names => forEach (describeName (← get)) names
    | "command", ['-', 'v'] :: names => forEach (showCallee (← get)) names
    | "command", ['-', 'V'] :: names => forEach (describeName (← get)) names
    | "command", ['-', 'p'] :: rest => runBuiltin fuel tested name rest
    | "command", [] => return 0
    | "command", inner :: rest =>
      modify (fun st => { st with command := none })
      if (builtin? inner).isSome || runsOthers.contains inner then
        tryCatch (asCommand inner (runBuiltin fuel tested inner rest)) (fun
          | .mistake n => return n
          | s => throw s)
      else runProgram fuel false inner rest
    | _, args =>
      match builtin? name with
      | some f => f args
      | none => return 127

/-- Runs a program, and gives its status; `replacing` says that it takes the place of the
shell. -/
def runProgram : (fuel : Nat) → (replacing : Bool) → Text → List Text → Run Nat
  | 0, _, _, _ => throw (.exit 2)
  | fuel + 1, replacing, name, args => do
    let st ← get
    match programOf st.files st.path name with
    | .error e =>
      report (name ++ ": " ++ openReason e "not found")
      return if e = .permissionDenied then 126 else 127
    | .ok program =>
      if program = "env" then runInEnvironment fuel replacing args
      else
        match tool? program with
        | some f => f args
        | none =>
          let number := st.nextProcess
          let inherited := st.bindings.filter (fun v => v.2.exported)
          -- a shell starts anew, with the exported variables only
          set { st with
            nextProcess := number + 1, process := number, bindings := inherited
            functions := [], traps := [], pending := [], saved := [], loops := 0, inChild := false
            command := none
            lastBackground := none, status := 0, modes := ⟨false, false, false, false, false, false⟩ }
          let r ← runShell fuel name args
          set (st.resume (← get))
          match r with
          | .ok status => return status
          | .error n =>
            if replacing && !st.inChild then throw (.signal n)
            else
              unless (signalText n).isEmpty do complain (signalText n)
              return 128 + n

/-- Runs a program with more variables. -/
def runInEnvironment : (fuel : Nat) → (replacing : Bool) → List Text → Run Nat
  | 0, _, _ => throw (.exit 2)
  | _, _, [] => return 0
  | fuel + 1, replacing, a :: rest => do
    match cutAssignment a with
    | (name, some value) =>
      let old := (← get).binding? name
      putVariable name (some ⟨some value, true, false⟩)
      let status ← runInEnvironment fuel replacing rest
      putVariable name old
      return status
    | _ =>
      if a = ['-', 'i'] || a = ['-'] then
        let saved := (← get).bindings
        modify (fun st => { st with bindings := [] })
        let status ← runInEnvironment fuel replacing rest
        modify (fun st => { st with bindings := saved })
        return status
      else
        match programOf (← get).files (← get).path a with
        | .ok _ => runProgram fuel replacing a rest
        | .error e =>
          complain ("env: " ++ shownName a ++ ": " ++ reason e)
          return if e = .permissionDenied then 126 else 127

/-- Runs a shell with arguments as a process of its own. -/
def runShell : (fuel : Nat) → (name : Text) → List Text → Run (Except Nat Nat)
  | 0, _, _ => return .ok 2
  | fuel + 1, name, args => do
    modify (fun st => { st with name := name, line := 0, args := [], command := none })
    let script (t : Text) (name : Text) (args : List Text) : Run (Except Nat Nat) := do
      modify (fun st => { st with name := name, args := args })
      finish fuel (runScript fuel false (Reader.start t 1 (← get).documents.length))
    match readInvocation (args.length + 1) args with
    | .error e =>
      report e
      return .ok 2
    | .ok i =>
      -- modes given later win
      for (on, c) in i.modes do setMode on c
      match i.inArgument, i.rest with
      | true, [] =>
        report "-c requires an argument"
        return .ok 2
      | true, [t] => script t name []
      | true, t :: own :: rest => script t own rest
      | false, [] => script (← readAll 0) name []
      | false, file :: rest =>
        if i.inStream then script (← readAll 0) name (file :: rest)
        else
        match ← atPath Files.readBytes file with
        | .ok b => script (ofBytes b) file rest
        | .error e =>
          report ("cannot open " ++ file ++ ": " ++ openReason e "No such file")
          return .ok 2

/-- Runs a script line by line. -/
def runScript : (fuel : Nat) → (tested : Bool) → Reader → Run Unit
  | 0, _, _ => throw (.exit 2)
  | fuel + 1, tested, r => do
    match r.nextLine with
    | .error p =>
      modify (fun st => { st with line := p.line })
      mistake ("Syntax error: " ++ p.cause.text)
    | .ok (none, _) => pure ()
    | .ok (some c, r) =>
      modify (fun st => { st with documents := r.documents ++ st.documents })
      -- a line is done before the next is read, which may be wrong
      run fuel tested c
      runScript fuel tested { r with documents := [] }

end

/-! ## §4. Processes. -/

/-- How deep calls may nest. -/
def depth : Nat := 1000000

/-- A shell before it starts, as a process runs it in a directory. -/
def State.start (dir : Text) (files : Files) : State where
  files := files
  dir := dir
  channels := #[.nowhere, .sink [], .sink []]
  streams := [(0, 0), (1, 1), (2, 2)]
  name := []
  args := []
  bindings := []
  functions := []
  traps := []
  pending := []
  modes := ⟨false, false, false, false, false, false⟩
  status := 0
  outputStatus := 0
  line := 0
  command := none
  process := 2
  nextProcess := 3
  lastBackground := none
  documents := []
  saved := []
  loops := 0
  inChild := false

/-- How many bytes an argument of a process may have, and one more. -/
def argumentLimit : Nat := 131072

/-- Runs a program: a shell or a tool.  No file below the working directory can be run. -/
def spawn : Spawn := fun program args dir files =>
  if (program :: dir :: args).any (·.contains '\x00') then (.error .nulInArgument, files)
  else
    match files.entryAt dir with
    | .error e => (.error e, files)
    | .ok (_, .dir) =>
      let st := State.start dir files
      let (name, args) := (inward program, args.map inward)
      match programOf files st.path name with
      | .error e => (.error e, files)
      | .ok n =>
        if args.any (fun a => argumentLimit ≤ a.length) then (.error .argumentTooLong, files)
        else
          let work : Run (Except Nat Nat) :=
            if isShell n then runShell depth name args
            else finish depth (do setStatus (← runProgram depth true name args))
          let (r, st) := work.run st
          let status : Option Int :=
            match r with
            | .ok (.ok n) => some (n % 256 : Nat)
            | .error (.exit n) => some (n % 256 : Nat)
            | _ => none
          (.ok ⟨status, toBytes (written st 1), toBytes (written st 2)⟩, st.files)
    | .ok _ => (.error .notDirectory, files)

end ScriptWeave.Shell
