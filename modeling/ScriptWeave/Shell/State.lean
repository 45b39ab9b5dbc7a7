/-
  ScriptWeave.Shell.State
  ───────────────────────
  **A SHELL AT WORK.**

  A shell has variables, arguments, functions and open streams.  A stream has
  a number and leads to a channel; several streams may lead to one channel,
  which then knows how far it was read or written.  What is run may stop a
  loop, a function or the whole shell, and what was done until then stays.
-/
import ScriptWeave.Build.Compiler
import ScriptWeave.Shell.Bytes
import ScriptWeave.Shell.Syntax

namespace ScriptWeave.Shell

/-! ## §1. Channels. -/

/-- What streams lead to. -/
inductive Channel where
  /-- Bytes that are still to be read. -/
  | source (rest : Text)
  /-- What was written, the latest first. -/
  | sink (written : List Text)
  /-- A file, and how far it was read or written. -/
  | file (l : Location) (offset : Nat) (append : Bool)
  /-- Where nothing can be read, and what is written is forgotten. -/
  | nowhere
  deriving Repr, DecidableEq

/-! ## §2. States. -/

/-- A variable. -/
structure Variable where
  /-- Its value, if it is set. -/
  value : Option Text
  /-- Whether processes see it. -/
  exported : Bool
  /-- Whether it cannot be changed. -/
  fixed : Bool
  deriving Repr, DecidableEq

/-- What a shell was told about how to run. -/
structure Modes where
  /-- It ends when a command fails. -/
  exitOnFailure : Bool
  /-- Words are not compared with names of files. -/
  noNames : Bool
  /-- Files are not overwritten. -/
  keepFiles : Bool
  /-- Parameters must not be unset. -/
  noUnset : Bool
  /-- Commands are shown before they run. -/
  trace : Bool
  /-- Variables are exported when they are set. -/
  exportAll : Bool
  deriving Repr, DecidableEq

/-- A shell. -/
structure State where
  /-- The files. -/
  files : Files
  /-- The directory it runs in. -/
  dir : Text
  /-- All channels. -/
  channels : Array Channel
  /-- The streams and the channels they lead to. -/
  streams : List (Nat × Nat)
  /-- Its name. -/
  name : Text
  /-- Its arguments. -/
  args : List Text
  /-- Its variables. -/
  bindings : List (Text × Variable)
  /-- Its functions. -/
  functions : List (Text × Command)
  /-- What is done when it ends or a signal comes, by the name of the signal. -/
  traps : List (Text × Text)
  /-- What is to be done because a signal came. -/
  pending : List Text
  /-- How it runs. -/
  modes : Modes
  /-- The status of the last command. -/
  status : Nat
  /-- The status of the last command whose output was put in. -/
  outputStatus : Nat
  /-- The line of the command. -/
  line : Nat
  /-- The command of the shell itself that runs, if one does. -/
  command : Option Text
  /-- The number of its process. -/
  process : Nat
  /-- The number that the next process gets. -/
  nextProcess : Nat
  /-- The last process that was not waited for, and its status. -/
  lastBackground : Option (Nat × Nat)
  /-- The documents in its script. -/
  documents : List (Nat × Word)
  /-- The variables of the functions that it is in, as they were outside; one list for
  each. -/
  saved : List (List (Text × Option Variable))
  /-- How many loops it is in. -/
  loops : Nat
  /-- Whether it is a shell of its own inside another. -/
  inChild : Bool

/-- Why running stops. -/
inductive Stop where
  /-- The shell ends. -/
  | exit (status : Nat)
  /-- The shell ends because of a mistake. -/
  | mistake (status : Nat)
  /-- A signal ends the process. -/
  | signal (number : Nat)
  /-- A function or file ends. -/
  | return (status : Nat)
  /-- So many loops end. -/
  | break (loops : Nat)
  /-- All but the last of so many loops end, and the last goes on. -/
  | continue (loops : Nat)
  deriving Repr, DecidableEq

/-- What a shell does. -/
abbrev Run := ExceptT Stop (StateM State)

/-! ## §3. Streams. -/

/-- The channel that a stream leads to, with its number. -/
def channelOf? (st : State) (stream : Nat) : Option (Nat × Channel) :=
  (st.streams.lookup stream).bind (fun n => (st.channels[n]?).map (fun c => (n, c)))

/-- Changes a channel. -/
def setChannel (n : Nat) (c : Channel) : Run Unit :=
  modify (fun st => { st with channels := st.channels.setIfInBounds n c })

/-- Opens a channel and gives its number. -/
def openChannel (c : Channel) : Run Nat := do
  let st ← get
  set { st with channels := st.channels.push c }
  return st.channels.size

/-- Connects a stream with a channel, or with none. -/
def connect (stream : Nat) (channel : Option Nat) : Run Unit :=
  modify (fun st =>
    let others := st.streams.filter (fun s => s.1 != stream)
    { st with streams := match channel with
      | some n => (stream, n) :: others
      | none => others })

/-- Bytes with others written over them from an offset on. -/
def writeOver (b : ByteArray) (offset : Nat) (t : Text) : ByteArray :=
  let before := b.extract 0 offset
  let gap := (List.replicate (offset - b.size) (0 : UInt8)).toByteArray
  before ++ gap ++ toBytes t ++ b.extract (offset + t.length) b.size

/-- Writes to a stream, and says whether it could. -/
def write (stream : Nat) (t : Text) : Run Bool := do
  let st ← get
  match channelOf? st stream with
  | none => return false
  | some (n, .sink written) =>
    setChannel n (.sink (t :: written))
    return true
  | some (n, .file l offset append) =>
    match st.files.get? l with
    | some (.file b) =>
      let offset := if append then b.size else offset
      set { st with files := st.files.put l (.file (writeOver b offset t)) }
      setChannel n (.file l (offset + t.length) append)
      return true
    | _ => return true
  | some (_, .source _) => return false
  | some (_, .nowhere) => return true

/-- Reads all that a stream has left. -/
def readAll (stream : Nat) : Run Text := do
  let st ← get
  match channelOf? st stream with
  | some (n, .source rest) =>
    setChannel n (.source [])
    return rest
  | some (n, .file l offset append) =>
    match st.files.get? l with
    | some (.file b) =>
      setChannel n (.file l b.size append)
      return ofBytes (b.extract offset b.size)
    | _ => return []
  | _ => return []

/-- Gives back the end of what was read, so that it is read again. -/
def unread (stream : Nat) (t : Text) : Run Unit := do
  let st ← get
  match channelOf? st stream with
  | some (n, .source rest) => setChannel n (.source (t ++ rest))
  | some (n, .file l offset append) => setChannel n (.file l (offset - t.length) append)
  | _ => pure ()

/-- What was written to a sink. -/
def written (st : State) (n : Nat) : Text :=
  match st.channels[n]? with
  | some (.sink ts) => ts.reverse.flatten
  | _ => []

/-- Prints to standard output. -/
def out (t : Text) : Run Unit := do
  let _ ← write 1 t

/-- Prints a line to standard error. -/
def complain (t : Text) : Run Unit := do
  let _ ← write 2 (t ++ ['\n'])

/-- Prints a line to standard error in the name of the shell. -/
def report (t : Text) : Run Unit := do
  let st ← get
  let command := match st.command with
    | some c => c ++ ": "
    | none => []
  complain (st.name ++ ": " ++ Decimal.digits st.line ++ ": " ++ command ++ t)

/-- Ends the shell because of a mistake. -/
def mistake {α : Type} (t : Text) : Run α := do
  report t
  throw (.mistake 2)

/-! ## §4. Files. -/

/-- A path as it is seen from the working directory of all. -/
def State.path (st : State) (p : Text) : Text :=
  if p.isEmpty then [] else Path.join st.dir (outward p)

/-- Reads something off the files at a path. -/
def atPath {α : Type} (f : Files → Text → α) (p : Text) : Run α := do
  let st ← get
  return f st.files (st.path p)

/-- Makes a change to the files at a path that may fail. -/
def changeAt (f : Files → Text → Except IoError Files) (p : Text) : Run (Except IoError Unit) := do
  let st ← get
  match f st.files (st.path p) with
  | .error e => return .error e
  | .ok s =>
    set { st with files := s }
    return .ok ()

/-- The words of an error, without its number. -/
def reason (e : IoError) : Text :=
  match Text.splitOn '(' e.text with
  | [] => []
  | first :: _ => Text.trimEnd first

/-- A name in quotes. -/
def quoted (t : Text) : Text := '\x27' :: t ++ ['\x27']

/-! ## §5. Variables. -/

/-- A variable, if there is one. -/
def State.binding? (st : State) (name : Text) : Option Variable := st.bindings.lookup name

/-- The value of a variable, if it is set. -/
def State.value? (st : State) (name : Text) : Option Text := (st.binding? name).bind (·.value)

/-- Puts a variable in place of another. -/
def putVariable (name : Text) (v : Option Variable) : Run Unit :=
  modify (fun st =>
    let others := st.bindings.filter (fun x => x.1 != name)
    { st with bindings := match v with
      | some v => others ++ [(name, v)]
      | none => others })

/-- Sets a variable. -/
def setVariable (name value : Text) : Run Unit := do
  let st ← get
  match st.binding? name with
  | some v =>
    if v.fixed then mistake (name ++ ": is read only")
    putVariable name (some { v with value := some value, exported := v.exported || st.modes.exportAll })
  | none => putVariable name (some ⟨some value, st.modes.exportAll, false⟩)

/-- The characters that separate fields. -/
def State.separators (st : State) : Text :=
  match (st.binding? "IFS").map (·.value) with
  | some (some t) => t
  | _ => " \t\n"

end ScriptWeave.Shell
