/-
  ScriptWeave.Shell.Builtins
  ──────────────────────────
  **COMMANDS OF THE SHELL ITSELF.**

  These commands change the shell that runs them: its variables, arguments,
  modes and directory, or how it goes on.  A mistake in a special one ends
  the shell; a mistake in another only fails.
-/
import ScriptWeave.Shell.Condition
import ScriptWeave.Shell.Expand
import ScriptWeave.Shell.Print

namespace ScriptWeave.Shell

/-! ## §1. Signals. -/

/-- The names of the signals, the one with number 1 first. -/
def signalNames : List Text :=
  ["HUP", "INT", "QUIT", "ILL", "TRAP", "ABRT", "BUS", "FPE", "KILL", "USR1", "SEGV", "USR2",
    "PIPE", "ALRM", "TERM", "STKFLT", "CHLD", "CONT", "STOP", "TSTP", "TTIN", "TTOU", "URG",
    "XCPU", "XFSZ", "VTALRM", "PROF", "WINCH", "IO", "PWR", "SYS"].map String.toList

/-- The number of a signal that a name or a number means; the end of the shell counts as
signal 0. -/
def signalNumber? (t : Text) : Option Nat :=
  if !t.isEmpty && t.all Char.isDigit then
    if Decimal.ofDigits t ≤ 64 then some (Decimal.ofDigits t) else none
  else
    let name := t.map Char.toUpper
    if name = "EXIT" then some 0 else (signalNames.idxOf? name).map (· + 1)

/-- The name of a signal. -/
def signalName (n : Nat) : Text :=
  if n = 0 then "EXIT" else (signalNames[n - 1]?).getD (Decimal.digits n)

/-- Whether a signal that is not trapped is without effect; those that would only halt the
process count too. -/
def isHarmless (n : Nat) : Bool := [17, 18, 19, 20, 21, 22, 23, 28].contains n

/-- Receives a signal. -/
def receive (n : Nat) : Run Unit := do
  let st ← get
  match st.traps.lookup (signalName n) with
  | some action =>
    if n = 9 then throw (.signal n)
    else unless action.isEmpty do set { st with pending := st.pending ++ [action] }
  | none => unless n = 0 || isHarmless n do throw (.signal n)

/-- What is shown of a process that a signal ended. -/
def signalText (n : Nat) : Text :=
  match n with
  | 1 => "Hangup"
  | 2 => []
  | 3 => "Quit"
  | 4 => "Illegal instruction"
  | 5 => "Trace/breakpoint trap"
  | 6 => "Aborted"
  | 7 => "Bus error"
  | 8 => "Floating point exception"
  | 9 => "Killed"
  | 10 => "User defined signal 1"
  | 11 => "Segmentation fault"
  | 12 => "User defined signal 2"
  | 13 => []
  | 14 => "Alarm clock"
  | 15 => "Terminated"
  | n => "Signal " ++ Decimal.digits n

/-! ## §2. Arguments. -/

/-- The number that an argument is; anything else is a mistake. -/
def natArgument (t : Text) : Run Nat := do
  if !t.isEmpty && t.all Char.isDigit then return Decimal.ofDigits t
  else mistake ("Illegal number: " ++ t)

/-- The name and, behind `=`, the value of an argument. -/
def cutAssignment (t : Text) : Text × Option Text :=
  let name := t.takeWhile (· != '=')
  match t.drop name.length with
  | _ :: value => (name, some value)
  | [] => (name, none)

/-- A text in single quotes. -/
def singleQuoted (t : Text) : Text := quoted (Text.replace "\x27" "\x27\"\x27\"\x27" t)

/-- Whether a text is the name of a variable. -/
def isVariableName (t : Text) : Bool :=
  (t.head?.map (fun c => c.isAlpha || c == '_')).getD false
    && t.all (fun c => c.isAlphanum || c == '_')

/-! ## §3. Variables and arguments. -/

/-- Sets the variables that arguments assign, and changes them. -/
def declare (change : Variable → Variable) (args : List Text) : Run Nat := do
  for a in args do
    if a != ['-', 'p'] then
      let (name, value) := cutAssignment a
      unless isVariableName name do mistake (name ++ ": bad variable name")
      if let some v := value then setVariable name v
      let old := ((← get).binding? name).getD ⟨none, false, false⟩
      putVariable name (some (change old))
  return 0

/-- Makes variables local to a function. -/
def local_ (args : List Text) : Run Nat := do
  match (← get).saved with
  | [] => mistake "not in a function"
  | frame :: outer =>
    let mut frame := frame
    for a in args do
      let (name, value) := cutAssignment a
      unless isVariableName name do mistake (name ++ ": bad variable name")
      let old := (← get).binding? name
      unless frame.any (fun x => x.1 == name) do frame := (name, old) :: frame
      modify (fun st => { st with saved := frame :: outer })
      if let some v := value then setVariable name v
    return 0

/-- Takes variables or functions away. -/
def unset (args : List Text) : Run Nat := do
  let functions := args.head? = some ['-', 'f']
  let names := if functions || args.head? = some ['-', 'v'] then args.tail else args
  for name in names do
    if functions then
      modify (fun st => { st with functions := st.functions.filter (fun f => f.1 != name) })
    else
      unless isVariableName name do mistake (name ++ ": bad variable name")
      match (← get).binding? name with
      | some v =>
        if v.fixed then mistake (name ++ ": is read only")
        putVariable name none
      | none =>
        modify (fun st => { st with functions := st.functions.filter (fun f => f.1 != name) })
  return 0

/-- Drops arguments. -/
def shift (args : List Text) : Run Nat := do
  let n ← match args with
    | a :: _ => natArgument a
    | [] => pure 1
  let st ← get
  if st.args.length < n then mistake "can\x27t shift that many"
  set { st with args := st.args.drop n }
  return 0

/-- The modes with one of them changed, by its letter. -/
def Modes.set? (m : Modes) (on : Bool) (c : Char) : Option Modes :=
  if c = 'e' then some { m with exitOnFailure := on }
  else if c = 'f' then some { m with noNames := on }
  else if c = 'C' then some { m with keepFiles := on }
  else if c = 'u' then some { m with noUnset := on }
  else if c = 'x' then some { m with trace := on }
  else if c = 'a' then some { m with exportAll := on }
  else if "bEhiImnsvV".toList.contains c then some m
  else none

/-- The letter of a mode with a name. -/
def modeLetter? : String → Option Char
  | "errexit" => some 'e'
  | "noglob" => some 'f'
  | "noclobber" => some 'C'
  | "nounset" => some 'u'
  | "xtrace" => some 'x'
  | "allexport" => some 'a'
  | "verbose" => some 'v'
  | "noexec" => some 'n'
  | "monitor" => some 'm'
  | "notify" => some 'b'
  | "ignoreeof" => some 'I'
  | "interactive" => some 'i'
  | "stdin" => some 's'
  | _ => none

/-- Changes the mode of a letter. -/
def setMode (on : Bool) (c : Char) : Run Unit := do
  let st ← get
  match st.modes.set? on c with
  | some m => set { st with modes := m }
  | none => mistake ("Illegal option " ++ [if on then '-' else '+', c])

/-- Reads options that change modes, and gives the other arguments back, if they are to
become the arguments of the shell. -/
def readModes : (fuel : Nat) → List Text → Run (Option (List Text))
  | 0, _ => return none
  | fuel + 1, args => do
    match args with
    | [] => return none
    | ['-', '-'] :: rest => return some rest
    | ['-'] :: rest => return if rest.isEmpty then none else some rest
    | (s :: letters) :: rest =>
      if (s = '-' || s = '+') && !letters.isEmpty then
        let on := s == '-'
        let mut rest := rest
        for c in letters do
          if c = 'o' then
            match rest with
            | name :: more =>
              match modeLetter? (String.ofList name) with
              | some l => setMode on l
              | none =>
                mistake ("Illegal option " ++ [s, 'o', ' '] ++ name)
              rest := more
            | [] => pure ()
          else setMode on c
        readModes fuel rest
      else return some args
    | _ => return some args

/-- Changes modes and arguments of the shell. -/
def set_ (args : List Text) : Run Nat := do
  if let some rest ← readModes (args.length + 1) args then
    modify (fun st => { st with args := rest })
  return 0

/-! ## §4. Reading. -/

/-- The first line of a text with backslashes resolved, each character with whether a
backslash protects it, and how many characters of the text it takes; the line may lack its
end. -/
def cutLine (raw : Bool) : (fuel : Nat) → Text → Shape × Nat × Bool
  | 0, _ => ([], 0, false)
  | _, [] => ([], 0, false)
  | fuel + 1, c :: t =>
    if c = '\n' then ([], 1, true)
    else if c = '\\' && !raw then
      match t with
      | [] => ([], 1, false)
      | '\n' :: t =>
        let (s, n, ended) := cutLine raw fuel t
        (s, n + 2, ended)
      | d :: t =>
        let (s, n, ended) := cutLine raw fuel t
        ((d, true) :: s, n + 2, ended)
    else
      let (s, n, ended) := cutLine raw fuel t
      ((c, false) :: s, n + 1, ended)

/-- Whether a character separates fields and is white space. -/
def isSeparatingSpace (separators : Text) (g : Char × Bool) : Bool :=
  !g.2 && separators.contains g.1 && (g.1 == ' ' || g.1 == '\t' || g.1 == '\n')

/-- The fields of a line for so many variables; the last variable gets all that is left. -/
def fieldsFor (separators : Text) : (count : Nat) → Shape → List Text
  | 0, _ => []
  | 1, s =>
    let s := s.dropWhile (isSeparatingSpace separators)
    [((s.reverse.dropWhile (isSeparatingSpace separators)).reverse).map (·.1)]
  | n + 1, s =>
    let s := s.dropWhile (isSeparatingSpace separators)
    let inField (g : Char × Bool) : Bool := g.2 || !separators.contains g.1
    let rest := s.dropWhile inField
    let rest := rest.dropWhile (isSeparatingSpace separators)
    let rest := match rest with
      | g :: more => if !inField g && !isSeparatingSpace separators g then more else rest
      | [] => []
    (s.takeWhile inField).map (·.1) :: fieldsFor separators n rest

/-- Reads a line into variables. -/
def read (args : List Text) : Run Nat := do
  let raw := args.head? = some ['-', 'r']
  let names := if raw then args.tail else args
  if names.isEmpty then mistake "arg count"
  for name in names do
    unless isVariableName name do mistake (name ++ ": bad variable name")
  let t ← readAll 0
  let (line, used, ended) := cutLine raw (t.length + 1) t
  unread 0 (t.drop used)
  let st ← get
  for (name, value) in names.zip (fieldsFor st.separators names.length line) do
    setVariable name value
  return if ended then 0 else 1

/-! ## §5. Going on. -/

/-- The status that an argument asks for, by default that of the last command. -/
def statusArgument (args : List Text) : Run Nat := do
  match args with
  | a :: _ => return (← natArgument a) % 256
  | [] => return (← get).status

/-- The number of loops that an argument asks for. -/
def loopArgument (args : List Text) : Run Nat := do
  match args with
  | a :: _ =>
    let n ← natArgument a
    if n = 0 then mistake ("Illegal number: " ++ a)
    return n
  | [] => return 1

/-- Goes to another directory. -/
def cd (args : List Text) : Run Nat := do
  match args.filter (fun a => a != ['-', 'P'] && a != ['-', 'L'] && a != ['-', '-']) with
  | [] => return 0
  | d :: _ =>
    let st ← get
    if d.isEmpty then return 0
    if st.files.isDirAt (st.path d) then
      set { st with dir := st.path d }
      return 0
    else
      report ("can\x27t cd to " ++ d)
      return 2

/-- Sends signals; there is no other process than the shell itself. -/
def kill (args : List Text) : Run Nat := do
  match args with
  | [] =>
    mistake "Usage: kill [-s sigspec | -signum | -sigspec] [pid | job]... or\nkill -l [exitstatus]"
  | ['-', 'l'] :: rest =>
    match rest with
    | [] =>
      out (("0".toList :: signalNames).flatMap (· ++ ['\n']))
      return 0
    | a :: _ =>
      let n ← natArgument a
      out (signalName (if 128 < n then n - 128 else n) ++ ['\n'])
      return 0
  | _ =>
    let (n, processes) ← match args with
      | [['-', 's']] => mistake "No arg for -s option"
      | ['-', 's'] :: name :: rest =>
        match signalNumber? name with
        | some n => pure (n, rest)
        | none => mistake ("invalid signal number or name: " ++ name)
      | ['-', '-'] :: rest => pure (15, rest)
      | ('-' :: name) :: rest =>
        match signalNumber? name with
        | some n => pure (n, rest)
        | none => mistake ("Illegal option -" ++ name.take 1)
      | rest => pure (15, rest)
    let mut status := 0
    for p in processes do
      let digits := match p with
        | '-' :: ds => ds
        | ds => ds
      let number ← natArgument digits
      if p = Decimal.digits (← get).process || number = 0 then receive n
      else
        report "No such process\n"
        status := 1
    return status

/-- Says what is done when a signal comes. -/
def trap (args : List Text) : Run Nat := do
  let args := if args.head? = some ['-', '-'] then args.tail else args
  match args with
  | [] =>
    for (name, action) in (← get).traps do
      out ("trap -- " ++ singleQuoted action ++ ' ' :: name ++ ['\n'])
    return 0
  | action :: signals =>
    let (action, signals) :=
      if signals.isEmpty || (!action.isEmpty && action.all Char.isDigit) then (['-'], args)
      else (action, signals)
    let mut status := 0
    for s in signals do
      match signalNumber? s with
      | none =>
        report (s ++ ": bad trap")
        status := 1
      | some n =>
        let others := (← get).traps.filter (fun t => t.1 != signalName n)
        modify (fun st =>
          { st with
            traps := if action = ['-'] then others else others ++ [(signalName n, action)] })
    return status

/-! ## §6. Printing. -/

/-- Prints, or complains if nothing can be printed. -/
def show_ (command t : Text) : Run Nat := do
  if t.isEmpty then return 0
  if ← write 1 t then return 0
  report (command ++ ": I/O error")
  return 1

/-- Prints a format with arguments. -/
def printfCommand (args : List Text) : Run Nat := do
  let args := if args.head? = some ['-', '-'] then args.tail else args
  match args with
  | [] => mistake "usage: printf format [arg ...]"
  | ('-' :: c :: _) :: _ => mistake ("Illegal option -" ++ [c])
  | format :: rest =>
    let p := printf format rest
    for c in p.complaints do report c
    let status ← show_ "printf" p.out
    match p.failure with
    | some f => mistake f
    | none => return if p.complaints.isEmpty then status else 1

/-! ## §7. All of them. -/

/-- The commands of the shell that need nothing but its state, by their names. -/
def builtin? (name : Text) : Option (List Text → Run Nat) :=
  match String.ofList name with
  | ":" => some (fun _ => return 0)
  | "true" => some (fun _ => return 0)
  | "false" => some (fun _ => return 1)
  | "echo" => some (fun args => show_ "echo" (echo args))
  | "printf" => some printfCommand
  | "test" => some (testStatus (fun t => mistake t))
  | "[" => some (fun args =>
    if args.getLast? = some [']'] then testStatus (fun t => mistake t) args.dropLast
    else mistake "missing ]")
  | "cd" => some cd
  | "pwd" => some (fun _ => do show_ "pwd" ((← get).dir ++ ['\n']))
  | "shift" => some shift
  | "set" => some set_
  | "unset" => some unset
  | "export" => some (declare (fun v => { v with exported := true }))
  | "readonly" => some (declare (fun v => { v with fixed := true }))
  | "local" => some local_
  | "read" => some read
  | "trap" => some trap
  | "kill" => some kill
  | "umask" => some (fun args => do
    if args.isEmpty then out "0022\n"
    return 0)
  | "hash" => some (fun _ => return 0)
  | "times" => some (fun _ => return 0)
  | "wait" => some (fun args => do
    match args, (← get).lastBackground with
    | [], _ => return 0
    | a :: _, some (p, status) => return if a = Decimal.digits p then status else 127
    | _, none => return 127)
  | "exit" => some (fun args => do throw (.exit (← statusArgument args)))
  | "return" => some (fun args => do throw (.return (← statusArgument args)))
  | "break" => some (fun args => do
    let n ← loopArgument args
    let loops := (← get).loops
    if loops = 0 then return 0
    throw (.break (min n loops)))
  | "continue" => some (fun args => do
    let n ← loopArgument args
    let loops := (← get).loops
    if loops = 0 then return 0
    throw (.continue (min n loops)))
  | _ => none

end ScriptWeave.Shell
