/-
  ScriptWeave.Shell.Print
  ───────────────────────
  **ESCAPES AND FORMATS.**

  What `echo` and `printf` print is described by texts with escapes.  A
  format holds directives, each of which shows the next argument; it is used
  again as long as there are arguments left that it takes.  The escape `\c`
  ends all that is printed.
-/
import ScriptWeave.Shell.Arithmetic

namespace ScriptWeave.Shell

/-! ## §1. Escapes. -/

/-- The character of an escape of one letter. -/
def letterEscape? (c : Char) : Option Char :=
  if c = 'n' then some '\n'
  else if c = 't' then some '\t'
  else if c = 'r' then some '\r'
  else if c = 'a' then some '\x07'
  else if c = 'b' then some '\x08'
  else if c = 'e' then some '\x1b'
  else if c = 'f' then some '\x0c'
  else if c = 'v' then some '\x0b'
  else if c = '\\' then some '\\'
  else none

/-- Whether a character is an octal digit. -/
def isOctal (c : Char) : Bool := '0' ≤ c && c ≤ '7'

/-- The byte that octal digits stand for. -/
def octalByte (ds : Text) : Char :=
  Char.ofNat (ds.foldl (fun n c => n * 8 + (c.toNat - 0x30)) 0 % 256)

/-- A text with its escapes resolved, and whether it was ended by one.  `skip` counts the
characters of the last escape still to be passed, and `argument` says that the text is an
argument: there a zero may come before three octal digits, and `\c` ends it. -/
def unescape (argument : Bool) : (skip : Nat) → Text → Text × Bool
  | _, [] => ([], false)
  | skip + 1, _ :: t => unescape argument skip t
  | 0, '\\' :: c :: t =>
    if argument && c = 'c' then ([], true)
    else
      let go (x : Char) (skip : Nat) :=
        let r := unescape argument skip (c :: t)
        (x :: r.1, r.2)
      match letterEscape? c with
      | some x => go x 1
      | none =>
        if isOctal c then
          let zero := argument && c = '0'
          let ds := ((if zero then t else c :: t).take 3).takeWhile isOctal
          go (octalByte ds) ((if zero then 1 else 0) + ds.length)
        else go '\\' 0
  | 0, c :: t =>
    let r := unescape argument 0 t
    (c :: r.1, r.2)

/-- What `echo` prints. -/
def echo (args : List Text) : Text :=
  let (silent, words) := match args with
    | ['-', 'n'] :: rest => (true, rest)
    | words => (false, words)
  let (t, ended) := unescape true 0 (Text.join [' '] words)
  if ended || silent then t else t ++ ['\n']

/-! ## §2. Formats. -/

/-- A number in a directive. -/
inductive FormatNumber where
  /-- None. -/
  | none
  /-- The number itself. -/
  | fixed (n : Nat)
  /-- The next argument. -/
  | argument
  deriving Repr, DecidableEq

/-- A directive. -/
structure Directive where
  /-- The flags between `%` and the width. -/
  flags : Text
  /-- The least width. -/
  width : FormatNumber
  /-- The precision. -/
  precision : FormatNumber
  /-- How the argument is shown. -/
  conversion : Char
  deriving Repr, DecidableEq

/-- A piece of a format. -/
inductive Piece where
  /-- A character. -/
  | char (c : Char)
  /-- A directive. -/
  | show (d : Directive)
  /-- A directive that means nothing. -/
  | invalid (source : Text)
  /-- A directive that the end cuts off. -/
  | unfinished
  deriving Repr, DecidableEq

/-- A width or precision at the start of a text, and what follows it. -/
def readFormatNumber (t : Text) : FormatNumber × Text :=
  match t with
  | '*' :: rest => (.argument, rest)
  | c :: _ =>
    if c.isDigit then
      let (n, rest) := readNat 10 0 t
      (.fixed n, rest)
    else (.none, t)
  | [] => (.none, [])

/-- The directive behind a `%`, and what follows it. -/
def readDirective (t : Text) : Piece × Text :=
  let flags := t.takeWhile (fun c => "#-+ 0".toList.contains c)
  let (width, afterWidth) := readFormatNumber (t.drop flags.length)
  let (precision, rest) := match afterWidth with
    | '.' :: r =>
      match readFormatNumber r with
      | (.none, rest) => (.fixed 0, rest)
      | p => p
    | r => (.none, r)
  match rest with
  | [] => (.unfinished, [])
  | c :: after =>
    if "bcsdiouxX".toList.contains c then (.show ⟨flags, width, precision, c⟩, after)
    else (.invalid ('%' :: t.take (t.length - after.length)), after)

/-- The pieces of a format whose escapes are still to be resolved. -/
def piecesOf : (fuel : Nat) → Text → List Piece
  | 0, _ => []
  | _, [] => []
  | fuel + 1, '%' :: '%' :: t => .char '%' :: piecesOf fuel t
  | fuel + 1, '%' :: t =>
    let (p, rest) := readDirective t
    p :: piecesOf fuel rest
  | fuel + 1, '\\' :: t =>
    match letterEscape? (t.headD 'x') with
    | some x => .char x :: piecesOf fuel t.tail
    | none =>
      let ds := (t.take 3).takeWhile isOctal
      if ds.isEmpty then .char '\\' :: piecesOf fuel t
      else .char (octalByte ds) :: piecesOf fuel (t.drop ds.length)
  | fuel + 1, c :: t => .char c :: piecesOf fuel t

/-- The pieces of a format. -/
def pieces (format : Text) : List Piece := piecesOf (format.length + 1) format

/-! ## §3. Showing arguments. -/

/-- What is printed, the complaints about arguments, and why printing ended early. -/
structure Printed where
  /-- What is printed. -/
  out : Text
  /-- The complaints. -/
  complaints : List Text
  /-- The arguments left. -/
  left : List Text
  /-- Whether all printing is to end. -/
  ended : Bool
  /-- Why no more can be printed. -/
  failure : Option Text
  deriving Repr, DecidableEq

/-- What has been printed so far, and the arguments left. -/
abbrev Printing := StateM Printed

/-- Takes the next argument. -/
def nextArgument : Printing (Option Text) := do
  let p ← get
  match p.left with
  | [] => return none
  | a :: rest =>
    set { p with left := rest }
    return some a

/-- Complains about an argument. -/
def complainOf (t : Text) : Printing Unit :=
  modify (fun p => { p with complaints := p.complaints ++ [t] })

/-- Prints a text. -/
def put (t : Text) : Printing Unit := modify (fun p => { p with out := p.out ++ t })

/-- The number that an argument is, with complaints if it is none. -/
def numberOf (signed : Bool) (a : Text) : Printing Int := do
  match a with
  | '"' :: rest => return Int.ofNat (rest.headD '\x00').toNat
  | '\x27' :: rest => return Int.ofNat (rest.headD '\x00').toNat
  | _ =>
    let t := dropSpace a
    let (negative, digits) := match t with
      | '-' :: r => (true, r)
      | '+' :: r => (false, r)
      | r => (false, r)
    let isNumber := (digits.head?.map Char.isDigit).getD false
    let (n, rest) := if isNumber then readNumber digits else (0, a)
    unless rest.isEmpty do
      complainOf (a ++ (if isNumber then ": not completely converted" else ": expected numeric value"))
    let v : Int := if negative then -Int.ofNat n else Int.ofNat n
    let fits := if signed then -maxInt - 1 ≤ v && v ≤ maxInt else n < 0x10000000000000000
    if rest.isEmpty && !fits then complainOf (a ++ ": Numerical result out of range")
    if signed then return clamp v
    else return if fits then v % 0x10000000000000000 else 0xffffffffffffffff

/-- The number that a width or precision is; none if it is not given. -/
def formatNumber : FormatNumber → Printing (Option Int)
  | .none => return none
  | .fixed n => return some n
  | .argument => do
    match ← nextArgument with
    | none => return some 0
    | some a => return some (← numberOf true a)

/-- A text with blanks on one side, up to a width. -/
def padTo (width : Nat) (left : Bool) (t : Text) : Text :=
  let blanks := List.replicate (width - t.length) ' '
  if left then t ++ blanks else blanks ++ t

/-- The digits of a number to a base. -/
def digitsTo (base : Nat) : (fuel n : Nat) → Text → Text
  | 0, _, acc => acc
  | fuel + 1, n, acc =>
    let d := n % base
    let c := Char.ofNat (if d < 10 then 0x30 + d else 0x57 + d)
    if n < base then c :: acc else digitsTo base fuel (n / base) (c :: acc)

/-- A number as a directive shows it. -/
def showNumber (d : Directive) (left : Bool) (width : Nat) (precision : Option Nat) (n : Int) :
    Text :=
  let magnitude := n.natAbs
  let base := if d.conversion = 'o' then 8 else if d.conversion.toLower = 'x' then 16 else 10
  let digits := if precision = some 0 && magnitude = 0 then [] else digitsTo base 65 magnitude []
  let digits := List.replicate ((precision.getD 0) - digits.length) '0' ++ digits
  let digits :=
    if d.conversion = 'o' && d.flags.contains '#' && digits.head? != some '0' then '0' :: digits
    else digits
  let signed := d.conversion = 'd' || d.conversion = 'i'
  let lead : Text :=
    if signed && n < 0 then "-"
    else if signed && d.flags.contains '+' then "+"
    else if signed && d.flags.contains ' ' then " "
    else if base = 16 && d.flags.contains '#' && magnitude != 0 then "0x"
    else []
  let zeros :=
    if d.flags.contains '0' && !left && precision.isNone then
      List.replicate (width - lead.length - digits.length) '0'
    else []
  let t := lead ++ zeros ++ digits
  padTo width left (if d.conversion = 'X' then t.map Char.toUpper else t)

/-- Prints the argument of a directive. -/
def showDirective (d : Directive) : Printing Unit := do
  let w := (← formatNumber d.width).getD 0
  let p := ((← formatNumber d.precision).filter (0 ≤ ·)).map Int.toNat
  let left := d.flags.contains '-' || w < 0
  let width := w.natAbs
  let cut (t : Text) : Text := match p with
    | some n => t.take n
    | none => t
  if d.conversion = 's' then
    put (padTo width left (cut ((← nextArgument).getD [])))
  else if d.conversion = 'b' then
    let (t, ended) := unescape true 0 ((← nextArgument).getD [])
    put (padTo width left (cut t))
    if ended then modify (fun s => { s with ended := true })
  else if d.conversion = 'c' then
    put (padTo width left [((← nextArgument).getD []).headD '\x00'])
  else
    let n ← match ← nextArgument with
      | none => pure 0
      | some a => numberOf (d.conversion = 'd' || d.conversion = 'i') a
    put (showNumber d left width p n)

/-- Prints the pieces of a format. -/
def showPieces : List Piece → Printing Unit
  | [] => return ()
  | p :: rest => do
    let s ← get
    if s.ended || s.failure.isSome then return ()
    match p with
    | .char c => put [c]
    | .show d => showDirective d
    | .invalid source => set { s with failure := some (source ++ ": invalid directive") }
    | .unfinished => set { s with failure := some "missing format character" }
    showPieces rest

/-- Prints a format as long as it takes arguments and some are left. -/
def showAll (ps : List Piece) : (fuel : Nat) → Printing Unit
  | 0 => return ()
  | fuel + 1 => do
    let before := (← get).left.length
    showPieces ps
    let s ← get
    if s.ended || s.failure.isSome || s.left.isEmpty || s.left.length = before then return ()
    showAll ps fuel

/-- What `printf` prints for a format and arguments. -/
def printf (format : Text) (args : List Text) : Printed :=
  ((showAll (pieces format) (args.length + 1)).run ⟨[], [], args, false, none⟩).2

end ScriptWeave.Shell
