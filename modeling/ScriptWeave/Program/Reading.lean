/-
  ScriptWeave.Program.Reading
  ───────────────────────────
  **READING A SCRIPT TOKEN BY TOKEN.**

  A reading holds the next token, and what was found wrong: faults of
  literals, remarks of the grammar, and the problem that halted it.  After
  that problem the rest of the script counts as read.  Reading then goes on
  without tokens until all that was begun is closed, and what is remarked on
  meanwhile does not count.

      a halted reading stays halted, with the same problem
-/
import ScriptWeave.Program.Syntax
import ScriptWeave.Program.Token

namespace ScriptWeave.Program

/-! ## §1. The state of reading. -/

/-- What the place of reading allows. -/
structure Context where
  /-- Whether `in` is an operator. -/
  inOperator : Bool
  /-- Whether `await` is an operator. -/
  awaits : Bool
  /-- Whether `yield` is an operator. -/
  yields : Bool
  /-- Whether `return` can stand here. -/
  returns : Bool
  deriving Repr, DecidableEq

/-- The problem that halted a reading, and the number of remarks before it. -/
structure Halt where
  /-- The problem. -/
  problem : Diagnostic
  /-- The number of remarks made before. -/
  remarks : Nat
  deriving Repr, DecidableEq

/-- A script that is being read. -/
structure Reading where
  /-- The next token. -/
  next : Lexeme
  /-- The number of tokens before it. -/
  position : Nat
  /-- What the place allows. -/
  context : Context
  /-- The faults of literals. -/
  faults : List Diagnostic
  /-- The remarks of the grammar. -/
  remarks : List Diagnostic
  /-- The problem that halted the reading. -/
  halt : Option Halt
  /-- The members of objects that need a target to be right. -/
  defaults : List Nat
  /-- The number of the next such member. -/
  nextDefault : Nat
  /-- The positions of parentheses that open no parameters. -/
  noArrows : List Nat
  /-- The names exported so far. -/
  exported : List Text
  deriving Repr, DecidableEq

/-- A step of reading. -/
abbrev Parse := StateM Reading

/-- The start of a reading. -/
def Reading.start (source : Text) : Reading where
  next := (firstLexeme source).1
  position := 0
  context := ⟨true, true, false, false⟩
  faults := (firstLexeme source).2
  remarks := []
  halt := none
  defaults := []
  nextDefault := 0
  noArrows := []
  exported := []

/-! ## §2. Problems. -/

/-- Adds a remark. -/
def remark (d : Diagnostic) : Parse Unit :=
  modify (fun s => { s with remarks := s.remarks ++ [d] })

/-- Halts the reading, unless it is halted. -/
def haltWith (d : Diagnostic) : Parse Unit :=
  modify (fun s =>
    match s.halt with
    | some _ => s
    | none =>
      -- with nothing left, all that was begun closes without reading
      { s with halt := some ⟨d, s.remarks.length⟩, next := { s.next with start := [], rest := [] } })

/-- Halts the reading because nothing can start here.  If the token could not be read at all,
that is the problem. -/
def unexpected : Parse Unit := do
  let s ← get
  match s.next.token, s.faults.getLast? with
  | .finish, some d =>
    -- the fault is reported once, as the reason of the halt
    set { s with faults := s.faults.dropLast }
    haltWith d
  | .unreadable, some d =>
    set { s with faults := s.faults.dropLast }
    haltWith d
  | _, _ => haltWith .unexpectedToken

/-- Whether the reading is halted. -/
def halted : Parse Bool := do
  return (← get).halt.isSome

/-- Whether nothing more can be read. -/
def stuck : Parse Bool := do
  let s ← get
  return s.halt.isSome || s.next.token == .finish || s.next.token == .unreadable

/-! ## §3. Tokens. -/

/-- The next token. -/
def peek : Parse Token := do
  return (← get).next.token

/-- How the next token is called. -/
def found : Parse Text := do
  return (← peek).name

/-- Passes the next token. -/
def advance : Parse Unit :=
  modify (fun s =>
    let l := nextLexeme s.next.rest
    { s with next := l.1, position := s.position + 1, faults := s.faults ++ l.2 })

/-- Reads the next token again in another way. -/
def reread (f : Lexeme → Lexeme × List Diagnostic) : Parse Unit :=
  modify (fun s =>
    let l := f s.next
    { s with next := l.1, faults := s.faults ++ l.2 })

/-- What a step answers here, without taking it. -/
def look {α : Type} (p : Parse α) : Parse α := do
  let s ← get
  let a ← p
  set s
  return a

/-- Whether the next token is a mark. -/
def at? (m : Text) : Parse Bool := do
  return (← peek) == .mark m

/-- Whether the next token is a word of the language. -/
def atWord (w : Text) : Parse Bool := do
  return (← peek) == .word w

/-- Passes a mark if it is next. -/
def accept (m : Text) : Parse Bool := do
  if ← at? m then
    advance
    return true
  else return false

/-- Passes a word if it is next. -/
def acceptWord (w : Text) : Parse Bool := do
  if ← atWord w then
    advance
    return true
  else return false

/-- Passes a mark that must be next. -/
def expect (m : Text) : Parse Unit := do
  unless ← at? m do haltWith (.expected m (← found))
  advance

/-- Passes a word that must be next. -/
def expectWord (w : Text) : Parse Unit := do
  unless ← atWord w do haltWith (.expected w (← found))
  advance

/-- Whether a line ended before the next token. -/
def atNewLine : Parse Bool := do
  return (← get).next.newLine

/-! ## §4. Ends of statements. -/

/-- Whether a statement may end here without a semicolon. -/
def canEnd : Parse Bool := do
  let s ← get
  return s.next.newLine
    || s.next.token ∈ ([.mark ";", .mark "\x7d", .finish, .unreadable] : List Token)

/-- Ends a statement. -/
def endStatement : Parse Unit := do
  if ← canEnd then
    let _ ← accept ";"
  else haltWith .noSemicolon

/-! ## §5. Contexts. -/

/-- Takes a step in a changed context. -/
def within {α : Type} (change : Context → Context) (p : Parse α) : Parse α := do
  let c := (← get).context
  modify (fun s => { s with context := change c })
  let a ← p
  modify (fun s => { s with context := c })
  return a

/-- Takes a step where `in` is an operator. -/
def withIn {α : Type} (p : Parse α) : Parse α := within (fun c => { c with inOperator := true }) p

/-- Takes a step where `in` is no operator. -/
def withoutIn {α : Type} (p : Parse α) : Parse α :=
  within (fun c => { c with inOperator := false }) p

/-! ## §6. Names. -/

/-- Remarks on a name that is an operator here. -/
def checkName (t : Text) (c : Context) : Parse Unit := do
  if c.awaits && t == ("await" : Text) then remark .awaitAsName
  if c.yields && t == ("yield" : Text) then remark .yieldAsName

/-- Reads a name that is declared here. -/
def readBinding : Parse Text := do
  match ← peek with
  | .word t =>
    if isBindingWord t then
      checkName t (← get).context
      advance
      return t
    else
      haltWith (.wordAsName t)
      return t
  | _ =>
    unexpected
    return []

/-- Reads a name that is used here. -/
def readReference : Parse Expression := do
  match ← peek with
  | .word t =>
    if isBindingWord t then
      checkName t (← get).context
      advance
      return .name t
    else
      unexpected
      return .constant
  | _ =>
    unexpected
    return .constant

/-- Reads a label behind a jump. -/
def readLabel : Parse Text := do
  let c := (← get).context
  match ← peek with
  | .word t =>
    if isPlainName t || (t == ("await" : Text) && !c.awaits) || (t == ("yield" : Text) && !c.yields) then
      advance
      return t
    else
      unexpected
      return t
  | _ =>
    unexpected
    return []

/-- Reads a name behind a dot or in an export list, where every word is one. -/
def readAnyName : Parse Text := do
  match ← peek with
  | .word t =>
    advance
    return t
  | _ =>
    unexpected
    return []

/-! ## §7. Lists. -/

/-- Reads the further items of a list, and whether a comma ends them. -/
def readMore {α : Type} (closing : Text) (item : Parse α) : (fuel : Nat) → Parse (List α × Bool)
  | 0 => do
    unexpected
    return ([], false)
  | fuel + 1 => do
    if (← at? closing) || (← stuck) then return ([], false)
    unless ← at? "," do
      haltWith (.expectedSeparator closing (← found))
      return ([], false)
    advance
    if ← at? closing then return ([], true)
    let a ← item
    let rest ← readMore closing item fuel
    return (a :: rest.1, rest.2)

/-- Reads the items of a list up to its closing mark, which stays, and whether a comma ends
them.  The list also ends where nothing more can be read. -/
def readItems {α : Type} (closing : Text) (item : Parse α) (fuel : Nat) :
    Parse (List α × Bool) := do
  if (← at? closing) || (← stuck) then return ([], false)
  let a ← item
  let rest ← readMore closing item fuel
  return (a :: rest.1, rest.2)

/-- Reads the items of a list of names up to its closing mark, which stays.  `item` reads an
item, and `rest` what stands for all further items; `late` is remarked on for items behind
that. -/
def readNames {α : Type} (closing : Text) (late : Diagnostic) (item rest : Parse α) :
    (first behindRest : Bool) → (fuel : Nat) → Parse (List α)
  | _, _, 0 => do
    unexpected
    return []
  | first, behindRest, fuel + 1 => do
    if (← at? closing) || (← stuck) then return []
    unless first do
      unless ← at? "," do
        haltWith (.expectedSeparator closing (← found))
        return []
      advance
      if ← at? closing then
        -- a comma may end the list, but not behind the rest
        if behindRest then remark .restComma
        return []
    if behindRest then remark late
    if ← accept "..." then
      let a ← rest
      let more ← readNames closing late item rest false true fuel
      return a :: more
    else
      let a ← item
      let more ← readNames closing late item rest false false fuel
      return a :: more

end ScriptWeave.Program
