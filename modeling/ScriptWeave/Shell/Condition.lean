/-
  ScriptWeave.Shell.Condition
  ───────────────────────────
  **CONDITIONS.**

  A condition is given as a list of words.  Whether a word is an operator
  depends on the words around it: one that takes an operand counts as a text
  if no operand follows, or if an operator between two operands does.
-/
import ScriptWeave.Shell.Arithmetic
import ScriptWeave.Shell.FileTools

namespace ScriptWeave.Shell

/-- What a word can be in a condition. -/
inductive ConditionSign where
  /-- An operator before one operand. -/
  | unary
  /-- An operator between two operands. -/
  | binary
  /-- Anything else with a meaning. -/
  | other
  deriving Repr, DecidableEq

/-- The operators before one operand. -/
def unarySigns : List Text :=
  ["-r", "-w", "-x", "-e", "-f", "-d", "-c", "-b", "-p", "-u", "-g", "-k", "-s", "-t", "-z", "-n",
    "-h", "-O", "-G", "-L", "-S"].map String.toList

/-- The operators between two operands. -/
def binarySigns : List Text :=
  ["=", "!=", "<", ">", "-eq", "-ne", "-ge", "-gt", "-le", "-lt", "-nt", "-ot", "-ef"].map
    String.toList

/-- What a word can be, if it has a meaning. -/
def signOf? (w : Text) : Option ConditionSign :=
  if unarySigns.contains w then some .unary
  else if binarySigns.contains w then some .binary
  else if ["!", "-a", "-o", "(", ")"].contains (String.ofList w) then some .other
  else none

/-- The meaning that the first of some words has where it stands. -/
def meaning? (ws : List Text) : Option (ConditionSign × Text) :=
  match ws with
  | [] => none
  | w :: rest =>
    match signOf? w with
    | none => none
    | some .unary =>
      match rest with
      | [] => none
      | [_] => some (.unary, w)
      | next :: _ => if signOf? next = some .binary then none else some (.unary, w)
    | some s => if w = ['('] && rest.isEmpty then none else some (s, w)

/-- The evaluation of a condition: its state is the words from the one in view on. -/
abbrev Weigh := StateT (List Text) (Except Text)

/-- Passes a word. -/
def step : Weigh Unit := modify List.tail

/-- The number that an operand is. -/
def operandNumber (w : Text) : Except Text Int :=
  let t := dropSpace w
  let (negative, digits) := match t with
    | '-' :: r => (true, r)
    | '+' :: r => (false, r)
    | r => (false, r)
  let number := digits.takeWhile Char.isDigit
  if number.isEmpty || !(dropSpace (digits.drop number.length)).isEmpty then
    .error ("Illegal number: " ++ w)
  else
    let n : Int := Decimal.ofDigits number
    .ok (clamp (if negative then -n else n))

/-- Whether an operator holds of its operand. -/
def holdsOfOne (st : State) (op a : Text) : Bool :=
  let p := st.path a
  match String.ofList op with
  | "-z" => a.isEmpty
  | "-n" => !a.isEmpty
  | "-f" => st.files.isFileAt p
  | "-d" => st.files.isDirAt p
  | "-x" => st.files.isDirAt p
  | "-s" =>
    match st.files.entryAt p with
    | .ok (_, .file b) => b.size != 0
    | .ok _ => true
    | .error _ => false
  | "-h" => isLink p
  | "-L" => isLink p
  | "-e" => st.files.existsAt p
  | "-r" => st.files.existsAt p
  | "-w" => st.files.existsAt p
  | "-O" => st.files.existsAt p
  | "-G" => st.files.existsAt p
  | _ => false
where
  isLink (p : Text) : Bool :=
    match st.files.find .look p with
    | .ok (.entry _ (.link _)) => true
    | _ => false

/-- Whether one text comes strictly before another. -/
def textLess : Text → Text → Bool
  | _, [] => false
  | [], _ :: _ => true
  | a :: as, b :: bs => if a = b then textLess as bs else a < b

/-- Whether an operator holds between its operands. -/
def holdsOfTwo (st : State) (a op b : Text) : Except Text Bool := do
  match String.ofList op with
  | "=" => return a == b
  | "!=" => return a != b
  | "<" => return textLess a b
  | ">" => return textLess b a
  | "-nt" => return false
  | "-ot" => return false
  | "-ef" => return sameEntry st a b
  | o =>
    let m ← operandNumber a
    let n ← operandNumber b
    match o with
    | "-eq" => return m == n
    | "-ne" => return m != n
    | "-gt" => return n < m
    | "-ge" => return n ≤ m
    | "-lt" => return m < n
    | _ => return m ≤ n

mutual

/-- Conditions of which one is to hold. -/
def anyOf (st : State) : (fuel : Nat) → Weigh Bool
  | 0 => return false
  | fuel + 1 => do
    let a ← allOf st fuel
    if meaning? (← get).tail = some (.other, ['-', 'o']) then
      step
      step
      let b ← anyOf st fuel
      return a || b
    else return a

/-- Conditions all of which are to hold. -/
def allOf (st : State) : (fuel : Nat) → Weigh Bool
  | 0 => return false
  | fuel + 1 => do
    let a ← notOf st fuel
    if meaning? (← get).tail = some (.other, ['-', 'a']) then
      step
      step
      let b ← allOf st fuel
      return a && b
    else return a

/-- A condition that may be negated. -/
def notOf (st : State) : (fuel : Nat) → Weigh Bool
  | 0 => return false
  | fuel + 1 => do
    let ws ← get
    if meaning? ws = some (.other, ['!']) then
      unless ws.tail.isEmpty do step
      if ws.tail.isEmpty then return true
      return !(← notOf st fuel)
    else one st fuel

/-- A condition with at most one operator. -/
def one (st : State) : (fuel : Nat) → Weigh Bool
  | 0 => return false
  | fuel + 1 => do
    let ws ← get
    match ws with
    | [] => return false
    | w :: rest =>
      match meaning? ws with
      | some (.other, ['(']) =>
        step
        if meaning? rest = some (.other, [')']) then return false
        let a ← anyOf st fuel
        step
        if meaning? (← get) = some (.other, [')']) then return a
        else throw "closing paren expected".toList
      | some (.unary, op) =>
        step
        match rest with
        | [] => throw (op ++ ": argument expected")
        | a :: _ => return holdsOfOne st op a
      | _ =>
        match meaning? rest with
        | some (.binary, op) =>
          step
          step
          match rest.tail with
          | [] => throw (op ++ ": argument expected")
          | b :: _ => (holdsOfTwo st w op b : Except Text Bool)
        | _ => return !w.isEmpty

end

/-- Whether a condition holds, or what is wrong with it; `fuel` bounds the negations of a
list of three or four words, which are taken first. -/
def weigh (st : State) : (fuel : Nat) → List Text → Except Text Bool
  | 0, _ => .ok false
  | fuel + 1, ws =>
    let whole (ws : List Text) : Except Text Bool := do
      let (a, rest) ← (anyOf st (4 * ws.length + 8)).run ws
      match rest with
      | w :: _ :: _ => 
        throw ((if w.isEmpty then [] else w ++ ": ".toList) ++ "unexpected operator".toList)
      | _ => return a
    let short : Except Text Bool :=
      match ws with
      | ['('] :: inner =>
        if inner.getLast? = some [')'] && 3 ≤ ws.length && ws.length ≤ 4 then whole inner.dropLast
        else whole ws
      | ['!'] :: rest =>
        if 3 ≤ ws.length && ws.length ≤ 4 then (weigh st fuel rest).map (!·) else whole ws
      | _ => whole ws
    match ws with
    | [] => .ok false
    | [a, op, b] => if signOf? op = some .binary then holdsOfTwo st a op b else short
    | _ => short

/-- Whether the condition that words give holds. -/
def condition (st : State) (ws : List Text) : Except Text Bool := weigh st (ws.length + 1) ws

/-- Ends with the status of a condition, or complains in the name of the command. -/
def testStatus (complain : Text → Run Nat) (ws : List Text) : Run Nat := do
  match condition (← get) ws with
  | .ok b => return if b then 0 else 1
  | .error e => complain e

end ScriptWeave.Shell
