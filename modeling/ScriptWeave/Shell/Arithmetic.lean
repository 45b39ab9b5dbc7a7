/-
  ScriptWeave.Shell.Arithmetic
  ────────────────────────────
  **ARITHMETIC EXPRESSIONS.**

  An expression is made of whole numbers and of variables that hold them, with
  the operators of C except `++`, `--` and the comma.  Numbers have 64 bits and
  wrap around.  An operand that decides nothing is read but not evaluated.
-/
import ScriptWeave.Decimal.Digits

namespace ScriptWeave.Shell

/-! ## §1. Numbers. -/

/-- The digit that a character is, to a base of at most 16. -/
def digitOf? (base : Nat) (c : Char) : Option Nat :=
  let d :=
    if c.isDigit then c.toNat - 0x30
    else if 'a' ≤ c && c ≤ 'f' then c.toNat - 0x57
    else if 'A' ≤ c && c ≤ 'F' then c.toNat - 0x37
    else 16
  if d < base then some d else none

/-- The number that the digits at the start of a text stand for, and what follows them. -/
def readNat (base : Nat) : (value : Nat) → Text → Nat × Text
  | n, [] => (n, [])
  | n, c :: t =>
    match digitOf? base c with
    | some d => readNat base (n * base + d) t
    | none => (n, c :: t)

/-- The number at the start of a text, hexadecimal behind `0x` and octal behind `0`, and what
follows it. -/
def readNumber (t : Text) : Nat × Text :=
  match t with
  | '0' :: x :: d :: rest =>
    if (x = 'x' || x = 'X') && (digitOf? 16 d).isSome then readNat 16 0 (d :: rest)
    else readNat 8 0 t
  | '0' :: _ => readNat 8 0 t
  | _ => readNat 10 0 t

/-- The largest number of 64 bits. -/
def maxInt : Int := 0x7fffffffffffffff

/-- A number cut off at the ends of what 64 bits hold. -/
def clamp (n : Int) : Int := max (-maxInt - 1) (min maxInt n)

/-- A number in 64 bits. -/
def wrap (n : Int) : Int := Int.bmod n 0x10000000000000000

/-- A number in decimal digits. -/
def intText (n : Int) : Text := (if n < 0 then ['-'] else []) ++ Decimal.digits n.natAbs

/-- A text without the white space at its start. -/
def dropSpace (t : Text) : Text := t.dropWhile Char.isWhitespace

/-- The whole number that a text is, white space around it aside. -/
def intOf? (t : Text) : Option Int :=
  let t := dropSpace t
  let (negative, digits) := match t with
    | '-' :: r => (true, r)
    | '+' :: r => (false, r)
    | r => (false, r)
  match digits with
  | c :: _ =>
    if c.isDigit then
      let (n, rest) := readNumber digits
      if (dropSpace rest).isEmpty then some (clamp (if negative then -n else n)) else none
    else none
  | [] => none

/-! ## §2. Tokens. -/

/-- A token of an expression. -/
inductive ArithToken where
  /-- A number. -/
  | number (n : Int)
  /-- A variable. -/
  | variable (name : Text)
  /-- An operator or a parenthesis. -/
  | sign (s : String)
  deriving Repr, DecidableEq

/-- The signs, longer ones first. -/
def signs : List String :=
  ["<<=", ">>=", "&&", "||", "==", "!=", "<=", ">=", "<<", ">>", "+=", "-=", "*=", "/=", "%=",
    "&=", "^="] ++ ["|=", "+", "-", "*", "/", "%", "<", ">", "=", "!", "~", "&", "|", "^", "?",
    ":", "(", ")"]

/-- The tokens of an expression; a character that starts none becomes a sign of its own. -/
def arithTokens : (fuel : Nat) → Text → List ArithToken
  | 0, _ => []
  | fuel + 1, t =>
    match dropSpace t with
    | [] => []
    | c :: r =>
      if c.isDigit then
        let (n, rest) := readNumber (c :: r)
        .number (clamp n) :: arithTokens fuel rest
      else if c.isAlpha || c == '_' then
        let name := (c :: r).takeWhile (fun d => d.isAlphanum || d == '_')
        .variable name :: arithTokens fuel ((c :: r).drop name.length)
      else
        match signs.find? (fun s => s.toList.isPrefixOf (c :: r)) with
        | some s => .sign s :: arithTokens fuel ((c :: r).drop s.length)
        | none => .sign (String.singleton c) :: arithTokens fuel r

/-! ## §3. Values. -/

/-- Why an expression has no value. -/
inductive ArithProblem where
  /-- A number or a variable is expected. -/
  | primary
  /-- A closing parenthesis is expected. -/
  | closing
  /-- A colon is expected. -/
  | colon
  /-- The end is expected. -/
  | finish
  /-- A division by zero. -/
  | zero
  /-- A variable holds no number. -/
  | notNumber (value : Text)
  /-- A variable is unset and must not be. -/
  | unset (name : Text)
  deriving Repr, DecidableEq

/-- The tokens still to be read, and what variables hold. -/
structure Calculation where
  /-- The tokens. -/
  rest : List ArithToken
  /-- The values that the expression assigned, the latest first. -/
  assigned : List (Text × Int)

/-- A step of a calculation. -/
abbrev Calculate := StateT Calculation (Except ArithProblem)

/-- Passes a sign if it is next. -/
def passSign (s : String) : Calculate Bool := do
  let c ← get
  match c.rest with
  | .sign x :: rest =>
    if x = s then
      set { c with rest := rest }
      return true
    else return false
  | _ => return false

/-- The binary operators that are always evaluated, with how tightly they bind. -/
def binaryLevel? : String → Option Nat
  | "|" => some 1
  | "^" => some 2
  | "&" => some 3
  | "==" => some 4
  | "!=" => some 4
  | "<" => some 5
  | ">" => some 5
  | "<=" => some 5
  | ">=" => some 5
  | "<<" => some 6
  | ">>" => some 6
  | "+" => some 7
  | "-" => some 7
  | "*" => some 8
  | "/" => some 8
  | "%" => some 8
  | _ => none

/-- A truth value as a number. -/
def ofBool (b : Bool) : Int := if b then 1 else 0

/-- A number as its 64 bits. -/
def bits (n : Int) : UInt64 := UInt64.ofInt n

/-- The number that 64 bits are. -/
def ofBits (n : UInt64) : Int := Int.bmod (Int.ofNat n.toNat) 0x10000000000000000

/-- What a binary operator makes of two numbers. -/
def applyBinary (op : String) (a b : Int) : Except ArithProblem Int :=
  match op with
  | "|" => .ok (ofBits (bits a ||| bits b))
  | "^" => .ok (ofBits (bits a ^^^ bits b))
  | "&" => .ok (ofBits (bits a &&& bits b))
  | "==" => .ok (ofBool (a == b))
  | "!=" => .ok (ofBool (a != b))
  | "<" => .ok (ofBool (a < b))
  | ">" => .ok (ofBool (b < a))
  | "<=" => .ok (ofBool (a ≤ b))
  | ">=" => .ok (ofBool (b ≤ a))
  | "<<" => .ok (wrap (a * Int.ofNat (Nat.pow 2 (b % 64).toNat)))
  | ">>" => .ok (a.fdiv (Int.ofNat (Nat.pow 2 (b % 64).toNat)))
  | "+" => .ok (wrap (a + b))
  | "-" => .ok (wrap (a - b))
  | "*" => .ok (wrap (a * b))
  | "/" => if b = 0 then .error .zero else .ok (wrap (a.tdiv b))
  | _ => if b = 0 then .error .zero else .ok (wrap (a.tmod b))

/-- The operator of an assignment that is more than an assignment. -/
def assignOperator? : String → Option String
  | "=" => some "="
  | "+=" => some "+"
  | "-=" => some "-"
  | "*=" => some "*"
  | "/=" => some "/"
  | "%=" => some "%"
  | "<<=" => some "<<"
  | ">>=" => some ">>"
  | "&=" => some "&"
  | "^=" => some "^"
  | "|=" => some "|"
  | _ => none

/-- What a variable holds. -/
def valueOf (values : Text → Except ArithProblem Int) (name : Text) : Calculate Int := do
  match (← get).assigned.lookup name with
  | some n => return n
  | none => values name

mutual

/-- An assignment or a choice; `skipped` says that its value decides nothing. -/
def assignment (values : Text → Except ArithProblem Int) :
    (fuel : Nat) → (skipped : Bool) → Calculate Int
  | 0, _ => throw .primary
  | fuel + 1, skipped => do
    let c ← get
    match c.rest with
    | .variable name :: .sign s :: rest =>
      match assignOperator? s with
      | some op =>
        set { c with rest := rest }
        let value ← assignment values fuel skipped
        if skipped then return value
        let value ← if op = "=" then pure value else applyBinary op (← valueOf values name) value
        modify (fun c => { c with assigned := (name, value) :: c.assigned })
        return value
      | none => conditional values fuel skipped
    | _ => conditional values fuel skipped

/-- A choice between two values. -/
def conditional (values : Text → Except ArithProblem Int) :
    (fuel : Nat) → (skipped : Bool) → Calculate Int
  | 0, _ => throw .primary
  | fuel + 1, skipped => do
    let a ← disjunction values fuel skipped
    if ← passSign "?" then
      let b ← assignment values fuel (skipped || a = 0)
      unless ← passSign ":" do throw .colon
      let c ← conditional values fuel (skipped || a != 0)
      return if a = 0 then c else b
    else return a

/-- Values of which one is to be true. -/
def disjunction (values : Text → Except ArithProblem Int) :
    (fuel : Nat) → (skipped : Bool) → Calculate Int
  | 0, _ => throw .primary
  | fuel + 1, skipped => do
    let a ← conjunction values fuel skipped
    if ← passSign "||" then
      let b ← disjunction values fuel (skipped || a != 0)
      return ofBool (a != 0 || b != 0)
    else return a

/-- Values all of which are to be true. -/
def conjunction (values : Text → Except ArithProblem Int) :
    (fuel : Nat) → (skipped : Bool) → Calculate Int
  | 0, _ => throw .primary
  | fuel + 1, skipped => do
    let a ← primary values fuel skipped
    let a ← operators values fuel skipped 1 a
    if ← passSign "&&" then
      let b ← conjunction values fuel (skipped || a = 0)
      return ofBool (a != 0 && b != 0)
    else return a

/-- A value with the operators behind it that bind at least so tightly. -/
def operators (values : Text → Except ArithProblem Int) :
    (fuel : Nat) → (skipped : Bool) → (level : Nat) → Int → Calculate Int
  | 0, _, _, _ => throw .primary
  | fuel + 1, skipped, level, a => do
    let c ← get
    match c.rest with
    | .sign s :: rest =>
      match binaryLevel? s with
      | some l =>
        if l < level then return a
        set { c with rest := rest }
        let b ← primary values fuel skipped
        let b ← operators values fuel skipped (l + 1) b
        let v ← if skipped then pure b else applyBinary s a b
        operators values fuel skipped level v
      | none => return a
    | _ => return a

/-- A number, a variable, a value in parentheses, or one with an operator before it. -/
def primary (values : Text → Except ArithProblem Int) :
    (fuel : Nat) → (skipped : Bool) → Calculate Int
  | 0, _ => throw .primary
  | fuel + 1, skipped => do
    let c ← get
    match c.rest with
    | .number n :: rest =>
      set { c with rest := rest }
      return n
    | .variable name :: rest =>
      set { c with rest := rest }
      if skipped then return 0 else valueOf values name
    | .sign s :: rest =>
      set { c with rest := rest }
      match s with
      | "(" =>
        let a ← assignment values fuel skipped
        unless ← passSign ")" do throw .closing
        return a
      | "+" => primary values fuel skipped
      | "-" => return wrap (-(← primary values fuel skipped))
      | "!" => return ofBool ((← primary values fuel skipped) = 0)
      | "~" => return wrap (-(← primary values fuel skipped) - 1)
      | _ => throw .primary
    | [] => throw .primary

end

/-- The value of an expression, and the values that it assigned, the latest first. -/
def calculate (values : Text → Except ArithProblem Int) (t : Text) :
    Except ArithProblem (Int × List (Text × Int)) := do
  let tokens := arithTokens (t.length + 1) t
  let (n, c) ← (assignment values (8 * tokens.length + 8) false).run ⟨tokens, []⟩
  if c.rest.isEmpty then return (n, c.assigned) else throw .finish

end ScriptWeave.Shell
