/-
  ScriptWeave.Json.Value
  ──────────────────────
  **JSON VALUES AND THEIR COMPACT TEXT.**

  A number is an integer as long as it has neither fraction nor exponent and
  fits 64 bits, and a floating-point number otherwise; `1.0` is not `1`.  The
  compact text has no white space, writes the members of an object in the
  order they are held, and escapes only what must be escaped.
-/
import ScriptWeave.Decimal.Shortest

namespace ScriptWeave.Json

/-! ## §1. Values. -/

/-- A JSON number. -/
inductive Number where
  /-- An integer from zero on. -/
  | nat (n : Nat)
  /-- The negative integer `-n`. -/
  | neg (n : Nat)
  /-- A floating-point number of double precision, given by its bits. -/
  | float (bits : UInt64)
  deriving Repr, DecidableEq

/-- A JSON value. -/
inductive Value where
  /-- The value `null`. -/
  | null
  /-- `true` or `false`. -/
  | bool (b : Bool)
  /-- A number. -/
  | number (n : Number)
  /-- A text. -/
  | str (t : Text)
  /-- An array. -/
  | arr (items : List Value)
  /-- An object, with its members in order. -/
  | obj (members : List (Text × Value))
  deriving Repr

/-! ## §2. Numbers as text. -/

/-- The text of a positive decimal: positional with at least one digit on both sides of the
point from `1e-5` up to `1e16`, and outside with an exponent that always has a sign. -/
def layout (d : Decimal.Scaled) : Text :=
  let ds := Decimal.digits d.digits
  let n : Int := ds.length
  let point := n + d.exponent
  if 0 ≤ d.exponent ∧ point ≤ 16 then ds ++ List.replicate d.exponent.toNat '0' ++ ['.', '0']
  else if 0 < point ∧ point ≤ 16 then ds.take point.toNat ++ '.' :: ds.drop point.toNat
  else if -5 < point ∧ point ≤ 0 then ['0', '.'] ++ List.replicate (-point).toNat '0' ++ ds
  else
    let e := point - 1
    let exponent := (if e < 0 then '-' else '+') :: Decimal.digits e.natAbs
    match ds with
    | [c] => c :: 'e' :: exponent
    | c :: rest => c :: '.' :: rest ++ 'e' :: exponent
    | [] => []

/-- The text of a floating-point number. -/
def floatText (bits : UInt64) : Text :=
  let b := Decimal.Binary.ofBits bits
  (if Decimal.signBit bits then ['-'] else [])
    ++ (if b.mantissa = 0 then ['0', '.', '0'] else layout (Decimal.shortest b))

/-- The text of a number. -/
def Number.text : Number → Text
  | .nat n => Decimal.digits n
  | .neg n => '-' :: Decimal.digits n
  | .float bits => floatText bits

/-! ## §3. Values as text. -/

/-- The hexadecimal digit of a number below 16, in lower case. -/
def hexChar (d : Nat) : Char := if d < 10 then Char.ofNat (0x30 + d) else Char.ofNat (0x57 + d)

/-- A character inside a JSON string. -/
def escapeChar (c : Char) : Text :=
  if c = '"' then ['\\', '"']
  else if c = '\\' then ['\\', '\\']
  else if c = '\x08' then ['\\', 'b']
  else if c = '\x0c' then ['\\', 'f']
  else if c = '\n' then ['\\', 'n']
  else if c = '\r' then ['\\', 'r']
  else if c = '\t' then ['\\', 't']
  else if c.toNat < 0x20 then
    ['\\', 'u', '0', '0', hexChar (c.toNat / 16), hexChar (c.toNat % 16)]
  else [c]

/-- A text as a JSON string. -/
def stringText (t : Text) : Text := '"' :: (t.flatMap escapeChar ++ ['"'])

mutual
/-- The compact text of a value. -/
def Value.text : Value → Text
  | .null => ['n', 'u', 'l', 'l']
  | .bool true => ['t', 'r', 'u', 'e']
  | .bool false => ['f', 'a', 'l', 's', 'e']
  | .number n => n.text
  | .str t => stringText t
  | .arr items => '[' :: (itemsText items ++ [']'])
  | .obj members => '{' :: (membersText members ++ ['}'])

/-- The items of an array, separated by commas. -/
def itemsText : List Value → Text
  | [] => []
  | [v] => v.text
  | v :: rest => v.text ++ ',' :: itemsText rest

/-- The members of an object, separated by commas. -/
def membersText : List (Text × Value) → Text
  | [] => []
  | [(k, v)] => stringText k ++ ':' :: v.text
  | (k, v) :: rest => stringText k ++ ':' :: v.text ++ ',' :: membersText rest
end

/-! ## §4. Objects as maps. -/

/-- The value of the last member with a name. -/
def lookup? (members : List (Text × Value)) (name : Text) : Option Value :=
  members.foldl (fun found m => if m.1 = name then some m.2 else found) none

/-- Whether a text comes before or with another in the order of code points. -/
def textLe : Text → Text → Bool
  | [], _ => true
  | _ :: _, [] => false
  | c :: t, d :: u => if c.toNat < d.toNat then true else if d.toNat < c.toNat then false else textLe t u

/-- Puts a member into members sorted by name; a member of the same name is replaced. -/
def insertMember (name : Text) (v : Value) : List (Text × Value) → List (Text × Value)
  | [] => [(name, v)]
  | m :: rest =>
    if m.1 = name then (name, v) :: rest
    else if textLe name m.1 then (name, v) :: m :: rest
    else m :: insertMember name v rest

/-- The members sorted by name, the last of each name. -/
def sortMembers (members : List (Text × Value)) : List (Text × Value) :=
  members.foldl (fun sorted m => insertMember m.1 m.2 sorted) []

mutual
/-- The value with the members of all its objects sorted by name. -/
def Value.sorted : Value → Value
  | .arr items => .arr (sortedItems items)
  | .obj members => .obj (sortMembers (sortedMembers members))
  | v => v

/-- The items with sorted objects. -/
def sortedItems : List Value → List Value
  | [] => []
  | v :: rest => v.sorted :: sortedItems rest

/-- The members with sorted objects, in their own order. -/
def sortedMembers : List (Text × Value) → List (Text × Value)
  | [] => []
  | (k, v) :: rest => (k, v.sorted) :: sortedMembers rest
end

end ScriptWeave.Json
