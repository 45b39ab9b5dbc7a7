/-
  ScriptWeave.Json.Lexical
  ────────────────────────
  **STRINGS, NUMBERS AND WORDS OF JSON.**

  Every reader takes what is unread and returns what it read with what is
  left, or a fault.  A value nobody asks for is passed by `skipValue`, which
  checks its form only: its numbers may have any size and its surrogates need
  no partners.
-/
import ScriptWeave.Json.Error

namespace ScriptWeave.Json

/-- A result with what is left unread. -/
abbrev Read (α : Type) := Except Fault (α × Text)

/-! ## §1. White space and words. -/

/-- Whether a character is white space between values. -/
def isSpace (c : Char) : Bool := c = ' ' || c = '\n' || c = '\t' || c = '\r'

/-- Passes white space. -/
def skipSpace (t : Text) : Text := t.dropWhile isSpace

/-- Passes the given letters, the rest of a word. -/
def readWord : (word : Text) → Text → Except Fault Text
  | [], t => .ok t
  | _ :: _, [] => .error (.behind .eofValue [])
  | c :: word, d :: t => if c = d then readWord word t else .error (.next .expectedIdent (d :: t))

/-! ## §2. Strings. -/

/-- The value of a hexadecimal digit. -/
def hexValue? (c : Char) : Option Nat :=
  if '0' ≤ c ∧ c ≤ '9' then some (c.toNat - 0x30)
  else if 'a' ≤ c ∧ c ≤ 'f' then some (c.toNat - 0x57)
  else if 'A' ≤ c ∧ c ≤ 'F' then some (c.toNat - 0x37)
  else none

/-- The four hexadecimal digits of an escape. -/
def readFour (t : Text) : Read Nat :=
  match t with
  | a :: b :: c :: d :: rest =>
    match hexValue? a, hexValue? b, hexValue? c, hexValue? d with
    | some a, some b, some c, some d => .ok (((a * 16 + b) * 16 + c) * 16 + d, rest)
    | _, _, _, _ => .error ⟨.invalidEscape, t, 4⟩
  | _ =>
    -- fewer than four bytes are the end of the text, not a wrong escape
    if Text.byteSize t < 4 then .error (.behind .eofString []) else .error ⟨.invalidEscape, t, 4⟩

/-- The character that a one-letter escape stands for. -/
def shortEscape? (c : Char) : Option Char :=
  match c with
  | '"' => some '"'
  | '\\' => some '\\'
  | '/' => some '/'
  | 'b' => some '\x08'
  | 'f' => some '\x0c'
  | 'n' => some '\n'
  | 'r' => some '\r'
  | 't' => some '\t'
  | _ => none

/-- The character of an escape `\u`, whose letter is read.  A high surrogate needs an
escape with a low one behind it. -/
def readUnicode (t : Text) : Read Char :=
  match readFour t with
  | .error e => .error e
  | .ok (n, rest) =>
    if 0xdc00 ≤ n ∧ n ≤ 0xdfff then .error (.behind .loneSurrogate rest)
    -- no surrogate at all
    else if n < 0xd800 ∨ 0xdbff < n then .ok (Char.ofNat n, rest)
    else
      match rest with
      | [] => .error (.behind .eofString [])
      | '\\' :: [] => .error (.behind .eofString [])
      | '\\' :: 'u' :: rest =>
        match readFour rest with
        | .error e => .error e
        | .ok (m, rest) =>
          if 0xdc00 ≤ m ∧ m ≤ 0xdfff then
            .ok (Char.ofNat (0x10000 + (n - 0xd800) * 0x400 + (m - 0xdc00)), rest)
          else .error (.behind .loneSurrogate rest)
      | '\\' :: rest => .error (.next .endOfHexEscape rest)
      | rest => .error (.next .endOfHexEscape rest)

/-- The rest of a string behind its opening quote. -/
def readString : (fuel : Nat) → Text → Read Text
  | 0, t => .error (.behind .eofString t)
  | _ + 1, [] => .error (.behind .eofString [])
  | fuel + 1, c :: t =>
    if c = '"' then .ok ([], t)
    else if c = '\\' then
      match t with
      | [] => .error (.behind .eofString [])
      | 'u' :: u =>
        match readUnicode u with
        | .error e => .error e
        | .ok (c, u) => push c (readString fuel u)
      | e :: u =>
        match shortEscape? e with
        | some c => push c (readString fuel u)
        | none => .error (.next .invalidEscape (e :: u))
    else if c.toNat < 0x20 then .error (.next .controlCharacter (c :: t))
    else push c (readString fuel t)
where
  push (c : Char) : Read Text → Read Text
    | .ok (s, rest) => .ok (c :: s, rest)
    | .error e => .error e

/-- A string behind its opening quote. -/
def stringBody (t : Text) : Read Text := readString (t.length + 1) t

/-- Passes a string behind its opening quote. -/
def skipString : (fuel : Nat) → Text → Except Fault Text
  | 0, t => .error (.behind .eofString t)
  | _ + 1, [] => .error (.behind .eofString [])
  | fuel + 1, c :: t =>
    if c = '"' then .ok t
    else if c = '\\' then
      match t with
      | [] => .error (.behind .eofString [])
      | 'u' :: u =>
        match readFour u with
        | .error e => .error e
        | .ok (_, u) => skipString fuel u
      | e :: u =>
        match shortEscape? e with
        | some _ => skipString fuel u
        | none => .error (.next .invalidEscape (e :: u))
    else if c.toNat < 0x20 then .error (.behind .controlCharacter (c :: t))
    else skipString fuel t

/-! ## §3. Numbers. -/

/-- Whether a character is a decimal digit. -/
def isDigit (c : Char) : Bool := Decimal.isDigit c

/-- The digits at the start of a text, and what follows them. -/
def spanDigits (t : Text) : Text × Text := (t.takeWhile isDigit, t.dropWhile isDigit)

/-- The greatest integer that is kept as one. -/
def maxInteger : Nat := 0xffffffffffffffff

/-- The digits that still fit `maxInteger` behind the number `n`: the number with them,
how many they are, and what follows. -/
def takeFitting (n : Nat) : Text → Nat × Nat × Text
  | [] => (n, 0, [])
  | c :: t =>
    if isDigit c && 10 * n + Decimal.digitValue c ≤ maxInteger then
      let (m, k, rest) := takeFitting (10 * n + Decimal.digitValue c) t
      (m, k + 1, rest)
    else (n, 0, c :: t)

/-- The double nearest to a power of ten up to `10 ^ 308`. -/
def powerOfTen (k : Nat) : Float := Float.ofScientific 1 false k

/-- The double `n · 10^e`, by one rounded multiplication or by rounded divisions; nothing
if it is too large. -/
def scale (n : Nat) (e : Int) : Option Float :=
  go 8 n.toUInt64.toFloat e
where
  go : (fuel : Nat) → Float → Int → Option Float
    | 0, f, _ => some f
    | fuel + 1, f, e =>
      -- further powers of ten are no doubles
      if e.natAbs ≤ 308 then
        if 0 ≤ e then
          let g := f * powerOfTen e.natAbs
          if g.isInf then none else some g
        else some (f / powerOfTen e.natAbs)
      else if f == 0 then some f
      else if 0 ≤ e then none
      else go fuel (f / powerOfTen 308) (e + 308)

/-- A floating-point number from its sign, its digits as an integer and its exponent. -/
def floatOf (negative : Bool) (n : Nat) (e : Int) (rest : Text) : Read Number :=
  match scale n e with
  | none => .error (.behind .numberOutOfRange rest)
  | some f => .ok (.float (if negative then -f else f).toBits, rest)

/-- The exponent of a number behind its letter.  `e` is the exponent of its last digit. -/
def readExponent (negative : Bool) (n : Nat) (e : Int) (t : Text) : Read Number :=
  let (minus, u) := match t with
    | '+' :: u => (false, u)
    | '-' :: u => (true, u)
    | u => (false, u)
  match u with
  | [] => .error (.behind .eofValue [])
  | c :: v =>
    if isDigit c then go minus v.length (Decimal.digitValue c) v else .error (.next .invalidNumber u)
where
  go (minus : Bool) : (fuel : Nat) → (x : Nat) → Text → Read Number
    | fuel + 1, x, c :: v =>
      if isDigit c then
        let y := 10 * x + Decimal.digitValue c
        if y < 0x80000000 then go minus fuel y v
        -- an exponent that large decides: too large, or zero
        else if n ≠ 0 && !minus then .error (.behind .numberOutOfRange v)
        else .ok (.float (if negative then -0.0 else 0.0 : Float).toBits, (spanDigits v).2)
      else floatOf negative n (if minus then e - x else e + x) (c :: v)
    | _, x, v => floatOf negative n (if minus then e - x else e + x) v

/-- What follows the digits of a number: an exponent or nothing. -/
def readTail (negative : Bool) (n : Nat) (e : Int) (t : Text) : Read Number :=
  match t with
  | 'e' :: u => readExponent negative n e u
  | 'E' :: u => readExponent negative n e u
  | u => floatOf negative n e u

/-- The fraction of a number behind its point. -/
def readFraction (negative : Bool) (n : Nat) (e : Int) (t : Text) : Read Number :=
  let (m, k, rest) := takeFitting n t
  match rest with
  | c :: _ =>
    -- digits that do not fit are passed
    if isDigit c then readTail negative m (e - k) (spanDigits rest).2
    else if k = 0 then .error (.next .invalidNumber rest)
    else readTail negative m (e - k) rest
  | [] => if k = 0 then .error (.next .eofValue []) else readTail negative m (e - k) []

/-- A number behind its sign. -/
def readNumber (negative : Bool) (t : Text) : Read Number :=
  match t with
  | [] => .error (.behind .eofValue [])
  | '0' :: rest =>
    match rest with
    | c :: _ => if isDigit c then .error (.next .invalidNumber rest) else whole 0 rest
    | [] => whole 0 []
  | c :: rest =>
    if isDigit c then
      let (n, _, rest) := takeFitting (Decimal.digitValue c) rest
      match rest with
      | d :: _ =>
        if isDigit d then
          -- digits that do not fit only count for the exponent
          let (more, rest) := spanDigits rest
          match rest with
          | '.' :: u => readFraction negative n more.length u
          | u => readTail negative n more.length u
        else whole n rest
      | [] => whole n []
    else .error (.next .invalidNumber t)
where
  whole (n : Nat) (rest : Text) : Read Number :=
    match rest with
    | '.' :: u => readFraction negative n 0 u
    | 'e' :: u => readExponent negative n 0 u
    | 'E' :: u => readExponent negative n 0 u
    | u =>
      if !negative then .ok (.nat n, u)
      -- negative zero and what is too small for an integer become doubles
      else if n = 0 ∨ 0x8000000000000000 < n then .ok (.float (-(n.toUInt64.toFloat)).toBits, u)
      else .ok (.neg n, u)

/-- Passes a number behind its sign. -/
def skipNumber (t : Text) : Except Fault Text :=
  match t with
  | [] => .error (.behind .invalidNumber [])
  | '0' :: rest =>
    match rest with
    | c :: _ => if isDigit c then .error (.next .invalidNumber rest) else fraction rest
    | [] => .ok []
  | c :: rest => if isDigit c then fraction (spanDigits rest).2 else .error (.next .invalidNumber t)
where
  fraction : Text → Except Fault Text
    | '.' :: u =>
      match spanDigits u with
      | ([], rest) => .error (.next .invalidNumber rest)
      | (_ :: _, rest) => exponent rest
    | u => exponent u
  exponent : Text → Except Fault Text
    | 'e' :: u => digits (sign u)
    | 'E' :: u => digits (sign u)
    | u => .ok u
  sign : Text → Text
    | '+' :: u => u
    | '-' :: u => u
    | u => u
  digits (u : Text) : Except Fault Text :=
    match spanDigits u with
    | ([], rest) => .error (.next .invalidNumber rest)
    | (_ :: _, rest) => .ok rest

/-! ## §4. Values nobody asks for. -/

mutual
/-- Passes a value. -/
def skipValueFrom : (fuel : Nat) → Text → Except Fault Text
  | 0, t => .error (.behind .eofValue t)
  | fuel + 1, t =>
    match skipSpace t with
    | [] => .error (.next .eofValue [])
    | 'n' :: u => readWord ['u', 'l', 'l'] u
    | 't' :: u => readWord ['r', 'u', 'e'] u
    | 'f' :: u => readWord ['a', 'l', 's', 'e'] u
    | '-' :: u => skipNumber u
    | '"' :: u => skipString (u.length + 1) u
    | '[' :: u =>
      match skipSpace u with
      | [] => .error (.next .eofList [])
      | ']' :: v => .ok v
      | v => skipItems fuel v
    | '{' :: u =>
      match skipSpace u with
      | [] => .error (.next .eofObject [])
      | '}' :: v => .ok v
      | v => skipMembers fuel v
    | c :: u => if isDigit c then skipNumber (c :: u) else .error (.next .expectedValue (c :: u))

/-- Passes the items of an array, from an item to the closing bracket. -/
def skipItems : (fuel : Nat) → Text → Except Fault Text
  | 0, t => .error (.behind .eofList t)
  | fuel + 1, t =>
    match skipValueFrom fuel t with
    | .error e => .error e
    | .ok u =>
      match skipSpace u with
      | [] => .error (.next .eofList [])
      | ',' :: v => skipItems fuel v
      | ']' :: v => .ok v
      | v => .error (.next .expectedCommaOrBracket v)

/-- Passes the members of an object, from a name to the closing brace. -/
def skipMembers : (fuel : Nat) → Text → Except Fault Text
  | 0, t => .error (.behind .eofObject t)
  | fuel + 1, t =>
    match skipSpace t with
    | [] => .error (.next .eofObject [])
    | '"' :: u =>
      match skipString (u.length + 1) u with
      | .error e => .error e
      | .ok u =>
        match skipSpace u with
        | [] => .error (.next .eofObject [])
        | ':' :: u =>
          match skipValueFrom fuel u with
          | .error e => .error e
          | .ok u =>
            match skipSpace u with
            | [] => .error (.next .eofObject [])
            | ',' :: v => skipMembers fuel v
            | '}' :: v => .ok v
            | v => .error (.next .expectedCommaOrBrace v)
        | u => .error (.next .expectedColon u)
    | u => .error (.next .keyNotString u)
end

/-- Passes a value. -/
def skipValue (t : Text) : Except Fault Text := skipValueFrom (2 * t.length + 2) t

end ScriptWeave.Json
