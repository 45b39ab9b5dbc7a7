/-
  ScriptWeave.Json.Decoder
  ────────────────────────
  **READING TYPED DATA FROM JSON.**

  A decoder reads a value in place from a text, or takes it from a value that
  was read before.  In place, faults are met in the order of the text and the
  first one wins.  A record is read from an object, whose members may stand
  in any order and may include others, or from an array of its fields in
  order.  A field that does not occur keeps its default, unless the record
  needs all of them.
-/
import ScriptWeave.Json.Lexical

namespace ScriptWeave.Json

/-! ## §1. Decoders. -/

/-- How data of a type is read. -/
structure Decoder (α : Type) where
  /-- Reads it in place. -/
  read : Text → Read α
  /-- Takes it from a value. -/
  ofValue : Value → Except Cause α

/-- What a value is, seen from outside. -/
def Value.found : Value → Found
  | .null => .null
  | .bool b => .bool b
  | .number n => .number n
  | .str t => .str t
  | .arr _ => .sequence
  | .obj _ => .map

/-- The fault of a value of the wrong kind at the start of a text, white space passed.  The
value is read as far as its kind needs; a fault in that comes first. -/
def wrongKind (expected : String) (t : Text) : Fault :=
  match t with
  | [] => .next .eofValue []
  | '[' :: _ => .behind (.wrongType .sequence expected) t
  | '{' :: _ => .behind (.wrongType .map expected) t
  | '"' :: u =>
    match stringBody u with
    | .ok (s, rest) => .behind (.wrongType (.str s) expected) rest
    | .error e => e
  | 'n' :: u => word ['u', 'l', 'l'] .null u
  | 't' :: u => word ['r', 'u', 'e'] (.bool true) u
  | 'f' :: u => word ['a', 'l', 's', 'e'] (.bool false) u
  | '-' :: u => number (readNumber true u)
  | c :: _ => if isDigit c then number (readNumber false t) else .next .expectedValue t
where
  word (letters : Text) (found : Found) (u : Text) : Fault :=
    match readWord letters u with
    | .ok rest => .behind (.wrongType found expected) rest
    | .error e => e
  number : Read Number → Fault
    | .ok (n, rest) => .behind (.wrongType (.number n) expected) rest
    | .error e => e

/-- The error of a value of the wrong kind. -/
def wrongKindOf (expected : String) (v : Value) : Cause := .wrongType v.found expected

/-! ## §2. Scalars. -/

/-- Reads a text; `expected` says what it is called in faults. -/
def textAs (expected : String) : Decoder Text where
  read t :=
    match skipSpace t with
    | '"' :: u => stringBody u
    | u => .error (wrongKind expected u)
  ofValue
    | .str t => .ok t
    | v => .error (wrongKindOf expected v)

/-- Reads a text. -/
def string : Decoder Text := textAs "a string"

/-- Reads the text of a path. -/
def path : Decoder Text := textAs "path string"

/-- Reads a text of one character. -/
def character : Decoder Char where
  read t :=
    match (textAs "a character").read t with
    | .ok ([c], rest) => .ok (c, rest)
    | .ok (s, rest) => .error (.behind (.wrongValue (.str s) "a character") rest)
    | .error e => .error e
  ofValue v :=
    match (textAs "a character").ofValue v with
    | .ok [c] => .ok c
    | .ok s => .error (.wrongValue (.str s) "a character")
    | .error e => .error e

/-- Reads `true` or `false`. -/
def boolean : Decoder Bool where
  read t :=
    match skipSpace t with
    | 't' :: u => (readWord ['r', 'u', 'e'] u).map (fun rest => (true, rest))
    | 'f' :: u => (readWord ['a', 'l', 's', 'e'] u).map (fun rest => (false, rest))
    | u => .error (wrongKind "a boolean" u)
  ofValue
    | .bool b => .ok b
    | v => .error (wrongKindOf "a boolean" v)

/-- Reads `null`. -/
def unit : Decoder Unit where
  read t :=
    match skipSpace t with
    | 'n' :: u => (readWord ['u', 'l', 'l'] u).map (fun rest => ((), rest))
    | u => .error (wrongKind "unit" u)
  ofValue
    | .null => .ok ()
    | v => .error (wrongKindOf "unit" v)

/-- Reads what the decoder reads, or `null` for its absence. -/
def optional {α : Type} (d : Decoder α) : Decoder (Option α) where
  read t :=
    match skipSpace t with
    | 'n' :: u => (readWord ['u', 'l', 'l'] u).map (fun rest => (none, rest))
    | u => (d.read u).map (fun r => (some r.1, r.2))
  ofValue
    | .null => .ok none
    | v => (d.ofValue v).map some

/-- Reads one of several names, as a text or as an object that gives the name the value
`null`. -/
def oneOf {α : Type} (known : List (Text × α)) : Decoder α where
  read t :=
    match skipSpace t with
    | [] => .error (.next .eofValue [])
    | '"' :: u => (stringBody u).bind (fun r => named r.1 r.2)
    | '{' :: u =>
      match variantName u with
      | .error e => .error e
      | .ok (name, u) =>
        match named name u with
        | .error e => .error e
        | .ok (a, u) =>
          match skipSpace u with
          | [] => .error (.next .eofObject [])
          | ':' :: u =>
            match unit.read u with
            | .error e => .error e
            | .ok (_, u) =>
              match skipSpace u with
              | [] => .error (.behind .eofObject [])
              | '}' :: rest => .ok (a, rest)
              | rest => .error (.behind .expectedValue rest)
          | u => .error (.next .expectedColon u)
    | u => .error (.next .expectedValue u)
  ofValue
    | .str name => pick name
    | .obj [(name, v)] =>
      match pick name with
      | .error e => .error e
      | .ok a => (unit.ofValue v).map (fun _ => a)
    | .obj _ => .error (.wrongValue .map "map with a single key")
    | v => .error (wrongKindOf "string or map" v)
where
  variantName (t : Text) : Read Text :=
    match skipSpace t with
    | [] => .error (.next .eofObject [])
    | '"' :: u => stringBody u
    | '}' :: u => .error (.next .expectedValue ('}' :: u))
    | u => .error (.next .keyNotString u)
  pick (name : Text) : Except Cause α :=
    match known.lookup name with
    | some a => .ok a
    | none => .error (.unknownVariant name (known.map (·.1)))
  named (name : Text) (rest : Text) : Read α :=
    match pick name with
    | .ok a => .ok (a, rest)
    | .error e => .error (.behind e rest)

/-! ## §3. Arrays. -/

/-- Whether an array goes on, and where: at an item, or behind its closing bracket.
`first` says that no item was read yet. -/
def nextItem (first : Bool) (t : Text) : Except Fault (Bool × Text) :=
  match skipSpace t with
  | [] => .error (.next .eofList [])
  | ']' :: u => .ok (false, u)
  | ',' :: u =>
    -- the item itself will find the comma wrong
    if first then .ok (true, ',' :: u)
    else
      match skipSpace u with
      | [] => .error (.next .eofValue [])
      | ']' :: v => .error (.next .trailingComma (']' :: v))
      | v => .ok (true, v)
  | u => if first then .ok (true, u) else .error (.next .expectedCommaOrBracket u)

/-- Passes the end of an array all items of which were read. -/
def closeArray (t : Text) : Except Fault Text :=
  match skipSpace t with
  | [] => .error (.next .eofList [])
  | ']' :: u => .ok u
  | ',' :: u =>
    -- a comma before the bracket has a fault of its own
    match skipSpace u with
    | ']' :: v => .error (.next .trailingComma (']' :: v))
    | v => .error (.next .trailingCharacters v)
  | u => .error (.next .trailingCharacters u)

/-- Reads items up to the closing bracket. -/
def readItems {α : Type} (d : Decoder α) : (fuel : Nat) → (first : Bool) → Text → Read (List α)
  | 0, _, t => .error (.behind .eofList t)
  | fuel + 1, first, t =>
    match nextItem first t with
    | .error e => .error e
    | .ok (false, rest) => .ok ([], rest)
    | .ok (true, u) =>
      match d.read u with
      | .error e => .error e
      | .ok (a, u) =>
        match readItems d fuel false u with
        | .error e => .error e
        | .ok (as, rest) => .ok (a :: as, rest)

/-- Reads an array of items of one kind. -/
def list {α : Type} (d : Decoder α) : Decoder (List α) where
  read t :=
    match skipSpace t with
    | '[' :: u => readItems d (u.length + 1) true u
    | u => .error (wrongKind "a sequence" u)
  ofValue
    | .arr items => items.mapM d.ofValue
    | v => .error (wrongKindOf "a sequence" v)

/-- Reads an array of two items. -/
def pair {α β : Type} (d : Decoder α) (e : Decoder β) : Decoder (α × β) where
  read t :=
    match skipSpace t with
    | '[' :: u =>
      match nextItem true u with
      | .error f => .error f
      | .ok (false, rest) => .error (.behind (.wrongLength 0 "a tuple of size 2") rest)
      | .ok (true, u) =>
        match d.read u with
        | .error f => .error f
        | .ok (a, u) =>
          match nextItem false u with
          | .error f => .error f
          | .ok (false, rest) => .error (.behind (.wrongLength 1 "a tuple of size 2") rest)
          | .ok (true, u) =>
            match e.read u with
            | .error f => .error f
            | .ok (b, u) => (closeArray u).map (fun rest => ((a, b), rest))
    | u => .error (wrongKind "a tuple of size 2" u)
  ofValue
    | .arr [] => .error (.wrongLength 0 "a tuple of size 2")
    | .arr [v] => (d.ofValue v).bind (fun _ => .error (.wrongLength 1 "a tuple of size 2"))
    | .arr (v :: w :: rest) =>
      match d.ofValue v, e.ofValue w with
      | .error f, _ => .error f
      | _, .error f => .error f
      | .ok a, .ok b =>
        if rest.isEmpty then .ok (a, b)
        else .error (.wrongLength (rest.length + 2) "fewer elements in array")
    | v => .error (wrongKindOf "a tuple of size 2" v)

/-! ## §4. Records. -/

/-- A field of a record: its name, and how reading it changes the record. -/
structure Field (σ : Type) where
  /-- The name of the field. -/
  name : Text
  /-- Reads the change the field makes. -/
  change : Decoder (σ → σ)

/-- A field that a decoder reads and a setter stores. -/
def Field.of {σ α : Type} (name : Text) (d : Decoder α) (set : α → σ → σ) : Field σ where
  name := name
  change :=
    { read := fun t => (d.read t).map (fun r => (set r.1, r.2))
      ofValue := fun v => (d.ofValue v).map set }

/-- A kind of record. -/
structure Shape (σ : Type) where
  /-- What the record is called in faults. -/
  name : String
  /-- The fields in order. -/
  fields : List (Field σ)
  /-- Whether every field must occur. -/
  complete : Bool

namespace Shape

variable {σ : Type}

/-- The field with a name. -/
def field? (s : Shape σ) (name : Text) : Option (Field σ) := s.fields.find? (·.name == name)

/-- What is expected of the length of an array. -/
def lengthText (s : Shape σ) : String :=
  let n := s.fields.length
  let ending := if n = 1 then "" else "s"
  s!"{s.name} with {n} element{ending}"

/-- The first field that must occur and is not among the names. -/
def missing? (s : Shape σ) (seen : List Text) : Option Text :=
  if s.complete then (s.fields.find? (fun f => !seen.contains f.name)).map (·.name) else none

/-- Reads the fields from an array, in order.  `n` counts the fields read. -/
def readFields (s : Shape σ) : (fields : List (Field σ)) → (n : Nat) → σ → Text → Read σ
  | [], _, a, t => (closeArray t).map (fun rest => (a, rest))
  | f :: fields, n, a, t =>
    match nextItem (n == 0) t with
    | .error e => .error e
    | .ok (false, rest) =>
      if s.complete then .error (.behind (.wrongLength n s.lengthText) rest) else .ok (a, rest)
    | .ok (true, u) =>
      match f.change.read u with
      | .error e => .error e
      | .ok (g, u) => readFields s fields (n + 1) (g a) u

/-- Whether an object goes on, and where: behind the opening quote of a name, or behind
its closing brace.  `first` says that no member was read yet. -/
def nextMember (first : Bool) (t : Text) : Except Fault (Bool × Text) :=
  match skipSpace t with
  | [] => .error (.next .eofObject [])
  | '}' :: u => .ok (false, u)
  | '"' :: u => if first then .ok (true, u) else .error (.next .expectedCommaOrBrace ('"' :: u))
  | ',' :: u =>
    if first then .error (.next .keyNotString (',' :: u))
    else
      match skipSpace u with
      | [] => .error (.next .eofValue [])
      | '"' :: v => .ok (true, v)
      | '}' :: v => .error (.next .trailingComma ('}' :: v))
      | v => .error (.next .keyNotString v)
  | u => .error (.next (if first then .keyNotString else .expectedCommaOrBrace) u)

/-- Passes the colon behind a name. -/
def colon (t : Text) : Except Fault Text :=
  match skipSpace t with
  | [] => .error (.next .eofObject [])
  | ':' :: u => .ok u
  | u => .error (.next .expectedColon u)

/-- Where a fault about the members as a whole is noticed: behind the closing brace if it
follows, else where it was due. -/
def settle (t : Text) : Text :=
  match skipSpace t with
  | '}' :: u => u
  | u => u

/-- Reads members up to the closing brace.  `seen` holds the fields that occurred. -/
def readMembers (s : Shape σ) : (fuel : Nat) → (first : Bool) → (seen : List Text) → σ → Text → Read σ
  | 0, _, _, _, t => .error (.behind .eofObject t)
  | fuel + 1, first, seen, a, t =>
    match nextMember first t with
    | .error e => .error e
    | .ok (false, rest) =>
      match s.missing? seen with
      | some name => .error (.behind (.missingField name) rest)
      | none => .ok (a, rest)
    | .ok (true, u) =>
      match stringBody u with
      | .error e => .error e
      | .ok (name, u) =>
        match s.field? name with
        | none =>
          -- the value of an unknown member only has to be well formed
          match colon u with
          | .error e => .error e
          | .ok u =>
            match skipValue u with
            | .error e => .error e
            | .ok u => readMembers s fuel false seen a u
        | some f =>
          -- known members may occur once
          if seen.contains name then .error (.behind (.duplicateField name) (settle u))
          else
            match colon u with
            | .error e => .error e
            | .ok u =>
              match f.change.read u with
              | .error e => .error e
              | .ok (g, u) => readMembers s fuel false (name :: seen) (g a) u

/-- Takes the fields from the items of an array. -/
def ofItems (s : Shape σ) : (fields : List (Field σ)) → (n : Nat) → (all : Nat) → σ → List Value →
    Except Cause σ
  | [], _, _, a, [] => .ok a
  | [], _, all, _, _ :: _ => .error (.wrongLength all "fewer elements in array")
  | _ :: _, n, _, a, [] => if s.complete then .error (.wrongLength n s.lengthText) else .ok a
  | f :: fields, n, all, a, v :: items =>
    match f.change.ofValue v with
    | .error e => .error e
    | .ok g => ofItems s fields (n + 1) all (g a) items

/-- Takes the fields from the members of an object. -/
def ofMembers (s : Shape σ) : (seen : List Text) → σ → List (Text × Value) → Except Cause σ
  | seen, a, [] =>
    match s.missing? seen with
    | some name => .error (.missingField name)
    | none => .ok a
  | seen, a, (name, v) :: members =>
    match s.field? name with
    | none => ofMembers s seen a members
    | some f =>
      match f.change.ofValue v with
      | .error e => .error e
      | .ok g => ofMembers s (name :: seen) (g a) members

/-- Reads a record, beginning with the values its fields have when they do not occur. -/
def decoder (s : Shape σ) (start : σ) : Decoder σ where
  read t :=
    match skipSpace t with
    | '[' :: u => s.readFields s.fields 0 start u
    | '{' :: u => s.readMembers (u.length + 1) true [] start u
    | u => .error (wrongKind s.name u)
  ofValue
    | .arr items => s.ofItems s.fields 0 items.length start items
    | .obj members => s.ofMembers [] start (sortMembers members)
    | v => .error (wrongKindOf s.name v)

end Shape

/-! ## §5. Whole texts. -/

/-- Reads a whole text. -/
def Decoder.decode {α : Type} (d : Decoder α) (t : Text) : Except Error α :=
  match d.read t with
  | .error e => .error (e.toError t)
  | .ok (a, rest) =>
    match skipSpace rest with
    | [] => .ok a
    | u => .error ((Fault.next .trailingCharacters u).toError t)

/-- Takes data from a value; a refusal has no position. -/
def Decoder.take {α : Type} (d : Decoder α) (v : Value) : Except Error α :=
  match d.ofValue v with
  | .ok a => .ok a
  | .error e => .error ⟨e, none⟩

mutual
/-- Reads any value. -/
def readValue : (fuel : Nat) → Text → Read Value
  | 0, t => .error (.behind .eofValue t)
  | fuel + 1, t =>
    match skipSpace t with
    | [] => .error (.next .eofValue [])
    | 'n' :: u => (readWord ['u', 'l', 'l'] u).map (fun rest => (.null, rest))
    | 't' :: u => (readWord ['r', 'u', 'e'] u).map (fun rest => (.bool true, rest))
    | 'f' :: u => (readWord ['a', 'l', 's', 'e'] u).map (fun rest => (.bool false, rest))
    | '-' :: u => (readNumber true u).map (fun r => (.number r.1, r.2))
    | '"' :: u => (stringBody u).map (fun r => (.str r.1, r.2))
    | '[' :: u => (readArray fuel true u).map (fun r => (.arr r.1, r.2))
    | '{' :: u => (readObject fuel true u).map (fun r => (.obj r.1, r.2))
    | c :: u =>
      if isDigit c then (readNumber false (c :: u)).map (fun r => (.number r.1, r.2))
      else .error (.next .expectedValue (c :: u))

/-- Reads the items of an array. -/
def readArray : (fuel : Nat) → (first : Bool) → Text → Read (List Value)
  | 0, _, t => .error (.behind .eofList t)
  | fuel + 1, first, t =>
    match nextItem first t with
    | .error e => .error e
    | .ok (false, rest) => .ok ([], rest)
    | .ok (true, u) =>
      match readValue fuel u with
      | .error e => .error e
      | .ok (v, u) => (readArray fuel false u).map (fun r => (v :: r.1, r.2))

/-- Reads the members of an object. -/
def readObject : (fuel : Nat) → (first : Bool) → Text → Read (List (Text × Value))
  | 0, _, t => .error (.behind .eofObject t)
  | fuel + 1, first, t =>
    match Shape.nextMember first t with
    | .error e => .error e
    | .ok (false, rest) => .ok ([], rest)
    | .ok (true, u) =>
      match stringBody u with
      | .error e => .error e
      | .ok (name, u) =>
        match Shape.colon u with
        | .error e => .error e
        | .ok u =>
          match readValue fuel u with
          | .error e => .error e
          | .ok (v, u) => (readObject fuel false u).map (fun r => ((name, v) :: r.1, r.2))
end

/-- Reads any value; an object keeps all its members in order. -/
def value : Decoder Value where
  read t := readValue (2 * t.length + 2) t
  ofValue v := .ok v

end ScriptWeave.Json
