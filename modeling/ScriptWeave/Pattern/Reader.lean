/-
  ScriptWeave.Pattern.Reader
  ──────────────────────────
  **READING A PATTERN.**

  The text of a pattern is read from left to right and the first fault met
  wins; that a group or class is not closed is only noticed at the end, where
  the innermost open one is reported.

  Of the flags only `x`, by which white space and comments are skipped, matters
  here.  It holds from where it is written to the end of the group around it.
-/
import ScriptWeave.Pattern.Syntax

namespace ScriptWeave.Pattern

/-! ## §1. The state of the reader. -/

/-- Where the reader stands. -/
structure Reader where
  /-- What is still to be read. -/
  rest : Text
  /-- Whether white space and comments are skipped. -/
  spaced : Bool := false
  /-- The groups numbered so far. -/
  groups : Nat := 0
  /-- The group names so far, each with where it stands. -/
  names : List (Text × Stretch) := []

/-- Passes white space and comments, if they are to be skipped. -/
def skipSpaced (spaced : Bool) (t : Text) : Text :=
  if spaced then go false t else t
where
  go : (comment : Bool) → Text → Text
    | _, [] => []
    | true, c :: t => go (c ≠ '\n') t
    | false, c :: t => if isBlank c then go false t else if c = '#' then go true t else c :: t

/-- Passes white space. -/
def skipBlank (t : Text) : Text := t.dropWhile isBlank

/-- Passes white space and, if any was passed, comments if they are to be skipped. -/
def skipBlankSpaced (spaced : Bool) (t : Text) : Text :=
  match t with
  | c :: u => if isBlank c then skipSpaced spaced (skipBlank u) else t
  | [] => []

/-! ## §2. Numbers and escapes. -/

/-- The value of a hexadecimal digit. -/
def hexValue? (c : Char) : Option Nat :=
  if '0' ≤ c ∧ c ≤ '9' then some (c.toNat - 0x30)
  else if 'a' ≤ c ∧ c ≤ 'f' then some (c.toNat - 0x57)
  else if 'A' ≤ c ∧ c ≤ 'F' then some (c.toNat - 0x37)
  else none

/-- Whether a number is the code point of a character. -/
def isScalar (n : Nat) : Bool := n < 0xd800 || (0xdfff < n && n < 0x110000)

/-- The value of digits to a base. -/
def ofDigits (base : Nat) (ds : List Nat) : Nat := ds.foldl (fun n d => base * n + d) 0

/-- The digits of a number, and what follows them. -/
def readDigits (spaced : Bool) : (fuel : Nat) → Text → List Nat × Text
  | fuel + 1, c :: t =>
    if '0' ≤ c ∧ c ≤ '9' then
      let (ds, rest) := readDigits spaced fuel (skipSpaced spaced t)
      ((c.toNat - 0x30) :: ds, rest)
    else ([], c :: t)
  | _, t => ([], t)

/-- A number of a counted repetition, with the white space around it, and what follows it;
in place of the number its fault, if it is absent or too large. -/
def readCount (spaced : Bool) (t : Text) : Except Fault Nat × Text :=
  let start := skipBlank t
  let (ds, stop) := readDigits spaced start.length start
  let count :=
    if ds.isEmpty then .error (.between .countEmpty start stop)
    else if ofDigits 10 ds < 0x100000000 then .ok (ofDigits 10 ds)
    else .error (.between .decimalInvalid start stop)
  (count, skipBlankSpaced spaced stop)

/-- A code point after `\x`, `\u` or `\U`: in braces, or with a fixed number of digits. -/
def readHex (spaced : Bool) (digits : Nat) (t : Text) : Except Fault (Char × Text) :=
  match skipSpaced spaced t with
  | [] => .error (.between .escapeUnfinished [] [])
  | '{' :: r => braced ('{' :: r) (r.length + 1) [] (skipSpaced spaced r)
  | c :: r => fixed (c :: r) digits [] (c :: r)
where
  done (start stop : Text) (ds : List Nat) (rest : Text) : Except Fault (Char × Text) :=
    -- the digits were collected last first
    let n := ofDigits 16 ds.reverse
    if isScalar n then .ok (Char.ofNat n, rest) else .error (.between .hexInvalid start stop)
  fixed (start : Text) : Nat → List Nat → Text → Except Fault (Char × Text)
    | 0, ds, r => done start r ds r
    | _ + 1, _, [] => .error (.between .escapeUnfinished [] [])
    | n + 1, ds, c :: r =>
      match hexValue? c with
      | some d => fixed start n (d :: ds) (skipSpaced spaced r)
      | none => .error (.head .hexDigit (c :: r))
  braced (brace : Text) : Nat → List Nat → Text → Except Fault (Char × Text)
    | _, _, [] => .error (.between .escapeUnfinished brace [])
    | 0, _, r => .error (.between .escapeUnfinished brace r)
    | fuel + 1, ds, c :: r =>
      if c = '}' then
        let rest := skipSpaced spaced r
        if ds.isEmpty then .error (.between .hexEmpty brace rest)
        else done brace.tail (c :: r) ds rest
      else
        match hexValue? c with
        | some d => braced brace fuel (d :: ds) (skipSpaced spaced r)
        | none => .error (.head .hexDigit (c :: r))

/-- The characters that mean something in a pattern. -/
def isMeta (c : Char) : Bool := "\\.+*?()|[]\x7b\x7d^$#&-~".toList.contains c

/-- Whether a backslash before the character stands for the character itself. -/
def isEscapable (c : Char) : Bool :=
  isMeta c || (c.toNat < 0x80 && !c.isAlphanum && c ≠ '<' && c ≠ '>')

/-- The anchors that can be named behind `\b`. -/
def namedAnchor? : String → Option Anchor
  | "start" => some .wordStart
  | "end" => some .wordEnd
  | "start-half" => some .wordStartHalf
  | "end-half" => some .wordEndHalf
  | _ => none

/-- The letters of a name behind `\b{`, and what follows them. -/
def readLetters (spaced : Bool) : (fuel : Nat) → Text → Text × Text
  | fuel + 1, c :: t =>
    if c.isAlpha || c = '-' then
      let (name, rest) := readLetters spaced fuel (skipSpaced spaced t)
      (c :: name, rest)
    else ([], c :: t)
  | _, t => ([], t)

/-- The anchor of the escape `\b` at `start`, whose opening brace is next.  Braces without
a letter behind them belong to a counted repetition. -/
def readWordEdge (spaced : Bool) (start brace : Text) : Except Fault (Anchor × Text) :=
  match skipSpaced spaced brace.tail with
  | [] => .error (.between .edgeUnfinished start [])
  | c :: t =>
    if c.isAlpha || c = '-' then
      let (name, rest) := readLetters spaced (t.length + 1) (c :: t)
      match rest with
      | '\x7d' :: after =>
        match namedAnchor? (String.ofList name) with
        | some a => .ok (a, after)
        | none => .error (.between .edgeUnrecognized (c :: t) rest)
      | rest => .error (.between .edgeUnclosed brace rest)
    -- the brace stays unread: it belongs to a counted repetition
    else .ok (.wordEdge, brace)

/-- The question that stands in the braces behind `\p`: a name, or a name and a value with a
sign between them. -/
def queryOf (t : Text) : Property.Query :=
  -- before `=`, which would be found inside `!=`
  match cut notEqual? t with
  | some (name, value) => .valued name value
  | none =>
    match cut (sign? ':') t with
    | some (name, value) => .valued name value
    | none =>
      match cut (sign? '=') t with
      | some (name, value) => .valued name value
      | none => .named t
where
  notEqual? : Text → Option Text
    | '!' :: '=' :: t => some t
    | _ => none
  sign? (sign : Char) : Text → Option Text
    | c :: t => if c = sign then some t else none
    | [] => none
  cut (behind? : Text → Option Text) : Text → Option (Text × Text)
    | [] => none
    | c :: t =>
      match behind? (c :: t) with
      | some value => some ([], value)
      | none => (cut behind? t).map (fun r => (c :: r.1, r.2))

/-- The text up to the closing brace, and what follows the brace; `fuel` bounds its length. -/
def readBraced (spaced : Bool) : (fuel : Nat) → Text → Option (Text × Text)
  | _, [] => none
  | 0, _ => none
  | fuel + 1, c :: t =>
    if c = '\x7d' then some ([], t)
    else (readBraced spaced fuel (skipSpaced spaced t)).map (fun r => (c :: r.1, r.2))

/-- What `\p` or `\P` asks for: the letter next to it, or what stands in braces. -/
def readProperty (spaced : Bool) (t : Text) : Except Fault (Property.Query × Text) :=
  match skipSpaced spaced t with
  | [] => .error (.between .escapeUnfinished [] [])
  | '\x7b' :: r =>
    let r := skipSpaced spaced r
    match readBraced spaced (r.length + 1) r with
    | some (name, r) => .ok (queryOf name, r)
    | none => .error (.between .escapeUnfinished [] [])
  | c :: r =>
    if c = '\\' then .error (.head .propertyName (c :: r)) else .ok (.named [c], r)

/-- The escape at the start of a text that starts with a backslash. -/
def readEscape (spaced : Bool) (start : Text) : Except Fault (Escape × Text) :=
  match start.tail with
  | [] => .error (.between .escapeUnfinished start [])
  | c :: t =>
    if '0' ≤ c ∧ c ≤ '9' then .error (.between .backreference start t)
    else
      match c with
      | 'x' => hex 2 t
      | 'u' => hex 4 t
      | 'U' => hex 8 t
      | 'p' => property false t
      | 'P' => property true t
      | 'd' => .ok (set (.shorthand .digit) false t, t)
      | 'D' => .ok (set (.shorthand .digit) true t, t)
      | 's' => .ok (set (.shorthand .blank) false t, t)
      | 'S' => .ok (set (.shorthand .blank) true t, t)
      | 'w' => .ok (set (.shorthand .word) false t, t)
      | 'W' => .ok (set (.shorthand .word) true t, t)
      | 'a' => .ok (char '\x07' t, t)
      | 'f' => .ok (char '\x0c' t, t)
      | 't' => .ok (char '\t' t, t)
      | 'n' => .ok (char '\n' t, t)
      | 'r' => .ok (char '\r' t, t)
      | 'v' => .ok (char '\x0b' t, t)
      | 'A' => .ok (.anchor .textStart, t)
      | 'z' => .ok (.anchor .textEnd, t)
      -- behind it a brace may open the name of another anchor
      | 'b' =>
        match t with
        | '\x7b' :: _ => (readWordEdge spaced start t).map (fun r => (.anchor r.1, r.2))
        | t => .ok (.anchor .wordEdge, t)
      | 'B' => .ok (.anchor .noWordEdge, t)
      | '<' => .ok (.anchor .wordStart, t)
      | '>' => .ok (.anchor .wordEnd, t)
      | c =>
        if isEscapable c then .ok (char c t, t)
        else .error (.between .escapeUnrecognized start t)
where
  char (c : Char) (stop : Text) : Escape := .char ⟨c, false, ⟨start, stop⟩⟩
  set (name : SetName) (negated : Bool) (stop : Text) : Escape :=
    .set ⟨name, negated, ⟨start, stop⟩⟩
  hex (digits : Nat) (t : Text) : Except Fault (Escape × Text) := do
    let (c, r) ← readHex spaced digits t
    -- two digits stand for a byte only without braces
    let braced := (skipSpaced spaced t).head? == some '\x7b'
    return (.char ⟨c, digits = 2 && !braced, ⟨start, r⟩⟩, r)
  property (negated : Bool) (t : Text) : Except Fault (Escape × Text) := do
    let (q, r) ← readProperty spaced t
    return (set (.property q) negated r, r)

/-! ## §3. Classes. -/

/-- The union of sets, first to last. -/
def CharSet.unions : List CharSet → CharSet
  | [] => .none
  | [s] => s
  | s :: rest => .union s (CharSet.unions rest)

/-- A named set between `[:` and `:]`. -/
def namedSet? : String → Option CharSet
  | "alnum" => some (.unions [.range '0' '9', .range 'A' 'Z', .range 'a' 'z'])
  | "alpha" => some (.unions [.range 'A' 'Z', .range 'a' 'z'])
  | "ascii" => some (.range '\x00' '\x7f')
  | "blank" => some (.unions [.single '\t', .single ' '])
  | "cntrl" => some (.unions [.range '\x00' '\x1f', .single '\x7f'])
  | "digit" => some (.range '0' '9')
  | "graph" => some (.range '!' '~')
  | "lower" => some (.range 'a' 'z')
  | "print" => some (.range ' ' '~')
  | "punct" =>
    some (.unions [.range '!' '/', .range ':' '@', .range '[' '\x60', .range '\x7b' '~'])
  | "space" => some (.unions [.range '\t' '\r', .single ' '])
  | "upper" => some (.range 'A' 'Z')
  | "word" => some (.unions [.range '0' '9', .range 'A' 'Z', .single '_', .range 'a' 'z'])
  | "xdigit" => some (.unions [.range '0' '9', .range 'A' 'F', .range 'a' 'f'])
  | _ => none

/-- A part of a class with where it stands. -/
abbrev Item := Stretch × SetSyntax

/-- A named set at the start of a text, and what follows it. -/
def readNamedSet? (t : Text) : Option (Item × Text) :=
  match t with
  | '[' :: ':' :: r =>
    let (negated, r) := match r with
      | '^' :: r => (true, r)
      | r => (false, r)
    let name := r.takeWhile (· ≠ ':')
    match r.dropWhile (· ≠ ':') with
    | ':' :: ']' :: r =>
      (namedSet? (String.ofList name)).map (fun s => ((⟨t, r⟩, .named s negated ⟨t, r⟩), r))
    | _ => none
  | _ => none

/-- One end of a range, or a single item of a class: the text it starts at, what it
stands for, and the text behind it. -/
def readClassItem (spaced : Bool) (t : Text) : Except Fault (Escape × Text) :=
  match t with
  | '\\' :: _ => readEscape spaced t
  | c :: r => .ok (.char ⟨c, false, ⟨t, r⟩⟩, r)
  | [] => .error (.head .classUnclosed [])

/-- An item of a class as a set. -/
def Escape.toItem (start stop : Text) : Escape → Except Fault Item
  | .char l => .ok (⟨start, stop⟩, .literal l)
  | .set s => .ok (⟨start, stop⟩, .escape s)
  | .anchor _ => .error (.between .classEscape start stop)

/-- An item of a class as the end of a range. -/
def Escape.toEnd (start stop : Text) : Escape → Except Fault Literal
  | .char l => .ok l
  | _ => .error (.between .rangeEnd start stop)

/-- The beginning of a class: whether it is negated, and the literal characters that
may stand directly behind the bracket. -/
structure ClassHead where
  /-- The class from its bracket on. -/
  start : Text
  /-- Whether the class is negated. -/
  negated : Bool
  /-- The literal characters read so far. -/
  items : List Item
  /-- What follows the beginning. -/
  rest : Text

/-- The fault of a class that is not closed. -/
def ClassHead.unclosed (h : ClassHead) : Fault := .between .classUnclosed h.start h.rest

/-- A character that stands for itself. -/
def plainItem (c : Char) (start stop : Text) : Item :=
  (⟨start, stop⟩, .literal ⟨c, false, ⟨start, stop⟩⟩)

/-- Reads the beginning of a class at its bracket. -/
def readClassHead (spaced : Bool) (start : Text) : Except Fault ClassHead :=
  let opened := skipSpaced spaced start.tail
  match opened with
  | [] => .error (.between .classUnclosed start [])
  | '^' :: r =>
    match skipSpaced spaced r with
    | [] => .error (.between .classUnclosed start [])
    | r => dashes true (r.length + 1) [] r
  | r => dashes false (r.length + 1) [] r
where
  dashes (negated : Bool) : Nat → List Item → Text → Except Fault ClassHead
    | fuel + 1, items, '-' :: r =>
      match skipSpaced spaced r with
      | [] => .error (.between .classUnclosed start start)
      | next => dashes negated fuel (plainItem '-' ('-' :: r) r :: items) next
    -- a closing bracket that comes first stands for itself
    | _, [], ']' :: r =>
      match skipSpaced spaced r with
      | [] => .error (.between .classUnclosed start [])
      | next => .ok ⟨start, negated, [plainItem ']' (']' :: r) r], next⟩
    | _, items, r => .ok ⟨start, negated, items, r⟩

/-- One item or range of a class that `head` began. -/
def readClassRange (spaced : Bool) (head : ClassHead) (t : Text) :
    Except Fault (Item × Text) := do
  let (first, stop) ← readClassItem spaced t
  match skipSpaced spaced stop with
  | [] => .error head.unclosed
  | '-' :: after =>
    match skipSpaced spaced after with
    -- a dash at the end of the class, or before an operator, is no range
    | ']' :: _ => return (← first.toItem t stop, '-' :: after)
    | '-' :: _ => return (← first.toItem t stop, '-' :: after)
    | [] => .error head.unclosed
    | second :: rest =>
      let (last, stop') ← readClassItem spaced (second :: rest)
      let lo ← first.toEnd t stop
      let hi ← last.toEnd (second :: rest) stop'
      if lo.char.toNat ≤ hi.char.toNat then return ((⟨t, stop'⟩, .range lo hi), stop')
      else .error (.between .rangeBackwards t stop')
  | r => return (← first.toItem t stop, r)

/-- The items of one side of a class, which begins at `start`, last first. -/
def closeItems (start : Text) : List Item → Item
  | [] => (⟨start, start⟩, .nothing)
  | [i] => i
  | i :: items =>
    -- folding from the last item on restores the written order
    let all := items.foldl (fun later i => .both i.2 later) i.2
    let stretch : Stretch := ⟨((items.getLast?).getD i).1.start, i.1.stop⟩
    (stretch, .several all stretch)

/-- What a class holds: the last side joined to the sides before it. -/
def closeSide (before : Option (Item × SetOp)) (start : Text) (items : List Item) : Item :=
  let side := closeItems start items
  match before with
  | none => side
  | some (first, op) =>
    let stretch : Stretch := ⟨first.1.start, side.1.stop⟩
    (stretch, .combined op first.2 side.2 stretch)

/-- The rest of a class behind its beginning.  `start` is where the current side begins. -/
def readClassBody (spaced : Bool) : (fuel : Nat) → ClassHead →
    (before : Option (Item × SetOp)) → (start : Text) → (items : List Item) → Text →
    Except Fault (Item × Text)
  | 0, head, _, _, _, _ => .error head.unclosed
  | fuel + 1, head, before, start, items, t =>
    match skipSpaced spaced t with
    | [] => .error head.unclosed
    | ']' :: r =>
      let stretch : Stretch := ⟨head.start, r⟩
      .ok ((stretch, .bracketed head.negated (closeSide before start items).2 stretch), r)
    | '[' :: r =>
      -- what looks like a named set and is none opens a class within this one
      match readNamedSet? ('[' :: r) with
      | some (i, r) => readClassBody spaced fuel head before start (i :: items) r
      | none => do
        let inner ← readClassHead spaced ('[' :: r)
        let (i, r) ← readClassBody spaced fuel inner none inner.rest inner.items inner.rest
        readClassBody spaced fuel head before start (i :: items) r
    -- all operators bind alike, so what came before becomes the left side
    | '&' :: '&' :: r =>
      readClassBody spaced fuel head (some (closeSide before start items, .inter)) r [] r
    | '-' :: '-' :: r =>
      readClassBody spaced fuel head (some (closeSide before start items, .diff)) r [] r
    | '~' :: '~' :: r =>
      readClassBody spaced fuel head (some (closeSide before start items, .symDiff)) r [] r
    | t => do
      let (i, r) ← readClassRange spaced head t
      readClassBody spaced fuel head before start (i :: items) r

/-- A class at the start of a text that starts with a bracket. -/
def readClass (spaced : Bool) (start : Text) : Except Fault (SetSyntax × Text) := do
  let head ← readClassHead spaced start
  let (i, r) ← readClassBody spaced (start.length + 1) head none head.rest head.items head.rest
  return (i.2, r)

/-! ## §4. Groups. -/

/-- What an opening parenthesis begins. -/
inductive Opening where
  /-- Flags for the rest of the group around. -/
  | flags (changes : List FlagChange)
  /-- A group whose text is not remembered, with its flags. -/
  | plain (changes : List FlagChange)
  /-- A numbered group, possibly with a name and where the name stands. -/
  | numbered (name : Option (Text × Stretch))

/-- Whether white space and comments are skipped behind the flags. -/
def spacedAfter (spaced : Bool) (changes : List FlagChange) : Bool :=
  (changes.lookup .spaced).getD spaced

/-- The flags behind `(?`: the changes, how many items there were, the character that ends
them and what follows it.  `seen` holds the items so far, `minus` the negation that nothing
has followed yet. -/
def readFlags : (changes : List FlagChange) → (value : Bool) → (seen : List (Char × Text)) →
    (minus : Option Text) → Text → Except Fault (List FlagChange × Nat × Char × Text)
  | _, _, _, _, [] => .error (.between .flagUnfinished [] [])
  | changes, value, seen, minus, c :: t =>
    if c = ':' ∨ c = ')' then
      -- a minus that no flag follows negates nothing
      match minus with
      | some m => .error (.head .flagNegationDangling m)
      | none => .ok (changes.reverse, seen.length, c, t)
    else
      match seen.lookup c with
      | some before =>
        -- both places are shown
        .error ⟨if c = '-' then .flagNegationRepeated else .flagDuplicate,
          [⟨before, before.tail⟩, ⟨c :: t, t⟩]⟩
      | none =>
        if c = '-' then readFlags changes false ((c, c :: t) :: seen) (some (c :: t)) t
        else
          match Flag.ofChar? c with
          | some f => readFlags ((f, value) :: changes) value ((c, c :: t) :: seen) none t
          | none => .error (.head .flagUnrecognized (c :: t))

/-- Whether a character may stand in a group name, first or later. -/
def isNameChar (first : Bool) (c : Char) : Bool :=
  if first then c = '_' || c.isAlpha || (0x80 ≤ c.toNat && isWordChar c)
  else c = '_' || c = '.' || c = '[' || c = ']' || c.isAlphanum || (0x80 ≤ c.toNat && isWordChar c)

/-- A group name up to its closing angle bracket. -/
def readName (seen : List (Text × Stretch)) (start : Text) :
    Except Fault ((Text × Stretch) × Text) :=
  let rec go : (first : Bool) → (name : Text) → Text → Except Fault (Text × Text)
    | _, _, [] => .error (.between .nameUnfinished [] [])
    | first, name, c :: t =>
      if c = '>' then .ok (name.reverse, c :: t)
      else if isNameChar first c then go false (c :: name) t
      else .error (.head .nameInvalid (c :: t))
  match go true [] start with
  | .error e => .error e
  | .ok (name, stop) =>
    if name.isEmpty then .error (.between .nameEmpty start start)
    else
      match seen.lookup name with
      | some first => .error ⟨.nameDuplicate, [first, ⟨start, stop⟩]⟩
      | none => .ok ((name, ⟨start, stop⟩), stop.tail)

/-- What begins at an opening parenthesis. -/
def readOpening (r : Reader) (start : Text) : Except Fault (Opening × Text) :=
  let t := skipSpaced r.spaced start.tail
  match t with
  | '?' :: '=' :: u => .error (.between .lookAround start u)
  | '?' :: '!' :: u => .error (.between .lookAround start u)
  | '?' :: '<' :: '=' :: u => .error (.between .lookAround start u)
  | '?' :: '<' :: '!' :: u => .error (.between .lookAround start u)
  | '?' :: 'P' :: '<' :: u => do
    let (name, u) ← readName r.names u
    return (.numbered (some name), u)
  | '?' :: '<' :: u => do
    let (name, u) ← readName r.names u
    return (.numbered (some name), u)
  | '?' :: [] => .error (.head .groupUnclosed start)
  | '?' :: u => do
    let (changes, n, end_, v) ← readFlags [] true [] none u
    if end_ = ')' then
      -- `(?)` reads as a repetition of nothing
      if n = 0 then .error (.between .repetitionMissing t t) else return (.flags changes, v)
    else return (.plain changes, v)
  | t => return (.numbered none, t)

/-! ## §5. Repetitions. -/

/-- A counted repetition at its opening brace: the bounds, whether it is greedy, and
what follows it. -/
def readCounted (spaced : Bool) (start : Text) :
    Except Fault ((Nat × Option Nat × Bool) × Text) := do
  let t := skipSpaced spaced start.tail
  if t.isEmpty then .error (.between .countUnclosed start []) else
  -- a fault of the number waits: a missing brace is reported before it
  let (min, afterMin) := readCount spaced t
  let (bounds, u) ← match afterMin with
    | [] => .error (.between .countUnclosed start [])
    | ',' :: u =>
      match skipSpaced spaced u with
      | [] => .error (.between .countUnclosed start [])
      | '}' :: v => pure ((← min, (none : Option Nat)), '}' :: v)
      | u => do
        let lo ← min
        let (max, v) := readCount spaced u
        pure ((lo, some (← max)), v)
    | u => do
      let n ← min
      pure ((n, some n), u)
  match u with
  | '}' :: v =>
    let v := skipSpaced spaced v
    let (greedy, stop) := match v with
      | '?' :: w => (false, w)
      | v => (true, v)
    match bounds.2 with
    | some hi =>
      if bounds.1 ≤ hi then .ok ((bounds.1, some hi, greedy), stop)
      else .error (.between .countBackwards start stop)
    | none => .ok ((bounds.1, none, greedy), stop)
  | u => .error (.between .countUnclosed start u)

/-! ## §6. The whole pattern. -/

/-- The group, or the whole pattern, that is being read. -/
structure Body where
  /-- The group from its parenthesis on, if it is a group. -/
  opening : Option Text
  /-- Where it begins. -/
  start : Text
  /-- The alternatives so far, last first. -/
  before : List Syntax := []
  /-- Where the current alternative begins. -/
  here : Text
  /-- The items of the current alternative, last first, each from its start on. -/
  items : List (Text × Syntax) := []

namespace Body

/-- A body that begins. -/
def begin_ (opening : Option Text) (start : Text) : Body := ⟨opening, start, [], start, []⟩

/-- The body with one more item. -/
def add (b : Body) (start : Text) (s : Syntax) : Body := { b with items := (start, s) :: b.items }

/-- The current alternative, which ends at `stop`. -/
def alternative (b : Body) (stop : Text) : Syntax :=
  match b.items with
  | [] => .empty
  | [i] => i.2
  | i :: items => .sequence (items.foldl (fun later i => .cat i.2 later) i.2) ⟨b.here, stop⟩

/-- The body behind the sign between two alternatives. -/
def next (b : Body) (stop rest : Text) : Body :=
  { b with before := b.alternative stop :: b.before, here := rest, items := [] }

/-- The whole body, which ends at `stop`. -/
def close (b : Body) (stop : Text) : Syntax :=
  match b.before with
  | [] => b.alternative stop
  | before =>
    .choice (before.foldl (fun later s => .alt s later) (b.alternative stop)) ⟨b.start, stop⟩

/-- Puts a repetition around the item read last; flags and nothing cannot be repeated. -/
def repeatLast (b : Body) (at_ : Text) (min : Nat) (max : Option Nat) (greedy : Bool)
    (stop : Text) : Except Fault Body :=
  match b.items with
  | [] => .error (.between .repetitionMissing at_ at_)
  | (_, .flags _) :: _ => .error (.between .repetitionMissing at_ at_)
  | (start, s) :: items =>
    .ok { b with items := (start, .rep s min max greedy ⟨start, stop⟩) :: items }

end Body

/-- Reads to the end of a group, or of the pattern if no group is open. -/
def readBody : (fuel : Nat) → Body → Reader → Except Fault (Syntax × Reader)
  | 0, _, r => .error (.head .groupUnclosed r.rest)
  | fuel + 1, b, r =>
    let r := { r with rest := skipSpaced r.spaced r.rest }
    let at_ := r.rest
    match r.rest with
    | [] =>
      match b.opening with
      | some start => .error (.head .groupUnclosed start)
      | none => .ok (b.close [], r)
    | '(' :: _ => do
      let (opening, u) ← readOpening r at_
      match opening with
      | .flags changes =>
        readBody fuel (b.add at_ (.flags changes))
          { r with rest := u, spaced := spacedAfter r.spaced changes }
      | .plain changes =>
        let (s, q) ← readBody fuel (.begin_ (some at_) u)
          { r with rest := u, spaced := spacedAfter r.spaced changes }
        readBody fuel (b.add at_ (.group (.plain changes) s ⟨at_, q.rest⟩))
          -- flags end with the group
          { q with spaced := r.spaced }
      | .numbered name =>
        let index := r.groups + 1
        let (s, q) ← readBody fuel (.begin_ (some at_) u)
          { r with rest := u, groups := index, names := name.toList ++ r.names }
        readBody fuel (b.add at_ (.group (.numbered index) s ⟨at_, q.rest⟩))
          { q with spaced := r.spaced }
    | ')' :: t =>
      match b.opening with
      | some _ => .ok (b.close at_, { r with rest := t })
      | none => .error (.head .groupUnopened at_)
    | '|' :: t => readBody fuel (b.next at_ t) { r with rest := t }
    | '[' :: _ => do
      let (s, u) ← readClass r.spaced at_
      readBody fuel (b.add at_ (.set s)) { r with rest := u }
    | '?' :: t => do
      let (greedy, u) := lazyMark t
      readBody fuel (← b.repeatLast at_ 0 (some 1) greedy u) { r with rest := u }
    | '*' :: t => do
      let (greedy, u) := lazyMark t
      readBody fuel (← b.repeatLast at_ 0 none greedy u) { r with rest := u }
    | '+' :: t => do
      let (greedy, u) := lazyMark t
      readBody fuel (← b.repeatLast at_ 1 none greedy u) { r with rest := u }
    | '\x7b' :: _ => do
      -- nothing to repeat is reported before any fault within the braces
      let _ ← b.repeatLast at_ 0 none true at_
      let ((min, max, greedy), u) ← readCounted r.spaced at_
      readBody fuel (← b.repeatLast at_ min max greedy u) { r with rest := u }
    | '\\' :: _ => do
      let (e, u) ← readEscape r.spaced at_
      let s : Syntax := match e with
        | .char l => .literal l
        | .set s => .escape s
        | .anchor a => .anchor a
      readBody fuel (b.add at_ s) { r with rest := u }
    | '.' :: t => readBody fuel (b.add at_ (.dot ⟨at_, t⟩)) { r with rest := t }
    | '^' :: t => readBody fuel (b.add at_ .start) { r with rest := t }
    | '$' :: t => readBody fuel (b.add at_ .stop) { r with rest := t }
    | c :: t => readBody fuel (b.add at_ (.literal ⟨c, false, ⟨at_, t⟩⟩)) { r with rest := t }
where
  lazyMark : Text → Bool × Text
    | '?' :: t => (false, t)
    | t => (true, t)

/-- Reads the text of a pattern. -/
def read (t : Text) : Except Fault Syntax :=
  (readBody (t.length + 1) (.begin_ none t) { rest := t }).map (·.1)

end ScriptWeave.Pattern
