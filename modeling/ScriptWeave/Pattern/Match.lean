/-
  ScriptWeave.Pattern.Match
  ─────────────────────────
  **WHERE A PATTERN MATCHES.**

  A position in a text is a `Cursor`: the character before it and the rest
  after it.  `Node.run` walks a tree from a cursor and hands every way to get
  through, best first, to what follows; the first that leads to the end wins.

  A loop whose body can be repeated without bound must advance in every round
  after the first, so its rounds are bounded by the length of the rest.  A loop
  over single characters follows the text itself.
-/
import ScriptWeave.Pattern.Node

namespace ScriptWeave.Pattern

/-! ## §1. Positions and groups. -/

/-- A position in a text. -/
structure Cursor where
  /-- The character before the position. -/
  prev : Option Char
  /-- The text after the position. -/
  rest : Text
  deriving Repr, DecidableEq

/-- What a group matched: the rests at its start and at its end. -/
structure Span where
  /-- The text from the start on. -/
  start : Text
  /-- The text after the end. -/
  stop : Text
  deriving Repr, DecidableEq

namespace Span

/-- The number of characters in the span. -/
def length (s : Span) : Nat := s.start.length - s.stop.length

/-- The characters in the span. -/
def text (s : Span) : Text := s.start.take s.length

end Span

/-- The groups that took part, the latest first. -/
abbrev Groups := List (Nat × Span)

/-- What the walk through a tree ends with. -/
abbrev Outcome := Option (Cursor × Groups)

/-- What follows a part of a tree. -/
abbrev Next := Cursor → Groups → Outcome

/-- A part of a tree as a walk: it hands its ways through to what follows. -/
abbrev Walk := Cursor → Groups → Next → Outcome

/-! ## §2. Repetition. -/

/-- Exactly `n` rounds. -/
def exactly (w : Walk) : Nat → Walk
  | 0 => fun c g k => k c g
  | n + 1 => fun c g k => w c g (fun c' g' => exactly w n c' g' k)

/-- At most `n` rounds. -/
def upTo (w : Walk) (greedy : Bool) : Nat → Walk
  | 0 => fun c g k => k c g
  | n + 1 => fun c g k =>
    -- delayed, so that the lazy order does not walk in vain
    let again := fun (_ : Unit) => w c g (fun c' g' => upTo w greedy n c' g' k)
    if greedy then (again ()).or (k c g) else (k c g).or (again ())

/-- Whether a round from one position to another stayed where it was.  Only a nullable body
can do so. -/
def stays (nullable : Bool) (c c' : Cursor) : Bool :=
  nullable && c.rest.length ≤ c'.rest.length

/-- Any number of rounds, each of which advances.  The number `n` bounds the rounds;
the length of the rest is always enough. -/
def loop (w : Walk) (nullable greedy : Bool) : Nat → Walk
  | 0 => fun c g k => k c g
  | n + 1 => fun c g k =>
    let again := fun (_ : Unit) =>
      w c g (fun c' g' => if stays nullable c c' then none else loop w nullable greedy n c' g' k)
    if greedy then (again ()).or (k c g) else (k c g).or (again ())

/-- One round or more; only the first may stay where it is. -/
def oneOrMore (w : Walk) (nullable greedy : Bool) : Walk := fun c g k =>
  w c g (fun c' g' =>
    if stays nullable c c' then k c' g' else loop w nullable greedy c'.rest.length c' g' k)

/-- Any number of rounds of a body that may match the empty text. -/
def zeroOrMore (w : Walk) (nullable greedy : Bool) : Walk := fun c g k =>
  -- the first round of a nullable body may be empty, so it is set apart
  if nullable then
    if greedy then (oneOrMore w nullable greedy c g k).or (k c g)
    else (k c g).or (oneOrMore w nullable greedy c g k)
  else loop w nullable greedy c.rest.length c g k

/-- Rounds between two bounds. -/
def between (w : Walk) (nullable greedy : Bool) (min : Nat) : Option Nat → Walk
  | some max => fun c g k =>
    exactly w min c g (fun c' g' => upTo w greedy (max - min) c' g' k)
  | none =>
    match min with
    | 0 => zeroOrMore w nullable greedy
    | n + 1 => fun c g k => exactly w n c g (fun c' g' => oneOrMore w nullable greedy c' g' k)

/-! ## §3. Characters. -/

/-- One character of a set. -/
def oneOf (s : CharSet) : Walk := fun c g k =>
  match c.rest with
  | [] => none
  | x :: rest => if s.contains x then k ⟨some x, rest⟩ g else none

/-- As many characters of a set as lead to a match. -/
def most (s : CharSet) (k : Cursor → Outcome) : (prev : Option Char) → Text → Outcome
  | prev, [] => k ⟨prev, []⟩
  | prev, x :: t =>
    if s.contains x then (most s k (some x) t).or (k ⟨prev, x :: t⟩) else k ⟨prev, x :: t⟩

/-- As few characters of a set as lead to a match. -/
def fewest (s : CharSet) (k : Cursor → Outcome) : (prev : Option Char) → Text → Outcome
  | prev, [] => k ⟨prev, []⟩
  | prev, x :: t =>
    (k ⟨prev, x :: t⟩).or (if s.contains x then fewest s k (some x) t else none)

/-- Any number of characters of a set. -/
def manyOf (s : CharSet) (greedy : Bool) : Walk := fun c g k =>
  if greedy then most s (fun c' => k c' g) c.prev c.rest
  else fewest s (fun c' => k c' g) c.prev c.rest

/-- At least `min` characters of a set. -/
def atLeast (s : CharSet) (greedy : Bool) (min : Nat) : Walk := fun c g k =>
  exactly (oneOf s) min c g (fun c' g' => manyOf s greedy c' g' k)

/-! ## §4. The walk through a tree. -/

/-- The walk through a tree. -/
def Node.run : Node → Walk
  | .empty => fun c g k => k c g
  | .char s => oneOf s
  | .anchor a => fun c g k => if a.holds c.prev c.rest.head? then k c g else none
  | .cat a b => fun c g k => a.run c g (fun c' g' => b.run c' g' k)
  | .alt a b => fun c g k => (a.run c g k).or (b.run c g k)
  | .group i body => fun c g k => body.run c g (fun c' g' => k c' ((i, ⟨c.rest, c'.rest⟩) :: g'))
  | .rep (.char s) min none greedy => atLeast s greedy min
  | .rep body min max greedy => between body.run body.nullable greedy min max

end ScriptWeave.Pattern

namespace ScriptWeave

/-! ## §5. Matches. -/

/-- A match of a pattern. -/
structure Pattern.Match where
  /-- The whole match. -/
  whole : Pattern.Span
  /-- The groups that took part. -/
  groups : Pattern.Groups
  deriving Repr, DecidableEq

namespace Pattern.Match

/-- What group `i` matched, if it took part. -/
def group? (m : Match) (i : Nat) : Option Span := m.groups.lookup i

/-- The text of group `i`, empty if the group took no part. -/
def groupText (m : Match) (i : Nat) : Text :=
  match m.group? i with
  | some s => s.text
  | none => []

end Pattern.Match

/-- The match of a pattern that starts at a cursor. -/
def Pattern.matchAt (p : Pattern) (c : Pattern.Cursor) : Option Pattern.Match :=
  (p.node.run c [] (fun c' g => some (c', g))).map (fun r => ⟨⟨c.rest, r.1.rest⟩, r.2⟩)

end ScriptWeave
