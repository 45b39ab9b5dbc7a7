/-
  ScriptWeave.Pattern.Size
  ────────────────────────
  **HOW MUCH ROOM A PATTERN TAKES.**

  A pattern may only be used if its automaton stays within a limit.  There are
  two automata, which read the bytes of the text in UTF-8: one forwards, with
  states for the groups, and one backwards.  Their sizes are counted here
  without building them, so that a repetition costs one multiplication.

  A state takes 32 bytes, a further way out of a choice 4, and a further range
  of bytes 8.
-/
import ScriptWeave.Pattern.Error
import ScriptWeave.Pattern.Node

namespace ScriptWeave.Pattern

namespace Size

/-! ## §1. Ranges of characters as ranges of bytes. -/

/-- The bytes of a code point in UTF-8. -/
def utf8Bytes (n : Nat) : List Nat :=
  if n < 0x80 then [n]
  else if n < 0x800 then [0xc0 + n / 64, 0x80 + n % 64]
  else if n < 0x10000 then [0xe0 + n / 4096, 0x80 + n / 64 % 64, 0x80 + n % 64]
  else [0xf0 + n / 262144, 0x80 + n / 4096 % 64, 0x80 + n / 64 % 64, 0x80 + n % 64]

/-- Ranges of bytes one after the other. -/
abbrev ByteRanges := List (Nat × Nat)

/-- The code points behind which a range is cut: what lies between them has as many bytes, and
no surrogates. -/
def cuts : List Nat := [0x7f, 0x7ff, 0xd7ff, 0xdfff, 0xffff]

/-- A range without surrogates, cut so that every piece has one number of bytes. -/
def cutAt (lo hi : Nat) : List Nat → Ranges
  | [] => if lo ≤ hi then [(lo, hi)] else []
  | c :: cs =>
    if hi ≤ c then if lo ≤ hi then [(lo, hi)] else []
    else if lo ≤ c then (lo, c) :: cutAt (c + 1) hi cs
    else cutAt lo hi cs

/-- Whether a range, on whose bytes but the last `k` its ends differ, is cut at its start or at
its end: the first piece and the rest.  Blocks of `unit` code points share all bytes but the
last `k`. -/
def splitAt? (unit lo hi : Nat) : Option ((Nat × Nat) × (Nat × Nat)) :=
  if lo / unit = hi / unit then none
  else if lo % unit ≠ 0 then
    some ((lo, lo / unit * unit + unit - 1), (lo / unit * unit + unit, hi))
  else if hi % unit ≠ unit - 1 then some ((lo, hi / unit * unit - 1), (hi / unit * unit, hi))
  else none

/-- A range cut into pieces that are products of ranges of bytes.  `fuel` bounds the cuts. -/
def products : (fuel : Nat) → (lo hi : Nat) → List ByteRanges
  | 0, _, _ => []
  | fuel + 1, lo, hi =>
    if hi < 0x80 then [[(lo, hi)]]
    else
      match (splitAt? 64 lo hi).or ((splitAt? 4096 lo hi).or (splitAt? 262144 lo hi)) with
      | some (a, b) => products fuel a.1 a.2 ++ products fuel b.1 b.2
      | none => [(utf8Bytes lo).zip (utf8Bytes hi)]

/-- The characters of ranges as products of ranges of bytes, in ascending order. -/
def byteRanges (rs : Ranges) : List ByteRanges :=
  (rs.flatMap (fun r => cutAt r.1 r.2 cuts)).flatMap (fun r =>
    if 0xd800 ≤ r.1 && r.1 ≤ 0xdfff then [] else products 16 r.1 r.2)

/-! ## §2. The automaton of a set. -/

/-- How many ranges two products have in common at their beginning. -/
def common : ByteRanges → ByteRanges → Nat
  | r :: s, q :: t => if r = q then common s t + 1 else 0
  | _, _ => 0

/-- The states of the automaton that reads backwards: products share the states of their common
beginnings. -/
def statesBackward : (last : ByteRanges) → List ByteRanges → Nat
  | _, [] => 0
  | last, p :: ps => p.length - common last p + statesBackward p ps

/-- The first range of a product that starts a group of products, with the rests of the group. -/
def groupByFirst : List ByteRanges → List ((Nat × Nat) × List ByteRanges)
  | [] => []
  | [] :: ps => groupByFirst ps
  | (r :: rest) :: ps =>
    match groupByFirst ps with
    | (q, rests) :: groups =>
      if r = q then (r, rest :: rests) :: groups else (r, [rest]) :: (q, rests) :: groups
    | [] => [(r, [rest])]

/-- The different sets of rests that lie behind one more range. -/
def further (sets : List (List ByteRanges)) : List (List ByteRanges) :=
  (sets.flatMap (fun ps => (groupByFirst ps).map (·.2))).eraseDups.filter (fun ps =>
    ps.any (fun p => !p.isEmpty))

/-- The size of the automaton that reads forwards: one state for each set of rests, and one for
the end. -/
def sizeForward (ps : List ByteRanges) : Nat :=
  let second := further [ps]
  let third := further second
  let states := ([ps] ++ second ++ third ++ further third).eraseDups
  (states.map (fun s => 32 + 8 * (groupByFirst s).length)).foldl (· + ·) 32

end Size

/-- The size of the automaton of a set. -/
def CharSet.size (backward : Bool) (s : CharSet) : Nat :=
  let rs := s.toRanges
  match rs with
  | [] => 32
  | [(lo, hi)] => if lo = hi then 32 * (Size.utf8Bytes lo).length else sizeOf rs
  | rs => sizeOf rs
where
  sizeOf (rs : Ranges) : Nat :=
    if rs.all (fun r => r.2 < 0x80) then 64 + 8 * rs.length
    else
      let ps := Size.byteRanges rs
      if backward then 64 + 32 * Size.statesBackward [] ps + 4 * ps.length else Size.sizeForward ps

/-! ## §3. The automaton of a pattern. -/

/-- The set of a tree that is a set, or alternatives that are. -/
def Node.set? : Node → Option CharSet
  | .char s => some s
  | .alt a b =>
    match a.set?, b.set? with
    | some s, some t => some (.union s t)
    | _, _ => none
  | _ => none

/-- Whether a tree matches nothing but the empty text. -/
def Node.widthless : Node → Bool
  | .empty => true
  | .char _ => false
  | .anchor _ => true
  | .cat a b => a.widthless && b.widthless
  | .alt a b => a.widthless && b.widthless
  | .group _ body => body.widthless
  | .rep body _ max _ => max == some 0 || body.widthless

/-- The size of rounds between two bounds of a body of size `s`. -/
def sizeBetween (s : Nat) (nullable : Bool) (min : Nat) : (max : Option Nat) → Nat
  | some max =>
    let least := if min = 0 then 32 else min * s
    if min = max then least
    else if min = 0 ∧ max = 1 then s + 72
    else least + 32 + (max - min) * (s + 40)
  | none =>
    match min with
    | 0 => if nullable then s + 112 else s + 40
    | n + 1 => n * s + s + 40

/-- The size of the automaton of a tree. -/
def Node.size (backward : Bool) : Node → Nat
  | .empty => 32
  | .char s => s.size backward
  | .anchor _ => 32
  | .cat a b => a.size backward + b.size backward
  | .alt a b =>
    match (Node.alt a b).set? with
    | some s => s.size backward
    | none => branch a (a.size backward) + branch b (b.size backward) + 64
  | .group _ body => body.size backward + (if backward then 0 else 64)
  | .rep body min max _ =>
    let s := body.size backward
    if body.widthless then
      if max = some 0 then 32 else if min = 0 then s + 72 else s
    else sizeBetween s body.nullable min max
where
  /-- What a branch adds to the choice around it: alternatives within alternatives are branches
  of one choice. -/
  branch : Node → Nat → Nat
    | .alt _ _, s => s - 64
    | _, s => s + 4

/-- Whether one of the two automata of a tree goes beyond the limit.  Around the tree there are
states for the text before the match, for the whole match as a group, and for the end. -/
def Node.tooLarge (n : Node) : Bool :=
  sizeLimit < n.size false + 168 || sizeLimit < n.size true + 104

end ScriptWeave.Pattern
