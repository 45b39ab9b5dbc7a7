/-
  ScriptWeave.Pattern.Node
  ────────────────────────
  **WHAT A PATTERN IS.**

  A pattern is a tree: sets of characters, anchors, sequences, alternatives,
  numbered groups and repetitions.  Alternatives are ordered, and so are the
  ways to repeat: a greedy repetition prefers one more round, a lazy one
  prefers to stop.
-/
import ScriptWeave.Text.Blank
import ScriptWeave.Text.Digit
import ScriptWeave.Text.WordChar
import ScriptWeave.Text.CaseFold

namespace ScriptWeave.Pattern

/-! ## §1. Sets of characters. -/

/-- A set of characters as a pattern describes it. -/
inductive CharSet where
  /-- No character. -/
  | none
  /-- One character. -/
  | single (c : Char)
  /-- The characters from `lo` to `hi`, both included. -/
  | range (lo hi : Char)
  /-- White space. -/
  | blank
  /-- Word characters. -/
  | word
  /-- Decimal digits. -/
  | digit
  /-- The characters in the ranges of a table. -/
  | ranges (rs : Ranges)
  /-- The characters that are not in the set. -/
  | compl (s : CharSet)
  /-- The characters in either set. -/
  | union (s t : CharSet)
  /-- The characters in both sets. -/
  | inter (s t : CharSet)
  /-- The characters equal up to case to one in the set. -/
  | anyCase (s : CharSet)
  deriving Repr, DecidableEq

/-- Whether a character belongs to the set. -/
def CharSet.contains : CharSet → Char → Bool
  | .none, _ => false
  | .single c, x => c == x
  | .range lo hi, x => lo.toNat ≤ x.toNat && x.toNat ≤ hi.toNat
  | .blank, x => isBlank x
  | .word, x => isWordChar x
  | .digit, x => isDecimalDigit x
  | .ranges rs, x => inRanges rs x.toNat
  | .compl s, x => !s.contains x
  | .union s t, x => s.contains x || t.contains x
  | .inter s t, x => s.contains x && t.contains x
  | .anyCase s, x => (orbit x).any s.contains

/-- The set as ranges that ascend and do not meet. -/
def CharSet.toRanges : CharSet → Ranges
  | .none => []
  | .single c => [(c.toNat, c.toNat)]
  | .range lo hi => if lo.toNat ≤ hi.toNat then [(lo.toNat, hi.toNat)] else []
  | .blank => blankRanges
  | .word => [(0x30, 0x39), (0x41, 0x5a), (0x5f, 0x5f), (0x61, 0x7a)] ++ wordRanges
  | .digit => digitRanges
  | .ranges rs => rs
  | .compl s => s.toRanges.compl
  | .union s t => s.toRanges.union t.toRanges
  | .inter s t => s.toRanges.inter t.toRanges
  | .anyCase s => s.toRanges.anyCase

/-- The characters of ASCII. -/
def CharSet.ascii : CharSet := .range '\x00' '\x7f'

/-! ## §2. Anchors. -/

/-- A condition on a position that consumes nothing. -/
inductive Anchor where
  /-- The start of the text. -/
  | textStart
  /-- The end of the text. -/
  | textEnd
  /-- The start of the text or of a line. -/
  | lineStart
  /-- The end of the text or of a line. -/
  | lineEnd
  /-- The start of the text or of a line, where a line may end with `\r`, with `\n` or with
  both. -/
  | anyLineStart
  /-- The end of the text or of such a line. -/
  | anyLineEnd
  /-- Exactly one of the two neighbours is a word character. -/
  | wordEdge
  /-- Both or none of the two neighbours are word characters. -/
  | noWordEdge
  /-- A word begins here. -/
  | wordStart
  /-- A word ends here. -/
  | wordEnd
  /-- The neighbour before is no word character. -/
  | wordStartHalf
  /-- The neighbour after is no word character. -/
  | wordEndHalf
  /-- The condition, seen as if there were no neighbours but those of ASCII. -/
  | ascii (a : Anchor)
  deriving Repr, DecidableEq

/-- Whether a neighbour exists and is a word character. -/
def isWordAt : Option Char → Bool
  | some c => isWordChar c
  | none => false

/-- A neighbour, unless it is beyond ASCII. -/
def asciiOnly (c : Option Char) : Option Char := c.filter (fun c => c.toNat < 0x80)

/-- Whether an anchor holds between two neighbours. -/
def Anchor.holds : Anchor → (prev next : Option Char) → Bool
  | .textStart, prev, _ => prev.isNone
  | .textEnd, _, next => next.isNone
  | .lineStart, prev, _ => prev.isNone || prev == some '\n'
  | .lineEnd, _, next => next.isNone || next == some '\n'
  | .anyLineStart, prev, next =>
    prev.isNone || prev == some '\n' || (prev == some '\r' && next != some '\n')
  | .anyLineEnd, prev, next =>
    next.isNone || next == some '\r' || (next == some '\n' && prev != some '\r')
  | .wordEdge, prev, next => isWordAt prev != isWordAt next
  | .noWordEdge, prev, next => isWordAt prev == isWordAt next
  | .wordStart, prev, next => !isWordAt prev && isWordAt next
  | .wordEnd, prev, next => isWordAt prev && !isWordAt next
  | .wordStartHalf, prev, _ => !isWordAt prev
  | .wordEndHalf, _, next => !isWordAt next
  | .ascii a, prev, next => a.holds (asciiOnly prev) (asciiOnly next)

/-! ## §3. Trees. -/

/-- The tree of a pattern. -/
inductive Node where
  /-- The empty text. -/
  | empty
  /-- One character of a set. -/
  | char (s : CharSet)
  /-- A condition on the position. -/
  | anchor (a : Anchor)
  /-- One after the other. -/
  | cat (a b : Node)
  /-- The first that leads to a match. -/
  | alt (a b : Node)
  /-- A numbered group, whose text is remembered. -/
  | group (index : Nat) (body : Node)
  /-- Between `min` and `max` rounds, or any number from `min` on. -/
  | rep (body : Node) (min : Nat) (max : Option Nat) (greedy : Bool)
  deriving Repr, DecidableEq

/-- Whether the tree can match the empty text. -/
def Node.nullable : Node → Bool
  | .empty => true
  | .char _ => false
  | .anchor _ => true
  | .cat a b => a.nullable && b.nullable
  | .alt a b => a.nullable || b.nullable
  | .group _ body => body.nullable
  | .rep body min _ _ => min == 0 || body.nullable

/-- The number of groups that can take part; one that is repeated no time cannot. -/
def Node.groups : Node → Nat
  | .empty => 0
  | .char _ => 0
  | .anchor _ => 0
  | .cat a b => a.groups + b.groups
  | .alt a b => a.groups + b.groups
  | .group _ body => body.groups + 1
  | .rep body _ max _ => if max = some 0 then 0 else body.groups

/-- The nodes one after the other. -/
def Node.ofList : List Node → Node
  | [] => .empty
  | [n] => n
  | n :: rest => .cat n (Node.ofList rest)

/-- One node for each character of a text. -/
def Node.chars (t : Text) : List Node := t.map (fun c => .char (.single c))

/-- The characters of a text one after the other. -/
def Node.literal (t : Text) : Node := Node.ofList (Node.chars t)

/-- One node for each character of a text, the letters of ASCII in any case. -/
def Node.charsAnyCase (t : Text) : List Node :=
  t.map (fun c => .char (if c.isAlpha then .anyCase (.single c) else .single c))

/-- Any number of characters of a set, the more the better. -/
def Node.many (s : CharSet) : Node := .rep (.char s) 0 none true

/-- One character of a set or more, the more the better. -/
def Node.many1 (s : CharSet) : Node := .rep (.char s) 1 none true

/-- Any number of characters of a set, the fewer the better. -/
def Node.few (s : CharSet) : Node := .rep (.char s) 0 none false

end ScriptWeave.Pattern

namespace ScriptWeave

/-- A pattern. -/
structure Pattern where
  /-- Its tree. -/
  node : Pattern.Node
  /-- Whether all ways through the tree are followed at once, and not one after the other. -/
  atOnce : Bool := false
  deriving Repr, DecidableEq

/-- How many groups can take part in a match. -/
def Pattern.groups (p : Pattern) : Nat := p.node.groups

end ScriptWeave
