/-
  ScriptWeave.Pattern.Syntax
  ──────────────────────────
  **A PATTERN AS IT IS WRITTEN.**

  What a part of a pattern means depends on the flags in force, and whether
  the whole lies too deep in itself is only asked once it is known to be well
  written.  So a pattern is read first as a tree of what is written, and where.
-/
import ScriptWeave.Pattern.Node
import ScriptWeave.Pattern.Error
import ScriptWeave.Property.Query

namespace ScriptWeave.Pattern

/-! ## §1. Flags. -/

/-- A flag. -/
inductive Flag where
  /-- Case is ignored. -/
  | anyCase
  /-- Anchors hold at lines. -/
  | lines
  /-- The dot matches a line break. -/
  | dotAll
  /-- Greedy and lazy are swapped. -/
  | swapGreed
  /-- Sets and word boundaries reach beyond ASCII. -/
  | wide
  /-- Lines end with a carriage return, too. -/
  | anyLine
  /-- White space and comments are skipped. -/
  | spaced
  deriving Repr, DecidableEq

/-- A flag that is set or cleared. -/
abbrev FlagChange := Flag × Bool

/-- The flag of a letter. -/
def Flag.ofChar? : Char → Option Flag
  | 'i' => some .anyCase
  | 'm' => some .lines
  | 's' => some .dotAll
  | 'U' => some .swapGreed
  | 'u' => some .wide
  | 'R' => some .anyLine
  | 'x' => some .spaced
  | _ => none

/-! ## §2. Characters and sets. -/

/-- A character. -/
structure Literal where
  /-- The character. -/
  char : Char
  /-- Whether it is written as a byte, by two digits. -/
  byte : Bool
  /-- Where it is written. -/
  stretch : Stretch
  deriving Repr, DecidableEq

/-- A set with a letter of its own. -/
inductive Shorthand where
  /-- Decimal digits. -/
  | digit
  /-- White space. -/
  | blank
  /-- Word characters. -/
  | word
  deriving Repr, DecidableEq

/-- What an escape for a set names. -/
inductive SetName where
  /-- One of the sets with a letter. -/
  | shorthand (s : Shorthand)
  /-- The characters with a property. -/
  | property (q : Property.Query)
  deriving Repr, DecidableEq

/-- An escape that stands for a set. -/
structure SetEscape where
  /-- The set. -/
  name : SetName
  /-- Whether all other characters are meant. -/
  negated : Bool
  /-- Where it is written. -/
  stretch : Stretch
  deriving Repr, DecidableEq

/-- What an escape stands for. -/
inductive Escape where
  /-- A character. -/
  | char (l : Literal)
  /-- A set of characters. -/
  | set (s : SetEscape)
  /-- An anchor. -/
  | anchor (a : Anchor)
  deriving Repr, DecidableEq

/-! ## §3. Classes. -/

/-- How a class combines the sets on both sides of an operator. -/
inductive SetOp where
  /-- Characters in both. -/
  | inter
  /-- Characters in the first only. -/
  | diff
  /-- Characters in exactly one. -/
  | symDiff
  deriving Repr, DecidableEq

/-- What is written in a class. -/
inductive SetSyntax where
  /-- Nothing. -/
  | nothing
  /-- A character. -/
  | literal (l : Literal)
  /-- The characters from one to another. -/
  | range (lo hi : Literal)
  /-- A set between `[:` and `:]`. -/
  | named (s : CharSet) (negated : Bool) (stretch : Stretch)
  /-- A set given by an escape. -/
  | escape (s : SetEscape)
  /-- Items one after the other. -/
  | both (s t : SetSyntax)
  /-- All the items of a side, if there are more than one. -/
  | several (s : SetSyntax) (stretch : Stretch)
  /-- Two sides with an operator between them. -/
  | combined (op : SetOp) (s t : SetSyntax) (stretch : Stretch)
  /-- A class in brackets. -/
  | bracketed (negated : Bool) (s : SetSyntax) (stretch : Stretch)
  deriving Repr, DecidableEq

/-! ## §4. Patterns. -/

/-- What a group is for. -/
inductive GroupKind where
  /-- Its text is remembered under a number. -/
  | numbered (index : Nat)
  /-- It holds parts together, with flags of its own. -/
  | plain (changes : List FlagChange)
  deriving Repr, DecidableEq

/-- What is written in a pattern. -/
inductive Syntax where
  /-- Nothing. -/
  | empty
  /-- Flags for the rest of the group around. -/
  | flags (changes : List FlagChange)
  /-- A character. -/
  | literal (l : Literal)
  /-- A set given by an escape. -/
  | escape (s : SetEscape)
  /-- A class. -/
  | set (s : SetSyntax)
  /-- A dot. -/
  | dot (stretch : Stretch)
  /-- The sign for the start of the text or of a line. -/
  | start
  /-- The sign for the end of the text or of a line. -/
  | stop
  /-- An anchor given by an escape. -/
  | anchor (a : Anchor)
  /-- Items one after the other. -/
  | cat (a b : Syntax)
  /-- All the items of an alternative, if there are more than one. -/
  | sequence (s : Syntax) (stretch : Stretch)
  /-- Alternatives. -/
  | alt (a b : Syntax)
  /-- All the alternatives, if there are more than one. -/
  | choice (s : Syntax) (stretch : Stretch)
  /-- A group. -/
  | group (kind : GroupKind) (body : Syntax) (stretch : Stretch)
  /-- A repetition. -/
  | rep (body : Syntax) (min : Nat) (max : Option Nat) (greedy : Bool) (stretch : Stretch)
  deriving Repr, DecidableEq

/-! ## §5. Depth. -/

/-- The first part of a class, in the order of the text, that lies deeper than the limit.  `depth`
counts the parts around it. -/
def SetSyntax.tooDeep : SetSyntax → (depth : Nat) → Option Stretch
  | .nothing, _ => none
  | .literal _, _ => none
  | .range _ _, _ => none
  | .named _ _ _, _ => none
  | .escape _, _ => none
  | .both s t, depth => (s.tooDeep depth).or (t.tooDeep depth)
  | .several s stretch, depth =>
    if depth = depthLimit then some stretch else s.tooDeep (depth + 1)
  | .combined _ s t stretch, depth =>
    if depth = depthLimit then some stretch
    else (s.tooDeep (depth + 1)).or (t.tooDeep (depth + 1))
  | .bracketed _ s stretch, depth =>
    if depth = depthLimit then some stretch else s.tooDeep (depth + 1)

/-- The first part of a pattern, in the order of the text, that lies deeper than the limit. -/
def Syntax.tooDeep : Syntax → (depth : Nat) → Option Stretch
  | .empty, _ => none
  | .flags _, _ => none
  | .literal _, _ => none
  | .escape _, _ => none
  | .set s, depth => s.tooDeep depth
  | .dot _, _ => none
  | .start, _ => none
  | .stop, _ => none
  | .anchor _, _ => none
  | .cat a b, depth => (a.tooDeep depth).or (b.tooDeep depth)
  | .sequence s stretch, depth =>
    if depth = depthLimit then some stretch else s.tooDeep (depth + 1)
  | .alt a b, depth => (a.tooDeep depth).or (b.tooDeep depth)
  | .choice s stretch, depth =>
    if depth = depthLimit then some stretch else s.tooDeep (depth + 1)
  | .group _ body stretch, depth =>
    if depth = depthLimit then some stretch else body.tooDeep (depth + 1)
  | .rep body _ _ _ stretch, depth =>
    if depth = depthLimit then some stretch else body.tooDeep (depth + 1)

end ScriptWeave.Pattern
