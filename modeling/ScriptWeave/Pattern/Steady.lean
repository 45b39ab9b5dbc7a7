/-
  ScriptWeave.Pattern.Steady
  ──────────────────────────
  **WHEN A WALK NEVER GOES FAR BACK.**

  At an alternative or a repetition the walk through a tree takes one way and
  comes back for the other if the first fails.  If the next character decides
  which way can succeed at all, the wrong way fails at once, and the walk is
  as short as the text it passes.  A tree is steady if every choice in it is
  of this kind, and if nothing but single characters is repeated without bound.

  The end of the text, or a condition on the position, is a further symbol
  that a way may start with.  Where the match is complete there is nothing to
  come back for, so what follows the whole tree starts with nothing.
-/
import ScriptWeave.Pattern.Node

namespace ScriptWeave.Pattern

/-- What stands for a way that tests the position before it consumes anything. -/
def testMark : Ranges := [(Ranges.last + 1, Ranges.last + 1)]

/-- What the part of a match that the tree makes may start with. -/
def Node.starts : Node → Ranges
  | .empty => []
  | .char s =>
    let rs := s.toRanges
    if rs.isEmpty then testMark else rs
  | .anchor _ => testMark
  | .cat a b => if a.nullable then a.starts.union b.starts else a.starts
  | .alt a b => a.starts.union b.starts
  | .group _ body => body.starts
  | .rep body _ max _ => if max = some 0 then [] else body.starts

/-- What a match of the tree and of what follows it may start with. -/
def Node.leads (n : Node) (follow : Ranges) : Ranges :=
  if n.nullable then n.starts.union follow else n.starts

/-- Whether the tree is one character of a set. -/
def Node.isChar : Node → Bool
  | .char _ => true
  | _ => false

/-- Whether every choice in the tree is decided by the next character, and every loop over
single characters.  `follow` is what the part behind the tree may start with. -/
def Node.steady : Node → (follow : Ranges) → Bool
  | .empty, _ => true
  | .char _, _ => true
  | .anchor _, _ => true
  | .cat a b, follow => b.steady follow && a.steady (b.leads follow)
  | .alt a b, follow =>
    (a.leads follow).disjoint (b.leads follow) && a.steady follow && b.steady follow
  | .group _ body, follow => body.steady follow
  | .rep body min max _, follow =>
    if max = some 0 then true
    else
      let again := body.starts
      (max.isSome || body.isChar)
        && (max == some min || (!body.nullable && again.disjoint follow))
        && body.steady (if max = some 1 then follow else again.union follow)

end ScriptWeave.Pattern
