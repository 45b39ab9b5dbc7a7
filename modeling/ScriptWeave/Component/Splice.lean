/-
  ScriptWeave.Component.Splice
  ────────────────────────────
  **REPLACING BYTES OF A TEXT.**

  Several stretches of a text are replaced at once.  They are given by their
  bytes, do not overlap, and are replaced from the last to the first, so that
  the bytes of those still to come keep their numbers.

  What is taken for granted is checked by `splice?`: that stretches do not
  overlap, and that each lies between boundaries of characters of the text
  as it then is.
-/
import ScriptWeave.Sorted
import ScriptWeave.Text.Basic

namespace ScriptWeave

/-! ## §1. Replacing. -/

/-- A stretch of bytes and what replaces it. -/
structure Replacement where
  /-- The first byte. -/
  start : Nat
  /-- The byte behind the last. -/
  stop : Nat
  /-- What replaces them. -/
  text : Text
  deriving Repr, DecidableEq

/-- Makes one replacement. -/
def Replacement.apply (source : Text) (r : Replacement) : Text :=
  Text.takeBytes r.start source ++ r.text ++ Text.dropBytes r.stop source

/-- Makes the replacements, whose stretches do not overlap. -/
def splice (source : Text) (rs : List Replacement) : Text :=
  (Sorted.sort (fun a b => b.start ≤ a.start) rs).foldl Replacement.apply source

/-! ## §2. Replacing with checks. -/

/-- Whether a byte of a text is where a character starts, or its end. -/
def Text.isBoundary (n : Nat) (t : Text) : Bool := byteSize (takeBytes n t) == n

/-- Whether a stretch of bytes lies in a text, between boundaries of characters. -/
def Replacement.fits (r : Replacement) (source : Text) : Bool :=
  r.start ≤ r.stop && Text.isBoundary r.start source && Text.isBoundary r.stop source

/-- Makes one replacement, unless its stretch does not lie in the text. -/
def Replacement.apply? (source : Text) (r : Replacement) : Option Text :=
  if r.fits source then some (r.apply source) else none

/-- Whether every stretch starts where the next one has ended, or behind that. -/
def neighboursApart : List Replacement → Bool
  | a :: b :: rs => b.stop ≤ a.start && neighboursApart (b :: rs)
  | _ => true

/-- Makes the replacements, unless two stretches overlap or one does not lie in the text that
it is made in. -/
def splice? (source : Text) (rs : List Replacement) : Option Text :=
  let rs := Sorted.sort (fun a b => b.start ≤ a.start) rs
  if neighboursApart rs then rs.foldlM Replacement.apply? source else none

end ScriptWeave
