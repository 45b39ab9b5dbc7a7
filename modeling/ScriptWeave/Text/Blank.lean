/-
  ScriptWeave.Text.Blank
  ──────────────────────
  **WHITE SPACE.**

  The characters with the Unicode property White_Space, and the trimming of a
  text at both ends by them.
-/
import ScriptWeave.Text.Basic
import ScriptWeave.Text.Range

namespace ScriptWeave

/-- The white space characters. -/
def blankRanges : List (Nat × Nat) :=
  [ (0x09, 0x0d), (0x20, 0x20), (0x85, 0x85), (0xa0, 0xa0), (0x1680, 0x1680), (0x2000, 0x200a),
    (0x2028, 0x2029), (0x202f, 0x202f), (0x205f, 0x205f), (0x3000, 0x3000) ]

/-- Whether a character below U+0080 is white space. -/
def isAsciiBlank (c : Char) : Bool := c == ' ' || ('\t' ≤ c && c ≤ '\r')

/-- Whether a character is white space. -/
def isBlank (c : Char) : Bool :=
  if c.toNat < 0x80 then isAsciiBlank c else inRanges blankRanges c.toNat

namespace Text

/-- A text without the white space it starts with. -/
def trimStart (t : Text) : Text := t.dropWhile isBlank

/-- A text without the white space it ends with. -/
def trimEnd (t : Text) : Text := (t.reverse.dropWhile isBlank).reverse

/-- A text without the white space at both ends. -/
def trim (t : Text) : Text := trimEnd (trimStart t)

end Text

end ScriptWeave
