/-
  ScriptWeave.Shell.Bytes
  ───────────────────────
  **TEXTS OF BYTES.**

  A shell and the tools that it runs work on bytes and know no characters.
  Inside the shell a text holds one character for each byte: the one whose
  number the byte is.  Texts are turned at the borders, where arguments and
  names of files come from outside.
-/
import ScriptWeave.Text.Utf8

namespace ScriptWeave.Shell

/-- The text that bytes are inside the shell. -/
def ofBytes (b : ByteArray) : Text := b.toList.map (fun x => Char.ofNat x.toNat)

/-- The bytes that a text inside the shell stands for. -/
def toBytes (t : Text) : ByteArray := (t.map (fun c => UInt8.ofNat c.toNat)).toByteArray

/-- A text from outside as it is inside the shell. -/
def inward (t : Text) : Text := ofBytes (Text.encode t)

/-- A text inside the shell as it is outside. -/
def outward (t : Text) : Text := Text.lossy (toBytes t)

end ScriptWeave.Shell
