/-
  ScriptWeave.Text.Quoted
  ───────────────────────
  **QUOTED TEXTS IN MESSAGES.**

  A message quotes a text so that every character of it can be told: a quote
  and a backslash get a backslash, the usual controls their letters, and any
  other character without a visible form of its own its code point.
-/
import ScriptWeave.Text.Basic
import ScriptWeave.Text.Printable

namespace ScriptWeave.Text

/-- The lower-case hexadecimal digits of a number, without leading zeros. -/
def hexDigits (n : Nat) : Text := Nat.toDigits 16 n

/-- A character inside quotes. -/
def quoteChar (c : Char) : Text :=
  match c with
  | '\x00' => ['\\', '0']
  | '\t' => ['\\', 't']
  | '\n' => ['\\', 'n']
  | '\r' => ['\\', 'r']
  | '"' => ['\\', '"']
  | '\\' => ['\\', '\\']
  | c =>
    if isPrintable c then [c] else ['\\', 'u', '{'] ++ hexDigits c.toNat ++ ['}']

/-- A text in quotes. -/
def quote (t : Text) : Text := '"' :: t.flatMap quoteChar ++ ['"']

end ScriptWeave.Text
