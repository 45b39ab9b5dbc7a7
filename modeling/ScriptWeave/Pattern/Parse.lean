/-
  ScriptWeave.Pattern.Parse
  ─────────────────────────
  **FROM A TEXT TO A PATTERN.**

  A text is refused for the first fault in what is written; then for lying too
  deep in itself; then for the first part that has no meaning; and last for
  its size.
-/
import ScriptWeave.Pattern.Meaning
import ScriptWeave.Pattern.Reader
import ScriptWeave.Pattern.Size
import ScriptWeave.Pattern.Steady

namespace ScriptWeave.Pattern

/-- The tree of a pattern, if nothing is wrong with what is written. -/
def parseNode (t : Text) : Except Fault Node := do
  let s ← read t
  match s.tooDeep 0 with
  | some stretch => throw (.at_ .tooDeep stretch)
  | none => return (← s.meaning {}).1

/-- Reads the text of a pattern. -/
def parse (t : Text) : Except Error Pattern :=
  match parseNode t with
  | .error f => .error (.malformed (f.locate t))
  | .ok n => if n.tooLarge then .error .tooLarge else .ok { node := n, atOnce := !n.steady [] }

/-- What is written for a text itself: a backslash stands before each of its characters that
means something in a pattern. -/
def escape (t : Text) : Text := t.flatMap (fun c => if isMeta c then ['\\', c] else [c])

end ScriptWeave.Pattern
