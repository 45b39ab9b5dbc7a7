/-
  ScriptWeave.Component.Attributes
  ────────────────────────────────
  **THE ATTRIBUTES OF A TAG.**

  An attribute is a name, alone or with a value: in double quotes, in single
  quotes, or as it stands up to white space.  Names are compared in lower
  case, and of two attributes with one name the later counts.  A name alone
  has the value `true`.
-/
import ScriptWeave.Pattern.Scan

namespace ScriptWeave

open Pattern (Node CharSet)

/-! ## §1. Attributes as a map. -/

/-- Names with their values; of two values for one name the first counts. -/
abbrev Attributes := List (Text × Text)

namespace Attributes

/-- The value of a name. -/
def get? (as : Attributes) (name : Text) : Option Text := as.lookup name

/-- Gives a name a value. -/
def set (as : Attributes) (name value : Text) : Attributes :=
  (name, value) :: as.filter (fun a => a.1 != name)

end Attributes

/-! ## §2. Lower case. -/

/-- The lower case of a character of an attribute name.  Such a character is an ASCII one
or equal to one up to case. -/
def lowerChar (c : Char) : Char :=
  if c = '\u212a' then 'k' else c.toLower

/-! ## §3. Reading. -/

/-- The characters of attribute names. -/
def nameChars : CharSet :=
  .anyCase (.union (.range 'a' 'z') (.union (.range '0' '9')
    (.union (.single ':') (.union (.single '_') (.single '-')))))

/-- A value between two quotes of a kind. -/
def quotedValue (group : Nat) (quote : Char) : Node :=
  .ofList [.char (.single quote), .group group (.many (.compl (.single quote))),
    .char (.single quote)]

/-- An attribute: group 1 is its name, one of the groups 2 to 4 its value. -/
def attributePattern : Pattern :=
  { node := .cat (.group 1 (.many1 nameChars))
      (.rep
        (.ofList [.many .blank, .char (.single '='), .many .blank,
          .alt (quotedValue 2 '"')
            (.alt (quotedValue 3 '\x27')
              (.group 4 (.many1 (.compl (.union (.single '>') .blank)))))])
        0 (some 1) true) }

/-- The name and the value of an attribute that was found. -/
def attributeOf (m : Pattern.Match) : Text × Text :=
  let value := ((m.group? 2).or (m.group? 3)).or (m.group? 4)
  ((m.groupText 1).map lowerChar, (value.map (·.text)).getD "true")

/-- The attributes written in a text. -/
def parseAttributes (t : Text) : Attributes :=
  (attributePattern.matchesIn t).foldl
    (fun as m => let a := attributeOf m; as.set a.1 a.2) []

end ScriptWeave
