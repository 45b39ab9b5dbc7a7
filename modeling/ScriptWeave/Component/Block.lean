/-
  ScriptWeave.Component.Block
  ───────────────────────────
  **SCRIPT BLOCKS.**

  A component contains script blocks between an opening and a closing
  `script` tag, in any case of letters.  The first `>` ends the opening tag,
  and the first closing tag behind it ends the block.  A block knows its
  place among the blocks, its attributes, its content, and the bytes of the
  component that hold the content.
-/
import ScriptWeave.Component.Attributes

namespace ScriptWeave

open Pattern (Node CharSet)

/-- A script block of a component. -/
structure ScriptBlock where
  /-- Its place among the blocks. -/
  index : Nat
  /-- The attributes of its opening tag. -/
  attributes : Attributes
  /-- What stands between the tags. -/
  content : Text
  /-- The byte at which the content starts. -/
  start : Nat
  /-- The byte behind the content. -/
  stop : Nat
  deriving Repr, DecidableEq

/-- Equality of texts up to the case of ASCII letters. -/
def sameAsciiCase (t u : Text) : Bool := t.map Char.toLower == u.map Char.toLower

/-- Whether the attributes declare a language, in any case of ASCII letters. -/
def Attributes.isLang (as : Attributes) (lang : Text) : Bool :=
  match as.get? "lang" with
  | some value => sameAsciiCase value lang
  | none => false

namespace ScriptBlock

/-- The language a block declares. -/
def lang? (b : ScriptBlock) : Option Text := b.attributes.get? "lang"

/-- Whether a block declares a language. -/
def isLang (b : ScriptBlock) (lang : Text) : Bool := b.attributes.isLang lang

end ScriptBlock

/-- A script block: group 1 is the text of the attributes, group 2 the content. -/
def blockPattern : Pattern :=
  { node := .ofList
      (Node.charsAnyCase "<script"
        ++ [.anchor .wordEdge, .group 1 (.many (.compl (.single '>'))), .char (.single '>'),
          .group 2 (.few (.compl .none))]
        ++ Node.charsAnyCase "</script>") }

/-- The block that a match in a text of `total` bytes stands for. -/
def blockOf (total : Nat) (index : Nat) (m : Pattern.Match) : ScriptBlock where
  index := index
  attributes := parseAttributes (m.groupText 1)
  content := m.groupText 2
  start := ((m.group? 2).map (fun s => total - Text.byteSize s.start)).getD 0
  stop := ((m.group? 2).map (fun s => total - Text.byteSize s.stop)).getD 0

/-- The script blocks of a component, in order. -/
def findBlocks (source : Text) : List ScriptBlock :=
  let total := Text.byteSize source
  (blockPattern.matchesIn source).mapIdx (blockOf total)

end ScriptWeave
