/-
  ScriptWeave.Alias.Format
  ────────────────────────
  **THE ALIAS TABLE AS JSON.**

  A table is a record with the one field `entries`, an array of pairs.  What
  is read is kept as it is: pairs that repeat an internal name are not
  merged.
-/
import ScriptWeave.Alias.Table
import ScriptWeave.Json.Decoder

namespace ScriptWeave

namespace AliasTable

/-- A pair of names as JSON. -/
def pairValue (p : Text × Text) : Json.Value := .arr [.str p.1, .str p.2]

/-- A table as JSON. -/
def toJson (t : AliasTable) : Json.Value :=
  .obj [("entries", .arr (t.entries.map pairValue))]

/-- Reads a table, whose field must occur. -/
def decoder : Json.Decoder AliasTable :=
  Json.Shape.decoder
    { name := "struct ExportAliases"
      complete := true
      fields := [.of "entries" (Json.list (Json.pair Json.string Json.string))
        (fun entries _ => ⟨entries⟩)] }
    .empty

end AliasTable

namespace RenameOrder

/-- The names of the orders. -/
def names : List (Text × RenameOrder) :=
  [("discovery", .discovery), ("longestFirst", .longestFirst)]

/-- The name of an order. -/
def name : RenameOrder → Text
  | .discovery => "discovery"
  | .longestFirst => "longestFirst"

/-- An order as JSON. -/
def toJson (o : RenameOrder) : Json.Value := .str o.name

/-- Reads an order by its name. -/
def decoder : Json.Decoder RenameOrder := Json.oneOf names

end RenameOrder

end ScriptWeave
