/-
  ScriptWeave.Build.Pool
  ──────────────────────
  **PREPROCESSORS BY THEIR OPTIONS.**

  A pool makes one preprocessor for each text of options and hands it out
  again when the same text is asked for.  No text stands for the default
  options and shares its place with the empty text.
-/
import ScriptWeave.Build.Preprocessor

namespace ScriptWeave

/-- Preprocessors with the texts that they were made for, in the order in which they were
made. -/
structure Pool where
  /-- The texts and the preprocessors. -/
  entries : List (Text × Preprocessor)

namespace Pool

/-- A pool without preprocessors. -/
def empty : Pool := ⟨[]⟩

/-- The number of preprocessors. -/
def size (p : Pool) : Nat := p.entries.length

/-- Whether there are no preprocessors. -/
def isEmpty (p : Pool) : Bool := p.entries.isEmpty

/-- The preprocessor for a text that was asked for before. -/
def find? (p : Pool) (key : Text) : Option Preprocessor := p.entries.lookup key

/-- Which preprocessor of the pool a text has, counted from zero. -/
def index (p : Pool) (key : Text) : Nat := p.entries.findIdx (fun e => e.1 == key)

/-- The options that a text stands for. -/
def optionsOf : Option Text → Except SetupError Options
  | none => .ok .builtin
  | some t => Options.parse t

/-- The preprocessor for a text of options, and the pool with it. -/
def get (p : Pool) (spawn : Spawn) (options : Option Text) : Action (Preprocessor × Pool) := do
  let key := options.getD []
  match p.find? key with
  | some found => return (found, p)
  | none =>
    match optionsOf options with
    | .error e => throw (.setup e)
    | .ok o =>
      let made ← Preprocessor.ofOptions spawn o
      return (made, ⟨p.entries ++ [(key, made)]⟩)

end Pool

/-! ## §1. Attributes from JSON. -/

/-- The value of an attribute that is given as JSON. -/
def attributeText : Json.Value → Text
  | .str t => t
  | .bool true => "true"
  | v => v.sorted.text

/-- Attributes that are given as JSON; anything but an object has none. -/
def Attributes.ofJson : Json.Value → Attributes
  | .obj members => members.foldl (fun as m => as.set m.1 (attributeText m.2)) []
  | _ => []

end ScriptWeave
