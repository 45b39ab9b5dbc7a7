/-
  ScriptWeave.Shell.Expand
  ────────────────────────
  **WHAT WORDS STAND FOR.**

  A word is first turned into glyphs: characters that know whether they are
  quoted and whether they come from a value.  Glyphs from unquoted values are
  cut into fields where separators stand.  A field with a shape stands for
  the paths that have the shape, in order, or for itself if there are none.
  A name that starts with a dot has only a shape that starts with one.
-/
import ScriptWeave.Shell.Arithmetic
import ScriptWeave.Shell.Shape
import ScriptWeave.Shell.State

namespace ScriptWeave.Shell

/-! ## §1. Fields. -/

/-- A character of a word that is being expanded. -/
inductive Glyph where
  /-- A character of the word itself. -/
  | char (c : Char) (quoted : Bool)
  /-- A character of a value that is not quoted. -/
  | value (c : Char)
  /-- Something that makes a field even if nothing else does. -/
  | quotes
  /-- The end of a field. -/
  | cut
  deriving Repr, DecidableEq

/-- Glyphs that are cut into fields: the fields so far, the one under construction, and
whether white space has ended a field just now. -/
structure Cutting where
  /-- The fields so far, last first. -/
  fields : List Shape
  /-- The field under construction, last character first. -/
  current : Option Shape
  /-- Whether white space ended a field and no other separator came since. -/
  blank : Bool

namespace Cutting

/-- Ends the field under construction. -/
def finish (s : Cutting) (blank : Bool) : Cutting :=
  match s.current with
  | some f => ⟨f.reverse :: s.fields, none, blank⟩
  | none => { s with blank := s.blank && blank }

/-- Adds a character to the field under construction. -/
def extend (s : Cutting) (c : Char) (quoted : Bool) : Cutting :=
  { s with current := some ((c, quoted) :: s.current.getD []), blank := false }

/-- Meets a glyph. -/
def meet (separators : Text) (s : Cutting) : Glyph → Cutting
  | .char c quoted => s.extend c quoted
  | .quotes => { s with current := some (s.current.getD []), blank := false }
  | .cut => s.finish false
  | .value c =>
    if !separators.contains c then s.extend c false
    else if c == ' ' || c == '\t' || c == '\n' then
      match s.current with
      | some _ => s.finish true
      | none => s
    else
      match s.current with
      | some _ => s.finish false
      | none => if s.blank then { s with blank := false } else { s with fields := [] :: s.fields }

end Cutting

/-- The fields of glyphs. -/
def fieldsOf (separators : Text) (gs : List Glyph) : List Shape :=
  ((gs.foldl (Cutting.meet separators) ⟨[], none, false⟩).finish false).fields.reverse

/-- The characters of glyphs that are not cut. -/
def wholeOf (gs : List Glyph) : Shape :=
  gs.filterMap (fun
    | .char c quoted => some (c, quoted)
    | .value c => some (c, false)
    | .quotes => none
    -- arguments that are not cut stand with blanks between them
    | .cut => some (' ', true))

/-! ## §2. Names of files. -/

/-- The parts of a shape between slashes. -/
def splitParts : Shape → List Shape
  | [] => [[]]
  | g :: rest =>
    if g.1 = '/' then [] :: splitParts rest
    else
      match splitParts rest with
      | [] => [[g]]
      | part :: parts => (g :: part) :: parts

/-- The paths below a path that have a shape, given by its parts. -/
def matchesBelow (st : State) : (base : Text) → List Shape → List Text
  | base, [] => [base]
  | base, part :: rest =>
    let slash : Text := if rest.isEmpty then [] else ['/']
    if part.isWild then
      let dir := if base.isEmpty then ['.'] else base
      let names :=
        match st.files.entryAt (st.path dir) with
        | .ok (l, .dir) => ['.'] :: ['.', '.'] :: (st.files.namesIn l).map inward
        | _ => []
      -- a name with a leading dot fits only a shape with one
      let fits := names.filter (fun n =>
        part.has n && (n.head? != some '.' || part.head?.map (·.1) == some '.'))
      fits.flatMap (fun n =>
        if rest.isEmpty || st.files.isDirAt (st.path (base ++ n)) then
          matchesBelow st (base ++ n ++ slash) rest
        else [])
    else
      let path := base ++ part.map (·.1) ++ slash
      if rest.isEmpty && !st.files.existsAt (st.path path) then [] else matchesBelow st path rest

/-- The paths that a field stands for, or the field itself. -/
def pathsOf (st : State) (f : Shape) : List Text :=
  let itself := f.map (·.1)
  if f.isWild && !st.modes.noNames then
    match matchesBelow st [] (splitParts f) with
    -- a shape that nothing has stands for itself
    | [] => [itself]
    | found => found
  else [itself]

/-! ## §3. Parameters. -/

/-- The letters of the modes in force. -/
def Modes.letters (m : Modes) : Text :=
  (if m.exitOnFailure then ['e'] else []) ++ (if m.noNames then ['f'] else [])
    ++ (if m.trace then ['x'] else []) ++ (if m.keepFiles then ['C'] else [])
    ++ (if m.exportAll then ['a'] else []) ++ (if m.noUnset then ['u'] else [])

/-- The value of a parameter that has a single one. -/
def State.parameter? (st : State) (name : Text) : Option Text :=
  match name with
  | ['#'] => some (Decimal.digits st.args.length)
  | ['?'] => some (Decimal.digits st.status)
  | ['$'] => some (Decimal.digits st.process)
  | ['!'] => st.lastBackground.map (fun b => Decimal.digits b.1)
  | ['-'] => some st.modes.letters
  | _ =>
    if name.all Char.isDigit then
      match Decimal.ofDigits name with
      | 0 => some st.name
      | n + 1 => st.args[n]?
    else st.value? name

/-- Glyphs of a value. -/
def glyphsOf (quoted : Bool) (t : Text) : List Glyph :=
  if quoted then t.map (fun c => .char c true) else t.map .value

/-- The glyphs of all arguments: `apart` says that they stay apart even if they are quoted. -/
def argumentGlyphs (st : State) (apart quoted : Bool) : List Glyph :=
  if quoted && !apart then
    let separator : Text := match st.value? "IFS", st.binding? "IFS" with
      | some t, _ => t.take 1
      | none, _ => [' ']
    glyphsOf true (Text.join separator st.args)
  else
    let each := st.args.map (fun a => (if quoted then [Glyph.quotes] else []) ++ glyphsOf quoted a)
    (each.intersperse [.cut]).flatten

/-- Fails because a parameter is unset. -/
def unsetMistake {α : Type} (name : Text) (orNull : Bool) : Run α :=
  mistake (name ++ (if orNull then ": parameter not set or null" else ": parameter not set"))

/-- A glyph of the word behind an operator; what is not quoted there counts as a value. -/
def Glyph.asValue : Glyph → Glyph
  | .char c false => .value c
  | g => g

/-- The numbers that variables of an expression hold. -/
def numberIn (st : State) (name : Text) : Except ArithProblem Int :=
  match st.parameter? name with
  | none => if st.modes.noUnset then .error (.unset name) else .ok 0
  | some t =>
    if t.isEmpty then .ok 0
    else
      match intOf? t with
      | some n => .ok n
      | none => .error (.notNumber t)

/-- The words of a problem with an expression. -/
def ArithProblem.text (expr : Text) : ArithProblem → Text
  | .notNumber v => "Illegal number: " ++ v
  | .unset name => name ++ ": parameter not set"
  | p =>
    let what : Text := match p with
      | .closing => "expecting \x27)\x27"
      | .colon => "expecting \x27:\x27"
      | .finish => "expecting EOF"
      | .zero => "division by zero"
      | _ => "expecting primary"
    "arithmetic expression: " ++ what ++ ": \"" ++ expr ++ "\""

/-- The value of an expression, after its assignments. -/
def evaluate (expr : Text) : Run Int := do
  match calculate (numberIn (← get)) expr with
  | .error p => mistake (p.text expr)
  | .ok (n, assigned) =>
    -- the latest assignment comes first, so they are done in reverse
    for (name, v) in assigned.reverse do setVariable name (intText v)
    return n

/-! ## §4. Words. -/

/-- A text without the line breaks at its end and without zero bytes. -/
def trimOutput (t : Text) : Text :=
  ((t.filter (· != '\x00')).reverse.dropWhile (· == '\n')).reverse

/-- The glyphs of a word.  `run` runs a command in a shell of its own and gives what it
prints. -/
def glyphs (run : Command → Run Text) : (fuel : Nat) → Word → Run (List Glyph)
  | 0, _ => throw (.mistake 2)
  | _, [] => return []
  | fuel + 1, p :: rest => do
    let first ← match p with
      | .char c q => pure [Glyph.char c q]
      | .quotes => pure [Glyph.quotes]
      | .output c q => do
        let t ← run c
        pure (glyphsOf q (trimOutput t))
      | .arithmetic expr q => do
        let gs ← glyphs run fuel expr
        let n ← evaluate ((wholeOf gs).map (·.1))
        pure (glyphsOf q (intText n))
      | .param name rule orNull arg q => do
        let st ← get
        -- all arguments, which count as unset if there are none
        let many := name = ['@'] || name = ['*']
        let value :=
          if many then
            if st.args.isEmpty then none else some (Text.join [' '] st.args)
          else st.parameter? name
        let present := match value with
          | some t => !(orNull && t.isEmpty)
          | none => false
        let shown (v : Option Text) : List Glyph :=
          if many then argumentGlyphs st (name = ['@']) q else glyphsOf q (v.getD [])
        let needed : Run Unit := do
          if st.modes.noUnset && value.isNone && !many then unsetMistake name false
        let other : Run (List Glyph) := do
          return (← glyphs run fuel arg).map (fun g => if q then g else g.asValue)
        match rule with
        | .bad => mistake "Bad substitution"
        | .value => do
          needed
          pure (shown value)
        | .length => do
          needed
          pure (glyphsOf q (Decimal.digits (value.getD []).length))
        | .default => if present then pure (shown value) else other
        | .alternative => if present then other else pure []
        | .assign => do
          if present then pure (shown value)
          else
            let t := (wholeOf (← other)).map (·.1)
            unless (name.head?.map (fun c => c.isAlpha || c == '_')).getD false do
              mistake (name ++ ": bad variable name")
            setVariable name t
            pure (glyphsOf q t)
        | .require => do
          if present then pure (shown value)
          else if arg.isEmpty then unsetMistake name orNull
          else
            let t := (wholeOf (← other)).map (·.1)
            mistake (name ++ ": " ++ t)
        | .cutStart longest => do
          needed
          let s := wholeOf (← glyphs run fuel arg)
          pure (glyphsOf q (s.cutStart longest (value.getD [])))
        | .cutEnd longest => do
          needed
          let s := wholeOf (← glyphs run fuel arg)
          pure (glyphsOf q (s.cutEnd longest (value.getD [])))
    return first ++ (← glyphs run fuel rest)

/-- The fields that a word stands for. -/
def expand (run : Command → Run Text) (fuel : Nat) (w : Word) : Run (List Text) := do
  let gs ← glyphs run fuel w
  let st ← get
  return (fieldsOf st.separators gs).flatMap (pathsOf st)

/-- The fields that words stand for. -/
def expandAll (run : Command → Run Text) (fuel : Nat) : List Word → Run (List Text)
  | [] => return []
  | w :: rest => do
    let first ← expand run fuel w
    return first ++ (← expandAll run fuel rest)

/-- The shape that a word stands for as a whole. -/
def expandShape (run : Command → Run Text) (fuel : Nat) (w : Word) : Run Shape := do
  return wholeOf (← glyphs run fuel w)

/-- The text that a word stands for as a whole. -/
def expandWhole (run : Command → Run Text) (fuel : Nat) (w : Word) : Run Text := do
  return (← expandShape run fuel w).map (·.1)

end ScriptWeave.Shell
