/-
  ScriptWeave.Shell.Shape
  ───────────────────────
  **SHAPES OF TEXTS.**

  A shape is a text in which an unquoted `*` stands for any text, `?` for any
  character, and a list in brackets for one of the characters in it, or with
  `!` for one that is not.  A bracket that does not close stands for itself.
-/
import ScriptWeave.Text.Basic

namespace ScriptWeave.Shell

/-- A shape: its characters, each with whether it is quoted. -/
abbrev Shape := List (Char × Bool)

/-- The ranges of characters that a name between `[:` and `:]` stands for. -/
def namedRanges (name : String) : List (Char × Char) :=
  match name with
  | "alpha" => [('A', 'Z'), ('a', 'z')]
  | "digit" => [('0', '9')]
  | "alnum" => [('0', '9'), ('A', 'Z'), ('a', 'z')]
  | "upper" => [('A', 'Z')]
  | "lower" => [('a', 'z')]
  | "space" => [(' ', ' '), ('\t', '\r')]
  | "blank" => [(' ', ' '), ('\t', '\t')]
  | "punct" => [('!', '/'), (':', '@'), ('[', '\x60'), ('\x7b', '~')]
  | "print" => [(' ', '~')]
  | "graph" => [('!', '~')]
  | "cntrl" => [('\x00', '\x1f'), ('\x7f', '\x7f')]
  | "xdigit" => [('0', '9'), ('A', 'F'), ('a', 'f')]
  | _ => []

/-- The name between `[:` and `:]` at the start of a shape, and what follows it. -/
def className? : Shape → Option (String × Shape)
  | ('[', false) :: (':', false) :: rest =>
    let name := rest.takeWhile (fun g => g.1 != ':')
    match rest.drop name.length with
    | (':', false) :: (']', false) :: after => some (String.ofList (name.map (·.1)), after)
    | _ => none
  | _ => none

/-- The ranges of a list in brackets up to its end, and what follows it; none if it has no
end.  `first` says that a closing bracket would be one of the characters. -/
def bracketRanges : (fuel : Nat) → (first : Bool) → Shape → Option (List (Char × Char) × Shape)
  | 0, _, _ => none
  | _, _, [] => none
  | fuel + 1, first, (c, q) :: rest =>
    if c = ']' && !q && !first then some ([], rest)
    else
      match className? ((c, q) :: rest) with
      | some (name, after) =>
        (bracketRanges fuel false after).map (fun r => (namedRanges name ++ r.1, r.2))
      | none =>
        match rest with
        | ('-', false) :: (d, q') :: after =>
          if d = ']' && !q' then (bracketRanges fuel false rest).map (fun r => ((c, c) :: r.1, r.2))
          else (bracketRanges fuel false after).map (fun r => ((c, d) :: r.1, r.2))
        | _ => (bracketRanges fuel false rest).map (fun r => ((c, c) :: r.1, r.2))

/-- Whether a list in brackets is negated, its ranges, and what follows it. -/
def bracket? (rest : Shape) : Option (Bool × List (Char × Char) × Shape) :=
  match rest with
  | ('!', false) :: after =>
    (bracketRanges (after.length + 1) true after).map (fun r => (true, r.1, r.2))
  | ('^', false) :: after =>
    (bracketRanges (after.length + 1) true after).map (fun r => (true, r.1, r.2))
  | _ => (bracketRanges (rest.length + 1) true rest).map (fun r => (false, r.1, r.2))

/-- The test that the first part of a shape is for one character, and what follows that
part; the shape does not start with a star. -/
def Shape.step (c : Char) (quoted : Bool) (rest : Shape) (x : Char) : Bool × Shape :=
  if quoted then (c == x, rest)
  else if c = '?' then (true, rest)
  else if c = '[' then
    match bracket? rest with
    | some (negated, ranges, after) =>
      (ranges.any (fun r => r.1 ≤ x && x ≤ r.2) != negated, after)
    | none => (c == x, rest)
  else (c == x, rest)

/-- Whether a text has a shape. -/
def Shape.fits : (fuel : Nat) → Shape → Text → Bool
  | 0, _, _ => false
  | _, [], t => t.isEmpty
  | fuel + 1, (c, q) :: rest, t =>
    if c = '*' && !q then
      Shape.fits fuel rest t || (match t with
        | [] => false
        | _ :: t => Shape.fits fuel ((c, q) :: rest) t)
    else
      match t with
      | [] => false
      | x :: t =>
        let (ok, after) := Shape.step c q rest x
        ok && Shape.fits fuel after t

/-- Whether a text has a shape. -/
def Shape.has (s : Shape) (t : Text) : Bool := Shape.fits (s.length + t.length + 1) s t

/-- Whether a shape is more than the text of its characters. -/
def Shape.isWild (s : Shape) : Bool :=
  s.any (fun g => !g.2 && (g.1 == '*' || g.1 == '?' || g.1 == '['))

/-- What is left of a text behind its shortest or longest beginning of a shape. -/
def Shape.cutStart (s : Shape) (longest : Bool) (t : Text) : Text :=
  let cuts := List.range (t.length + 1)
  match (if longest then cuts.reverse else cuts).find? (fun n => s.has (t.take n)) with
  | some n => t.drop n
  | none => t

/-- What is left of a text before its shortest or longest end of a shape. -/
def Shape.cutEnd (s : Shape) (longest : Bool) (t : Text) : Text :=
  let cuts := List.range (t.length + 1)
  match (if longest then cuts else cuts.reverse).find? (fun n => s.has (t.drop n)) with
  | some n => t.take n
  | none => t

end ScriptWeave.Shell
