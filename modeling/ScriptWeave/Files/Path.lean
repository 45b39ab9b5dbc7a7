/-
  ScriptWeave.Files.Path
  ──────────────────────
  **PATHS.**

  A path is a text in which `/` separates names.  Paths are joined as they
  are written, without looking at any file.  They are ordered name by name,
  so what lies below `a` comes before `a.b`.
-/
import ScriptWeave.Json.Value

namespace ScriptWeave.Path

/-! ## §1. Joining. -/

/-- Whether a path starts at the root. -/
def isAbsolute (p : Text) : Bool := p.head? == some '/'

/-- A path below another; an absolute one stays as it is. -/
def join (p q : Text) : Text :=
  if isAbsolute q || p.isEmpty then q
  else if p.getLast? == some '/' then p ++ q
  else p ++ '/' :: q

/-! ## §2. Names. -/

/-- The parts of a path: its names, without empty ones and without `.`, which is kept only
where a path starts with it. -/
def parts (p : Text) : List Text :=
  let all := (Text.splitOn '/' p).zipIdx
  (all.filter (fun n => !n.1.isEmpty && (n.1 != ['.'] || n.2 == 0))).map (·.1)

/-- The last name of a path, unless the path ends in `.` alone or in `..`. -/
def fileName? (p : Text) : Option Text :=
  match (parts p).getLast? with
  | some name => if name = ['.'] || name = ['.', '.'] then none else some name
  | none => none

/-- The extension of a name: what follows its last dot, unless that dot comes first. -/
def extension? (name : Text) : Option Text :=
  let after := name.reverse.takeWhile (· != '.')
  if after.length < name.length && after.length + 1 < name.length && name != ['.', '.'] then
    some after.reverse
  else none

/-- A reversed path without the slashes, and the names `.` behind slashes, that it starts
with. -/
def dropSlashes : Text → Text
  | '/' :: r => dropSlashes r
  | '.' :: '/' :: r => dropSlashes r
  | r => r

/-- The path without its last part, written as it was, if it has one. -/
def parent? (p : Text) : Option Text :=
  let r := dropSlashes p.reverse
  if r.isEmpty then none
  else
    let up := dropSlashes (r.dropWhile (· != '/'))
    some (if up.isEmpty && isAbsolute p then ['/'] else up.reverse)

/-! ## §3. Order. -/

/-- Whether a list of names comes before or with another. -/
def namesLe : List Text → List Text → Bool
  | [], _ => true
  | _ :: _, [] => false
  | a :: as, b :: bs => if a = b then namesLe as bs else Json.textLe a b

/-- Whether a path comes before or with another. -/
def le (p q : Text) : Bool := namesLe (parts p) (parts q)

end ScriptWeave.Path
