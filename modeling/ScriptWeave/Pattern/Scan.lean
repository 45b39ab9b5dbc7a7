/-
  ScriptWeave.Pattern.Scan
  ────────────────────────
  **ALL MATCHES OF A PATTERN IN A TEXT.**

  A text is scanned from left to right.  Every position outside the matches
  found so far is tried in turn, so each match is the leftmost one after its
  predecessor.  An empty match is not taken directly behind the match before
  it.  The scan cuts the text into pieces, characters outside matches and
  matches; replacing, splitting and listing matches read these pieces.
-/
import ScriptWeave.Pattern.Threads

namespace ScriptWeave.Pattern

/-- A piece of a scanned text. -/
inductive Piece where
  /-- A character outside all matches. -/
  | plain (c : Char)
  /-- A match. -/
  | hit (m : Match)
  deriving Repr, DecidableEq

/-- The scan from one position on.  `skip` counts the characters of the last match
still to be passed, and `behind` says that the position, once they are passed, lies
directly behind a match. -/
def scan (p : Pattern) : (skip : Nat) → (behind : Bool) → (prev : Option Char) → Text → List Piece
  | _, behind, prev, [] =>
    match p.matchAt ⟨prev, []⟩ with
    | some m => if behind then [] else [.hit m]
    | none => []
  | skip + 1, behind, _, c :: t => scan p skip behind (some c) t
  | 0, behind, prev, c :: t =>
    match p.matchAt ⟨prev, c :: t⟩ with
    | none => .plain c :: scan p 0 false (some c) t
    | some m =>
      match m.whole.length with
      | 0 =>
        if behind then .plain c :: scan p 0 false (some c) t
        else .hit m :: .plain c :: scan p 0 false (some c) t
      | n + 1 => .hit m :: scan p n true (some c) t

/-- The scan from one position on, by a program that finds the next match at once.  Every
match, and every character an empty match stands before, uses up one unit of `fuel`. -/
def Program.scan (p : Program) :
    (fuel : Nat) → (behind : Bool) → (prev : Option Char) → Text → List Piece
  | 0, _, _, t => t.map .plain
  | fuel + 1, behind, prev, t =>
    match p.search prev t with
    | none => t.map .plain
    | some (before, m) =>
      let taken := m.whole.length ≠ 0 || !behind || before ≠ 0
      (t.take before).map .plain ++ (if taken then [.hit m] else [])
        ++ (if m.whole.length = 0 then
            match m.whole.stop with
            | [] => []
            | c :: u => .plain c :: p.scan fuel false (some c) u
          else p.scan fuel true m.whole.text.getLast? m.whole.stop)

/-- The pieces of a text. -/
def pieces (p : Pattern) (t : Text) : List Piece :=
  if p.atOnce then p.node.program.scan (t.length + 1) false none t else scan p 0 false none t

/-- The matches in a text, from left to right. -/
def matchesIn (p : Pattern) (t : Text) : List Match :=
  (p.pieces t).filterMap (fun
    | .plain _ => none
    | .hit m => some m)

/-- The text with every match replaced. -/
def replaceAll (p : Pattern) (f : Match → Text) (t : Text) : Text :=
  (p.pieces t).flatMap (fun
    | .plain c => [c]
    | .hit m => f m)

/-- The texts between the matches among the pieces, empty ones included. -/
def gaps : List Piece → List Text
  | [] => [[]]
  | .hit _ :: rest => [] :: gaps rest
  | .plain c :: rest =>
    match gaps rest with
    | [] => [[c]]
    | t :: ts => (c :: t) :: ts

/-- The texts between the matches, empty ones included. -/
def split (p : Pattern) (t : Text) : List Text := gaps (p.pieces t)

end ScriptWeave.Pattern
