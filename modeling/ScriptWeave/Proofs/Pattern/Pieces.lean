/-
  ScriptWeave.Proofs.Pattern.Pieces
  ─────────────────────────────────
  **A SCAN MATCH BY MATCH.**

  A pattern whose matches are never empty cuts a text into pieces in one pass:
  a match is taken where there is one, and a character passed where there is
  none.

      piecesFrom p prev (x :: t) = plain x :: piecesFrom p x t       no match
      piecesFrom p prev (u ++ v) = hit m :: piecesFrom p (behind u) v    m on u

  What replaces, splits and lists matches is read off the pieces.
-/
import ScriptWeave.Pattern.Scan
import ScriptWeave.Proofs.Pattern.Walk

namespace ScriptWeave.Pattern

variable {p : Pattern} {prev : Option Char} {m : Match}

/-! ## §1. Pieces from a position on. -/

/-- A pattern all of whose matches have at least one character. -/
def Advances (p : Pattern) : Prop := ∀ c m, p.matchAt c = some m → m.whole.length ≠ 0

/-- The pieces of a text behind the character `prev`. -/
def piecesFrom (p : Pattern) (prev : Option Char) (t : Text) : List Piece :=
  scan p 0 false prev t

theorem pieces_eq (h : p.atOnce = false) (t : Text) : p.pieces t = piecesFrom p none t := by
  rw [pieces, if_neg (by simp [h]), piecesFrom]

/-- A match at the end of a text is empty. -/
theorem length_whole_of_nil (h : p.matchAt ⟨prev, []⟩ = some m) : m.whole.length = 0 := by
  obtain ⟨r, -, rfl⟩ := Option.map_eq_some_iff.mp h
  simp [Span.length]

/-- Whether a match lies directly before matters to empty matches only. -/
theorem scan_behind (hp : Advances p) (n : Nat) (b b' : Bool) (t : Text) :
    scan p n b prev t = scan p n b' prev t := by
  induction t generalizing n prev with
  | nil =>
    cases hm : p.matchAt ⟨prev, []⟩ with
    | none => simp only [scan, hm]
    | some m => exact absurd (length_whole_of_nil hm) (hp _ m hm)
  | cons x t ih =>
    cases n with
    | succ n => rw [scan, scan, ih]
    | zero =>
      cases hm : p.matchAt ⟨prev, x :: t⟩ with
      | none => simp only [scan, hm]
      | some m =>
        -- only an empty match could tell the two scans apart
        cases hl : m.whole.length with
        | zero => exact absurd hl (hp _ m hm)
        | succ n => simp only [scan, hm, hl]

theorem scan_skip (u v : Text) (b : Bool) :
    scan p u.length b prev (u ++ v) = scan p 0 b (lastOr prev u) v := by
  induction u generalizing prev with
  | nil => rfl
  | cons x u ih => rw [List.cons_append, List.length_cons, scan, ih, lastOr_cons]

theorem piecesFrom_nil (h : p.matchAt ⟨prev, []⟩ = none) : piecesFrom p prev [] = [] := by
  simp only [piecesFrom, scan, h]

theorem piecesFrom_cons {x : Char} {t : Text} (h : p.matchAt ⟨prev, x :: t⟩ = none) :
    piecesFrom p prev (x :: t) = .plain x :: piecesFrom p (some x) t := by
  simp only [piecesFrom, scan, h]

/-- A match is taken, and the scan goes on behind it. -/
theorem piecesFrom_match (hp : Advances p) {u v : Text}
    (h : p.matchAt ⟨prev, u ++ v⟩ = some m) (hm : m.whole.length = u.length) :
    piecesFrom p prev (u ++ v) = .hit m :: piecesFrom p (lastOr prev u) v := by
  cases u with
  | nil => exact absurd hm (hp _ m h)
  | cons x u =>
    rw [List.cons_append] at h
    simp only [piecesFrom, List.cons_append, scan, h, hm, List.length_cons]
    rw [scan_skip, lastOr_cons, scan_behind hp 0 true false]

/-- A stretch in which no match begins is passed character by character. -/
theorem piecesFrom_append {u v : Text}
    (h : ∀ a x b, u = a ++ x :: b → p.matchAt ⟨lastOr prev a, x :: b ++ v⟩ = none) :
    piecesFrom p prev (u ++ v) = u.map .plain ++ piecesFrom p (lastOr prev u) v := by
  induction u generalizing prev with
  | nil => rfl
  | cons x u ih =>
    have hx := h [] x u rfl
    rw [lastOr_nil, List.cons_append] at hx
    rw [List.cons_append, piecesFrom_cons hx, ih, List.map_cons, List.cons_append, lastOr_cons]
    intro a y b hu
    exact h (x :: a) y b (by rw [hu, List.cons_append])

/-! ## §2. What is read off the pieces. -/

/-- What stands for a piece when matches are replaced. -/
def Piece.replaced (f : Match → Text) : Piece → Text
  | .plain c => [c]
  | .hit m => f m

/-- The match that a piece is, if it is one. -/
def Piece.match? : Piece → Option Match
  | .plain _ => none
  | .hit m => some m

theorem replaceAll_eq (h : p.atOnce = false) (f : Match → Text) (t : Text) :
    p.replaceAll f t = (piecesFrom p none t).flatMap (Piece.replaced f) := by
  rw [replaceAll, pieces_eq h]
  rfl

theorem matchesIn_eq (h : p.atOnce = false) (t : Text) :
    p.matchesIn t = (piecesFrom p none t).filterMap Piece.match? := by
  rw [matchesIn, pieces_eq h]
  rfl

theorem split_eq (h : p.atOnce = false) (t : Text) : p.split t = gaps (piecesFrom p none t) := by
  rw [split, pieces_eq h]

theorem flatMap_replaced_plain (f : Match → Text) (u : Text) :
    (u.map Piece.plain).flatMap (Piece.replaced f) = u := by
  induction u with
  | nil => rfl
  | cons x u ih => rw [List.map_cons, List.flatMap_cons, ih]; rfl

theorem filterMap_match?_plain (u : Text) : (u.map Piece.plain).filterMap Piece.match? = [] := by
  induction u with
  | nil => rfl
  | cons x u ih => rw [List.map_cons, List.filterMap_cons]; exact ih

theorem gaps_plain (u : Text) : gaps (u.map Piece.plain) = [u] := by
  induction u with
  | nil => rfl
  | cons x u ih => rw [List.map_cons, gaps, ih]

/-- The text before the first match is the first gap. -/
theorem gaps_plain_append_hit (u : Text) (rest : List Piece) :
    gaps (u.map Piece.plain ++ .hit m :: rest) = u :: gaps rest := by
  induction u with
  | nil => rfl
  | cons x u ih => rw [List.map_cons, List.cons_append, gaps, ih]

end ScriptWeave.Pattern
