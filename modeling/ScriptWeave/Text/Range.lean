/-
  ScriptWeave.Text.Range
  ──────────────────────
  **SETS OF CODE POINTS AS RANGES.**

  The property tables of the library are lists of ranges, both ends included.
  The ranges of a table ascend and do not meet; union, complement and
  intersection keep it so.
-/

namespace ScriptWeave

/-- Ranges of code points, both ends included. -/
abbrev Ranges := List (Nat × Nat)

/-- Whether a code point lies in one of the ranges. -/
def inRanges (ranges : Ranges) (n : Nat) : Bool :=
  ranges.any (fun r => r.1 ≤ n && n ≤ r.2)

theorem inRanges_eq_true_iff {ranges : Ranges} {n : Nat} :
    inRanges ranges n = true ↔ ∃ r ∈ ranges, r.1 ≤ n ∧ n ≤ r.2 := by
  simp [inRanges]

namespace Ranges

/-- The last code point there is. -/
def last : Nat := 0x10ffff

/-- The ranges of two tables in the order of their starts; `fuel` is at least the number
of ranges. -/
def merge : (fuel : Nat) → Ranges → Ranges → Ranges
  | 0, _, _ => []
  | _ + 1, [], t => t
  | _ + 1, s, [] => s
  | fuel + 1, r :: s, q :: t =>
    if r.1 ≤ q.1 then r :: merge fuel s (q :: t) else q :: merge fuel (r :: s) t

/-- Ascending ranges behind `r`, with those that meet made one. -/
def joinFrom (r : Nat × Nat) : Ranges → Ranges
  | [] => [r]
  | q :: s => if q.1 ≤ r.2 + 1 then joinFrom (r.1, max r.2 q.2) s else r :: joinFrom q s

/-- Ascending ranges, with those that meet made one. -/
def join : Ranges → Ranges
  | [] => []
  | r :: s => joinFrom r s

/-- The code points in either table. -/
def union (s t : Ranges) : Ranges := join (merge (s.length + t.length) s t)

/-- Every two neighbours made one. -/
def unionPairs : List Ranges → List Ranges
  | s :: t :: rest => s.union t :: unionPairs rest
  | ss => ss

/-- The code points in any of the tables; halving their number `fuel` times leaves one. -/
def unionAll : (fuel : Nat) → List Ranges → Ranges
  | _, [] => []
  | _, [s] => s
  | 0, _ => []
  | fuel + 1, ss => unionAll fuel (unionPairs ss)

/-- Single code points, in any order. -/
def points (ns : List Nat) : Ranges := unionAll ns.length (ns.map (fun n => [(n, n)]))

/-- The code points from `first` on that the ranges leave out. -/
def gapsFrom (first : Nat) : Ranges → Ranges
  | [] => if first ≤ last then [(first, last)] else []
  | r :: s => if first < r.1 then (first, r.1 - 1) :: gapsFrom (r.2 + 1) s else gapsFrom (r.2 + 1) s

/-- The code points in no range. -/
def compl (s : Ranges) : Ranges := gapsFrom 0 s

/-- The code points in both tables; `fuel` is at least the number of ranges. -/
def meet : (fuel : Nat) → Ranges → Ranges → Ranges
  | fuel + 1, r :: s, q :: t =>
    let lo := max r.1 q.1
    let hi := min r.2 q.2
    let rest := if r.2 ≤ q.2 then meet fuel s (q :: t) else meet fuel (r :: s) t
    if lo ≤ hi then (lo, hi) :: rest else rest
  | _, _, _ => []

/-- The code points in both tables. -/
def inter (s t : Ranges) : Ranges := meet (s.length + t.length) s t

/-- Whether no code point is in both tables. -/
def disjoint (s t : Ranges) : Bool := (inter s t).isEmpty

end Ranges

end ScriptWeave
