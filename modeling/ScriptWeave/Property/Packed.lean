/-
  ScriptWeave.Property.Packed
  ───────────────────────────
  **LARGE TABLES AS SHORT TEXTS.**

  A property of characters is a table of up to some hundred ranges.  It is
  written as a text of numbers, two for each range: how many code points lie
  between the range and the one before it, and how many follow its first.

  A number is written to base 32, the lowest digit first.  A digit is one of
  64 characters: the lower half ends the number, the upper half says that more
  digits follow.
-/
import ScriptWeave.Text.Basic
import ScriptWeave.Text.Range

namespace ScriptWeave.Property

/-! ## §1. Numbers. -/

/-- The place of a digit among `0` to `9`, `A` to `Z`, `a` to `z`, `-` and `_`. -/
def digitPlace (c : Char) : Nat :=
  if '0' ≤ c ∧ c ≤ '9' then c.toNat - 0x30
  else if 'A' ≤ c ∧ c ≤ 'Z' then c.toNat - 0x37
  else if 'a' ≤ c ∧ c ≤ 'z' then c.toNat - 0x3d
  else if c = '-' then 62
  else 63

/-- The numbers of a text; `value` is what the number begun amounts to, and `weight` what its
next digit counts for. -/
def numbers : (weight value : Nat) → Text → List Nat
  | _, _, [] => []
  | weight, value, c :: t =>
    let d := digitPlace c
    if d < 32 then (value + weight * d) :: numbers 1 0 t
    else numbers (32 * weight) (value + weight * (d - 32)) t

/-! ## §2. Ranges. -/

/-- The ranges behind `first`, which the numbers measure. -/
def rangesFrom (first : Nat) : List Nat → Ranges
  | gap :: more :: rest =>
    (first + gap, first + gap + more) :: rangesFrom (first + gap + more + 1) rest
  | _ => []

/-- The ranges that a text, cut into lines, stands for. -/
def unpack (lines : List String) : Ranges := rangesFrom 0 (numbers 1 0 (lines.flatMap String.toList))

/-! ## §3. Tables. -/

/-- The words of a text, each behind one space. -/
def words (s : String) : List Text := Text.splitOn ' ' s.toList

/-- The entry of a table by one of its names. -/
def named? (table : List (String × α)) (name : Text) : Option α :=
  (table.find? (fun e => (words e.1).contains name)).map (·.2)

end ScriptWeave.Property
