/-
  ScriptWeave.Decimal.Shortest
  ────────────────────────────
  **THE SHORTEST DECIMAL THAT READS BACK.**

  A floating-point number m · 2^q is the nearest one to every real in an
  interval around it; the ends belong to the interval when m is even.  Its
  shortest decimal is the multiple of the greatest power of ten that lies in
  the interval, and of two such multiples the nearer.  All of it is exact
  arithmetic on natural numbers.
-/
import ScriptWeave.Decimal.Digits

namespace ScriptWeave.Decimal

/-! ## §1. Binary floating point. -/

/-- A finite positive number of double precision as m · 2^q. -/
structure Binary where
  /-- The integer mantissa m. -/
  mantissa : Nat
  /-- The binary exponent q. -/
  exponent : Int
  /-- Whether the next lower number is nearer than the next higher one. -/
  narrowBelow : Bool
  deriving Repr, DecidableEq

/-- The magnitude of a finite double given by its 64 bits. -/
def Binary.ofBits (bits : UInt64) : Binary :=
  let n : Nat := bits.toNat
  let fraction : Nat := n % 0x10000000000000
  let e : Nat := n / 0x10000000000000 % 0x800
  if e = 0 then ⟨fraction, -1074, false⟩
  else ⟨0x10000000000000 + fraction, (e : Int) - 1075, fraction = 0 && e ≠ 1⟩

/-- Whether the bits are those of a negative number. -/
def signBit (bits : UInt64) : Bool := 0x8000000000000000 ≤ bits.toNat

/-! ## §2. The search for the power of ten. -/

/-- A decimal d · 10^k. -/
structure Scaled where
  /-- The digits as a number d. -/
  digits : Nat
  /-- The decimal exponent k. -/
  exponent : Int
  deriving Repr, DecidableEq

/-- The multiple of `10 ^ k` in the interval of `b` that is nearest to `b`, if there is one.
Quarters of the unit of the mantissa make the ends of the interval integers. -/
def multipleIn? (b : Binary) (k : Int) : Option Nat :=
  let q := b.exponent - 2
  let value := 4 * b.mantissa
  let low := if b.narrowBelow then value - 1 else value - 2
  let high := value + 2
  -- d · 10^k and x · 2^q are compared as d · ten and x · two
  let ten := Nat.pow 10 k.toNat * Nat.pow 2 (-q).toNat
  let two := Nat.pow 2 q.toNat * Nat.pow 10 (-k).toNat
  let d := value * two / ten
  let closed := b.mantissa % 2 = 0
  let inside (d : Nat) : Bool :=
    0 < d && (if closed then low * two ≤ d * ten && d * ten ≤ high * two
      else low * two < d * ten && d * ten < high * two)
  let below := value * two - d * ten
  let above := (d + 1) * ten - value * two
  match inside d, inside (d + 1) with
  | true, true => if below < above || (below == above && d % 2 == 0) then some d else some (d + 1)
  | true, false => some d
  | false, true => some (d + 1)
  | false, false => none

/-- The search from the exponent `k` downwards. -/
def shortestFrom (b : Binary) : (fuel : Nat) → (k : Int) → Scaled
  | 0, k => ⟨0, k⟩
  | fuel + 1, k =>
    match multipleIn? b k with
    | some d => ⟨d, k⟩
    | none => shortestFrom b fuel (k - 1)

/-- The shortest decimal that reads back as a positive number. -/
def shortest (b : Binary) : Scaled := shortestFrom b 640 309

end ScriptWeave.Decimal
