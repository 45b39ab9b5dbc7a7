/-
  ScriptWeave.Decimal.Digits
  ──────────────────────────
  **NATURAL NUMBERS IN DECIMAL DIGITS.**

  The digits of a number, most significant first and without leading zeros;
  zero is the one digit `0`.  Reading the digits gives the number back, so
  different numbers have different digits.

      ofDigits (digits n) = n
-/
import ScriptWeave.Text.Basic

namespace ScriptWeave.Decimal

/-- The character of a digit. -/
def digitChar (d : Nat) : Char := Char.ofNat (0x30 + d)

/-- The digits of a number below `10 ^ fuel`, in front of `acc`. -/
def digitsGo : (fuel n : Nat) → (acc : Text) → Text
  | 0, _, acc => acc
  | fuel + 1, n, acc =>
    let acc := digitChar (n % 10) :: acc
    if n < 10 then acc else digitsGo fuel (n / 10) acc

/-- The decimal digits of a number. -/
def digits (n : Nat) : Text := digitsGo (n + 1) n []

/-- The value of a decimal digit. -/
def digitValue (c : Char) : Nat := c.toNat - 0x30

/-- The number that digits stand for. -/
def ofDigits (t : Text) : Nat := t.foldl (fun n c => 10 * n + digitValue c) 0

/-- Whether a character is one of the ten digits. -/
def isDigit (c : Char) : Bool := '0' ≤ c && c ≤ '9'

theorem digitValue_digitChar {d : Nat} (h : d < 10) : digitValue (digitChar d) = d := by
  have : ∀ d, d < 10 → digitValue (digitChar d) = d := by decide
  exact this d h

/-- Reading on from digits written in front of `acc` gives the number, then `acc`. -/
theorem foldl_digitsGo (fuel n : Nat) (acc : Text) (h : n < fuel) :
    (digitsGo fuel n acc).foldl (fun n c => 10 * n + digitValue c) 0
      = acc.foldl (fun n c => 10 * n + digitValue c) n := by
  induction fuel generalizing n acc with
  | zero => omega
  | succ fuel ih =>
    simp only [digitsGo]
    split
    · next hn =>
      have : n % 10 = n := Nat.mod_eq_of_lt hn
      simp [this, digitValue_digitChar hn]
    · next hn =>
      rw [ih (n / 10) _ (by omega)]
      have : 10 * (n / 10) + n % 10 = n := Nat.div_add_mod n 10
      simp [digitValue_digitChar (Nat.mod_lt n (by omega)), this]

/-- Digits read back as the number they were written for. -/
theorem ofDigits_digits (n : Nat) : ofDigits (digits n) = n := by
  simp [ofDigits, digits, foldl_digitsGo (n + 1) n [] (by omega)]

theorem isDigit_digitChar {d : Nat} (h : d < 10) : isDigit (digitChar d) = true := by
  have : ∀ d, d < 10 → isDigit (digitChar d) = true := by decide
  exact this d h

theorem isDigit_of_mem_digitsGo {fuel n : Nat} {acc : Text} {c : Char}
    (h : c ∈ digitsGo fuel n acc) : isDigit c = true ∨ c ∈ acc := by
  induction fuel generalizing n acc with
  | zero => exact Or.inr h
  | succ fuel ih =>
    have hdigit := isDigit_digitChar (Nat.mod_lt n (by omega : 0 < 10))
    have hacc : c ∈ digitChar (n % 10) :: acc → isDigit c = true ∨ c ∈ acc := by
      intro hc
      rcases List.mem_cons.mp hc with rfl | hc
      · exact Or.inl hdigit
      · exact Or.inr hc
    simp only [digitsGo] at h
    split at h
    · exact hacc h
    · exact (ih h).elim Or.inl hacc

/-- Digits are digits. -/
theorem isDigit_of_mem_digits {n : Nat} {c : Char} (h : c ∈ digits n) : isDigit c = true :=
  (isDigit_of_mem_digitsGo h).resolve_right List.not_mem_nil

/-- Different numbers have different digits. -/
theorem digits_injective {m n : Nat} (h : digits m = digits n) : m = n := by
  rw [← ofDigits_digits m, ← ofDigits_digits n, h]

end ScriptWeave.Decimal
