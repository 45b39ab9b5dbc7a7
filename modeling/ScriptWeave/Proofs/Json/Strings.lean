/-
  ScriptWeave.Proofs.Json.Strings
  ───────────────────────────────
  **STRINGS ARE READ BACK AS THEY WERE WRITTEN.**

  A text is written character by character, and each character is read back
  from what it was written as: as itself, as an escape of one letter, or as
  an escape of four hexadecimal digits.

      readString (fuel + 1) (escapeChar c ++ t) = push c (readString fuel t)
      stringBody (t.flatMap escapeChar ++ '"' :: rest) = ok (t, rest)
-/
import ScriptWeave.Json.Lexical

namespace ScriptWeave.Json

/-! ## §1. Hexadecimal digits. -/

theorem hexValue?_hexChar {d : Nat} (h : d < 16) : hexValue? (hexChar d) = some d := by
  have hall : ∀ d < 16, hexValue? (hexChar d) = some d := by decide
  exact hall d h

theorem readFour_hexChar {n : Nat} (h : n < 0x20) (rest : Text) :
    readFour ('0' :: '0' :: hexChar (n / 16) :: hexChar (n % 16) :: rest) = .ok (n, rest) := by
  have hzero : hexValue? '0' = some 0 := rfl
  have hhigh := hexValue?_hexChar (d := n / 16) (by omega)
  have hlow := hexValue?_hexChar (d := n % 16) (by omega)
  have hsum : ((0 * 16 + 0) * 16 + n / 16) * 16 + n % 16 = n := by omega
  simp only [readFour, hzero, hhigh, hlow, hsum]

/-- A control character is read back from its escape. -/
theorem readUnicode_hexChar {c : Char} (h : c.toNat < 0x20) (rest : Text) :
    readUnicode ('0' :: '0' :: hexChar (c.toNat / 16) :: hexChar (c.toNat % 16) :: rest)
      = .ok (c, rest) := by
  have hnotLow : ¬ (0xdc00 ≤ c.toNat ∧ c.toNat ≤ 0xdfff) := by omega
  have hnotHigh : c.toNat < 0xd800 ∨ 0xdbff < c.toNat := by omega
  simp only [readUnicode, readFour_hexChar h rest, if_neg hnotLow, if_pos hnotHigh,
    Char.ofNat_toNat]

/-! ## §2. Characters. -/

theorem readString_hexChar (fuel : Nat) {c : Char} (h : c.toNat < 0x20) (t : Text) :
    readString (fuel + 1)
        (['\\', 'u', '0', '0', hexChar (c.toNat / 16), hexChar (c.toNat % 16)] ++ t)
      = readString.push c (readString fuel t) := by
  have hread := readUnicode_hexChar h t
  simp only [List.cons_append, List.nil_append]
  conv => lhs; unfold readString
  simp only [hread, if_neg (show ¬ '\\' = '"' by decide), if_pos]

theorem readString_plain (fuel : Nat) {c : Char} (hquote : ¬ c = '"') (hslash : ¬ c = '\\')
    (hlarge : ¬ c.toNat < 0x20) (t : Text) :
    readString (fuel + 1) ([c] ++ t) = readString.push c (readString fuel t) := by
  simp only [List.cons_append, List.nil_append]
  conv => lhs; unfold readString
  rw [if_neg hquote, if_neg hslash, if_neg hlarge]

/-- A character is read back from what it is written as. -/
theorem readString_escapeChar (fuel : Nat) (c : Char) (t : Text) :
    readString (fuel + 1) (escapeChar c ++ t) = readString.push c (readString fuel t) := by
  unfold escapeChar
  -- one case for each short escape, then the long ones, then the character itself
  split
  next h => subst h; rfl
  split
  next h => subst h; rfl
  split
  next h => subst h; rfl
  split
  next h => subst h; rfl
  split
  next h => subst h; rfl
  split
  next h => subst h; rfl
  split
  next h => subst h; rfl
  split
  next h => exact readString_hexChar fuel h t
  next hquote hslash _ _ _ _ _ hlarge => exact readString_plain fuel hquote hslash hlarge t

theorem escapeChar_ne_nil (c : Char) : escapeChar c ≠ [] := by
  intro h
  have hread := readString_escapeChar 0 c ['"', '"']
  rw [h] at hread
  exact absurd hread (by simp [readString, readString.push, Fault.behind])

/-! ## §3. Texts. -/

theorem length_le_length_escaped (t : Text) : t.length ≤ (t.flatMap escapeChar).length := by
  induction t with
  | nil => exact Nat.le_refl 0
  | cons c t ih =>
    have hpos := List.length_pos_iff.mpr (escapeChar_ne_nil c)
    rw [List.flatMap_cons, List.length_append, List.length_cons]
    omega

theorem readString_escaped {fuel : Nat} {t : Text} (h : t.length < fuel) (rest : Text) :
    readString fuel (t.flatMap escapeChar ++ '"' :: rest) = .ok (t, rest) := by
  induction t generalizing fuel with
  | nil =>
    obtain ⟨fuel, rfl⟩ := Nat.exists_eq_succ_of_ne_zero (Nat.ne_of_gt h)
    rfl
  | cons c t ih =>
    obtain ⟨fuel, rfl⟩ := Nat.exists_eq_succ_of_ne_zero (Nat.ne_of_gt (Nat.zero_lt_of_lt h))
    have ht : t.length < fuel := Nat.lt_of_succ_lt_succ h
    rw [List.flatMap_cons, List.append_assoc, readString_escapeChar, ih ht]
    rfl

/-- **A text is read back from its string, whatever follows.** -/
theorem stringBody_escaped (t rest : Text) :
    stringBody (t.flatMap escapeChar ++ '"' :: rest) = .ok (t, rest) := by
  apply readString_escaped
  have hlen := length_le_length_escaped t
  rw [List.length_append]
  omega

end ScriptWeave.Json
