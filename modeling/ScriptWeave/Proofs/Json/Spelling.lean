/-
  ScriptWeave.Proofs.Json.Spelling
  ────────────────────────────────
  **STRINGS ARE READ HOWEVER THEY ARE SPELT.**

  A character of a string stands for itself, or is spelt by an escape of one
  letter, by four hexadecimal digits, or, beyond the first 65536 characters,
  by two times four.  A text has many spellings, and all are read as that
  text.

      stringBody (u ++ '"' :: rest) = ok (t, rest)       for each spelling u of t

  What a string spells can also be left open: to pass one, only its form
  counts.
-/
import ScriptWeave.Proofs.Json.Strings

namespace ScriptWeave.Json

/-! ## §1. White space. -/

/-- Whether a text is white space. -/
def IsBlank (w : Text) : Prop := ∀ c ∈ w, isSpace c = true

instance (w : Text) : Decidable (IsBlank w) :=
  decidable_of_iff (w.all isSpace = true) List.all_eq_true

theorem isBlank_nil : IsBlank [] := fun _ h => absurd h List.not_mem_nil

/-- White space before a text is passed with the white space that the text begins with. -/
theorem skipSpace_append {w : Text} (hw : IsBlank w) (t : Text) :
    skipSpace (w ++ t) = skipSpace t :=
  List.dropWhile_append_of_pos hw

theorem skipSpace_cons {c : Char} (hc : isSpace c = false) (t : Text) :
    skipSpace (c :: t) = c :: t := by
  rw [skipSpace, List.dropWhile_cons_of_neg (by simp [hc])]

/-- White space is passed up to a character that is none. -/
theorem skipSpace_append_cons {w : Text} (hw : IsBlank w) {c : Char} (hc : isSpace c = false)
    (t : Text) : skipSpace (w ++ c :: t) = c :: t := by
  rw [skipSpace_append hw, skipSpace_cons hc]

/-! ## §2. Spellings. -/

/-- The escapes of one letter, with what they stand for. -/
def shortEscapes : List (Char × Char) :=
  [('"', '"'), ('\\', '\\'), ('/', '/'), ('b', '\x08'), ('f', '\x0c'), ('n', '\n'), ('r', '\r'),
    ('t', '\t')]

/-- Whether a character is the hexadecimal digit of a value, in lower or upper case. -/
def IsHexDigit (value : Nat) (c : Char) : Prop :=
  value < 16 ∧ (c = hexChar value ∨ c = (hexChar value).toUpper)

instance (value : Nat) (c : Char) : Decidable (IsHexDigit value c) :=
  inferInstanceAs (Decidable (_ ∧ _))

/-- Whether four characters are the hexadecimal digits of a number. -/
structure FourDigits (n : Nat) (a b c d : Char) : Prop where
  first : IsHexDigit (n / 0x1000) a
  second : IsHexDigit (n / 0x100 % 0x10) b
  third : IsHexDigit (n / 0x10 % 0x10) c
  fourth : IsHexDigit (n % 0x10) d

/-- The ways to spell a character in a string. -/
inductive SpellsChar : Char → Text → Prop where
  /-- As it is. -/
  | plain {c : Char} (hquote : c ≠ '"') (hslash : c ≠ '\\') (hlarge : 0x20 ≤ c.toNat) :
      SpellsChar c [c]
  /-- By a letter. -/
  | short {e c : Char} (h : (e, c) ∈ shortEscapes) : SpellsChar c ['\\', e]
  /-- By its number. -/
  | number {x a b c d : Char} (h : FourDigits x.toNat a b c d) :
      SpellsChar x ['\\', 'u', a, b, c, d]
  /-- By two surrogates, which share its number beyond 0x10000. -/
  | surrogates {x a b c d a' b' c' d' : Char} (hlarge : 0x10000 ≤ x.toNat)
      (high : FourDigits (0xd800 + (x.toNat - 0x10000) / 0x400) a b c d)
      (low : FourDigits (0xdc00 + (x.toNat - 0x10000) % 0x400) a' b' c' d') :
      SpellsChar x ['\\', 'u', a, b, c, d, '\\', 'u', a', b', c', d']

/-- The ways to spell a text in a string. -/
inductive Spells : Text → Text → Prop where
  /-- Nothing. -/
  | nil : Spells [] []
  /-- A character, and then the others. -/
  | cons {c : Char} {t u v : Text} (head : SpellsChar c u) (tail : Spells t v) :
      Spells (c :: t) (u ++ v)

/-! ## §3. Reading what is spelt. -/

theorem hexValue?_of_isHexDigit {n : Nat} {c : Char} (h : IsHexDigit n c) :
    hexValue? c = some n := by
  have hupper : ∀ d < 16, hexValue? (hexChar d).toUpper = some d := by decide
  obtain ⟨hn, rfl | rfl⟩ := h
  · exact hexValue?_hexChar hn
  · exact hupper n hn

theorem FourDigits.lt {n : Nat} {a b c d : Char} (h : FourDigits n a b c d) : n < 0x10000 := by
  have := h.first.1
  omega

theorem FourDigits.readFour {n : Nat} {a b c d : Char} (h : FourDigits n a b c d) (rest : Text) :
    readFour (a :: b :: c :: d :: rest) = .ok (n, rest) := by
  have hsum : ((n / 0x1000 * 16 + n / 0x100 % 0x10) * 16 + n / 0x10 % 0x10) * 16 + n % 0x10
      = n := by
    have := h.lt
    omega
  simp only [Json.readFour, hexValue?_of_isHexDigit h.first, hexValue?_of_isHexDigit h.second,
    hexValue?_of_isHexDigit h.third, hexValue?_of_isHexDigit h.fourth, hsum]

/-- No character is a surrogate. -/
theorem toNat_lt_or_lt_toNat (c : Char) :
    c.toNat < 0xd800 ∨ 0xdfff < c.toNat := by
  rcases c.valid with h | ⟨h, -⟩
  · exact Or.inl h
  · exact Or.inr h

/-- A character is read back from its number. -/
theorem readUnicode_of_number {x a b c d : Char} (h : FourDigits x.toNat a b c d) (rest : Text) :
    readUnicode (a :: b :: c :: d :: rest) = .ok (x, rest) := by
  have hscalar := toNat_lt_or_lt_toNat x
  have hnotLow : ¬ (0xdc00 ≤ x.toNat ∧ x.toNat ≤ 0xdfff) := by omega
  have hnotHigh : x.toNat < 0xd800 ∨ 0xdbff < x.toNat := by omega
  simp only [readUnicode, h.readFour, if_neg hnotLow, if_pos hnotHigh, Char.ofNat_toNat]

/-- A character is read back from its surrogates. -/
theorem readUnicode_of_surrogates {x a b c d a' b' c' d' : Char} (hlarge : 0x10000 ≤ x.toNat)
    (high : FourDigits (0xd800 + (x.toNat - 0x10000) / 0x400) a b c d)
    (low : FourDigits (0xdc00 + (x.toNat - 0x10000) % 0x400) a' b' c' d') (rest : Text) :
    readUnicode (a :: b :: c :: d :: '\\' :: 'u' :: a' :: b' :: c' :: d' :: rest)
      = .ok (x, rest) := by
  have hmax : x.toNat < 0x110000 := by
    rcases x.valid with h | ⟨-, h⟩
    · exact Nat.lt_trans h (by decide)
    · exact h
  have hnotLow : ¬ (0xdc00 ≤ 0xd800 + (x.toNat - 0x10000) / 0x400
      ∧ 0xd800 + (x.toNat - 0x10000) / 0x400 ≤ 0xdfff) := by omega
  have hhigh : ¬ (0xd800 + (x.toNat - 0x10000) / 0x400 < 0xd800
      ∨ 0xdbff < 0xd800 + (x.toNat - 0x10000) / 0x400) := by omega
  have hlow : 0xdc00 ≤ 0xdc00 + (x.toNat - 0x10000) % 0x400
      ∧ 0xdc00 + (x.toNat - 0x10000) % 0x400 ≤ 0xdfff := by omega
  have hsum : 0x10000 + (0xd800 + (x.toNat - 0x10000) / 0x400 - 0xd800) * 0x400
      + (0xdc00 + (x.toNat - 0x10000) % 0x400 - 0xdc00) = x.toNat := by omega
  simp only [readUnicode, high.readFour, low.readFour, if_neg hnotLow, if_neg hhigh, if_pos hlow,
    hsum, Char.ofNat_toNat]

/-- A character is read from each of its spellings. -/
theorem SpellsChar.readString {c : Char} {u : Text} (h : SpellsChar c u) (fuel : Nat) (t : Text) :
    readString (fuel + 1) (u ++ t) = readString.push c (readString fuel t) := by
  cases h with
  | plain hquote hslash hlarge =>
    exact readString_plain fuel hquote hslash (Nat.not_lt.mpr hlarge) t
  | short hmem =>
    simp only [shortEscapes, List.mem_cons, Prod.mk.injEq, List.not_mem_nil, or_false] at hmem
    rcases hmem with ⟨rfl, rfl⟩ | ⟨rfl, rfl⟩ | ⟨rfl, rfl⟩ | ⟨rfl, rfl⟩ | ⟨rfl, rfl⟩ | ⟨rfl, rfl⟩
      | ⟨rfl, rfl⟩ | ⟨rfl, rfl⟩ <;> rfl
  | number hdigits =>
    have hread := readUnicode_of_number hdigits t
    simp only [List.cons_append, List.nil_append]
    conv => lhs; unfold Json.readString
    simp only [hread, if_neg (show ¬ '\\' = '"' by decide), if_pos]
  | surrogates hlarge high low =>
    have hread := readUnicode_of_surrogates hlarge high low t
    simp only [List.cons_append, List.nil_append]
    conv => lhs; unfold Json.readString
    simp only [hread, if_neg (show ¬ '\\' = '"' by decide), if_pos]

theorem SpellsChar.ne_nil {c : Char} {u : Text} (h : SpellsChar c u) : u ≠ [] := by
  cases h <;> simp

theorem Spells.length_le {t u : Text} (h : Spells t u) : t.length ≤ u.length := by
  induction h with
  | nil => exact Nat.le_refl 0
  | cons head _ ih =>
    have hpos := List.length_pos_iff.mpr head.ne_nil
    rw [List.length_append, List.length_cons]
    omega

theorem Spells.readString {t u : Text} (h : Spells t u) {fuel : Nat} (hfuel : t.length < fuel)
    (rest : Text) : readString fuel (u ++ '"' :: rest) = .ok (t, rest) := by
  induction h generalizing fuel with
  | nil =>
    obtain ⟨fuel, rfl⟩ := Nat.exists_eq_succ_of_ne_zero (Nat.ne_of_gt hfuel)
    rfl
  | cons head _ ih =>
    obtain ⟨fuel, rfl⟩ := Nat.exists_eq_succ_of_ne_zero (Nat.ne_of_gt (Nat.zero_lt_of_lt hfuel))
    rw [List.append_assoc, head.readString, ih (Nat.lt_of_succ_lt_succ hfuel)]
    rfl

/-- **A text is read from each of its spellings, whatever follows.** -/
theorem Spells.stringBody {t u : Text} (h : Spells t u) (rest : Text) :
    stringBody (u ++ '"' :: rest) = .ok (t, rest) := by
  apply h.readString
  have hlen := h.length_le
  rw [List.length_append]
  omega

/-! ## §4. The compact spelling. -/

theorem spellsChar_escapeChar (c : Char) : SpellsChar c (escapeChar c) := by
  unfold escapeChar
  -- one case for each short escape, then the long ones, then the character itself
  split
  next h => subst h; exact .short (by decide)
  split
  next h => subst h; exact .short (by decide)
  split
  next h => subst h; exact .short (by decide)
  split
  next h => subst h; exact .short (by decide)
  split
  next h => subst h; exact .short (by decide)
  split
  next h => subst h; exact .short (by decide)
  split
  next h => subst h; exact .short (by decide)
  split
  next h =>
    refine .number ⟨⟨by omega, Or.inl ?_⟩, ⟨by omega, Or.inl ?_⟩, ⟨by omega, Or.inl ?_⟩,
      ⟨by omega, Or.inl rfl⟩⟩
    · rw [Nat.div_eq_of_lt (by omega)]; rfl
    · rw [Nat.div_eq_of_lt (by omega)]; rfl
    · rw [Nat.mod_eq_of_lt (by omega)]
  next hquote hslash _ _ _ _ _ hlarge => exact .plain hquote hslash (Nat.le_of_not_lt hlarge)

/-- What a text is written as spells it. -/
theorem spells_escaped (t : Text) : Spells t (t.flatMap escapeChar) := by
  induction t with
  | nil => exact .nil
  | cons c t ih => exact .cons (spellsChar_escapeChar c) ih

end ScriptWeave.Json
