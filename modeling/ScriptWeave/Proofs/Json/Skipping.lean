/-
  ScriptWeave.Proofs.Json.Skipping
  ────────────────────────────────
  **A VALUE NOBODY ASKS FOR IS PASSED TO ITS END.**

  The grammar of JSON says which texts are values: numbers of any size,
  strings with escapes of any kind, arrays and objects of any depth with white
  space between their parts.  A value is passed exactly, whatever ends it.

      skipValue (w ++ t ++ rest) = ok rest       for white space w and a value t

  Only a number needs an end, since a further digit would belong to it; a
  comma, a closing bracket or white space is one.
-/
import ScriptWeave.Proofs.Json.Records
import ScriptWeave.Proofs.Json.Spelling

namespace ScriptWeave.Json

variable {t u w rest : Text} {fuel : Nat}

/-! ## §1. The grammar. -/

/-- What can stand in a string, whether it spells a text or not: a surrogate needs no
partner. -/
inductive IsStringBody : Text → Prop where
  /-- Nothing. -/
  | nil : IsStringBody []
  /-- A character that stands for itself. -/
  | plain {c : Char} {t : Text} (hquote : c ≠ '"') (hslash : c ≠ '\\') (hlarge : 0x20 ≤ c.toNat)
      (tail : IsStringBody t) : IsStringBody (c :: t)
  /-- An escape of one letter. -/
  | short {e c : Char} {t : Text} (h : (e, c) ∈ shortEscapes) (tail : IsStringBody t) :
      IsStringBody ('\\' :: e :: t)
  /-- An escape of four digits. -/
  | number {n : Nat} {a b c d : Char} {t : Text} (h : FourDigits n a b c d)
      (tail : IsStringBody t) : IsStringBody ('\\' :: 'u' :: a :: b :: c :: d :: t)

/-- Whether a text is digits, at least one. -/
def IsDigits (t : Text) : Prop := t ≠ [] ∧ ∀ c ∈ t, isDigit c = true

/-- Whether a text is the part of a number before its point: no zero leads further digits. -/
def IsWhole (t : Text) : Prop := t = ['0'] ∨ (IsDigits t ∧ t.head? ≠ some '0')

/-- Whether a text is the fraction of a number, or nothing. -/
def IsFraction (t : Text) : Prop := t = [] ∨ ∃ ds, t = '.' :: ds ∧ IsDigits ds

/-- Whether a text is the exponent of a number, or nothing. -/
def IsExponent (t : Text) : Prop :=
  t = [] ∨ ∃ letter sign ds, t = letter :: (sign ++ ds) ∧ (letter = 'e' ∨ letter = 'E')
    ∧ (sign = [] ∨ sign = ['+'] ∨ sign = ['-']) ∧ IsDigits ds

/-- Whether a text is a number, which may have a sign. -/
def IsNumber (t : Text) : Prop :=
  ∃ sign whole fraction exponent, t = sign ++ (whole ++ (fraction ++ exponent))
    ∧ (sign = [] ∨ sign = ['-']) ∧ IsWhole whole ∧ IsFraction fraction ∧ IsExponent exponent

/-- What a piece of JSON is. -/
inductive Form where
  /-- A value. -/
  | value
  /-- The items of an array, from the first one on. -/
  | items
  /-- The members of an object, from the first one on. -/
  | members
  deriving Repr, DecidableEq

/-- **The grammar of JSON.** -/
inductive HasForm : Form → Text → Prop where
  /-- The value `null`. -/
  | null : HasForm .value ['n', 'u', 'l', 'l']
  /-- The value `true`. -/
  | true : HasForm .value ['t', 'r', 'u', 'e']
  /-- The value `false`. -/
  | false : HasForm .value ['f', 'a', 'l', 's', 'e']
  /-- A number. -/
  | number {t : Text} (h : IsNumber t) : HasForm .value t
  /-- A string. -/
  | string {t : Text} (h : IsStringBody t) : HasForm .value ('"' :: (t ++ ['"']))
  /-- An array without items. -/
  | emptyArray {w : Text} (hw : IsBlank w) : HasForm .value ('[' :: (w ++ [']']))
  /-- An array. -/
  | array {w t : Text} (hw : IsBlank w) (h : HasForm .items t) :
      HasForm .value ('[' :: (w ++ (t ++ [']'])))
  /-- The last item. -/
  | lastItem {v w : Text} (hv : HasForm .value v) (hw : IsBlank w) : HasForm .items (v ++ w)
  /-- An item before others. -/
  | item {v w₁ w₂ t : Text} (hv : HasForm .value v) (hw₁ : IsBlank w₁) (hw₂ : IsBlank w₂)
      (h : HasForm .items t) : HasForm .items (v ++ (w₁ ++ ',' :: (w₂ ++ t)))
  /-- An object without members. -/
  | emptyObject {w : Text} (hw : IsBlank w) : HasForm .value ('{' :: (w ++ ['}']))
  /-- An object. -/
  | object {w t : Text} (hw : IsBlank w) (h : HasForm .members t) :
      HasForm .value ('{' :: (w ++ (t ++ ['}'])))
  /-- The last member. -/
  | lastMember {name w₁ w₂ v w₃ : Text} (hname : IsStringBody name) (hw₁ : IsBlank w₁)
      (hw₂ : IsBlank w₂) (hv : HasForm .value v) (hw₃ : IsBlank w₃) :
      HasForm .members ('"' :: (name ++ '"' :: (w₁ ++ ':' :: (w₂ ++ (v ++ w₃)))))
  /-- A member before others. -/
  | member {name w₁ w₂ v w₃ w₄ t : Text} (hname : IsStringBody name) (hw₁ : IsBlank w₁)
      (hw₂ : IsBlank w₂) (hv : HasForm .value v) (hw₃ : IsBlank w₃) (hw₄ : IsBlank w₄)
      (h : HasForm .members t) :
      HasForm .members
        ('"' :: (name ++ '"' :: (w₁ ++ ':' :: (w₂ ++ (v ++ (w₃ ++ ',' :: (w₄ ++ t)))))))

/-- Whether a text is a JSON value. -/
abbrev IsValue (t : Text) : Prop := HasForm .value t

/-- Whether a value ends before a text: there is white space or a mark that cannot belong to
it, or nothing. -/
def EndsValue (t : Text) : Prop :=
  ∀ c ∈ t.head?, isSpace c = true ∨ c = ',' ∨ c = ']' ∨ c = '}'

theorem endsValue_cons {c : Char} (h : isSpace c = true ∨ c = ',' ∨ c = ']' ∨ c = '}') (t : Text) :
    EndsValue (c :: t) := by
  intro d hd
  rw [List.head?_cons, Option.mem_some_iff] at hd
  exact hd ▸ h

/-- White space before a mark ends a value. -/
theorem endsValue_append_cons {c : Char} (hw : IsBlank w) (h : c = ',' ∨ c = ']' ∨ c = '}')
    (t : Text) : EndsValue (w ++ c :: t) := by
  cases w with
  | nil => exact endsValue_cons (Or.inr h) t
  | cons d w => exact endsValue_cons (Or.inl (hw d List.mem_cons_self)) _

/-- What ends a value is no digit and goes on with no fraction and no exponent. -/
theorem EndsValue.ne {c : Char} (h : EndsValue (c :: t)) :
    isDigit c = false ∧ c ≠ '.' ∧ c ≠ 'e' ∧ c ≠ 'E' := by
  rcases h c rfl with hspace | rfl | rfl | rfl
  · simp only [isSpace, Bool.or_eq_true, decide_eq_true_eq] at hspace
    rcases hspace with ((rfl | rfl) | rfl) | rfl <;> decide
  all_goals decide

/-! ## §2. Strings. -/

theorem IsStringBody.skipString (h : IsStringBody t) (hfuel : t.length < fuel) (rest : Text) :
    skipString fuel (t ++ '"' :: rest) = .ok rest := by
  induction h generalizing fuel with
  | nil =>
    obtain ⟨fuel, rfl⟩ := Nat.exists_eq_succ_of_ne_zero (Nat.ne_of_gt hfuel)
    rfl
  | plain hquote hslash hlarge _ ih =>
    obtain ⟨fuel, rfl⟩ := Nat.exists_eq_succ_of_ne_zero (Nat.ne_of_gt (Nat.zero_lt_of_lt hfuel))
    rw [List.cons_append]
    unfold Json.skipString
    rw [if_neg hquote, if_neg hslash, if_neg (Nat.not_lt.mpr hlarge)]
    exact ih (Nat.lt_of_succ_lt_succ hfuel)
  | short hmem _ ih =>
    obtain ⟨fuel, rfl⟩ := Nat.exists_eq_succ_of_ne_zero (Nat.ne_of_gt (Nat.zero_lt_of_lt hfuel))
    have htail := ih (Nat.lt_of_succ_lt (Nat.lt_of_succ_lt_succ hfuel))
    simp only [shortEscapes, List.mem_cons, Prod.mk.injEq, List.not_mem_nil, or_false] at hmem
    rcases hmem with ⟨rfl, rfl⟩ | ⟨rfl, rfl⟩ | ⟨rfl, rfl⟩ | ⟨rfl, rfl⟩ | ⟨rfl, rfl⟩ | ⟨rfl, rfl⟩
      | ⟨rfl, rfl⟩ | ⟨rfl, rfl⟩ <;> exact htail
  | number hdigits _ ih =>
    obtain ⟨fuel, rfl⟩ := Nat.exists_eq_succ_of_ne_zero (Nat.ne_of_gt (Nat.zero_lt_of_lt hfuel))
    simp only [List.length_cons] at hfuel
    simp only [List.cons_append]
    conv => lhs; unfold Json.skipString
    simp only [hdigits.readFour, if_neg (show ¬ '\\' = '"' by decide), if_pos]
    exact ih (by omega)

/-- The rest of a string is passed, whatever follows it. -/
theorem IsStringBody.skipString_append (h : IsStringBody t) (rest : Text) :
    Json.skipString ((t ++ '"' :: rest).length + 1) (t ++ '"' :: rest) = .ok rest := by
  apply h.skipString
  rw [List.length_append]
  omega

/-! ## §3. Numbers. -/

/-- Digits are read up to something that is none. -/
theorem spanDigits_append (hdigits : ∀ c ∈ t, isDigit c = true)
    (hrest : ∀ c ∈ rest.head?, isDigit c = false) : spanDigits (t ++ rest) = (t, rest) := by
  have hstop : rest.takeWhile isDigit = [] ∧ rest.dropWhile isDigit = rest := by
    cases rest with
    | nil => exact ⟨rfl, rfl⟩
    | cons c rest =>
      have hc : ¬ isDigit c = true := by simp [hrest c rfl]
      exact ⟨List.takeWhile_cons_of_neg hc, List.dropWhile_cons_of_neg hc⟩
  rw [spanDigits, List.takeWhile_append_of_pos hdigits, List.dropWhile_append_of_pos hdigits,
    hstop.1, hstop.2, List.append_nil]

theorem skipNumber_digits (h : IsDigits t) (hrest : ∀ c ∈ rest.head?, isDigit c = false) :
    skipNumber.digits (t ++ rest) = .ok rest := by
  rw [skipNumber.digits, spanDigits_append h.2 hrest]
  cases t with
  | nil => exact absurd rfl h.1
  | cons c t => rfl

theorem EndsValue.head?_isDigit (h : EndsValue rest) : ∀ c ∈ rest.head?, isDigit c = false := by
  cases rest with
  | nil => exact fun c hc => absurd hc (by simp)
  | cons d rest =>
    intro c hc
    rw [List.head?_cons, Option.mem_some_iff] at hc
    exact hc ▸ h.ne.1

/-- A digit is no sign. -/
theorem skipNumber_sign (h : IsDigits t) (sign : Text)
    (hsign : sign = [] ∨ sign = ['+'] ∨ sign = ['-']) (rest : Text) :
    skipNumber.sign (sign ++ (t ++ rest)) = t ++ rest := by
  rcases hsign with rfl | rfl | rfl
  · obtain ⟨hne, hall⟩ := h
    cases t with
    | nil => exact absurd rfl hne
    | cons c t =>
      have hc := hall c List.mem_cons_self
      rw [List.nil_append, List.cons_append]
      unfold skipNumber.sign
      split
      next heq => exact absurd ((List.cons.inj heq).1 ▸ hc) (by decide)
      next heq => exact absurd ((List.cons.inj heq).1 ▸ hc) (by decide)
      next => rfl
  · rfl
  · rfl

theorem skipNumber_exponent (h : IsExponent t) (hrest : EndsValue rest) :
    skipNumber.exponent (t ++ rest) = .ok rest := by
  obtain rfl | ⟨letter, sign, ds, rfl, hletter, hsign, hds⟩ := h
  · cases rest with
    | nil => rfl
    | cons c rest =>
      obtain ⟨-, -, he, hE⟩ := hrest.ne
      rw [List.nil_append]
      unfold skipNumber.exponent
      split
      next heq => exact absurd (List.cons.inj heq).1 he
      next heq => exact absurd (List.cons.inj heq).1 hE
      next => rfl
  · have hdigits : skipNumber.digits (skipNumber.sign (sign ++ (ds ++ rest))) = .ok rest := by
      rw [skipNumber_sign hds sign hsign, skipNumber_digits hds hrest.head?_isDigit]
    rw [List.cons_append, List.append_assoc]
    rcases hletter with rfl | rfl
    · exact hdigits
    · exact hdigits

/-- What follows the digits of a number is no digit. -/
theorem IsExponent.head?_isDigit (h : IsExponent t) (hrest : EndsValue rest) :
    ∀ c ∈ (t ++ rest).head?, isDigit c = false := by
  obtain rfl | ⟨letter, sign, ds, rfl, rfl | rfl, -, -⟩ := h
  · exact hrest.head?_isDigit
  · intro c hc
    obtain rfl := Option.mem_some_iff.mp hc
    decide
  · intro c hc
    obtain rfl := Option.mem_some_iff.mp hc
    decide

/-- Nothing of an exponent or an end of a value is a point. -/
theorem IsExponent.head?_ne_point (h : IsExponent t) (hrest : EndsValue rest) :
    (t ++ rest).head? ≠ some '.' := by
  obtain rfl | ⟨letter, sign, ds, rfl, rfl | rfl, -, -⟩ := h
  · cases rest with
    | nil => simp
    | cons c rest =>
      rw [List.nil_append, List.head?_cons]
      exact fun heq => hrest.ne.2.1 (Option.some.inj heq)
  · exact fun heq => absurd (Option.some.inj heq) (by decide)
  · exact fun heq => absurd (Option.some.inj heq) (by decide)

theorem skipNumber_fraction {x : Text} (h : IsFraction t) (hx : IsExponent x)
    (hrest : EndsValue rest) : skipNumber.fraction (t ++ (x ++ rest)) = .ok rest := by
  obtain rfl | ⟨ds, rfl, hds⟩ := h
  · have hpoint := hx.head?_ne_point hrest
    rw [List.nil_append]
    unfold skipNumber.fraction
    split
    next heq => exact absurd (congrArg List.head? heq) hpoint
    next => exact skipNumber_exponent hx hrest
  · have hspan := spanDigits_append hds.2 (hx.head?_isDigit hrest)
    rw [List.cons_append]
    simp only [skipNumber.fraction, hspan]
    cases ds with
    | nil => exact absurd rfl hds.1
    | cons c ds => exact skipNumber_exponent hx hrest

/-- What follows the whole part of a number is no digit. -/
theorem IsFraction.head?_isDigit {x : Text} (h : IsFraction t) (hx : IsExponent x)
    (hrest : EndsValue rest) : ∀ c ∈ (t ++ (x ++ rest)).head?, isDigit c = false := by
  obtain rfl | ⟨ds, rfl, -⟩ := h
  · exact hx.head?_isDigit hrest
  · intro c hc
    obtain rfl := Option.mem_some_iff.mp hc
    decide

/-- A number is passed, from its whole part on. -/
theorem skipNumber_append {f x : Text} (h : IsWhole t) (hf : IsFraction f) (hx : IsExponent x)
    (hrest : EndsValue rest) : skipNumber (t ++ (f ++ (x ++ rest))) = .ok rest := by
  have hfraction := skipNumber_fraction hf hx hrest
  have hstop := hf.head?_isDigit hx hrest
  obtain rfl | ⟨⟨hne, hall⟩, hzero⟩ := h
  · rw [List.singleton_append]
    cases hu : f ++ (x ++ rest) with
    | nil =>
      rw [hu] at hfraction
      exact hfraction
    | cons c u =>
      rw [hu] at hfraction hstop
      have hc : ¬ isDigit c = true := by simp [hstop c rfl]
      simp only [skipNumber, if_neg hc]
      exact hfraction
  · cases t with
    | nil => exact absurd rfl hne
    | cons c t =>
      have hc : isDigit c = true := hall c List.mem_cons_self
      have hspan := spanDigits_append (fun d hd => hall d (List.mem_cons_of_mem c hd)) hstop
      rw [List.cons_append]
      unfold skipNumber
      split
      next heq => exact absurd heq (by simp)
      next heq => exact absurd (congrArg some (List.cons.inj heq).1) hzero
      next heq =>
        obtain ⟨rfl, rfl⟩ := List.cons.inj heq
        rw [if_pos hc, hspan]
        exact hfraction

/-! ## §4. How pieces begin. -/

/-- The whole part of a number begins with a digit. -/
theorem IsWhole.exists_cons (h : IsWhole t) : ∃ c u, t = c :: u ∧ isDigit c = true := by
  obtain rfl | ⟨⟨hne, hall⟩, -⟩ := h
  · exact ⟨'0', [], rfl, by decide⟩
  · cases t with
    | nil => exact absurd rfl hne
    | cons c u => exact ⟨c, u, rfl, hall c List.mem_cons_self⟩

/-- A digit begins neither white space nor a value of another kind. -/
theorem ne_of_isDigit {c : Char} (h : isDigit c = true) :
    isSpace c = false ∧ c ≠ ']' ∧ c ≠ ',' ∧ c ≠ 'n' ∧ c ≠ 't' ∧ c ≠ 'f' ∧ c ≠ '-' ∧ c ≠ '"'
      ∧ c ≠ '[' ∧ c ≠ '{' := by
  refine ⟨?_, ?_, ?_, ?_, ?_, ?_, ?_, ?_, ?_, ?_⟩
  · rw [isSpace, ← Bool.not_eq_true]
    simp only [Bool.or_eq_true, decide_eq_true_eq]
    rintro (((rfl | rfl) | rfl) | rfl) <;> exact absurd h (by decide)
  all_goals
    rintro rfl
    exact absurd h (by decide)

/-- A value or an item begins a value. -/
theorem HasForm.begins {k : Form} (h : HasForm k t) : k ≠ .members → BeginsValue t := by
  induction h with
  | number h =>
    intro _
    obtain ⟨sign, whole, fraction, exponent, rfl, rfl | rfl, hwhole, -⟩ := h
    · obtain ⟨c, u, rfl, hc⟩ := hwhole.exists_cons
      obtain ⟨hspace, hclose, hcomma, -⟩ := ne_of_isDigit hc
      exact ⟨c, _, rfl, hspace, hclose, hcomma⟩
    · exact ⟨'-', _, rfl, by decide, by decide, by decide⟩
  | lastItem _ _ ih => exact fun _ => (ih (by decide)).append _
  | item _ _ _ _ ih => exact fun _ => (ih (by decide)).append _
  | lastMember => exact fun h => absurd rfl h
  | member => exact fun h => absurd rfl h
  | _ => exact fun _ => ⟨_, _, rfl, by decide, by decide, by decide⟩

/-- Members begin with a quote. -/
theorem HasForm.exists_quote (h : HasForm .members t) : ∃ u, t = '"' :: u := by
  cases h with
  | lastMember => exact ⟨_, rfl⟩
  | member => exact ⟨_, rfl⟩

/-! ## §5. Passing. -/

/-- White space before a value is passed with it. -/
theorem skipValueFrom_append (hw : IsBlank w) (t : Text) :
    skipValueFrom (fuel + 1) (w ++ t) = skipValueFrom (fuel + 1) t := by
  rw [skipValueFrom, skipValueFrom, skipSpace_append hw]

theorem skipItems_append (hw : IsBlank w) (t : Text) :
    skipItems (fuel + 2) (w ++ t) = skipItems (fuel + 2) t := by
  rw [skipItems, skipItems, skipValueFrom_append hw]

theorem skipMembers_append (hw : IsBlank w) (t : Text) :
    skipMembers (fuel + 1) (w ++ t) = skipMembers (fuel + 1) t := by
  rw [skipMembers, skipMembers, skipSpace_append hw]

theorem skipValueFrom_number (h : IsNumber t) (hrest : EndsValue rest) :
    skipValueFrom (fuel + 1) (t ++ rest) = .ok rest := by
  obtain ⟨sign, whole, fraction, exponent, rfl, hsign, hwhole, hfraction, hexponent⟩ := h
  have hskip := skipNumber_append hwhole hfraction hexponent hrest
  simp only [List.append_assoc]
  rcases hsign with rfl | rfl
  · obtain ⟨c, u, rfl, hc⟩ := hwhole.exists_cons
    obtain ⟨hspace, -, -, hn, ht, hf, hminus, hquote, hbracket, hbrace⟩ := ne_of_isDigit hc
    rw [List.nil_append, List.cons_append] at *
    rw [skipValueFrom, skipSpace_cons hspace]
    split
    next heq => exact absurd heq (by simp)
    next heq => exact absurd (List.cons.inj heq).1 hn
    next heq => exact absurd (List.cons.inj heq).1 ht
    next heq => exact absurd (List.cons.inj heq).1 hf
    next heq => exact absurd (List.cons.inj heq).1 hminus
    next heq => exact absurd (List.cons.inj heq).1 hquote
    next heq => exact absurd (List.cons.inj heq).1 hbracket
    next heq => exact absurd (List.cons.inj heq).1 hbrace
    next heq =>
      obtain ⟨rfl, rfl⟩ := List.cons.inj heq
      rw [if_pos hc, hskip]
  · exact hskip

/-- What is passed behind the value of a member. -/
def skipBehindMember (fuel : Nat) (t : Text) : Except Fault Text :=
  match skipSpace t with
  | [] => .error (.next .eofObject [])
  | ',' :: u => skipMembers fuel u
  | '}' :: u => .ok u
  | u => .error (.next .expectedCommaOrBrace u)

/-- One member of an object is passed up to what follows its value. -/
theorem skipMembers_member {name w' v tail : Text} (hname : IsStringBody name) (hw : IsBlank w)
    (hv : skipValueFrom fuel (w' ++ (v ++ tail)) = .ok tail) :
    skipMembers (fuel + 1) ('"' :: (name ++ '"' :: (w ++ ':' :: (w' ++ (v ++ tail)))))
      = skipBehindMember fuel tail := by
  have hskip := hname.skipString_append (w ++ ':' :: (w' ++ (v ++ tail)))
  have hcolon := skipSpace_append_cons hw (c := ':') (by decide) (w' ++ (v ++ tail))
  rw [skipMembers, skipSpace_cons (by decide)]
  simp only [hskip, hcolon, hv]
  rfl

/-- What passing a piece of JSON means, with enough fuel. -/
def Form.Passes (t : Text) : Form → Prop
  | .value => ∀ fuel rest, 2 * t.length ≤ fuel → EndsValue rest →
      skipValueFrom fuel (t ++ rest) = .ok rest
  | .items => ∀ fuel rest, 2 * t.length + 1 ≤ fuel → skipItems fuel (t ++ ']' :: rest) = .ok rest
  | .members => ∀ fuel rest, 2 * t.length + 1 ≤ fuel →
      skipMembers fuel (t ++ '}' :: rest) = .ok rest

/-- **Every piece of JSON is passed.**  Each nesting and each part takes up one unit of fuel,
and has at least one character of its own. -/
theorem HasForm.passes {k : Form} (h : HasForm k t) : k.Passes t := by
  induction h with
  | null =>
    rintro (- | fuel) rest hfuel -
    · exact absurd hfuel (by decide)
    · rfl
  | true =>
    rintro (- | fuel) rest hfuel -
    · exact absurd hfuel (by decide)
    · rfl
  | false =>
    rintro (- | fuel) rest hfuel -
    · exact absurd hfuel (by decide)
    · rfl
  | number h =>
    intro fuel rest hfuel hrest
    obtain ⟨c, u, ht, -⟩ := (HasForm.number h).begins (by decide)
    have hlen := congrArg List.length ht
    rw [List.length_cons] at hlen
    obtain ⟨fuel, rfl⟩ := Nat.exists_eq_succ_of_ne_zero (show fuel ≠ 0 by omega)
    exact skipValueFrom_number h hrest
  | @string t h =>
    intro fuel rest hfuel _
    rw [List.length_cons] at hfuel
    obtain ⟨fuel, rfl⟩ := Nat.exists_eq_succ_of_ne_zero (show fuel ≠ 0 by omega)
    rw [List.cons_append, List.append_assoc, List.singleton_append]
    exact h.skipString_append rest
  | @emptyArray w hw =>
    intro fuel rest hfuel _
    rw [List.length_cons] at hfuel
    obtain ⟨fuel, rfl⟩ := Nat.exists_eq_succ_of_ne_zero (show fuel ≠ 0 by omega)
    have hclose := skipSpace_append_cons hw (c := ']') (by decide) rest
    rw [List.cons_append, List.append_assoc, List.singleton_append, skipValueFrom,
      skipSpace_cons (by decide)]
    simp only [hclose]
  | @array w t hw h ih =>
    intro fuel rest hfuel _
    simp only [List.length_cons, List.length_append, List.length_nil] at hfuel
    obtain ⟨fuel, rfl⟩ := Nat.exists_eq_succ_of_ne_zero (show fuel ≠ 0 by omega)
    have hitems := ih fuel rest (by omega)
    have hskip : skipSpace (w ++ (t ++ ']' :: rest)) = t ++ ']' :: rest := by
      rw [skipSpace_append hw, ((h.begins (by decide)).append _).skipSpace_eq]
    obtain ⟨c, u, rfl, -, hclose, -⟩ := h.begins (by decide)
    simp only [List.cons_append, List.append_assoc, List.nil_append] at hskip hitems ⊢
    rw [skipValueFrom, skipSpace_cons (by decide)]
    simp only [hskip]
    split
    next heq => exact absurd heq (by simp)
    next heq => exact absurd (List.cons.inj heq).1 hclose
    next => exact hitems
  | @lastItem v w hv hw ih =>
    intro fuel rest hfuel
    simp only [List.length_append] at hfuel
    obtain ⟨fuel, rfl⟩ := Nat.exists_eq_succ_of_ne_zero (show fuel ≠ 0 by omega)
    have hvalue := ih fuel (w ++ ']' :: rest) (by omega)
      (endsValue_append_cons hw (Or.inr (Or.inl rfl)) rest)
    have hclose := skipSpace_append_cons hw (c := ']') (by decide) rest
    rw [List.append_assoc, skipItems]
    simp only [hvalue, hclose]
  | @item v w₁ w₂ t hv hw₁ hw₂ h ihv ih =>
    intro fuel rest hfuel
    simp only [List.length_append, List.length_cons] at hfuel
    obtain ⟨fuel, rfl⟩ := Nat.exists_eq_add_of_le (show 3 ≤ fuel by omega)
    rw [Nat.add_comm 3 fuel] at hfuel ⊢
    have hvalue := ihv (fuel + 2) (w₁ ++ ',' :: (w₂ ++ (t ++ ']' :: rest))) (by omega)
      (endsValue_append_cons hw₁ (Or.inl rfl) _)
    have hcomma := skipSpace_append_cons hw₁ (c := ',') (by decide) (w₂ ++ (t ++ ']' :: rest))
    have hitems := ih (fuel + 2) rest (by omega)
    simp only [List.append_assoc, List.cons_append]
    rw [skipItems]
    simp only [hvalue, hcomma, skipItems_append hw₂, hitems]
  | @emptyObject w hw =>
    intro fuel rest hfuel _
    rw [List.length_cons] at hfuel
    obtain ⟨fuel, rfl⟩ := Nat.exists_eq_succ_of_ne_zero (show fuel ≠ 0 by omega)
    have hclose := skipSpace_append_cons hw (c := '}') (by decide) rest
    rw [List.cons_append, List.append_assoc, List.singleton_append, skipValueFrom,
      skipSpace_cons (by decide)]
    simp only [hclose]
  | @object w t hw h ih =>
    intro fuel rest hfuel _
    simp only [List.length_cons, List.length_append, List.length_nil] at hfuel
    obtain ⟨fuel, rfl⟩ := Nat.exists_eq_succ_of_ne_zero (show fuel ≠ 0 by omega)
    have hmembers := ih fuel rest (by omega)
    obtain ⟨u, rfl⟩ := h.exists_quote
    have hquote := skipSpace_append_cons hw (c := '"') (by decide) (u ++ '}' :: rest)
    simp only [List.cons_append, List.append_assoc, List.nil_append] at hmembers ⊢
    rw [skipValueFrom, skipSpace_cons (by decide)]
    simp only [hquote]
    exact hmembers
  | @lastMember name w₁ w₂ v w₃ hname hw₁ hw₂ hv hw₃ ih =>
    intro fuel rest hfuel
    simp only [List.length_append, List.length_cons] at hfuel
    obtain ⟨fuel, rfl⟩ := Nat.exists_eq_add_of_le (show 2 ≤ fuel by omega)
    rw [Nat.add_comm 2 fuel] at hfuel ⊢
    have hvalue := ih (fuel + 1) (w₃ ++ '}' :: rest) (by omega)
      (endsValue_append_cons hw₃ (Or.inr (Or.inr rfl)) rest)
    rw [← skipValueFrom_append hw₂] at hvalue
    have hclose := skipSpace_append_cons hw₃ (c := '}') (by decide) rest
    simp only [List.append_assoc, List.cons_append]
    rw [skipMembers_member hname hw₁ hvalue, skipBehindMember, hclose]
    rfl
  | @member name w₁ w₂ v w₃ w₄ t hname hw₁ hw₂ hv hw₃ hw₄ h ihv ih =>
    intro fuel rest hfuel
    simp only [List.length_append, List.length_cons] at hfuel
    obtain ⟨fuel, rfl⟩ := Nat.exists_eq_add_of_le (show 2 ≤ fuel by omega)
    rw [Nat.add_comm 2 fuel] at hfuel ⊢
    have hvalue := ihv (fuel + 1) (w₃ ++ ',' :: (w₄ ++ (t ++ '}' :: rest))) (by omega)
      (endsValue_append_cons hw₃ (Or.inl rfl) _)
    rw [← skipValueFrom_append hw₂] at hvalue
    have hcomma := skipSpace_append_cons hw₃ (c := ',') (by decide) (w₄ ++ (t ++ '}' :: rest))
    have hmembers := ih (fuel + 1) rest (by omega)
    simp only [List.append_assoc, List.cons_append]
    rw [skipMembers_member hname hw₁ hvalue, skipBehindMember, hcomma]
    simp only [skipMembers_append hw₄, hmembers]

/-- **A value is passed to its end**, with the white space before it. -/
theorem skipValue_append (hw : IsBlank w) (h : IsValue t) (hrest : EndsValue rest) :
    skipValue (w ++ (t ++ rest)) = .ok rest := by
  have hpass := h.passes (2 * (w ++ (t ++ rest)).length + 2) rest
    (by simp only [List.length_append]; omega) hrest
  rw [skipValue, skipValueFrom_append hw]
  exact hpass

end ScriptWeave.Json
