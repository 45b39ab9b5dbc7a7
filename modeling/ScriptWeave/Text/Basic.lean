/-
  ScriptWeave.Text.Basic
  ──────────────────────
  **TEXTS AS LISTS OF CHARACTERS.**

  Everything the library reads or writes is a `Text`: the list of its Unicode
  scalar values.  Positions that are shown to a user are counted in UTF-8
  bytes, so a text has a byte size and can be cut at a byte offset.

      takeBytes n t ++ dropBytes n t = t
      byteSize (t ++ u) = byteSize t + byteSize u

  A cut that would fall inside a character is moved back to the start of that
  character.
-/

namespace ScriptWeave

/-- A text is the list of its characters. -/
abbrev Text := List Char

/-- A string literal stands for the text of its characters. -/
instance : Coe String Text := ⟨String.toList⟩

namespace Text

/-! ## §1. Byte offsets. -/

/-- The number of bytes of a text in UTF-8. -/
def byteSize : Text → Nat
  | [] => 0
  | c :: t => c.utf8Size + byteSize t

@[simp] theorem byteSize_nil : byteSize [] = 0 := rfl

@[simp] theorem byteSize_cons (c : Char) (t : Text) :
    byteSize (c :: t) = c.utf8Size + byteSize t := rfl

@[simp] theorem byteSize_append (t u : Text) :
    byteSize (t ++ u) = byteSize t + byteSize u := by
  induction t with
  | nil => simp
  | cons c t ih => simp [ih, Nat.add_assoc]

/-- The longest beginning of a text that fits into `n` bytes. -/
def takeBytes : Nat → Text → Text
  | _, [] => []
  | n, c :: t => if c.utf8Size ≤ n then c :: takeBytes (n - c.utf8Size) t else []

/-- What `takeBytes` leaves. -/
def dropBytes : Nat → Text → Text
  | _, [] => []
  | n, c :: t => if c.utf8Size ≤ n then dropBytes (n - c.utf8Size) t else c :: t

theorem takeBytes_append_dropBytes (n : Nat) (t : Text) :
    takeBytes n t ++ dropBytes n t = t := by
  induction t generalizing n with
  | nil => rfl
  | cons c t ih =>
    by_cases h : c.utf8Size ≤ n
    · simp [takeBytes, dropBytes, h, ih]
    · simp [takeBytes, dropBytes, h]

/-- A cut at the byte size of the first part gives the first part back. -/
theorem takeBytes_byteSize_append (t u : Text) : takeBytes (byteSize t) (t ++ u) = t := by
  induction t with
  | nil =>
    cases u with
    | nil => rfl
    | cons c u =>
      have : ¬ c.utf8Size ≤ 0 := by have := c.utf8Size_pos; omega
      simp [takeBytes, this]
  | cons c t ih => simp [takeBytes, ih]

/-- A cut at the byte size of the first part leaves the second. -/
theorem dropBytes_byteSize_append (t u : Text) : dropBytes (byteSize t) (t ++ u) = u := by
  induction t with
  | nil =>
    cases u with
    | nil => rfl
    | cons c u =>
      have : ¬ c.utf8Size ≤ 0 := by have := c.utf8Size_pos; omega
      simp [dropBytes, this]
  | cons c t ih => simp [dropBytes, ih]

/-! ## §2. Cutting and joining. -/

/-- The pieces of a text between the occurrences of a character, empty ones
included: there is one piece more than there are occurrences. -/
def splitOn (sep : Char) : Text → List Text
  | [] => [[]]
  | c :: t =>
    if c = sep then [] :: splitOn sep t
    else
      match splitOn sep t with
      | [] => [[c]]
      | piece :: rest => (c :: piece) :: rest

/-- The texts in order, with a separator between neighbours. -/
def join (sep : Text) : List Text → Text
  | [] => []
  | [t] => t
  | t :: rest => t ++ sep ++ join sep rest

/-- What follows the first `p` in a text that starts with `p`. -/
def dropStart? : (p t : Text) → Option Text
  | [], t => some t
  | _ :: _, [] => none
  | c :: p, d :: t => if c = d then dropStart? p t else none

/-! ## §3. Replacing every occurrence of a text. -/

/-- Replaces the occurrences of a nonempty text, found from left to right without
overlap.  `skip` counts the characters of the last occurrence still to be passed. -/
def replaceFrom (p by_ : Text) : (skip : Nat) → Text → Text
  | _, [] => []
  | skip + 1, _ :: t => replaceFrom p by_ skip t
  | 0, c :: t =>
    if p.isPrefixOf (c :: t) then by_ ++ replaceFrom p by_ (p.length - 1) t
    else c :: replaceFrom p by_ 0 t

/-- Replaces every occurrence of `p`.  The empty text occurs at every boundary
between characters, both ends included. -/
def replace (p by_ t : Text) : Text :=
  if p = [] then by_ ++ t.flatMap (· :: by_) else replaceFrom p by_ 0 t

theorem replaceFrom_skip (p by_ : Text) (n : Nat) (t : Text) :
    replaceFrom p by_ n t = replaceFrom p by_ 0 (t.drop n) := by
  induction t generalizing n with
  | nil => cases n <;> rfl
  | cons c t ih =>
    cases n with
    | zero => rfl
    | succ n => simp [replaceFrom, ih n]

end Text

end ScriptWeave
