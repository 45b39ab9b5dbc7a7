/-
  ScriptWeave.Proofs.Text.ByteSearch
  ──────────────────────────────────
  **A SEARCH IN BYTES FINDS CHARACTERS.**

  A text is stored in UTF-8, where a character takes one to four bytes, and a
  search in it compares bytes.  It finds the same occurrences as a search that
  compares characters.

      p occurs in t                 ↔  its bytes occur in the bytes of t
      the bytes of (replace p b t)  =  the bytes of t, with those of b
                                       for those of p

  Only the first byte of a character can begin one.  So the bytes of a text
  that is not empty begin at no other byte of a character; and no character
  begins with the bytes of another one.
-/
import ScriptWeave.Proofs.Text.Replace
import ScriptWeave.Text.Utf8

namespace ScriptWeave.Text

/-! ## §1. The bytes of a text. -/

/-- The bytes of a text, in order. -/
def utf8Bytes (t : Text) : List UInt8 := t.flatMap String.utf8EncodeChar

@[simp] theorem utf8Bytes_nil : utf8Bytes [] = [] := rfl

@[simp] theorem utf8Bytes_cons (c : Char) (t : Text) :
    utf8Bytes (c :: t) = String.utf8EncodeChar c ++ utf8Bytes t := List.flatMap_cons

@[simp] theorem utf8Bytes_append (t u : Text) :
    utf8Bytes (t ++ u) = utf8Bytes t ++ utf8Bytes u := List.flatMap_append

theorem utf8Bytes_ne_nil {t : Text} (ht : t ≠ []) : utf8Bytes t ≠ [] := by
  obtain ⟨c, t, rfl⟩ := List.exists_cons_of_ne_nil ht
  rw [utf8Bytes_cons]
  exact fun h => String.utf8EncodeChar_ne_nil (List.append_eq_nil_iff.mp h).1

/-- A text is encoded as its bytes. -/
theorem encode_eq_toByteArray (t : Text) : encode t = (utf8Bytes t).toByteArray := rfl

/-- The first byte of a character begins one, and no other byte of it does. -/
theorem exists_utf8EncodeChar_eq_cons (c : Char) :
    ∃ x r, String.utf8EncodeChar c = x :: r ∧ x.IsUTF8FirstByte ∧ ∀ y ∈ r, ¬ y.IsUTF8FirstByte := by
  obtain ⟨x, r, hxr⟩ := List.exists_cons_of_ne_nil (String.utf8EncodeChar_ne_nil (c := c))
  have hfirst : ∀ i (hi : i < (x :: r).length), ((x :: r)[i]).IsUTF8FirstByte ↔ i = 0 := by
    rw [← hxr]
    exact fun i hi => UInt8.isUTF8FirstByte_getElem_utf8EncodeChar
  refine ⟨x, r, hxr, (hfirst 0 (by simp)).mpr rfl, ?_⟩
  intro y hy
  obtain ⟨i, hi, rfl⟩ := List.mem_iff_getElem.mp hy
  exact fun h => absurd ((hfirst (i + 1) (by simpa using hi)).mp h) (Nat.succ_ne_zero i)

/-- The character at the start of some bytes, and what follows it, are determined by them. -/
theorem utf8EncodeChar_append_inj {c d : Char} {v w : List UInt8}
    (h : String.utf8EncodeChar c ++ v = String.utf8EncodeChar d ++ w) : c = d ∧ v = w := by
  have hread : ∀ (c : Char) (v : List UInt8),
      (String.utf8EncodeChar c ++ v).toByteArray.utf8DecodeChar? 0 = some c := by
    intro c v
    rw [List.toByteArray_append]
    exact ByteArray.utf8DecodeChar?_utf8EncodeChar_append
  have hcd : c = d := by
    have := hread c v
    rw [h, hread d w] at this
    exact (Option.some.inj this).symm
  subst hcd
  exact ⟨rfl, List.append_cancel_left h⟩

/-- A text begins with another one exactly if its bytes begin with those of the other. -/
theorem utf8Bytes_prefix_iff {p t : Text} : utf8Bytes p <+: utf8Bytes t ↔ p <+: t := by
  constructor
  · intro h
    induction p generalizing t with
    | nil => exact List.nil_prefix
    | cons c p ih =>
      obtain ⟨v, hv⟩ := h
      rw [utf8Bytes_cons, List.append_assoc] at hv
      cases t with
      | nil => exact absurd (List.append_eq_nil_iff.mp hv).1 String.utf8EncodeChar_ne_nil
      | cons d t =>
        obtain ⟨rfl, hrest⟩ := utf8EncodeChar_append_inj hv
        exact List.cons_prefix_cons.mpr ⟨rfl, ih ⟨v, hrest⟩⟩
  · rintro ⟨v, rfl⟩
    rw [utf8Bytes_append]
    exact List.prefix_append _ _

/-! ## §2. Bytes inside a character. -/

variable {p : Text}

/-- A text does not begin at a byte that begins no character. -/
theorem not_utf8Bytes_prefix_cons (hp : p ≠ []) {y : UInt8} (hy : ¬ y.IsUTF8FirstByte)
    (v : List UInt8) : ¬ utf8Bytes p <+: y :: v := by
  obtain ⟨c, p, rfl⟩ := List.exists_cons_of_ne_nil hp
  obtain ⟨x, r, hxr, hx, -⟩ := exists_utf8EncodeChar_eq_cons c
  rw [utf8Bytes_cons, hxr, List.cons_append, List.cons_prefix_cons]
  rintro ⟨rfl, -⟩
  exact hy hx

/-- What occurs behind some bytes that begin no character, or among them, occurs behind them. -/
theorem utf8Bytes_infix_of_infix_append (hp : p ≠ []) {r v : List UInt8}
    (hr : ∀ y ∈ r, ¬ y.IsUTF8FirstByte) (h : utf8Bytes p <:+: r ++ v) : utf8Bytes p <:+: v := by
  induction r with
  | nil => exact h
  | cons y r ih =>
    rcases List.infix_cons_iff.mp h with hstart | hlater
    · exact absurd hstart (not_utf8Bytes_prefix_cons hp (hr y List.mem_cons_self) _)
    · exact ih (fun z hz => hr z (List.mem_cons_of_mem y hz)) hlater

/-- **A text occurs in another one exactly if its bytes occur in those of the other.** -/
theorem utf8Bytes_infix_iff (hp : p ≠ []) {t : Text} :
    utf8Bytes p <:+: utf8Bytes t ↔ p <:+: t := by
  constructor
  · intro h
    induction t with
    | nil => exact absurd (List.infix_nil.mp h) (utf8Bytes_ne_nil hp)
    | cons c t ih =>
      obtain ⟨x, r, hxr, -, hr⟩ := exists_utf8EncodeChar_eq_cons c
      rw [List.infix_cons_iff]
      rw [utf8Bytes_cons, hxr, List.cons_append, List.infix_cons_iff] at h
      -- it occurs at the first byte of the text, or not before the next character
      rcases h with hstart | hlater
      · rw [← List.cons_append, ← hxr, ← utf8Bytes_cons] at hstart
        exact Or.inl (utf8Bytes_prefix_iff.mp hstart)
      · exact Or.inr (ih (utf8Bytes_infix_of_infix_append hp hr hlater))
  · rintro ⟨u, v, rfl⟩
    rw [utf8Bytes_append, utf8Bytes_append]
    exact ⟨_, _, rfl⟩

/-- A character is in a text exactly if its bytes occur in those of the text. -/
theorem utf8Bytes_singleton_infix_iff {c : Char} {t : Text} :
    utf8Bytes [c] <:+: utf8Bytes t ↔ c ∈ t := by
  rw [utf8Bytes_infix_iff (List.cons_ne_nil c [])]
  constructor
  · rintro ⟨u, v, rfl⟩
    simp
  · intro h
    obtain ⟨u, v, rfl⟩ := List.append_of_mem h
    exact ⟨u, v, List.append_assoc _ _ _⟩

/-! ## §3. Replacing bytes. -/

/-- The bytes with `b` for every occurrence of `a`.  They are found from left to right: behind one
of them the next is looked for. -/
def replaceBytes (a b : List UInt8) : List UInt8 → List UInt8
  | [] => []
  | x :: v =>
    if a.isPrefixOf (x :: v) then b ++ replaceBytes a b (v.drop (a.length - 1))
    else x :: replaceBytes a b v
termination_by v => v.length
decreasing_by
  · simp only [List.length_drop, List.length_cons]
    omega
  · simp

section

variable {a b : List UInt8}

theorem replaceBytes_append_self (ha : a ≠ []) (b v : List UInt8) :
    replaceBytes a b (a ++ v) = b ++ replaceBytes a b v := by
  obtain ⟨x, a, rfl⟩ := List.exists_cons_of_ne_nil ha
  have hpre : (x :: a).isPrefixOf (x :: (a ++ v)) = true := by
    rw [List.isPrefixOf_iff_prefix]
    exact List.prefix_append (x :: a) v
  rw [List.cons_append, replaceBytes, if_pos hpre, List.length_cons, Nat.add_sub_cancel,
    List.drop_left]

theorem replaceBytes_cons_of_not_prefix {x : UInt8} {v : List UInt8} (h : ¬ a <+: x :: v) :
    replaceBytes a b (x :: v) = x :: replaceBytes a b v := by
  rw [replaceBytes, if_neg (by rwa [List.isPrefixOf_iff_prefix])]

end

/-- Bytes that begin no character are passed. -/
theorem replaceBytes_append_of_inner (hp : p ≠ []) {r : List UInt8}
    (hr : ∀ y ∈ r, ¬ y.IsUTF8FirstByte) (b v : List UInt8) :
    replaceBytes (utf8Bytes p) b (r ++ v) = r ++ replaceBytes (utf8Bytes p) b v := by
  induction r with
  | nil => rfl
  | cons y r ih =>
    have hnot := not_utf8Bytes_prefix_cons hp (hr y List.mem_cons_self) (r ++ v)
    rw [List.cons_append, replaceBytes_cons_of_not_prefix hnot,
      ih (fun z hz => hr z (List.mem_cons_of_mem y hz)), List.cons_append]

/-- A character at which the text that is replaced does not begin is passed as a whole. -/
theorem replaceBytes_cons_of_not_start {c : Char} {t : Text} (h : ¬ p <+: c :: t)
    (b : List UInt8) :
    replaceBytes (utf8Bytes p) b (utf8Bytes (c :: t))
      = String.utf8EncodeChar c ++ replaceBytes (utf8Bytes p) b (utf8Bytes t) := by
  have hp : p ≠ [] := by
    rintro rfl
    exact h List.nil_prefix
  obtain ⟨x, r, hxr, -, hr⟩ := exists_utf8EncodeChar_eq_cons c
  have hnot : ¬ utf8Bytes p <+: x :: (r ++ utf8Bytes t) := by
    rw [← List.cons_append, ← hxr, ← utf8Bytes_cons, utf8Bytes_prefix_iff]
    exact h
  rw [utf8Bytes_cons, hxr, List.cons_append, replaceBytes_cons_of_not_prefix hnot,
    replaceBytes_append_of_inner hp hr, List.cons_append]

/-- **A text is replaced in bytes as it is in characters**, whatever is put in. -/
theorem utf8Bytes_replace (hp : p ≠ []) (b t : Text) :
    utf8Bytes (replace p b t) = replaceBytes (utf8Bytes p) (utf8Bytes b) (utf8Bytes t) := by
  induction t using occurrence_induction hp with
  | nil => rw [replace_nil hp, utf8Bytes_nil, replaceBytes]
  | occurrence u ih =>
    rw [replace_prefix_append hp, utf8Bytes_append, utf8Bytes_append,
      replaceBytes_append_self (utf8Bytes_ne_nil hp), ih]
  | other c t hstart ih =>
    rw [replace_cons_of_not_start hstart, replaceBytes_cons_of_not_start hstart, utf8Bytes_cons,
      ih]

end ScriptWeave.Text
