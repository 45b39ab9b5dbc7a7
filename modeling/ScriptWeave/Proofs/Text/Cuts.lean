/-
  ScriptWeave.Proofs.Text.Cuts
  ────────────────────────────
  **CUTTING AND TRIMMING.**

  What is joined by commas is cut at the commas again, if no part has one.
  What is set between white space is what remains when the white space is
  trimmed away, if it neither begins nor ends with some itself.

      splitOn s (join s ts) = ts        no s in any part
      trim (w ++ u ++ w') = u           w, w' white space

  No part of a text that is cut has the separator, and what is trimmed
  neither begins nor ends with white space, whatever the text.
-/
import ScriptWeave.Proofs.Text.Runs
import ScriptWeave.Text.Blank
import ScriptWeave.Text.WordChar

namespace ScriptWeave

/-! ## §1. White space is not part of words. -/

/-- The code points of white space. -/
def blankPoints : List Nat :=
  blankRanges.flatMap (fun r => List.range' r.1 (r.2 + 1 - r.1))

theorem mem_blankPoints_of_inRanges {n : Nat} (h : inRanges blankRanges n = true) :
    n ∈ blankPoints := by
  obtain ⟨r, hr, hlo, hhi⟩ := inRanges_eq_true_iff.mp h
  refine List.mem_flatMap.mpr ⟨r, hr, ?_⟩
  rw [List.mem_range'_1]
  omega

theorem toNat_mem_blankPoints {c : Char} (h : isBlank c = true) : c.toNat ∈ blankPoints := by
  unfold isBlank at h
  split at h
  next =>
    have hlist : c.toNat = 0x20 ∨ (0x09 ≤ c.toNat ∧ c.toNat ≤ 0x0d) := by
      rw [isAsciiBlank, Bool.or_eq_true, beq_iff_eq, Bool.and_eq_true, decide_eq_true_eq,
        decide_eq_true_eq] at h
      rcases h with rfl | ⟨hlo, hhi⟩
      · exact Or.inl rfl
      · exact Or.inr ⟨hlo, hhi⟩
    apply mem_blankPoints_of_inRanges
    rw [inRanges_eq_true_iff]
    rcases hlist with h | h
    · exact ⟨(0x20, 0x20), by decide, by omega, by omega⟩
    · exact ⟨(0x09, 0x0d), by decide, h.1, h.2⟩
  next => exact mem_blankPoints_of_inRanges h

/-- Whether a code point is one of a word character. -/
def isWordPoint (n : Nat) : Bool :=
  if n < 0x80 then isAsciiWord (Char.ofNat n) else inRanges wordRanges n

theorem isWordChar_eq_isWordPoint (c : Char) : isWordChar c = isWordPoint c.toNat := by
  rw [isWordChar, isWordPoint, Char.ofNat_toNat]

theorem blankPoints_not_word : ∀ n ∈ blankPoints, isWordPoint n = false := by
  decide +kernel

/-- **No white space is part of a word.** -/
theorem isWordChar_eq_false_of_isBlank {c : Char} (h : isBlank c = true) :
    isWordChar c = false := by
  rw [isWordChar_eq_isWordPoint]
  exact blankPoints_not_word _ (toNat_mem_blankPoints h)

namespace Text

/-! ## §2. Cutting at a separator. -/

variable {sep : Char} {t u w w' : Text}

theorem splitOn_of_not_mem (h : sep ∉ t) : splitOn sep t = [t] := by
  induction t with
  | nil => rfl
  | cons c t ih =>
    have hc : c ≠ sep := fun hc => h (hc ▸ List.mem_cons_self)
    rw [splitOn, if_neg hc, ih (fun ht => h (List.mem_cons_of_mem c ht))]

theorem splitOn_ne_nil : splitOn sep t ≠ [] := by
  fun_cases splitOn sep t <;> exact List.cons_ne_nil _ _

/-- A text is cut at every separator, whatever stands before it. -/
theorem splitOn_append_cons_sep (t u : Text) :
    splitOn sep (t ++ sep :: u) = splitOn sep t ++ splitOn sep u := by
  induction t with
  | nil =>
    show splitOn sep (sep :: u) = [[]] ++ splitOn sep u
    rw [splitOn, if_pos rfl, List.singleton_append]
  | cons c t ih =>
    rw [List.cons_append, splitOn]
    by_cases hc : c = sep
    · rw [if_pos hc, ih, splitOn, if_pos hc, List.cons_append]
    · rw [if_neg hc, ih, splitOn, if_neg hc]
      cases hsplit : splitOn sep t with
      | nil => exact absurd hsplit splitOn_ne_nil
      | cons piece rest => rfl

theorem splitOn_append_sep (h : sep ∉ t) (u : Text) :
    splitOn sep (t ++ sep :: u) = t :: splitOn sep u := by
  rw [splitOn_append_cons_sep, splitOn_of_not_mem h, List.singleton_append]

/-- What is joined is cut where it was joined and within its parts. -/
theorem splitOn_join_eq_flatMap {ts : List Text} (hne : ts ≠ []) :
    splitOn sep (join [sep] ts) = ts.flatMap (splitOn sep) := by
  induction ts with
  | nil => exact absurd rfl hne
  | cons t ts ih =>
    cases ts with
    | nil => rw [join, List.flatMap_cons, List.flatMap_nil, List.append_nil]
    | cons u ts =>
      rw [join, List.append_assoc, List.singleton_append, splitOn_append_cons_sep,
        ih (List.cons_ne_nil u ts)]
      · rfl
      · exact List.cons_ne_nil u ts

/-- Parts without the separator are not cut. -/
theorem flatMap_splitOn_eq_self {ts : List Text} (h : ∀ t ∈ ts, sep ∉ t) :
    ts.flatMap (splitOn sep) = ts := by
  induction ts with
  | nil => rfl
  | cons t ts ih =>
    rw [List.flatMap_cons, splitOn_of_not_mem (h t List.mem_cons_self), List.singleton_append,
      ih (fun u hu => h u (List.mem_cons_of_mem t hu))]

/-- Parts without the separator are found again. -/
theorem splitOn_join {ts : List Text} (hne : ts ≠ []) (h : ∀ t ∈ ts, sep ∉ t) :
    splitOn sep (join [sep] ts) = ts := by
  rw [splitOn_join_eq_flatMap hne, flatMap_splitOn_eq_self h]

/-- A text that is cut is joined again. -/
theorem join_splitOn (t : Text) : join [sep] (splitOn sep t) = t := by
  fun_induction splitOn sep t with
  | case1 => rfl
  | case2 t ih =>
    rw [join, ih, List.nil_append, List.singleton_append]
    exact splitOn_ne_nil
  | case3 c t hc hsplit ih => exact absurd hsplit splitOn_ne_nil
  | case4 c t hc piece rest hsplit ih =>
    rw [hsplit] at ih
    rw [← ih]
    cases rest with
    | nil => rfl
    | cons u rest => rfl

/-- **Joined texts are the same if and only if they are cut into the same parts.** -/
theorem join_eq_join_iff {ts us : List Text} (hts : ts ≠ []) (hus : us ≠ []) :
    join [sep] ts = join [sep] us ↔ ts.flatMap (splitOn sep) = us.flatMap (splitOn sep) := by
  rw [← splitOn_join_eq_flatMap hts, ← splitOn_join_eq_flatMap hus]
  constructor
  · exact congrArg (splitOn sep)
  · intro h
    rw [← join_splitOn (join [sep] ts), h, join_splitOn]

/-- No part of a text that is cut has the separator. -/
theorem not_mem_of_mem_splitOn (h : u ∈ splitOn sep t) : sep ∉ u := by
  fun_induction splitOn sep t generalizing u with
  | case1 =>
    rw [List.mem_singleton.mp h]
    exact List.not_mem_nil
  | case2 t ih =>
    rcases List.mem_cons.mp h with rfl | h
    · exact List.not_mem_nil
    · exact ih h
  | case3 c t hc hsplit ih =>
    rw [List.mem_singleton.mp h, List.mem_singleton]
    exact Ne.symm hc
  | case4 c t hc piece rest hsplit ih =>
    rw [hsplit] at ih
    rcases List.mem_cons.mp h with rfl | h
    · rw [List.mem_cons]
      rintro (rfl | hin)
      · exact hc rfl
      · exact ih List.mem_cons_self hin
    · exact ih (List.mem_cons_of_mem piece h)

/-- A character of joined parts is the separator or belongs to a part. -/
theorem mem_join {c : Char} {ts : List Text} (h : c ∈ join [sep] ts) :
    c = sep ∨ ∃ t ∈ ts, c ∈ t := by
  induction ts with
  | nil => exact absurd h List.not_mem_nil
  | cons t ts ih =>
    cases ts with
    | nil => exact Or.inr ⟨t, List.mem_cons_self, h⟩
    | cons u ts =>
      rw [join, List.mem_append, List.mem_append] at h
      · rcases h with (h | h) | h
        · exact Or.inr ⟨t, List.mem_cons_self, h⟩
        · exact Or.inl (List.mem_singleton.mp h)
        · rcases ih h with hc | ⟨v, hv, hcv⟩
          · exact Or.inl hc
          · exact Or.inr ⟨v, List.mem_cons_of_mem t hv, hcv⟩
      · exact List.cons_ne_nil u ts

/-! ## §3. Trimming. -/

/-- A text of white space. -/
def IsBlanks (w : Text) : Prop := ∀ c ∈ w, isBlank c = true

instance (w : Text) : Decidable (IsBlanks w) :=
  decidable_of_iff (w.all isBlank = true) List.all_eq_true

/-- A text that does not begin with white space, read from either end. -/
def IsTrimmed (u : Text) : Prop := StartsOutside isBlank u ∧ StartsOutside isBlank u.reverse

/-- What stands between white space remains. -/
theorem trim_append (hw : IsBlanks w) (hw' : IsBlanks w') (hu : IsTrimmed u) (hne : u ≠ []) :
    trim (w ++ u ++ w') = u := by
  have hfront : StartsOutside isBlank (u ++ w') := (startsOutside_append hne).mpr hu.1
  have hback : IsBlanks w'.reverse := fun c hc => hw' c (List.mem_reverse.mp hc)
  rw [trim, trimStart, List.append_assoc, dropWhile_run_append hw hfront, trimEnd,
    List.reverse_append, dropWhile_run_append hback hu.2, List.reverse_reverse]

/-- Nothing remains of white space. -/
theorem trim_blanks (hw : IsBlanks w) : trim w = [] := by
  have hall : w.dropWhile isBlank = [] := by
    have := dropWhile_run_append (u := []) hw startsOutside_nil
    rwa [List.append_nil] at this
  rw [trim, trimStart, hall, trimEnd, List.reverse_nil, List.dropWhile_nil, List.reverse_nil]

theorem trim_eq_self (hu : IsTrimmed u) (hne : u ≠ []) : trim u = u := by
  have hnil : IsBlanks [] := fun c hc => absurd hc List.not_mem_nil
  have := trim_append hnil hnil hu hne
  rwa [List.nil_append, List.append_nil] at this

/-- What is trimmed away is at the ends: what remains was there. -/
theorem mem_of_mem_trim {c : Char} (h : c ∈ trim t) : c ∈ t := by
  have hback := (List.dropWhile_sublist isBlank).subset (List.mem_reverse.mp h)
  exact (List.dropWhile_sublist isBlank).subset (List.mem_reverse.mp hback)

/-- **A trimmed text is trimmed.** -/
theorem isTrimmed_trim (t : Text) : IsTrimmed (trim t) := by
  have hback : trim t = ((trimStart t).reverse.dropWhile isBlank).reverse := rfl
  rw [hback]
  constructor
  · -- what remains is a beginning of what does not begin with white space
    obtain ⟨w, hw⟩ := List.dropWhile_suffix isBlank (l := (trimStart t).reverse)
    have hfront : StartsOutside isBlank (trimStart t) := startsOutside_dropWhile t
    rw [← List.reverse_reverse (trimStart t), ← hw, List.reverse_append] at hfront
    cases hrest : ((trimStart t).reverse.dropWhile isBlank).reverse with
    | nil => exact startsOutside_nil
    | cons c u =>
      rw [hrest] at hfront
      exact (startsOutside_append (List.cons_ne_nil c u)).mp hfront
  · rw [List.reverse_reverse]
    exact startsOutside_dropWhile _

/-- A text without white space is trimmed. -/
theorem isTrimmed_of_no_blank (h : ∀ c ∈ u, isBlank c = false) : IsTrimmed u := by
  constructor
  · intro c hc
    exact h c (List.mem_of_mem_head? hc)
  · intro c hc
    exact h c (List.mem_reverse.mp (List.mem_of_mem_head? hc))

/-- Trimmed texts are trimmed together, whatever stands between them. -/
theorem isTrimmed_append_append {v : Text} (hu : IsTrimmed u) (hv : IsTrimmed v) (hne : u ≠ [])
    (hne' : v ≠ []) (t : Text) : IsTrimmed (u ++ t ++ v) := by
  constructor
  · rw [List.append_assoc]
    exact (startsOutside_append hne).mpr hu.1
  · rw [List.reverse_append]
    exact (startsOutside_append (by simpa using hne')).mpr hv.2

end Text

end ScriptWeave
