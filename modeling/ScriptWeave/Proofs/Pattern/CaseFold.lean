/-
  ScriptWeave.Proofs.Pattern.CaseFold
  ───────────────────────────────────
  **COMPARING UP TO CASE.**

  A pattern that ignores case tests whether one of the characters equal up to
  case is a given one.  For a letter of ASCII this is the same as folding both
  and comparing:

      (anyCase (single c)).contains x = sameFold c x        c from a to z
      run (charsAnyCase u) c g k = if u begins the rest up to case then … else none

  The table of folds leads nowhere but to small letters and on, so signs fold
  to themselves and no other character folds to one.
-/
import ScriptWeave.Proofs.Pattern.Walk
import ScriptWeave.Proofs.Text.Cuts

namespace ScriptWeave

open Pattern (CharSet Node)

/-! ## §1. The table. -/

/-- No run of the table starts or ends at a small letter of ASCII or passes one, and every image
is a small letter or lies further on. -/
theorem foldRuns_bounds :
    foldRuns.all (fun r => r.first ≤ r.last && (r.last < 0x61 || 0x7a < r.first)
      && 0x61 ≤ r.image && 0x41 ≤ r.first) = true := by
  decide +kernel

theorem bounds_of_mem_foldRuns {r : FoldRun} (h : r ∈ foldRuns) :
    r.first ≤ r.last ∧ (r.last < 0x61 ∨ 0x7a < r.first) ∧ 0x61 ≤ r.image ∧ 0x41 ≤ r.first := by
  have := List.all_eq_true.mp foldRuns_bounds r h
  simp only [Bool.and_eq_true, Bool.or_eq_true, decide_eq_true_eq] at this
  exact ⟨this.1.1.1, this.1.1.2, this.1.2, this.2⟩

theorem toNat_ofNat_of_valid {n : Nat} (h : n.isValidChar) : (Char.ofNat n).toNat = n := by
  unfold Char.ofNat
  rw [dif_pos h]
  unfold Char.ofNatAux Char.toNat
  simp

/-- A number that stands for a character other than the first is the number of that
character. -/
theorem eq_toNat_of_ofNat {n : Nat} {c : Char} (h : Char.ofNat n = c) (hc : c.toNat ≠ 0) :
    n = c.toNat := by
  by_cases hv : n.isValidChar
  · rw [← h, toNat_ofNat_of_valid hv]
  · rw [Char.ofNat, dif_neg hv] at h
    rw [← h] at hc
    exact absurd rfl hc

/-- The image of a fold is no sign of ASCII and no capital letter. -/
theorem foldCase_eq_self_or (c : Char) :
    foldCase c = c ∨ ∃ n, 0x61 ≤ n ∧ foldCase c = Char.ofNat n := by
  unfold foldCase
  split
  next n hn =>
    obtain ⟨r, hr, hfold⟩ := List.exists_of_findSome?_eq_some hn
    have hb := bounds_of_mem_foldRuns hr
    unfold FoldRun.fold? at hfold
    split at hfold
    next =>
      injection hfold with hfold
      exact Or.inr ⟨n, by omega, rfl⟩
    next => exact absurd hfold (by simp)
  next => exact Or.inl rfl

/-- A character before the capital letters folds to itself. -/
theorem foldCase_of_lt {c : Char} (h : c.toNat < 0x41) : foldCase c = c := by
  unfold foldCase
  split
  next n hn =>
    obtain ⟨r, hr, hfold⟩ := List.exists_of_findSome?_eq_some hn
    have hb := bounds_of_mem_foldRuns hr
    unfold FoldRun.fold? at hfold
    split at hfold
    next hin =>
      simp only [Bool.and_eq_true, decide_eq_true_eq] at hin
      omega
    next => exact absurd hfold (by simp)
  next => rfl

/-- **A sign of ASCII is equal up to case to nothing but itself.** -/
theorem sameFold_of_sign {c x : Char} (h : c.toNat < 0x41) (hpos : c.toNat ≠ 0) :
    sameFold c x = (c == x) := by
  rw [sameFold, foldCase_of_lt h]
  rcases foldCase_eq_self_or x with hx | ⟨n, hn, hx⟩
  · rw [hx]
  · have hleft : ¬ c = foldCase x := by
      intro hc
      have := eq_toNat_of_ofNat (hx.symm.trans hc.symm) hpos
      omega
    have hright : ¬ c = x := by
      rintro rfl
      exact hleft (foldCase_of_lt h).symm
    rw [beq_false_of_ne hleft, beq_false_of_ne hright]

/-! ## §2. Letters. -/

/-- Whether a character is a small letter of ASCII. -/
def isSmall (c : Char) : Bool := 0x61 ≤ c.toNat && c.toNat ≤ 0x7a

/-- A property of all characters of ASCII is checked one by one. -/
theorem of_ascii {P : Char → Bool} (h : (List.range 128).all (fun n => P (Char.ofNat n)) = true)
    {c : Char} (hc : c.toNat < 0x80) : P c = true := by
  have := List.all_eq_true.mp h c.toNat (List.mem_range.mpr hc)
  rwa [Char.ofNat_toNat] at this

/-- Beside the capital letters nothing in ASCII folds to another character. -/
theorem foldRuns_eq :
    ∃ rest, foldRuns = ⟨0x41, 0x5a, 1, 0x61⟩ :: rest ∧ rest.all (fun r => 0x80 ≤ r.first) = true :=
  ⟨_, rfl, by decide +kernel⟩

/-- Characters of ASCII fold to their lower case. -/
theorem foldCase_of_ascii {c : Char} (h : c.toNat < 0x80) : foldCase c = c.toLower := by
  obtain ⟨rest, hruns, hrest⟩ := foldRuns_eq
  -- the runs beyond ASCII do not apply, so the first run alone decides
  have hnone : rest.findSome? (·.fold? c.toNat) = none := by
    rw [List.findSome?_eq_none_iff]
    intro r hr
    have hfirst := of_decide_eq_true (List.all_eq_true.mp hrest r hr)
    have hout : ¬ (r.first ≤ c.toNat && c.toNat ≤ r.last && (c.toNat - r.first) % r.step == 0)
        = true := by
      simp only [Bool.and_eq_true, decide_eq_true_eq]
      omega
    rw [FoldRun.fold?, if_neg hout]
  have hall := of_ascii (P := fun c =>
    ((FoldRun.mk 0x41 0x5a 1 0x61).fold? c.toNat).elim c Char.ofNat == c.toLower)
    (by decide +kernel) h
  have hhead := beq_iff_eq.mp hall
  rw [foldCase, hruns, List.findSome?_cons, hnone, ← hhead]
  cases (FoldRun.mk 0x41 0x5a 1 0x61).fold? c.toNat <;> rfl

theorem toLower_of_isSmall {c : Char} (h : isSmall c = true) : c.toLower = c := by
  have hc : c.toNat < 0x80 := by
    rw [isSmall, Bool.and_eq_true, decide_eq_true_eq, decide_eq_true_eq] at h
    omega
  have hall := of_ascii (P := fun c => !isSmall c || c.toLower == c) (by decide +kernel) hc
  simpa [h] using hall

/-- Among the characters of ASCII, the small letter of an orbit is the lower case of all. -/
theorem any_asciiOrbit {c x : Char} (hc : isSmall c = true) (hx : x.toNat < 0x80) :
    (asciiOrbit x).any (CharSet.single c).contains = (c == x.toLower) := by
  have hall := of_ascii (P := fun x => (asciiOrbit x).all (fun d => !isSmall d || d == x.toLower)
    && (!isSmall x.toLower || (asciiOrbit x).contains x.toLower)) (by decide +kernel) hx
  rw [Bool.and_eq_true, List.all_eq_true] at hall
  obtain ⟨honly, hin⟩ := hall
  -- the small letters of an orbit are its lower case, and that is one of them if it is small
  by_cases hcx : c = x.toLower
  · have hmem : c ∈ asciiOrbit x := by
      rw [← hcx, hc, Bool.not_true, Bool.false_or] at hin
      exact List.contains_iff_mem.mp hin
    rw [beq_iff_eq.mpr hcx, List.any_eq_true]
    exact ⟨c, hmem, by simp [CharSet.contains]⟩
  · rw [beq_false_of_ne hcx, List.any_eq_false]
    intro d hd
    have hdx := honly d hd
    rw [CharSet.contains, beq_iff_eq]
    rintro rfl
    rw [hc, Bool.not_true, Bool.false_or, beq_iff_eq] at hdx
    exact hcx hdx

/-- No code point of a run is a small letter. -/
theorem source?_ne_small {r : FoldRun} (hr : r ∈ foldRuns) {n m : Nat} (h : r.source? n = some m) :
    m < 0x61 ∨ 0x7a < m := by
  have hb := bounds_of_mem_foldRuns hr
  unfold FoldRun.source? at h
  split at h
  next hin =>
    simp only [Bool.and_eq_true, decide_eq_true_eq] at hin
    injection h with h
    omega
  next => exact absurd h (by simp)

/-- **A small letter is in a set closed under case if and only if it folds the same.** -/
theorem contains_anyCase_small {c : Char} (hc : isSmall c = true) (x : Char) :
    (CharSet.anyCase (.single c)).contains x = sameFold c x := by
  have hbounds : 0x61 ≤ c.toNat ∧ c.toNat ≤ 0x7a := by
    rw [isSmall, Bool.and_eq_true, decide_eq_true_eq, decide_eq_true_eq] at hc
    exact hc
  have hfold : foldCase c = c := by
    rw [foldCase_of_ascii (by omega), toLower_of_isSmall hc]
  rw [sameFold, hfold, CharSet.contains]
  by_cases hx : x.toNat < 0x80
  · rw [orbit, if_pos hx, any_asciiOrbit hc hx, foldCase_of_ascii hx]
  · have hxc : (c == x) = false := by
      apply beq_false_of_ne
      rintro rfl
      omega
    -- neither the character itself nor a preimage of its image is the letter
    have hsources : (foldRuns.filterMap
        (fun r => (r.source? (foldCase x).toNat).map Char.ofNat)).any
          (CharSet.single c).contains = false := by
      rw [List.any_eq_false]
      intro d hd
      obtain ⟨r, hr, hmap⟩ := List.mem_filterMap.mp hd
      obtain ⟨m, hm, rfl⟩ := Option.map_eq_some_iff.mp hmap
      have hm' := source?_ne_small hr hm
      have hne : c ≠ Char.ofNat m := by
        intro hcm
        have := eq_toNat_of_ofNat hcm.symm (by omega)
        omega
      simpa [CharSet.contains] using hne
    rw [orbit, if_neg hx, List.any_cons, List.any_cons, hsources, Bool.or_false, CharSet.contains,
      CharSet.contains, hxc, Bool.false_or]

/-- The runs that lead to small letters of ASCII have word characters only. -/
theorem foldRuns_words : foldRuns.all (fun r => 0x7a < r.image
    || (List.range' r.first (r.last + 1 - r.first)).all isWordPoint) = true := by
  decide +kernel

/-- What folds to a small letter is a word character: the letter, its capital, the long s or the
Kelvin sign. -/
theorem isWordChar_of_sameFold {c x : Char} (hc : isSmall c = true) (h : sameFold c x = true) :
    isWordChar x = true := by
  have hbounds : 0x61 ≤ c.toNat ∧ c.toNat ≤ 0x7a := by
    rw [isSmall, Bool.and_eq_true, decide_eq_true_eq, decide_eq_true_eq] at hc
    exact hc
  have hfold : foldCase x = c := by
    rw [sameFold, foldCase_of_ascii (by omega), toLower_of_isSmall hc] at h
    exact (beq_iff_eq.mp h).symm
  unfold foldCase at hfold
  split at hfold
  next m hm =>
    -- the character folds by a run, and the run leads to small letters
    obtain ⟨r, hr, hrun⟩ := List.exists_of_findSome?_eq_some hm
    have hmc := eq_toNat_of_ofNat hfold (by omega)
    have hpoints := List.all_eq_true.mp foldRuns_words r hr
    unfold FoldRun.fold? at hrun
    split at hrun
    next hin =>
      simp only [Bool.and_eq_true, decide_eq_true_eq] at hin
      injection hrun with hrun
      have himage : ¬ 0x7a < r.image := by omega
      rw [decide_eq_false himage, Bool.false_or, List.all_eq_true] at hpoints
      rw [isWordChar_eq_isWordPoint]
      apply hpoints
      rw [List.mem_range'_1]
      omega
    next => exact absurd hrun (by simp)
  next =>
    -- the character folds to itself, so it is the letter
    have hall := of_ascii (P := fun c => !isSmall c || isWordChar c) (by decide +kernel)
      (c := c) (by omega)
    rw [hfold]
    simpa [hc] using hall

/-! ## §3. Texts. -/

/-- A small letter, or a sign of ASCII. -/
def IsPlain (c : Char) : Prop := isSmall c = true ∨ (0 < c.toNat ∧ c.toNat < 0x41)

instance (c : Char) : Decidable (IsPlain c) :=
  inferInstanceAs (Decidable (isSmall c = true ∨ (0 < c.toNat ∧ c.toNat < 0x41)))

namespace Text

/-- Whether a text begins with another, compared up to case. -/
def beginsFold : (u t : Text) → Bool
  | [], _ => true
  | _ :: _, [] => false
  | c :: u, x :: t => sameFold c x && beginsFold u t

/-- A text begins with another up to case if its folded text begins with the other's. -/
theorem beginsFold_iff {u t : Text} :
    beginsFold u t = true ↔ u.map foldCase <+: t.map foldCase := by
  induction u generalizing t with
  | nil => simp [beginsFold]
  | cons c u ih =>
    cases t with
    | nil => simp [beginsFold]
    | cons x t =>
      rw [beginsFold, Bool.and_eq_true, sameFold, beq_iff_eq, ih, List.map_cons, List.map_cons,
        List.cons_prefix_cons]

theorem length_le_of_beginsFold {u t : Text} (h : beginsFold u t = true) : u.length ≤ t.length := by
  simpa using (beginsFold_iff.mp h).length_le

/-- What follows a text that is as long does not count. -/
theorem beginsFold_append_of_length_le {u v : Text} (h : u.length ≤ v.length) (w : Text) :
    beginsFold u (v ++ w) = beginsFold u v := by
  rw [Bool.eq_iff_iff, beginsFold_iff, beginsFold_iff, List.map_append]
  constructor
  · intro hpre
    exact List.prefix_of_prefix_length_le hpre (List.prefix_append _ _) (by simpa using h)
  · intro hpre
    exact hpre.trans (List.prefix_append _ _)

/-- The beginning, and the character of it that stands for the last one. -/
theorem beginsFold_snoc {u t : Text} {c : Char} (h : beginsFold (u ++ [c]) t = true) :
    ∃ v x w, t = (v ++ [x]) ++ w ∧ v.length = u.length ∧ sameFold c x = true := by
  induction u generalizing t with
  | nil =>
    cases t with
    | nil => exact absurd h (by simp [beginsFold])
    | cons x w =>
      have hx : sameFold c x = true := by simpa [beginsFold] using h
      exact ⟨[], x, w, rfl, rfl, hx⟩
  | cons d u ih =>
    cases t with
    | nil => exact absurd h (by simp [beginsFold])
    | cons y t =>
      rw [List.cons_append, beginsFold, Bool.and_eq_true] at h
      obtain ⟨v, x, w, rfl, hlen, hx⟩ := ih h.2
      exact ⟨y :: v, x, w, rfl, by rw [List.length_cons, List.length_cons, hlen], hx⟩

end Text

namespace Pattern

/-- The set for a plain character of a pattern that ignores case. -/
theorem contains_charAnyCase {c : Char} (hc : IsPlain c) (x : Char) :
    (if c.isAlpha then CharSet.anyCase (.single c) else CharSet.single c).contains x
      = sameFold c x := by
  rcases hc with hc | ⟨hpos, hlt⟩
  · have hlt : c.toNat < 0x80 := by
      rw [isSmall, Bool.and_eq_true, decide_eq_true_eq, decide_eq_true_eq] at hc
      omega
    have hall := of_ascii (P := fun c => !isSmall c || c.isAlpha) (by decide +kernel) hlt
    have halpha : c.isAlpha = true := by simpa [hc] using hall
    rw [if_pos halpha, contains_anyCase_small hc]
  · have hall := of_ascii (P := fun c => !(c.toNat < 0x41) || !c.isAlpha) (by decide +kernel)
      (c := c) (by omega)
    have halpha : ¬ c.isAlpha = true := by simpa [hlt] using hall
    rw [if_neg halpha, sameFold_of_sign hlt (by omega), CharSet.contains]

/-- **A literal that ignores case is passed if the rest begins with it up to case.** -/
theorem run_charsAnyCase {c : Cursor} {g : Groups} {k : Next} {u : Text}
    (hu : ∀ x ∈ u, IsPlain x) (ns : List Node) :
    (Node.ofList (Node.charsAnyCase u ++ ns)).run c g k
      = if Text.beginsFold u c.rest = true then
          (Node.ofList ns).run ⟨lastOr c.prev (c.rest.take u.length), c.rest.drop u.length⟩ g k
        else none := by
  induction u generalizing c with
  | nil => exact (if_pos rfl).symm
  | cons x u ih =>
    obtain ⟨prev, rest⟩ := c
    have hx := contains_charAnyCase (hu x List.mem_cons_self)
    have htail : ∀ y ∈ u, IsPlain y := fun y hy => hu y (List.mem_cons_of_mem x hy)
    rw [Node.charsAnyCase, List.map_cons, List.cons_append, run_ofList_cons]
    cases rest with
    | nil => rw [run_char_nil, if_neg (by simp [Text.beginsFold])]
    | cons y rest =>
      rw [run_char_cons, hx y]
      by_cases hxy : sameFold x y = true
      · rw [if_pos hxy]
        refine (ih (c := ⟨some y, rest⟩) htail).trans ?_
        simp only [Text.beginsFold, hxy, Bool.true_and, List.length_cons, List.take_succ_cons,
          lastOr_cons, List.drop_succ_cons]
      · rw [if_neg hxy, if_neg]
        rw [Text.beginsFold, Bool.and_eq_true]
        exact fun h => hxy h.1

end Pattern

end ScriptWeave
