/-
  ScriptWeave.Proofs.Text.Search
  ──────────────────────────────
  **THE LEFTMOST POSITION.**

  A text is cut at the leftmost position at which what follows has a property.

      firstSplit p t = some (u, v)  →  t = u ++ v, v has the property,
                                       and no v' between t and v has it

  Further on in a text the leftmost position is further on, or there is none.
-/
import ScriptWeave.Text.Basic

namespace ScriptWeave.Text

/-! ## §1. The search. -/

/-- The parts before and behind the leftmost position at which what follows has a property. -/
def firstSplit (p : Text → Bool) : Text → Option (Text × Text)
  | [] => if p [] then some ([], []) else none
  | c :: t =>
    if p (c :: t) then some ([], c :: t)
    else (firstSplit p t).map (fun s => (c :: s.1, s.2))

variable {p : Text → Bool} {c : Char} {t u v : Text}

theorem firstSplit_of_holds (h : p t = true) : firstSplit p t = some ([], t) := by
  cases t with
  | nil => rw [firstSplit, if_pos h]
  | cons c t => rw [firstSplit, if_pos h]

theorem firstSplit_cons_of_not (h : ¬ p (c :: t) = true) :
    firstSplit p (c :: t) = (firstSplit p t).map (fun s => (c :: s.1, s.2)) := by
  rw [firstSplit, if_neg h]

/-! ## §2. What is found. -/

/-- The parts make up the text, and the second one has the property. -/
theorem firstSplit_eq_append (h : firstSplit p t = some (u, v)) : t = u ++ v ∧ p v = true := by
  induction t generalizing u v with
  | nil =>
    by_cases hp : p [] = true
    · rw [firstSplit_of_holds hp] at h
      obtain ⟨rfl, rfl⟩ : [] = u ∧ [] = v := by simpa using h
      exact ⟨rfl, hp⟩
    · rw [firstSplit, if_neg hp] at h
      exact absurd h (by simp)
  | cons c t ih =>
    by_cases hp : p (c :: t) = true
    · rw [firstSplit_of_holds hp] at h
      obtain ⟨rfl, rfl⟩ : [] = u ∧ c :: t = v := by simpa using h
      exact ⟨rfl, hp⟩
    · -- the character goes to the first part
      rw [firstSplit_cons_of_not hp] at h
      obtain ⟨⟨u', v'⟩, h', hs⟩ := Option.map_eq_some_iff.mp h
      obtain ⟨rfl, rfl⟩ : c :: u' = u ∧ v' = v := by simpa using hs
      obtain ⟨rfl, hv⟩ := ih h'
      exact ⟨rfl, hv⟩

/-- **Nothing is found if no end of the text has the property.** -/
theorem firstSplit_eq_none_iff : firstSplit p t = none ↔ ∀ v, v <:+ t → p v = false := by
  induction t with
  | nil =>
    by_cases hp : p [] = true
    · rw [firstSplit_of_holds hp]
      simp [hp]
    · rw [firstSplit, if_neg hp]
      simpa using hp
  | cons c t ih =>
    by_cases hp : p (c :: t) = true
    · rw [firstSplit_of_holds hp]
      constructor
      · intro h
        exact absurd h (by simp)
      · intro h
        rw [h (c :: t) (List.suffix_refl _)] at hp
        exact absurd hp (by decide)
    · rw [firstSplit_cons_of_not hp, Option.map_eq_none_iff, ih]
      constructor
      · intro h v hv
        rcases List.suffix_cons_iff.mp hv with rfl | hv
        · simpa using hp
        · exact h v hv
      · intro h v hv
        exact h v (hv.trans (List.suffix_cons c t))

/-- No position before the one that is found will do. -/
theorem not_holds_before (h : firstSplit p t = some (u, v)) {a b : Text} {x : Char}
    (hu : u = a ++ x :: b) : p (x :: b ++ v) = false := by
  induction t generalizing u a with
  | nil =>
    obtain ⟨hnil, -⟩ := firstSplit_eq_append h
    rw [hu] at hnil
    exact absurd hnil (by simp)
  | cons c t ih =>
    by_cases hp : p (c :: t) = true
    · rw [firstSplit_of_holds hp] at h
      obtain ⟨rfl, -⟩ : [] = u ∧ c :: t = v := by simpa using h
      exact absurd hu (by simp)
    · have hsplit := (firstSplit_eq_append h).1
      rw [firstSplit_cons_of_not hp] at h
      obtain ⟨⟨u', v'⟩, h', hs⟩ := Option.map_eq_some_iff.mp h
      obtain ⟨rfl, rfl⟩ : c :: u' = u ∧ v' = v := by simpa using hs
      -- either this is the position in question, or it lies further on
      cases a with
      | nil =>
        rw [List.nil_append] at hu
        rw [← hu, ← hsplit]
        simpa using hp
      | cons y a => exact ih h' (List.cons.inj hu).2

/-- A position is found at which the property holds, if it holds at none before it. -/
theorem firstSplit_append (hv : p v = true)
    (h : ∀ a x b, u = a ++ x :: b → p (x :: b ++ v) = false) :
    firstSplit p (u ++ v) = some (u, v) := by
  induction u with
  | nil => exact firstSplit_of_holds hv
  | cons c u ih =>
    have hc : ¬ p (c :: (u ++ v)) = true := Bool.eq_false_iff.mp (h [] c u rfl)
    have hrest := ih (fun a x b hab => h (c :: a) x b (congrArg (c :: ·) hab))
    rw [List.cons_append, firstSplit_cons_of_not hc, hrest, Option.map_some]

/-- A position at which the property holds is not before the one that is found. -/
theorem suffix_of_holds (h : firstSplit p t = some (u, v)) {s : Text} (hs : s <:+ t)
    (hp : p s = true) : s <:+ v := by
  obtain ⟨rfl, -⟩ := firstSplit_eq_append h
  -- of two ends of one text, one is an end of the other
  rcases List.suffix_or_suffix_of_suffix hs (List.suffix_append u v) with hin | ⟨b, rfl⟩
  · exact hin
  · obtain ⟨a, ha⟩ := hs
    have hu : u = a ++ b := by
      rw [← List.append_assoc] at ha
      exact (List.append_cancel_right ha).symm
    cases b with
    | nil => exact List.suffix_refl v
    | cons x b =>
      have hnot := not_holds_before h hu
      rw [List.cons_append] at hnot hp
      rw [hnot] at hp
      exact absurd hp (by decide)

/-- What is found further on is further on. -/
theorem firstSplit_mono (h : firstSplit p t = some (u, v)) {s u' v' : Text} (hs : s <:+ t)
    (h' : firstSplit p s = some (u', v')) : v' <:+ v := by
  obtain ⟨rfl, hv⟩ := firstSplit_eq_append h'
  exact suffix_of_holds h ((List.suffix_append u' v').trans hs) hv

theorem firstSplit_eq_none_of_suffix (h : firstSplit p t = none) {s : Text} (hs : s <:+ t) :
    firstSplit p s = none := by
  rw [firstSplit_eq_none_iff] at h ⊢
  exact fun v hv => h v (hv.trans hs)

/-- What is left of a text behind some characters ends with what is left of its ends. -/
theorem suffix_drop {s : Text} (hs : s <:+ t) (n : Nat) : s.drop n <:+ t.drop n := by
  refine List.suffix_of_suffix_length_le ((List.drop_suffix n s).trans hs) (List.drop_suffix n t) ?_
  have := hs.length_le
  rw [List.length_drop, List.length_drop]
  omega

/-! ## §3. Searching a character. -/

/-- Whether a text begins with a character. -/
def beginsWith (c : Char) (t : Text) : Bool := t.head? == some c

theorem beginsWith_eq_true_iff : beginsWith c t = true ↔ ∃ v, t = c :: v := by
  unfold beginsWith
  rw [beq_iff_eq]
  constructor
  · intro h
    obtain ⟨v, hv⟩ := List.head?_eq_some_iff.mp h
    exact ⟨v, hv⟩
  · rintro ⟨v, rfl⟩
    rfl

/-- The character is not in the text before the leftmost place where it stands. -/
theorem not_mem_of_firstSplit_beginsWith (h : firstSplit (beginsWith c) t = some (u, v)) :
    c ∉ u := by
  intro hin
  obtain ⟨a, b, hab⟩ := List.append_of_mem hin
  exact Bool.eq_false_iff.mp (not_holds_before h hab) (beginsWith_eq_true_iff.mpr ⟨b ++ v, rfl⟩)

/-- A character is found where the characters before it end. -/
theorem firstSplit_beginsWith (c : Char) (t : Text) :
    firstSplit (beginsWith c) t
      = if c ∈ t then some (t.takeWhile (· != c), t.dropWhile (· != c)) else none := by
  induction t with
  | nil => rfl
  | cons d t ih =>
    by_cases hd : d = c
    · subst hd
      rw [firstSplit_of_holds (beginsWith_eq_true_iff.mpr ⟨t, rfl⟩), if_pos List.mem_cons_self,
        List.takeWhile_cons_of_neg (by simp), List.dropWhile_cons_of_neg (by simp)]
    · have hnot : ¬ beginsWith c (d :: t) = true := by simpa [beginsWith] using hd
      have hne : (d != c) = true := by simpa using hd
      have htake : (d :: t).takeWhile (· != c) = d :: t.takeWhile (· != c) :=
        List.takeWhile_cons_of_pos hne
      have hdrop : (d :: t).dropWhile (· != c) = t.dropWhile (· != c) :=
        List.dropWhile_cons_of_pos hne
      rw [firstSplit_cons_of_not hnot, ih, htake, hdrop]
      by_cases hc : c ∈ t
      · rw [if_pos hc, if_pos (List.mem_cons_of_mem d hc), Option.map_some]
      · have hc' : c ∉ d :: t := by
          rw [List.mem_cons]
          rintro (h | h)
          · exact hd h.symm
          · exact hc h
        rw [if_neg hc, if_neg hc', Option.map_none]

end ScriptWeave.Text
