/-
  ScriptWeave.Proofs.Text.Replace
  ───────────────────────────────
  **REPLACING A NAME RUN BY RUN.**

  `replace` looks at a text as a row of characters and knows no words.  It
  acts on runs all the same: no occurrence reaches from one run into the next,
  since a name has only characters of the class.

      replace a b t = mapRuns p (replace a b) t

  Where every run either is the name or does not contain it, runs are
  replaced as a whole.
-/
import ScriptWeave.Proofs.Text.Runs

namespace ScriptWeave.Text

variable {p : Char → Bool} {a b : Text}

/-! ## §1. One step. -/

theorem replace_nil (ha : a ≠ []) : replace a b [] = [] := by
  rw [replace, if_neg ha, replaceFrom]

theorem replace_cons_of_not_start {c : Char} {t : Text} (h : ¬ a <+: c :: t) :
    replace a b (c :: t) = c :: replace a b t := by
  have ha : a ≠ [] := by
    rintro rfl
    exact h (List.nil_prefix)
  rw [replace, if_neg ha, replace, if_neg ha, replaceFrom,
    if_neg (by rwa [List.isPrefixOf_iff_prefix])]

theorem replace_prefix_append (ha : a ≠ []) (u : Text) :
    replace a b (a ++ u) = b ++ replace a b u := by
  cases a with
  | nil => exact absurd rfl ha
  | cons c a =>
    have hpre : (c :: a).isPrefixOf (c :: (a ++ u)) = true := by
      rw [List.isPrefixOf_iff_prefix]
      exact List.prefix_append (c :: a) u
    rw [replace, if_neg ha, replace, if_neg ha, List.cons_append, replaceFrom, if_pos hpre,
      replaceFrom_skip, List.length_cons, Nat.add_sub_cancel, List.drop_left]

/-- Induction over a text, occurrence by occurrence: either it is empty, or it begins with the
name, or with a character at which the name does not begin. -/
theorem occurrence_induction (ha : a ≠ []) {motive : Text → Prop} (nil : motive [])
    (occurrence : ∀ u, motive u → motive (a ++ u))
    (other : ∀ c t, ¬ a <+: c :: t → motive t → motive (c :: t)) (t : Text) : motive t := by
  obtain ⟨n, hn⟩ : ∃ n, t.length = n := ⟨_, rfl⟩
  induction n using Nat.strongRecOn generalizing t with
  | _ n ih =>
    cases t with
    | nil => exact nil
    | cons c t =>
      by_cases hstart : a <+: c :: t
      · -- what is left behind the name is shorter
        obtain ⟨u, hu⟩ := hstart
        have hshort : u.length < n := by
          have hlen := congrArg List.length hu
          have hpos := List.length_pos_iff.mpr ha
          rw [List.length_append] at hlen
          omega
        rw [← hu]
        exact occurrence u (ih u.length hshort u rfl)
      · have hshort : t.length < n := by
          rw [← hn, List.length_cons]
          omega
        exact other c t hstart (ih t.length hshort t rfl)

/-- Replacing one character is a replacement character by character. -/
theorem replace_singleton (c : Char) (b t : Text) :
    replace [c] b t = t.flatMap (fun d => if d = c then b else [d]) := by
  induction t with
  | nil => exact replace_nil (List.cons_ne_nil c [])
  | cons d t ih =>
    by_cases h : d = c
    · subst h
      have := replace_prefix_append (b := b) (List.cons_ne_nil d []) t
      rw [List.singleton_append] at this
      rw [this, ih, List.flatMap_cons, if_pos rfl]
    · have hpre : ¬ [c] <+: d :: t := by
        rw [List.cons_prefix_cons]
        exact fun h' => h h'.1.symm
      rw [replace_cons_of_not_start hpre, ih, List.flatMap_cons, if_neg h, List.singleton_append]

/-- A replacement that keeps every character of a text keeps the text. -/
theorem flatMap_eq_self {sub : Char → Text} {t : Text} (h : ∀ c ∈ t, sub c = [c]) :
    t.flatMap sub = t := by
  induction t with
  | nil => rfl
  | cons c t ih =>
    rw [List.flatMap_cons, h c List.mem_cons_self, ih (fun d hd => h d (List.mem_cons_of_mem c hd)),
      List.singleton_append]

/-! ## §2. Runs. -/

/-- An occurrence of a name in front of a run and what follows lies within the run. -/
theorem prefix_of_prefix_run_append {r u : Text} (ha : ∀ c ∈ a, p c = true)
    (hu : StartsOutside p u) (h : a <+: r ++ u) : a <+: r := by
  rcases List.prefix_or_prefix_of_prefix h (List.prefix_append r u) with h' | ⟨v, rfl⟩
  · exact h'
  · -- the part of the name behind the run would have to begin outside the class
    have hvu : v <+: u := (List.prefix_append_right_inj r).mp h
    cases v with
    | nil => simp
    | cons c v =>
      obtain ⟨w, rfl⟩ := hvu
      have hin : p c = true := ha c (by simp)
      have hout : p c = false := startsOutside_cons.mp hu
      rw [hin] at hout
      exact absurd hout (by decide)

/-- A run that does not contain the name is passed. -/
theorem replace_append_of_not_contained {r u : Text} (ha : ∀ c ∈ a, p c = true)
    (hu : StartsOutside p u) (h : ¬ a <:+: r) : replace a b (r ++ u) = r ++ replace a b u := by
  induction r with
  | nil => rfl
  | cons c r ih =>
    have hpre : ¬ a <+: c :: (r ++ u) := by
      intro h'
      exact h (prefix_of_prefix_run_append (r := c :: r) ha hu h').isInfix
    have hin : ¬ a <:+: r := fun h' => h (h'.trans (List.suffix_cons c r).isInfix)
    rw [List.cons_append, replace_cons_of_not_start hpre, ih hin, List.cons_append]

/-- What a name does not occur in stays as it is. -/
theorem replace_of_not_contained {t : Text} (h : ¬ a <:+: t) : replace a b t = t := by
  have ha : a ≠ [] := by
    rintro rfl
    exact h List.nil_infix
  have hpass := replace_append_of_not_contained (p := fun _ => true) (b := b) (fun _ _ => rfl)
    startsOutside_nil h
  rwa [replace_nil ha, List.append_nil] at hpass

theorem replace_self (ha : a ≠ []) : replace a b a = b := by
  have hstart := replace_prefix_append (b := b) ha []
  rwa [replace_nil ha, List.append_nil, List.append_nil] at hstart

/-- A text in front of what is outside the class is replaced apart from it: no occurrence of the
name reaches across. -/
theorem replace_append_of_outside {u : Text} (ha : IsRun p a) (hu : StartsOutside p u) (r : Text) :
    replace a b (r ++ u) = replace a b r ++ replace a b u := by
  induction r using occurrence_induction ha.1 with
  | nil => rw [replace_nil ha.1, List.nil_append, List.nil_append]
  | occurrence v ih =>
    rw [List.append_assoc, replace_prefix_append ha.1, replace_prefix_append ha.1, ih,
      List.append_assoc]
  | other c r hstart ih =>
    have hwhole : ¬ a <+: c :: (r ++ u) :=
      fun h => hstart (prefix_of_prefix_run_append (r := c :: r) ha.2 hu h)
    rw [List.cons_append, replace_cons_of_not_start hwhole, replace_cons_of_not_start hstart, ih,
      List.cons_append]

/-- **A name is replaced run by run**, wherever in a run it occurs. -/
theorem replace_eq_mapRuns_replace (ha : IsRun p a) (t : Text) :
    replace a b t = mapRuns p (replace a b) t := by
  induction t using run_induction p with
  | nil => rw [replace_nil ha.1, mapRuns_nil]
  | outside c t hc ih =>
    -- a name cannot begin at a character that is in no run
    have hpre : ¬ a <+: c :: t := by
      intro h'
      have := prefix_of_prefix_run_append (r := []) ha.2 (startsOutside_cons.mpr hc) h'
      exact ha.1 (List.prefix_nil.mp this)
    rw [replace_cons_of_not_start hpre, mapRuns_cons_of_outside hc, ih]
  | run r u hr hu ih => rw [mapRuns_append hr hu, replace_append_of_outside ha hu, ih]

/-- Where every run of the text is the name or does not contain it, runs are replaced as a
whole. -/
theorem replace_eq_mapRuns {t : Text} (ha : IsRun p a)
    (h : ∀ r ∈ runs p t, r = a ∨ ¬ a <:+: r) :
    replace a b t = mapRuns p (fun r => if r = a then b else r) t := by
  rw [replace_eq_mapRuns_replace ha]
  apply mapRuns_congr
  intro r hr
  by_cases hra : r = a
  · rw [if_pos hra, hra, replace_self ha.1]
  · rw [if_neg hra, replace_of_not_contained ((h r hr).resolve_left hra)]

theorem mem_replaceFrom {c : Char} {n : Nat} {t : Text} (h : c ∈ replaceFrom a b n t) :
    c ∈ t ∨ c ∈ b := by
  induction t generalizing n with
  | nil => exact absurd h List.not_mem_nil
  | cons d t ih =>
    have hlater : ∀ {n}, c ∈ replaceFrom a b n t → c ∈ d :: t ∨ c ∈ b :=
      fun h => (ih h).imp_left (List.mem_cons_of_mem d)
    cases n with
    | succ n => exact hlater h
    | zero =>
      rw [replaceFrom] at h
      split at h
      next =>
        rcases List.mem_append.mp h with h | h
        · exact Or.inr h
        · exact hlater h
      next =>
        rcases List.mem_cons.mp h with rfl | h
        · exact Or.inl List.mem_cons_self
        · exact hlater h

/-- A run in which a name is replaced by a run remains a run. -/
theorem isRun_replace {r : Text} (ha : a ≠ []) (hb : IsRun p b) (hr : IsRun p r) :
    IsRun p (replace a b r) := by
  constructor
  · obtain ⟨c, r, rfl⟩ := List.exists_cons_of_ne_nil hr.1
    by_cases hstart : a <+: c :: r
    · obtain ⟨v, hv⟩ := hstart
      rw [← hv, replace_prefix_append ha]
      exact fun h => hb.1 (List.append_eq_nil_iff.mp h).1
    · rw [replace_cons_of_not_start hstart]
      exact List.cons_ne_nil c _
  · intro c hc
    rw [replace, if_neg ha] at hc
    rcases mem_replaceFrom hc with hc | hc
    · exact hr.2 c hc
    · exact hb.2 c hc

end ScriptWeave.Text
