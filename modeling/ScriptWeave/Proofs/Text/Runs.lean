/-
  ScriptWeave.Proofs.Text.Runs
  ────────────────────────────
  **RUNS OF CHARACTERS.**

  Given a class of characters, a text falls into runs, which are the longest
  stretches of characters of the class, and the characters between them.
  `mapRuns` replaces every run as a whole and leaves the rest alone.

      mapRuns p f (r ++ u) = f r ++ mapRuns p f u      r a run, u outside it
      mapRuns p g (mapRuns p f t) = mapRuns p (g ∘ f) t
                                 if f makes runs out of runs

  Every pass over a script turns out to be a `mapRuns`, and the second law
  composes them.
-/
import ScriptWeave.Text.Basic

namespace ScriptWeave.Text

/-! ## §1. Runs. -/

/-- The runs of a text, from left to right. -/
def runs (p : Char → Bool) : Text → List Text
  | [] => []
  | c :: t =>
    if p c then (c :: t.takeWhile p) :: runs p (t.dropWhile p) else runs p t
termination_by t => t.length
decreasing_by
  · have := (List.dropWhile_sublist p (l := t)).length_le
    simp only [List.length_cons]
    omega
  · simp

/-- The text with every run replaced as a whole. -/
def mapRuns (p : Char → Bool) (f : Text → Text) : Text → Text
  | [] => []
  | c :: t =>
    if p c then f (c :: t.takeWhile p) ++ mapRuns p f (t.dropWhile p)
    else c :: mapRuns p f t
termination_by t => t.length
decreasing_by
  · have := (List.dropWhile_sublist p (l := t)).length_le
    simp only [List.length_cons]
    omega
  · simp

/-- A text that no run before it extends into. -/
def StartsOutside (p : Char → Bool) (u : Text) : Prop := ∀ c ∈ u.head?, p c = false

/-- A text that is one run. -/
def IsRun (p : Char → Bool) (r : Text) : Prop := r ≠ [] ∧ ∀ c ∈ r, p c = true

instance (p : Char → Bool) (r : Text) : Decidable (IsRun p r) :=
  decidable_of_iff (r ≠ [] ∧ r.all p = true) (by rw [IsRun, List.all_eq_true])

variable {p q : Char → Bool} {f g : Text → Text}

theorem startsOutside_nil : StartsOutside p [] := by simp [StartsOutside]

theorem startsOutside_cons {c : Char} {t : Text} :
    StartsOutside p (c :: t) ↔ p c = false := by simp [StartsOutside]

theorem startsOutside_dropWhile (t : Text) : StartsOutside p (t.dropWhile p) := by
  intro c hc
  have := List.head?_dropWhile_not p t
  rw [Option.mem_def.mp hc] at this
  simpa using this

theorem startsOutside_append {u : Text} (hu : u ≠ []) {v : Text} :
    StartsOutside p (u ++ v) ↔ StartsOutside p u := by
  obtain ⟨c, u, rfl⟩ := List.exists_cons_of_ne_nil hu
  rw [List.cons_append, startsOutside_cons, startsOutside_cons]

/-- What is taken from a run in front of a text outside it is the run. -/
theorem takeWhile_run_append {r u : Text} (hr : ∀ c ∈ r, p c = true) (hu : StartsOutside p u) :
    (r ++ u).takeWhile p = r := by
  rw [List.takeWhile_append_of_pos hr]
  cases u with
  | nil => simp
  | cons c u => rw [List.takeWhile_cons_of_neg (by simp [startsOutside_cons.mp hu]), List.append_nil]

/-- What is left behind a run in front of a text outside it is that text. -/
theorem dropWhile_run_append {r u : Text} (hr : ∀ c ∈ r, p c = true) (hu : StartsOutside p u) :
    (r ++ u).dropWhile p = u := by
  rw [List.dropWhile_append_of_pos hr]
  cases u with
  | nil => rfl
  | cons c u => rw [List.dropWhile_cons_of_neg (by simp [startsOutside_cons.mp hu])]

/-! ## §2. A text run by run. -/

@[simp] theorem runs_nil : runs p [] = [] := by simp [runs]

@[simp] theorem mapRuns_nil : mapRuns p f [] = [] := by simp [mapRuns]

theorem runs_cons_of_outside {c : Char} {t : Text} (h : p c = false) :
    runs p (c :: t) = runs p t := by
  rw [runs, if_neg (by simp [h])]

theorem mapRuns_cons_of_outside {c : Char} {t : Text} (h : p c = false) :
    mapRuns p f (c :: t) = c :: mapRuns p f t := by
  rw [mapRuns, if_neg (by simp [h])]

theorem runs_append {r u : Text} (hr : IsRun p r) (hu : StartsOutside p u) :
    runs p (r ++ u) = r :: runs p u := by
  obtain ⟨hne, hall⟩ := hr
  cases r with
  | nil => exact absurd rfl hne
  | cons c r =>
    have htail : ∀ d ∈ r, p d = true := fun d hd => hall d (List.mem_cons_of_mem c hd)
    rw [List.cons_append, runs, if_pos (hall c List.mem_cons_self), takeWhile_run_append htail hu,
      dropWhile_run_append htail hu]

theorem mapRuns_append {r u : Text} (hr : IsRun p r) (hu : StartsOutside p u) :
    mapRuns p f (r ++ u) = f r ++ mapRuns p f u := by
  obtain ⟨hne, hall⟩ := hr
  cases r with
  | nil => exact absurd rfl hne
  | cons c r =>
    have htail : ∀ d ∈ r, p d = true := fun d hd => hall d (List.mem_cons_of_mem c hd)
    rw [List.cons_append, mapRuns, if_pos (hall c List.mem_cons_self), takeWhile_run_append htail hu,
      dropWhile_run_append htail hu]

/-- Induction over a text, run by run: either it is empty, or it begins with a character
outside the class, or with a run behind which the text goes on outside it. -/
theorem run_induction (p : Char → Bool) {motive : Text → Prop} (nil : motive [])
    (outside : ∀ c t, p c = false → motive t → motive (c :: t))
    (run : ∀ r u, IsRun p r → StartsOutside p u → motive u → motive (r ++ u)) (t : Text) :
    motive t := by
  -- the cases of `runs` are those of the principle, with the run as what is taken off
  fun_induction runs p t with
  | case1 => exact nil
  | case2 c t hc ih =>
    have hrun : IsRun p (c :: t.takeWhile p) := by
      refine ⟨List.cons_ne_nil _ _, ?_⟩
      intro d hd
      rcases List.mem_cons.mp hd with rfl | hd
      · exact hc
      · exact List.all_eq_true.mp List.all_takeWhile d hd
    have := run _ _ hrun (startsOutside_dropWhile t) ih
    rwa [List.cons_append, List.takeWhile_append_dropWhile] at this
  | case3 c t hc ih => exact outside c t (by simpa using hc) ih

theorem isRun_of_mem_runs {r t : Text} (h : r ∈ runs p t) : IsRun p r := by
  induction t using run_induction p with
  | nil => simp at h
  | outside c t hc ih =>
    rw [runs_cons_of_outside hc] at h
    exact ih h
  | run s u hs hu ih =>
    rw [runs_append hs hu, List.mem_cons] at h
    rcases h with rfl | h
    · exact hs
    · exact ih h

/-- A run of a text has only characters of the text. -/
theorem mem_of_mem_runs {r t : Text} {c : Char} (h : r ∈ runs p t) (hc : c ∈ r) : c ∈ t := by
  induction t using run_induction p with
  | nil => simp at h
  | outside d t hd ih =>
    rw [runs_cons_of_outside hd] at h
    exact List.mem_cons_of_mem d (ih h)
  | run s u hs hu ih =>
    rw [runs_append hs hu, List.mem_cons] at h
    rcases h with rfl | h
    · exact List.mem_append_left u hc
    · exact List.mem_append_right s (ih h)

/-! ## §3. Laws of replacing runs. -/

/-- A character of a text with its runs replaced was there, or was put in for a run. -/
theorem mem_mapRuns {t : Text} {c : Char} (h : c ∈ mapRuns p f t) :
    c ∈ t ∨ ∃ r ∈ runs p t, c ∈ f r := by
  induction t using run_induction p with
  | nil => simp at h
  | outside d t hd ih =>
    rw [mapRuns_cons_of_outside hd, List.mem_cons] at h
    rw [runs_cons_of_outside hd, List.mem_cons]
    rcases h with rfl | h
    · exact Or.inl (Or.inl rfl)
    · exact (ih h).imp Or.inr id
  | run r u hr hu ih =>
    rw [mapRuns_append hr hu, List.mem_append] at h
    rw [runs_append hr hu]
    rcases h with h | h
    · exact Or.inr ⟨r, List.mem_cons_self, h⟩
    · rcases ih h with hin | ⟨s, hs, hin⟩
      · exact Or.inl (List.mem_append_right r hin)
      · exact Or.inr ⟨s, List.mem_cons_of_mem r hs, hin⟩

/-- If no run becomes longer or shorter, neither does the text. -/
theorem length_mapRuns {t : Text} (h : ∀ r ∈ runs p t, (f r).length = r.length) :
    (mapRuns p f t).length = t.length := by
  induction t using run_induction p with
  | nil => simp
  | outside c t hc ih =>
    rw [runs_cons_of_outside hc] at h
    rw [mapRuns_cons_of_outside hc, List.length_cons, List.length_cons, ih h]
  | run r u hr hu ih =>
    rw [runs_append hr hu] at h
    rw [mapRuns_append hr hu, List.length_append, List.length_append, h r List.mem_cons_self,
      ih (fun s hs => h s (List.mem_cons_of_mem r hs))]

/-- A text that ends outside the class is replaced apart from what follows it. -/
theorem mapRuns_append_of_endsOutside {u : Text} (hu : StartsOutside p u.reverse) (v : Text) :
    mapRuns p f (u ++ v) = mapRuns p f u ++ mapRuns p f v := by
  induction u using run_induction p with
  | nil => rw [mapRuns_nil, List.nil_append, List.nil_append]
  | outside c u hc ih =>
    have hend : StartsOutside p u.reverse := by
      cases u with
      | nil => exact startsOutside_nil
      | cons d u =>
        rw [List.reverse_cons] at hu
        exact (startsOutside_append (by simp)).mp hu
    rw [List.cons_append, mapRuns_cons_of_outside hc, mapRuns_cons_of_outside hc, ih hend,
      List.cons_append]
  | run r w hr hw ih =>
    rw [List.reverse_append] at hu
    cases w with
    | nil =>
      -- a run does not end outside the class
      obtain ⟨c, s, hs⟩ := List.exists_cons_of_ne_nil (mt List.reverse_eq_nil_iff.mp hr.1)
      have hin : p c = true := hr.2 c (List.mem_reverse.mp (by rw [hs]; exact List.mem_cons_self))
      rw [List.reverse_nil, List.nil_append, hs, startsOutside_cons, hin] at hu
      exact absurd hu (by decide)
    | cons d w =>
      have hend : StartsOutside p (d :: w).reverse := (startsOutside_append (by simp)).mp hu
      have hgap : StartsOutside p ((d :: w) ++ v) :=
        (startsOutside_append (List.cons_ne_nil d w)).mpr hw
      rw [List.append_assoc, mapRuns_append hr hgap, mapRuns_append hr hw, ih hend,
        List.append_assoc]

/-- Only what becomes of the runs of the text matters. -/
theorem mapRuns_congr {t : Text} (h : ∀ r ∈ runs p t, f r = g r) :
    mapRuns p f t = mapRuns p g t := by
  induction t using run_induction p with
  | nil => simp
  | outside c t hc ih =>
    rw [runs_cons_of_outside hc] at h
    rw [mapRuns_cons_of_outside hc, mapRuns_cons_of_outside hc, ih h]
  | run r u hr hu ih =>
    rw [runs_append hr hu] at h
    rw [mapRuns_append hr hu, mapRuns_append hr hu, h r List.mem_cons_self,
      ih (fun s hs => h s (List.mem_cons_of_mem r hs))]

/-- Classes that agree on the characters of a text give the same runs. -/
theorem mapRuns_congr_class {t : Text} (h : ∀ c ∈ t, p c = q c) :
    mapRuns p f t = mapRuns q f t := by
  induction t using run_induction p with
  | nil => simp
  | outside c t hc ih =>
    have hq : q c = false := by rw [← h c List.mem_cons_self, hc]
    rw [mapRuns_cons_of_outside hc, mapRuns_cons_of_outside hq,
      ih (fun d hd => h d (List.mem_cons_of_mem c hd))]
  | run r u hr hu ih =>
    -- the run is one of the other class, too, and ends where it ended
    have hr' : IsRun q r :=
      ⟨hr.1, fun c hc => by rw [← h c (List.mem_append_left u hc)]; exact hr.2 c hc⟩
    have hu' : StartsOutside q u := by
      intro c hc
      rw [← h c (List.mem_append_right r (List.mem_of_mem_head? hc))]
      exact hu c hc
    rw [mapRuns_append hr hu, mapRuns_append hr' hu',
      ih (fun c hc => h c (List.mem_append_right r hc))]

theorem startsOutside_mapRuns {u : Text} (hu : StartsOutside p u) :
    StartsOutside p (mapRuns p f u) := by
  cases u with
  | nil => simpa using hu
  | cons c u =>
    have hc := startsOutside_cons.mp hu
    rw [mapRuns_cons_of_outside hc]
    exact startsOutside_cons.mpr hc

/-- If runs become runs, the runs of the result are those that were made. -/
theorem runs_mapRuns {t : Text} (h : ∀ r ∈ runs p t, IsRun p (f r)) :
    runs p (mapRuns p f t) = (runs p t).map f := by
  induction t using run_induction p with
  | nil => simp
  | outside c t hc ih =>
    rw [runs_cons_of_outside hc] at h
    rw [mapRuns_cons_of_outside hc, runs_cons_of_outside hc, runs_cons_of_outside hc, ih h]
  | run r u hr hu ih =>
    rw [runs_append hr hu] at h
    rw [mapRuns_append hr hu, runs_append (h r List.mem_cons_self) (startsOutside_mapRuns hu),
      runs_append hr hu, List.map_cons, ih (fun s hs => h s (List.mem_cons_of_mem r hs))]

/-- If runs become runs, replacing twice is replacing once. -/
theorem mapRuns_mapRuns {t : Text} (h : ∀ r ∈ runs p t, IsRun p (f r)) :
    mapRuns p g (mapRuns p f t) = mapRuns p (fun r => g (f r)) t := by
  induction t using run_induction p with
  | nil => simp
  | outside c t hc ih =>
    rw [runs_cons_of_outside hc] at h
    rw [mapRuns_cons_of_outside hc, mapRuns_cons_of_outside hc, mapRuns_cons_of_outside hc, ih h]
  | run r u hr hu ih =>
    rw [runs_append hr hu] at h
    rw [mapRuns_append hr hu, mapRuns_append (h r List.mem_cons_self) (startsOutside_mapRuns hu),
      mapRuns_append hr hu, ih (fun s hs => h s (List.mem_cons_of_mem r hs))]

/-- A replacement of characters that keeps those outside the class acts run by run. -/
theorem flatMap_eq_mapRuns {sub : Char → Text} (h : ∀ c, p c = false → sub c = [c]) (t : Text) :
    t.flatMap sub = mapRuns p (fun r => r.flatMap sub) t := by
  induction t using run_induction p with
  | nil => simp
  | outside c t hc ih => rw [List.flatMap_cons, h c hc, mapRuns_cons_of_outside hc, ih]; rfl
  | run r u hr hu ih => rw [List.flatMap_append, mapRuns_append hr hu, ih]

/-- A text whose runs all stay as they are stays as it is. -/
theorem mapRuns_eq_self {t : Text} (h : ∀ r ∈ runs p t, f r = r) : mapRuns p f t = t := by
  induction t using run_induction p with
  | nil => simp
  | outside c t hc ih =>
    rw [runs_cons_of_outside hc] at h
    rw [mapRuns_cons_of_outside hc, ih h]
  | run r u hr hu ih =>
    rw [runs_append hr hu] at h
    rw [mapRuns_append hr hu, h r List.mem_cons_self,
      ih (fun s hs => h s (List.mem_cons_of_mem r hs))]

end ScriptWeave.Text
