/-
  ScriptWeave.Proofs.Pattern.Walk
  ───────────────────────────────
  **WALKS WITHOUT CHOICE.**

  A walk hands its ways through, best first, to what follows.  A literal has
  one way through or none.  A loop over characters has many, but where what
  follows cannot begin inside the loop only the longest counts.

      run (chars u) c g k = if u starts the rest then k (behind u) g else none
      most s k prev t     = k (behind the characters of s)
                            if k fails in front of a character of s

  With these equations the walk through a whole pattern is computed from left
  to right.
-/
import ScriptWeave.Pattern.Match
import ScriptWeave.Proofs.Text.Runs
import ScriptWeave.Proofs.Text.Search

namespace ScriptWeave.Pattern

open Text (IsRun StartsOutside)

variable {s : CharSet} {c : Cursor} {g : Groups} {k : Next}

/-! ## §1. The character before a position. -/

/-- The character before the position behind a text, if `prev` is the one in front of it. -/
def lastOr : (prev : Option Char) → Text → Option Char
  | prev, [] => prev
  | _, x :: u => lastOr (some x) u

@[simp] theorem lastOr_nil (prev : Option Char) : lastOr prev [] = prev := rfl

@[simp] theorem lastOr_cons (prev : Option Char) (x : Char) (u : Text) :
    lastOr prev (x :: u) = lastOr (some x) u := rfl

theorem lastOr_append (prev : Option Char) (u v : Text) :
    lastOr prev (u ++ v) = lastOr (lastOr prev u) v := by
  induction u generalizing prev with
  | nil => rfl
  | cons x u ih => rw [List.cons_append, lastOr_cons, lastOr_cons, ih]

/-- Behind a text that is not empty stands a character of it. -/
theorem lastOr_mem {u : Text} (h : u ≠ []) (prev : Option Char) :
    ∃ x ∈ u, lastOr prev u = some x := by
  induction u generalizing prev with
  | nil => exact absurd rfl h
  | cons x u ih =>
    cases u with
    | nil => exact ⟨x, List.mem_cons_self, rfl⟩
    | cons y u =>
      obtain ⟨z, hz, hl⟩ := ih (List.cons_ne_nil y u) (some x)
      exact ⟨z, List.mem_cons_of_mem x hz, hl⟩

theorem Span.text_append (u v : Text) : Span.text ⟨u ++ v, v⟩ = u := by
  simp [Span.text, Span.length]

/-! ## §2. The parts of a tree. -/

theorem run_char_nil {prev : Option Char} : (Node.char s).run ⟨prev, []⟩ g k = none := rfl

theorem run_char_cons {prev : Option Char} {x : Char} {t : Text} :
    (Node.char s).run ⟨prev, x :: t⟩ g k = if s.contains x then k ⟨some x, t⟩ g else none := rfl

theorem run_anchor {a : Anchor} :
    (Node.anchor a).run c g k = if a.holds c.prev c.rest.head? then k c g else none := rfl

theorem run_alt {a b : Node} : (Node.alt a b).run c g k = (a.run c g k).or (b.run c g k) := rfl

theorem run_cat {a b : Node} :
    (Node.cat a b).run c g k = a.run c g (fun c' g' => b.run c' g' k) := rfl

theorem run_group {i : Nat} {body : Node} :
    (Node.group i body).run c g k
      = body.run c g (fun c' g' => k c' ((i, ⟨c.rest, c'.rest⟩) :: g')) := rfl

theorem run_many :
    (Node.many s).run c g k = most s (fun c' => k c' g) c.prev c.rest := rfl

theorem run_many1 :
    (Node.many1 s).run c g k
      = (Node.char s).run c g (fun c' g' => most s (fun c'' => k c'' g') c'.prev c'.rest) := rfl

theorem run_few :
    (Node.few s).run c g k = fewest s (fun c' => k c' g) c.prev c.rest := rfl

@[simp] theorem run_ofList_nil : (Node.ofList []).run c g k = k c g := rfl

theorem run_ofList_cons (n : Node) (ns : List Node) :
    (Node.ofList (n :: ns)).run c g k = n.run c g (fun c' g' => (Node.ofList ns).run c' g' k) := by
  cases ns with
  | nil => rfl
  | cons m ns => rfl

theorem run_ofList_append (ms ns : List Node) :
    (Node.ofList (ms ++ ns)).run c g k
      = (Node.ofList ms).run c g (fun c' g' => (Node.ofList ns).run c' g' k) := by
  induction ms generalizing c g with
  | nil => rfl
  | cons m ms ih =>
    rw [List.cons_append, run_ofList_cons, run_ofList_cons]
    congr 1
    funext c' g'
    exact ih

/-! ## §3. Literals. -/

/-- A literal is passed if it starts the rest. -/
theorem run_chars (u : Text) :
    (Node.ofList (Node.chars u)).run c g k
      = if u <+: c.rest then k ⟨lastOr c.prev u, c.rest.drop u.length⟩ g else none := by
  induction u generalizing c with
  | nil => rw [if_pos List.nil_prefix]; rfl
  | cons x u ih =>
    obtain ⟨prev, rest⟩ := c
    rw [Node.chars, List.map_cons, run_ofList_cons]
    cases rest with
    | nil => rw [if_neg (by simp), run_char_nil]
    | cons y rest =>
      rw [run_char_cons]
      by_cases h : x = y
      · subst h
        rw [if_pos (by simp [CharSet.contains])]
        refine (ih (c := ⟨some x, rest⟩)).trans ?_
        simp only [List.cons_prefix_cons, true_and, lastOr_cons, List.length_cons,
          List.drop_succ_cons]
      · rw [if_neg (by simpa [CharSet.contains] using h),
          if_neg (fun h' => h (List.cons_prefix_cons.mp h').1)]

/-- A literal in front of other parts. -/
theorem run_chars_append (u : Text) (ns : List Node) :
    (Node.ofList (Node.chars u ++ ns)).run c g k
      = if u <+: c.rest then
          (Node.ofList ns).run ⟨lastOr c.prev u, c.rest.drop u.length⟩ g k
        else none := by
  rw [run_ofList_append, run_chars]

/-! ## §4. Loops over characters. -/

/-- **A greedy loop goes as far as it can**, if what follows fails in front of every character
that the loop accepts. -/
theorem most_eq {k : Cursor → Outcome}
    (hk : ∀ prev x t, s.contains x = true → k ⟨prev, x :: t⟩ = none)
    (prev : Option Char) (t : Text) :
    most s k prev t
      = k ⟨lastOr prev (t.takeWhile s.contains), t.dropWhile s.contains⟩ := by
  induction t generalizing prev with
  | nil => rfl
  | cons x t ih =>
    -- what follows fails here, so the way through this position is never taken
    by_cases hx : s.contains x = true
    · rw [most, if_pos hx, ih, hk prev x t hx, Option.or_none, List.takeWhile_cons_of_pos hx,
        List.dropWhile_cons_of_pos hx, lastOr_cons]
    · rw [most, if_neg hx, List.takeWhile_cons_of_neg hx, List.dropWhile_cons_of_neg hx,
        lastOr_nil]

/-- A greedy loop need not come back if what follows succeeds at its far end. -/
theorem most_eq_some {k : Cursor → Outcome} {prev : Option Char} {t : Text}
    {r : Cursor × Groups}
    (h : k ⟨lastOr prev (t.takeWhile s.contains), t.dropWhile s.contains⟩ = some r) :
    most s k prev t = some r := by
  induction t generalizing prev with
  | nil => exact h
  | cons x t ih =>
    by_cases hx : s.contains x = true
    · rw [List.takeWhile_cons_of_pos hx, List.dropWhile_cons_of_pos hx, lastOr_cons] at h
      rw [most, if_pos hx, ih h, Option.some_or]
    · rw [List.takeWhile_cons_of_neg hx, List.dropWhile_cons_of_neg hx, lastOr_nil] at h
      rw [most, if_neg hx, h]

/-- A numbered run is passed as a whole if what follows succeeds behind it. -/
theorem run_group_many1_eq_some {i : Nat} {prev : Option Char} {u t : Text}
    {r : Cursor × Groups} (hu : IsRun s.contains u) (ht : StartsOutside s.contains t)
    (hk : k ⟨lastOr prev u, t⟩ ((i, ⟨u ++ t, t⟩) :: g) = some r) :
    (Node.group i (.many1 s)).run ⟨prev, u ++ t⟩ g k = some r := by
  obtain ⟨x, u, rfl⟩ := List.exists_cons_of_ne_nil hu.1
  have htail : ∀ c ∈ u, s.contains c = true := fun c hc => hu.2 c (List.mem_cons_of_mem x hc)
  rw [run_group, run_many1, List.cons_append, run_char_cons, if_pos (hu.2 x List.mem_cons_self)]
  apply most_eq_some
  rw [Text.takeWhile_run_append htail ht, Text.dropWhile_run_append htail ht]
  exact hk

/-- A greedy loop in front of a character that it does not accept. -/
theorem most_append {k : Cursor → Outcome} {w : Text} {x : Char} (hw : ∀ c ∈ w, s.contains c = true)
    (hx : s.contains x = false)
    (hk : ∀ prev y t, y ≠ x → k ⟨prev, y :: t⟩ = none) (prev : Option Char) (t : Text) :
    most s k prev (w ++ x :: t) = k ⟨lastOr prev w, x :: t⟩ := by
  have hstop : StartsOutside s.contains (x :: t) := Text.startsOutside_cons.mpr hx
  have hfail : ∀ prev y t, s.contains y = true → k ⟨prev, y :: t⟩ = none := by
    intro prev y t hy
    apply hk
    rintro rfl
    rw [hx] at hy
    exact absurd hy (by decide)
  rw [most_eq hfail, Text.takeWhile_run_append hw hstop, Text.dropWhile_run_append hw hstop]

theorem run_single_of_ne {prev : Option Char} {x y : Char} {t : Text} (h : y ≠ x) (ns : List Node) :
    (Node.ofList (.char (.single x) :: ns)).run ⟨prev, y :: t⟩ g k = none := by
  rw [run_ofList_cons, run_char_cons, if_neg (by simpa [CharSet.contains] using h.symm)]

theorem run_single (prev : Option Char) (x : Char) (t : Text) (ns : List Node) :
    (Node.ofList (.char (.single x) :: ns)).run ⟨prev, x :: t⟩ g k
      = (Node.ofList ns).run ⟨some x, t⟩ g k := by
  rw [run_ofList_cons, run_char_cons, if_pos (by simp [CharSet.contains])]

/-- What gets past a character begins with it. -/
theorem run_single_eq_some {prev : Option Char} {x : Char} {t : Text} {ns : List Node}
    {r : Cursor × Groups}
    (h : (Node.ofList (.char (.single x) :: ns)).run ⟨prev, t⟩ g k = some r) :
    ∃ v, t = x :: v ∧ (Node.ofList ns).run ⟨some x, v⟩ g k = some r := by
  cases t with
  | nil =>
    rw [run_ofList_cons, run_char_nil] at h
    exact absurd h (by simp)
  | cons y v =>
    by_cases hy : y = x
    · subst hy
      rw [run_single] at h
      exact ⟨v, rfl, h⟩
    · rw [run_single_of_ne hy] at h
      exact absurd h (by simp)

/-- Any number of characters of a set, and a character that is not in it. -/
theorem run_many_single {w : Text} {x : Char} (hw : ∀ c ∈ w, s.contains c = true)
    (hx : s.contains x = false) (prev : Option Char) (t : Text) (ns : List Node) :
    (Node.ofList (.many s :: .char (.single x) :: ns)).run ⟨prev, w ++ x :: t⟩ g k
      = (Node.ofList ns).run ⟨some x, t⟩ g k := by
  rw [run_ofList_cons, run_many,
    most_append hw hx (fun prev y t hy => run_single_of_ne hy ns), run_single]

/-- A numbered run of characters of a set, and a character that is not in it. -/
theorem run_group_single {r : Text} {x : Char} {i : Nat} (hr : IsRun s.contains r)
    (hx : s.contains x = false) (prev : Option Char) (t : Text) (ns : List Node) :
    (Node.ofList (.group i (.many1 s) :: .char (.single x) :: ns)).run ⟨prev, r ++ x :: t⟩ g k
      = (Node.ofList ns).run ⟨some x, t⟩ ((i, ⟨r ++ x :: t, x :: t⟩) :: g) k := by
  obtain ⟨y, r, rfl⟩ := List.exists_cons_of_ne_nil hr.1
  have htail : ∀ c ∈ r, s.contains c = true := fun c hc => hr.2 c (List.mem_cons_of_mem y hc)
  rw [run_ofList_cons, run_group, run_many1, List.cons_append, run_char_cons,
    if_pos (hr.2 y List.mem_cons_self),
    most_append htail hx (fun prev z t hz => run_single_of_ne hz ns), run_single]

/-- A greedy loop in front of a character that it does not accept gets past that character only
behind everything that it accepts.  The groups may depend on where it stops. -/
theorem most_single_eq_some {x : Char} (hx : s.contains x = false) {f : Cursor → Groups}
    {prev : Option Char} {t : Text} {ns : List Node} {r : Cursor × Groups}
    (h : most s (fun c => (Node.ofList (.char (.single x) :: ns)).run c (f c) k) prev t = some r) :
    ∃ w v c', (∀ c ∈ w, s.contains c = true) ∧ t = w ++ x :: v
      ∧ (Node.ofList ns).run ⟨some x, v⟩ (f c') k = some r := by
  have hfail : ∀ prev y t, s.contains y = true →
      (Node.ofList (.char (.single x) :: ns)).run ⟨prev, y :: t⟩ (f ⟨prev, y :: t⟩) k = none := by
    intro prev y t hy
    apply run_single_of_ne
    rintro rfl
    rw [hx] at hy
    exact absurd hy (by decide)
  rw [most_eq hfail] at h
  obtain ⟨v, hv, hrest⟩ := run_single_eq_some h
  refine ⟨t.takeWhile s.contains, v, _, List.all_eq_true.mp List.all_takeWhile, ?_, hrest⟩
  rw [← hv, List.takeWhile_append_dropWhile]

/-- What gets past characters of a set and one that is not in it begins with them. -/
theorem run_many_single_eq_some {x : Char} (hx : s.contains x = false) {prev : Option Char}
    {t : Text} {ns : List Node} {r : Cursor × Groups}
    (h : (Node.ofList (.many s :: .char (.single x) :: ns)).run ⟨prev, t⟩ g k = some r) :
    ∃ w v, (∀ c ∈ w, s.contains c = true) ∧ t = w ++ x :: v
      ∧ (Node.ofList ns).run ⟨some x, v⟩ g k = some r := by
  rw [run_ofList_cons, run_many] at h
  obtain ⟨w, v, -, hw, ht, hrest⟩ := most_single_eq_some (f := fun _ => g) hx h
  exact ⟨w, v, hw, ht, hrest⟩

/-- What gets past a numbered run and the character behind it begins with them. -/
theorem run_group_single_eq_some {x : Char} {i : Nat} (hx : s.contains x = false)
    {prev : Option Char} {t : Text} {ns : List Node} {r : Cursor × Groups}
    (h : (Node.ofList (.group i (.many1 s) :: .char (.single x) :: ns)).run ⟨prev, t⟩ g k
      = some r) :
    ∃ w v g', IsRun s.contains w ∧ t = w ++ x :: v
      ∧ (Node.ofList ns).run ⟨some x, v⟩ g' k = some r := by
  rw [run_ofList_cons, run_group, run_many1] at h
  cases t with
  | nil =>
    rw [run_char_nil] at h
    exact absurd h (by simp)
  | cons y t =>
    rw [run_char_cons] at h
    split at h
    next hy =>
      -- the run is the first character with what the loop takes
      obtain ⟨w, v, c', hw, rfl, hrest⟩ :=
        most_single_eq_some (f := fun c => (i, ⟨y :: t, c.rest⟩) :: g) hx h
      refine ⟨y :: w, v, _, ⟨List.cons_ne_nil y w, ?_⟩, rfl, hrest⟩
      intro c hc
      rcases List.mem_cons.mp hc with rfl | hc
      · exact hy
      · exact hw c hc
    next => exact absurd h (by simp)

/-- A numbered run of characters of a set, empty perhaps, and the character that ends it. -/
theorem run_group_many_single {x : Char} {i : Nat} (prev : Option Char) (t : Text)
    (ns : List Node) :
    (Node.ofList (.group i (.many (.compl (.single x))) :: .char (.single x) :: ns)).run
        ⟨prev, t⟩ g k
      = (Text.firstSplit (Text.beginsWith x) t).bind (fun s =>
          (Node.ofList ns).run ⟨some x, s.2.drop 1⟩ ((i, ⟨t, s.2⟩) :: g) k) := by
  have hclass : (CharSet.compl (.single x)).contains = (· != x) := by
    funext y
    simp only [CharSet.contains, bne, Bool.beq_comm]
  have hstop : ∀ y, (CharSet.compl (.single x)).contains y = true → y ≠ x := by
    intro y hy
    rw [hclass] at hy
    simpa using hy
  -- the loop stops at the first such character, or else at the end, where nothing follows
  rw [run_ofList_cons, run_group, run_many,
    most_eq (fun prev y t hy => run_single_of_ne (hstop y hy) ns), hclass,
    Text.firstSplit_beginsWith]
  by_cases hx : x ∈ t
  · obtain ⟨v, hv⟩ : ∃ v, t.dropWhile (· != x) = x :: v := by
      have hsplit := Text.firstSplit_beginsWith x t
      rw [if_pos hx] at hsplit
      exact Text.beginsWith_eq_true_iff.mp (Text.firstSplit_eq_append hsplit).2
    rw [if_pos hx, Option.bind_some, hv, run_single, List.drop_one, List.tail_cons]
  · have hall : ∀ y ∈ t, (y != x) = true := by
      intro y hy
      rw [bne_iff_ne]
      rintro rfl
      exact hx hy
    have hnil : t.dropWhile (· != x) = [] := by
      have := Text.dropWhile_run_append (u := []) hall Text.startsOutside_nil
      rwa [List.append_nil] at this
    rw [if_neg hx, Option.bind_none, hnil, run_ofList_cons, run_char_nil]

/-- **A lazy loop over all characters stops at the leftmost position** at which what follows
succeeds, if its success depends on the rest alone. -/
theorem fewest_eq {k : Cursor → Outcome} {p : Text → Bool}
    (hs : ∀ x, s.contains x = true)
    (hk : ∀ prev t, (k ⟨prev, t⟩).isSome = p t) (prev : Option Char) (t : Text) :
    fewest s k prev t
      = (Text.firstSplit p t).bind (fun u => k ⟨lastOr prev u.1, u.2⟩) := by
  induction t generalizing prev with
  | nil =>
    have hend := hk prev []
    rw [fewest, Text.firstSplit]
    by_cases hp : p [] = true
    · rw [if_pos hp]
      rfl
    · rw [if_neg hp, Option.bind_none]
      rw [Bool.eq_false_iff.mpr hp, Option.isSome_eq_false_iff, Option.isNone_iff_eq_none] at hend
      exact hend
  | cons x t ih =>
    have hhere := hk prev (x :: t)
    rw [fewest, if_pos (hs x)]
    -- success here ends the loop, and failure here sends it on by one character
    by_cases hp : p (x :: t) = true
    · obtain ⟨r, hr⟩ := Option.isSome_iff_exists.mp (hhere.trans hp)
      rw [Text.firstSplit_of_holds hp, hr, Option.some_or, Option.bind_some, lastOr_nil, hr]
    · rw [Bool.eq_false_iff.mpr hp, Option.isSome_eq_false_iff, Option.isNone_iff_eq_none] at hhere
      rw [Text.firstSplit_cons_of_not hp, hhere, Option.none_or, ih, Option.bind_map]
      rfl

/-- A numbered lazy loop over all characters. -/
theorem run_group_few {p : Text → Bool} {i : Nat} {prev : Option Char} {t : Text} {ns : List Node}
    (hs : ∀ x, s.contains x = true)
    (hk : ∀ prev v, ((Node.ofList ns).run ⟨prev, v⟩ ((i, ⟨t, v⟩) :: g) k).isSome = p v) :
    (Node.ofList (.group i (.few s) :: ns)).run ⟨prev, t⟩ g k
      = (Text.firstSplit p t).bind (fun u =>
          (Node.ofList ns).run ⟨lastOr prev u.1, u.2⟩ ((i, ⟨t, u.2⟩) :: g) k) := by
  rw [run_ofList_cons, run_group, run_few, fewest_eq hs hk]

end ScriptWeave.Pattern
