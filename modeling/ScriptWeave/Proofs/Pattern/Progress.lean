/-
  ScriptWeave.Proofs.Pattern.Progress
  ───────────────────────────────────
  **A WALK GOES FORWARD.**

  Whatever way a walk finds through a tree, what follows is tried at a
  position further on in the same text, and it is the outcome of what
  follows that comes out.

      n.run c g k = some r
        →  ∃ c' g', k c' g' = some r ∧ c'.rest ends c.rest

  A tree that is not nullable passes at least one character on the way.  So
  the matches of a pattern with such a tree are never empty.
-/
import ScriptWeave.Proofs.Pattern.Pieces

namespace ScriptWeave.Pattern

/-! ## §1. Walks that pass characters. -/

/-- A walk that passes at least `n` characters before what follows is tried. -/
def Passes (w : Walk) (n : Nat) : Prop :=
  ∀ c g k r, w c g k = some r →
    ∃ c' g', k c' g' = some r ∧ c'.rest <:+ c.rest ∧ c'.rest.length + n ≤ c.rest.length

variable {w : Walk} {s : CharSet} {m n : Nat} {nullable greedy : Bool}

theorem Passes.mono (h : Passes w n) (hmn : m ≤ n) : Passes w m := by
  intro c g k r hr
  obtain ⟨c', g', hk, hsuf, hlen⟩ := h c g k r hr
  exact ⟨c', g', hk, hsuf, by omega⟩

/-- A walk that goes nowhere passes nothing. -/
theorem passes_stop : Passes (fun c g k => k c g) 0 :=
  fun c g _ _ hr => ⟨c, g, hr, List.suffix_refl c.rest, Nat.le_refl _⟩

/-- One walk and then another. -/
theorem Passes.andThen {v : Walk} (hw : Passes w m) (hv : Passes v n) :
    Passes (fun c g k => w c g (fun c' g' => v c' g' k)) (m + n) := by
  intro c g k r hr
  obtain ⟨c', g', hk', hsuf', hlen'⟩ := hw c g _ r hr
  obtain ⟨c'', g'', hk'', hsuf'', hlen''⟩ := hv c' g' k r hk'
  exact ⟨c'', g'', hk'', hsuf''.trans hsuf', by omega⟩

/-- The better of two walks. -/
theorem Passes.orElse {v : Walk} (hw : Passes w n) (hv : Passes v n) :
    Passes (fun c g k => (w c g k).or (v c g k)) n := by
  intro c g k r hr
  rcases Option.or_eq_some_iff.mp hr with h | ⟨-, h⟩
  · exact hw c g k r h
  · exact hv c g k r h

/-- A round or none, in either order. -/
theorem Passes.optional (hw : Passes w 0) :
    Passes (fun c g k => if greedy then (w c g k).or (k c g) else (k c g).or (w c g k)) 0 := by
  cases greedy with
  | true => exact hw.orElse passes_stop
  | false => exact passes_stop.orElse hw

/-! ## §2. Repetition. -/

theorem passes_exactly (hw : Passes w n) (i : Nat) : Passes (exactly w i) (i * n) := by
  induction i with
  | zero => exact passes_stop.mono (by omega)
  | succ i ih => exact (hw.andThen ih).mono (by rw [Nat.succ_mul]; omega)

theorem passes_upTo (hw : Passes w 0) (i : Nat) : Passes (upTo w greedy i) 0 := by
  induction i with
  | zero => exact passes_stop
  | succ i ih => exact Passes.optional (hw.andThen ih)

/-- A round that is only taken on when it advances. -/
theorem Passes.unlessStays {v : Walk} (hw : Passes w m) (hv : Passes v n) :
    Passes (fun c g k => w c g
      (fun c' g' => if stays nullable c c' then none else v c' g' k)) (m + n) := by
  intro c g k r hr
  obtain ⟨c', g', hk', hsuf', hlen'⟩ := hw c g _ r hr
  split at hk'
  next => exact absurd hk' (by simp)
  next =>
    obtain ⟨c'', g'', hk'', hsuf'', hlen''⟩ := hv c' g' k r hk'
    exact ⟨c'', g'', hk'', hsuf''.trans hsuf', by omega⟩

theorem passes_loop (hw : Passes w 0) (i : Nat) : Passes (loop w nullable greedy i) 0 := by
  induction i with
  | zero => exact passes_stop
  | succ i ih => exact Passes.optional (hw.unlessStays ih)

theorem passes_oneOrMore (hw : Passes w n) : Passes (oneOrMore w nullable greedy) n := by
  intro c g k r hr
  have hbase : Passes w 0 := hw.mono (Nat.zero_le n)
  -- the first round passes its characters, and later rounds do not go back
  obtain ⟨c', g', hk', hsuf', hlen'⟩ := hw c g _ r hr
  split at hk'
  next => exact ⟨c', g', hk', hsuf', hlen'⟩
  next =>
    obtain ⟨c'', g'', hk'', hsuf'', hlen''⟩ := passes_loop hbase c'.rest.length c' g' k r hk'
    exact ⟨c'', g'', hk'', hsuf''.trans hsuf', by omega⟩

theorem passes_zeroOrMore (hw : Passes w 0) : Passes (zeroOrMore w nullable greedy) 0 := by
  cases nullable with
  | true => exact Passes.optional (passes_oneOrMore hw)
  | false =>
    intro c g k r hr
    exact passes_loop hw c.rest.length c g k r hr

theorem passes_between (hw : Passes w n) (min : Nat) (max : Option Nat) :
    Passes (between w nullable greedy min max) (min * n) := by
  have hbase : Passes w 0 := hw.mono (Nat.zero_le n)
  cases max with
  | some max => exact (passes_exactly hw min).andThen (passes_upTo hbase (max - min))
  | none =>
    cases min with
    | zero => exact (passes_zeroOrMore hbase).mono (by omega)
    | succ i =>
      have hcount : (i + 1) * n = i * n + n := Nat.succ_mul i n
      rw [hcount]
      exact (passes_exactly hw i).andThen (passes_oneOrMore hw)

/-! ## §3. Characters. -/

theorem passes_oneOf : Passes (oneOf s) 1 := by
  intro c g k r hr
  obtain ⟨prev, rest⟩ := c
  cases rest with
  | nil => exact absurd hr (by simp [oneOf])
  | cons x rest =>
    simp only [oneOf] at hr
    split at hr
    next => exact ⟨⟨some x, rest⟩, g, hr, List.suffix_cons x rest, Nat.le_refl _⟩
    next => exact absurd hr (by simp)

/-- A loop over characters tries what follows at one of the positions that it passes. -/
theorem exists_of_most {k : Cursor → Outcome} {prev : Option Char} {t : Text}
    {r : Cursor × Groups} (h : most s k prev t = some r) :
    ∃ c', k c' = some r ∧ c'.rest <:+ t := by
  induction t generalizing prev with
  | nil => exact ⟨_, h, List.suffix_refl []⟩
  | cons x t ih =>
    have hstop : k ⟨prev, x :: t⟩ = some r → ∃ c', k c' = some r ∧ c'.rest <:+ x :: t :=
      fun h => ⟨_, h, List.suffix_refl (x :: t)⟩
    rw [most] at h
    split at h
    next =>
      rcases Option.or_eq_some_iff.mp h with h | ⟨-, h⟩
      · obtain ⟨c', hk, hsuf⟩ := ih h
        exact ⟨c', hk, hsuf.trans (List.suffix_cons x t)⟩
      · exact hstop h
    next => exact hstop h

theorem exists_of_fewest {k : Cursor → Outcome} {prev : Option Char} {t : Text}
    {r : Cursor × Groups} (h : fewest s k prev t = some r) :
    ∃ c', k c' = some r ∧ c'.rest <:+ t := by
  induction t generalizing prev with
  | nil => exact ⟨_, h, List.suffix_refl []⟩
  | cons x t ih =>
    rw [fewest] at h
    rcases Option.or_eq_some_iff.mp h with h | ⟨-, h⟩
    · exact ⟨_, h, List.suffix_refl (x :: t)⟩
    · split at h
      next =>
        obtain ⟨c', hk, hsuf⟩ := ih h
        exact ⟨c', hk, hsuf.trans (List.suffix_cons x t)⟩
      next => exact absurd h (by simp)

theorem passes_manyOf : Passes (manyOf s greedy) 0 := by
  intro c g k r hr
  have hpos : ∃ c', k c' g = some r ∧ c'.rest <:+ c.rest := by
    rw [manyOf] at hr
    split at hr
    next => exact exists_of_most hr
    next => exact exists_of_fewest hr
  obtain ⟨c', hk, hsuf⟩ := hpos
  exact ⟨c', g, hk, hsuf, hsuf.length_le⟩

theorem passes_atLeast (min : Nat) : Passes (atLeast s greedy min) min :=
  ((passes_exactly passes_oneOf min).andThen passes_manyOf).mono (by omega)

/-! ## §4. Trees. -/

/-- How many characters a tree is sure to pass: one, unless it is nullable. -/
def Node.sure (n : Node) : Nat := if n.nullable then 0 else 1

theorem passes_rep {body : Node} (h : Passes body.run body.sure) (min : Nat) (max : Option Nat) :
    Passes (Node.rep body min max greedy).run (min * body.sure) := by
  -- an unbounded loop over single characters has a walk of its own
  by_cases hchar : (∃ s, body = .char s) ∧ max = none
  · obtain ⟨⟨s, rfl⟩, rfl⟩ := hchar
    have hone : (Node.char s).sure = 1 := rfl
    rw [Node.run, hone, Nat.mul_one]
    exact passes_atLeast min
  · rw [Node.run]
    · exact passes_between h min max
    · intro s hs hmax
      exact hchar ⟨⟨s, hs⟩, hmax⟩

/-- **A walk through a tree goes forward**, and passes a character if the tree is not
nullable. -/
theorem passes_run (n : Node) : Passes n.run n.sure := by
  induction n with
  | empty => exact passes_stop
  | char s => exact passes_oneOf
  | anchor a =>
    intro c g k r hr
    rw [run_anchor] at hr
    split at hr
    next => exact ⟨c, g, hr, List.suffix_refl c.rest, Nat.le_refl _⟩
    next => exact absurd hr (by simp)
  | cat a b iha ihb =>
    refine (iha.andThen ihb).mono ?_
    unfold Node.sure
    rw [Node.nullable]
    cases a.nullable <;> cases b.nullable <;> decide
  | alt a b iha ihb =>
    refine (iha.mono ?_).orElse (ihb.mono ?_) <;>
    · unfold Node.sure
      rw [Node.nullable]
      cases a.nullable <;> cases b.nullable <;> decide
  | group i body ih =>
    intro c g k r hr
    obtain ⟨c', g', hk, hsuf, hlen⟩ := ih c g _ r hr
    exact ⟨c', _, hk, hsuf, hlen⟩
  | rep body min max greedy ih =>
    refine (passes_rep ih min max).mono ?_
    unfold Node.sure
    rw [Node.nullable]
    cases body.nullable with
    | true => simp
    | false =>
      -- at least one round, unless none is asked for
      by_cases hmin : min = 0
      · subst hmin
        exact Nat.zero_le _
      · simp [hmin]
        omega

/-- **The matches of a tree that is not nullable are never empty.** -/
theorem advances_of_not_nullable {p : Pattern} (hp : p.node.nullable = false) : Advances p := by
  intro c m h
  obtain ⟨⟨c', g'⟩, hr, rfl⟩ := Option.map_eq_some_iff.mp h
  obtain ⟨c'', g'', hk, -, hlen⟩ := passes_run p.node c [] _ _ hr
  obtain ⟨rfl, rfl⟩ : c'' = c' ∧ g'' = g' := by simpa using hk
  rw [Node.sure, hp] at hlen
  simp only [Span.length, Bool.false_eq_true, if_false] at hlen ⊢
  omega

end ScriptWeave.Pattern
