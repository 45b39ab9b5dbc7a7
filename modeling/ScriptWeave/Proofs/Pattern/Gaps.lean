/-
  ScriptWeave.Proofs.Pattern.Gaps
  ───────────────────────────────
  **WHAT STANDS BETWEEN MATCHES STOOD IN THE TEXT.**

  However a pattern is followed through a text, way by way or all ways at
  once, a character outside the matches is a character of the text.  So a
  text that is split is split into parts of its own characters, whatever
  the pattern: one that matches the empty text, or at the ends, too.

      part ∈ p.split t  →  c ∈ part  →  c ∈ t
-/
import ScriptWeave.Pattern.Scan

namespace ScriptWeave.Pattern

variable {c : Char} {t : Text}

/-! ## §1. All ways at once. -/

namespace Program

variable {p : Program} {before : Nat} {m : Match}

/-- What a thread completes at a position ends there; else there is what was found before. -/
theorem stop_of_complete {s : Settled} {rest : Text} {found : Option (Nat × Match)}
    (h : (s.complete.map (·.complete rest)).or found = some (before, m)) :
    m.whole.stop <:+ rest ∨ found = some (before, m) := by
  rcases Option.or_eq_some_iff.mp h with hdone | ⟨-, hfound⟩
  · obtain ⟨thread, -, hthread⟩ := Option.map_eq_some_iff.mp hdone
    obtain ⟨-, rfl⟩ := Prod.mk.inj hthread
    exact Or.inl (List.suffix_refl rest)
  · exact Or.inr hfound

/-- A match that is found on the way ends in the text that is left, or was found before. -/
theorem stop_of_follow {rest : Text} {place : Nat} {prev : Option Char} {threads : List Thread}
    {found : Option (Nat × Match)} {seen : Array Nat}
    (h : p.follow place prev rest threads found seen = some (before, m)) :
    m.whole.stop <:+ rest ∨ found = some (before, m) := by
  induction rest generalizing place prev threads found seen with
  | nil =>
    rw [follow] at h
    exact stop_of_complete h
  | cons x rest ih =>
    rw [follow] at h
    split at h
    next => exact stop_of_complete h
    next =>
      rcases ih h with hlater | hhere
      · exact Or.inl (hlater.trans (List.suffix_cons x rest))
      · exact stop_of_complete hhere

theorem stop_of_search {prev : Option Char} (h : p.search prev t = some (before, m)) :
    m.whole.stop <:+ t := by
  rcases stop_of_follow h with hstop | hfound
  · exact hstop
  · exact absurd hfound (by simp)

theorem mem_of_plain_map (h : Piece.plain c ∈ t.map Piece.plain) : c ∈ t := by
  obtain ⟨x, hx, hsame⟩ := List.mem_map.mp h
  exact Piece.plain.inj hsame ▸ hx

/-- A character outside the matches of a program is a character of the text. -/
theorem mem_of_plain_scan {fuel : Nat} {behind : Bool} {prev : Option Char}
    (h : Piece.plain c ∈ p.scan fuel behind prev t) : c ∈ t := by
  induction fuel generalizing behind prev t with
  | zero => exact mem_of_plain_map h
  | succ fuel ih =>
    rw [scan] at h
    split at h
    next => exact mem_of_plain_map h
    next before m hsearch =>
      have hstop := stop_of_search hsearch
      dsimp only at h
      -- before the match, in it, or behind it
      rcases List.mem_append.mp h with h | h
      · rcases List.mem_append.mp h with h | h
        · exact List.mem_of_mem_take (mem_of_plain_map h)
        · split at h
          next => exact absurd (List.mem_singleton.mp h) (by simp)
          next => exact absurd h List.not_mem_nil
      · split at h
        next =>
          split at h
          next => exact absurd h List.not_mem_nil
          next x u heq =>
            rw [heq] at hstop
            apply hstop.subset
            rcases List.mem_cons.mp h with hx | h
            · exact Piece.plain.inj hx ▸ List.mem_cons_self
            · exact List.mem_cons_of_mem x (ih h)
        next => exact hstop.subset (ih h)

end Program

/-! ## §2. Way by way. -/

/-- A character outside the matches of a walk is a character of the text. -/
theorem mem_of_plain_scan {p : Pattern} {skip : Nat} {behind : Bool} {prev : Option Char}
    (h : Piece.plain c ∈ scan p skip behind prev t) : c ∈ t := by
  induction t generalizing skip behind prev with
  | nil =>
    rw [scan] at h
    split at h
    next => split at h <;> simp at h
    next => exact absurd h List.not_mem_nil
  | cons x t ih =>
    have hlater : ∀ {skip behind prev}, Piece.plain c ∈ scan p skip behind prev t → c ∈ x :: t :=
      fun h => List.mem_cons_of_mem x (ih h)
    have hhere : ∀ {skip behind prev}, Piece.plain c ∈ .plain x :: scan p skip behind prev t →
        c ∈ x :: t := by
      intro _ _ _ h
      rcases List.mem_cons.mp h with hx | h
      · exact Piece.plain.inj hx ▸ List.mem_cons_self
      · exact hlater h
    cases skip with
    | succ skip => exact hlater h
    | zero =>
      rw [scan] at h
      split at h
      next => exact hhere h
      next m _ =>
        split at h
        next =>
          split at h
          next => exact hhere h
          next => exact hhere ((List.mem_cons.mp h).resolve_left (by simp))
        next => exact hlater ((List.mem_cons.mp h).resolve_left (by simp))

/-! ## §3. Splitting. -/

/-- A character of a gap stands outside the matches. -/
theorem plain_mem_of_mem_gaps {ps : List Piece} {part : Text} (h : part ∈ gaps ps) (hc : c ∈ part) :
    Piece.plain c ∈ ps := by
  fun_induction gaps ps generalizing part with
  | case1 =>
    rw [List.mem_singleton.mp h] at hc
    exact absurd hc List.not_mem_nil
  | case2 m rest ih =>
    rcases List.mem_cons.mp h with rfl | h
    · exact absurd hc List.not_mem_nil
    · exact List.mem_cons_of_mem _ (ih h hc)
  | case3 x rest hgaps ih =>
    rw [List.mem_singleton.mp h] at hc
    rw [List.mem_singleton.mp hc]
    exact List.mem_cons_self
  | case4 x rest u us hgaps ih =>
    rw [hgaps] at ih
    rcases List.mem_cons.mp h with rfl | h
    · rcases List.mem_cons.mp hc with rfl | hc
      · exact List.mem_cons_self
      · exact List.mem_cons_of_mem _ (ih List.mem_cons_self hc)
    · exact List.mem_cons_of_mem _ (ih (List.mem_cons_of_mem u h) hc)

/-- **A text is split into parts of its own characters**, whatever the pattern. -/
theorem mem_of_mem_split {p : Pattern} {part : Text} (h : part ∈ p.split t) (hc : c ∈ part) :
    c ∈ t := by
  have hplain := plain_mem_of_mem_gaps h hc
  unfold pieces at hplain
  split at hplain
  next => exact Program.mem_of_plain_scan hplain
  next => exact mem_of_plain_scan hplain

end ScriptWeave.Pattern
