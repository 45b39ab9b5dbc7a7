/-
  ScriptWeave.Proofs.Sorted
  ─────────────────────────
  **LISTS IN ORDER.**

  By a total and transitive order a list is sorted, and where no two elements
  may precede each other it is the only list in order with these elements:

      (sort le as).Pairwise (le · ·)
      as ~ bs  →  sort le as = sort le bs

  Elements that may all precede each other stay in the order in which they
  came.
-/
import ScriptWeave.Sorted

namespace ScriptWeave.Sorted

variable {α : Type} {le : α → α → Bool}

/-! ## §1. Sorted lists. -/

theorem mem_insert {a b : α} {as : List α} : b ∈ insert le a as ↔ b = a ∨ b ∈ as := by
  rw [(insert_perm le a as).mem_iff, List.mem_cons]

theorem pairwise_insert (total : ∀ a b, le a b = true ∨ le b a = true)
    (trans : ∀ a b c, le a b = true → le b c = true → le a c = true) {a : α} {as : List α}
    (h : as.Pairwise (fun a b => le a b = true)) :
    (insert le a as).Pairwise (fun a b => le a b = true) := by
  induction as with
  | nil => exact List.pairwise_singleton _ a
  | cons b as ih =>
    obtain ⟨hb, has⟩ := List.pairwise_cons.mp h
    unfold insert
    split
    next hab =>
      refine List.pairwise_cons.mpr ⟨?_, h⟩
      intro c hc
      rcases List.mem_cons.mp hc with rfl | hc
      · exact hab
      · exact trans a b c hab (hb c hc)
    next hab =>
      -- the element goes further on, and by totality the head may precede it
      refine List.pairwise_cons.mpr ⟨?_, ih has⟩
      intro c hc
      rcases mem_insert.mp hc with rfl | hc
      · exact (total c b).resolve_left hab
      · exact hb c hc

/-- **A sorted list is in order**, if the order is total and transitive. -/
theorem pairwise_sort (total : ∀ a b, le a b = true ∨ le b a = true)
    (trans : ∀ a b c, le a b = true → le b c = true → le a c = true) (as : List α) :
    (sort le as).Pairwise (fun a b => le a b = true) := by
  induction as with
  | nil => exact List.Pairwise.nil
  | cons a as ih => exact pairwise_insert total trans ih

/-- **Sorting forgets the order in which elements came**, if no two of them may precede each
other. -/
theorem sort_eq_of_perm (total : ∀ a b, le a b = true ∨ le b a = true)
    (trans : ∀ a b c, le a b = true → le b c = true → le a c = true) {as bs : List α}
    (antisymm : ∀ a ∈ as, ∀ b ∈ as, le a b = true → le b a = true → a = b) (h : as.Perm bs) :
    sort le as = sort le bs := by
  refine List.Perm.eq_of_pairwise ?_ (pairwise_sort total trans as) (pairwise_sort total trans bs)
    ((sort_perm le as).trans (h.trans (sort_perm le bs).symm))
  intro a b ha hb
  exact antisymm a (mem_sort.mp ha) b (h.mem_iff.mpr (mem_sort.mp hb))

/-! ## §2. Stability. -/

/-- An element goes before all those that it may precede. -/
theorem filter_insert {q : α → Bool} {a : α} {as : List α}
    (hq : q a = true → ∀ b ∈ as, q b = true → le a b = true) :
    (insert le a as).filter q = (a :: as).filter q := by
  induction as with
  | nil => rfl
  | cons b as ih =>
    have hrest := ih (fun ha c hc => hq ha c (List.mem_cons_of_mem b hc))
    unfold insert
    split
    next => rfl
    next hab =>
      -- what it goes behind is not of the same kind
      rw [List.filter_cons, hrest, List.filter_cons, List.filter_cons, List.filter_cons]
      by_cases ha : q a = true
      · have hb : ¬ q b = true := fun hb => hab (hq ha b List.mem_cons_self hb)
        rw [if_neg hb, if_neg hb]
      · rw [if_neg ha, if_neg ha]

/-- **Elements of a kind stay in order**, if they may all precede each other. -/
theorem filter_sort {q : α → Bool} {as : List α}
    (hq : ∀ a ∈ as, ∀ b ∈ as, q a = true → q b = true → le a b = true) :
    (sort le as).filter q = as.filter q := by
  induction as with
  | nil => rfl
  | cons a as ih =>
    have hrest := ih (fun b hb c hc =>
      hq b (List.mem_cons_of_mem a hb) c (List.mem_cons_of_mem a hc))
    have hfront : (insert le a (sort le as)).filter q = (a :: sort le as).filter q :=
      filter_insert (fun ha b hb hqb =>
        hq a List.mem_cons_self b (List.mem_cons_of_mem a (mem_sort.mp hb)) ha hqb)
    rw [sort_cons, hfront, List.filter_cons, List.filter_cons, hrest]

/-! ## §3. Lists the other way round. -/

/-- An element that may precede none of a list goes behind it. -/
theorem insert_eq_append {a : α} {as : List α} (h : ∀ b ∈ as, le a b = false) :
    insert le a as = as ++ [a] := by
  induction as with
  | nil => rfl
  | cons b as ih =>
    have hb : ¬ le a b = true := by simp [h b List.mem_cons_self]
    rw [insert, if_neg hb, ih (fun c hc => h c (List.mem_cons_of_mem b hc)), List.cons_append]

/-- A list none of whose elements may precede a later one is turned around. -/
theorem sort_eq_reverse {as : List α} (h : as.Pairwise (fun a b => le a b = false)) :
    sort le as = as.reverse := by
  induction as with
  | nil => rfl
  | cons a as ih =>
    obtain ⟨ha, has⟩ := List.pairwise_cons.mp h
    rw [sort_cons, ih has, insert_eq_append (fun b hb => ha b (List.mem_reverse.mp hb)),
      List.reverse_cons]

end ScriptWeave.Sorted
