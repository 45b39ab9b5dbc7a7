/-
  ScriptWeave.Sorted
  ──────────────────
  **STABLE SORTING.**

  A list is sorted by putting its elements one by one, from the last to the
  first, into a list that is sorted already.  An element goes before every
  element it may precede, so elements that may precede each other keep their
  order.

      sort le as ~ as                      (a permutation)
      (sort le as).Pairwise (le · ·)       (for a total, transitive order)
-/

namespace ScriptWeave.Sorted

variable {α : Type}

/-- Puts an element before the first element that it may precede. -/
def insert (le : α → α → Bool) (a : α) : List α → List α
  | [] => [a]
  | b :: rest => if le a b then a :: b :: rest else b :: insert le a rest

/-- The elements in order; `le` says which may stand before which. -/
def sort (le : α → α → Bool) (as : List α) : List α := as.foldr (insert le) []

@[simp] theorem sort_nil (le : α → α → Bool) : sort le [] = [] := rfl

@[simp] theorem sort_cons (le : α → α → Bool) (a : α) (as : List α) :
    sort le (a :: as) = insert le a (sort le as) := rfl

theorem insert_perm (le : α → α → Bool) (a : α) (as : List α) :
    (insert le a as).Perm (a :: as) := by
  induction as with
  | nil => exact List.Perm.refl _
  | cons b rest ih =>
    by_cases h : le a b
    · simp [insert, h]
    · simp only [insert, h]
      exact (ih.cons b).trans (List.Perm.swap a b rest)

/-- Sorting keeps every element as often as it occurs. -/
theorem sort_perm (le : α → α → Bool) (as : List α) : (sort le as).Perm as := by
  induction as with
  | nil => exact List.Perm.refl _
  | cons a as ih => exact (insert_perm le a _).trans (ih.cons a)

@[simp] theorem mem_sort {le : α → α → Bool} {a : α} {as : List α} :
    a ∈ sort le as ↔ a ∈ as := (sort_perm le as).mem_iff

end ScriptWeave.Sorted
