/-
  ScriptWeave.Proofs.Alias.Order
  ──────────────────────────────
  **WHAT IS IN AN ALIAS TABLE, AND IN WHICH ORDER.**

  A table that pairs were inserted into has every internal name once, with the
  public name it was inserted with first.  Applied longest name first, no entry
  comes before one whose internal name contains its own, and entries with
  names of one length stay in the order of discovery.

      (ofPairs pairs).table.get? a = pairs.lookup a
      (t.ordered longestFirst).Pairwise (¬ ·.1 <:+: ·.1)     names distinct
-/
import ScriptWeave.Alias.Table
import ScriptWeave.Proofs.Sorted
import ScriptWeave.Text.Utf8

namespace ScriptWeave

/-! ## §1. Containment and size. -/

namespace Text

theorem byteSize_pos {t : Text} (h : t ≠ []) : 0 < byteSize t := by
  obtain ⟨c, t, rfl⟩ := List.exists_cons_of_ne_nil h
  have := c.utf8Size_pos
  rw [byteSize_cons]
  omega

/-- What is contained in a text and not smaller is the text. -/
theorem eq_of_infix_of_byteSize_le {a b : Text} (h : a <:+: b) (hle : byteSize b ≤ byteSize a) :
    a = b := by
  obtain ⟨u, v, rfl⟩ := h
  simp only [byteSize_append] at hle
  have hu : u = [] := by
    apply Classical.byContradiction
    intro hne
    have := byteSize_pos hne
    omega
  have hv : v = [] := by
    apply Classical.byContradiction
    intro hne
    have := byteSize_pos hne
    omega
  rw [hu, hv, List.nil_append, List.append_nil]

end Text

/-! ## §2. Tables. -/

namespace AliasTable

/-- No internal name occurs twice. -/
def Distinct (t : AliasTable) : Prop := t.entries.Pairwise (fun a b => a.1 ≠ b.1)

theorem get?_insert (t : AliasTable) (a b shown : Text) :
    (t.insert a shown).get? b = (t.get? b).or (if b = a then some shown else none) := by
  unfold insert
  split
  next kept h =>
    by_cases hb : b = a
    · rw [hb, h, Option.some_or]
    · rw [if_neg hb, Option.or_none]
  next h =>
    have hone : [(a, shown)].lookup b = if b = a then some shown else none := by
      rw [List.lookup_singleton]
      simp only [beq_iff_eq]
    rw [get?, List.lookup_append, hone]
    rfl

theorem distinct_insert {t : AliasTable} (h : t.Distinct) (a shown : Text) :
    (t.insert a shown).Distinct := by
  unfold insert
  split
  next => exact h
  next hnone =>
    refine List.pairwise_append.mpr ⟨h, List.pairwise_singleton _ _, ?_⟩
    intro e he f hf
    obtain rfl := List.mem_singleton.mp hf
    have hfree := List.lookup_eq_none_iff.mp hnone e he
    rintro rfl
    simp at hfree

end AliasTable

/-- In a list without repeated keys the value of a key is the one it stands with. -/
theorem lookup_eq_some_iff_mem {es : List (Text × Text)} (h : es.Pairwise (fun a b => a.1 ≠ b.1))
    {a b : Text} : es.lookup a = some b ↔ (a, b) ∈ es := by
  induction es with
  | nil => simp
  | cons e es ih =>
    obtain ⟨x, y⟩ := e
    obtain ⟨hx, hes⟩ := List.pairwise_cons.mp h
    rw [List.lookup_cons, List.mem_cons, Prod.mk.injEq]
    by_cases hax : a = x
    · subst hax
      have hfree : (a, b) ∉ es := fun hmem => hx (a, b) hmem rfl
      simp [hfree, eq_comm]
    · have hbeq : (a == x) = false := beq_false_of_ne hax
      simp [hbeq, hax, ih hes]

/-- The value of a key does not depend on the order of the list. -/
theorem lookup_eq_of_perm {es fs : List (Text × Text)} (h : es.Pairwise (fun a b => a.1 ≠ b.1))
    (hperm : fs.Perm es) (a : Text) : fs.lookup a = es.lookup a := by
  have hfs : fs.Pairwise (fun a b => a.1 ≠ b.1) :=
    (hperm.pairwise_iff (fun hab => Ne.symm hab)).mpr h
  apply Option.ext
  intro b
  rw [lookup_eq_some_iff_mem hfs, lookup_eq_some_iff_mem h, hperm.mem_iff]

/-- Only the pairs with a key matter to what it stands with. -/
theorem lookup_filter (es : List (Text × Text)) (a : Text) :
    (es.filter (fun e => a == e.1)).lookup a = es.lookup a := by
  induction es with
  | nil => rfl
  | cons e es ih =>
    obtain ⟨x, y⟩ := e
    rw [List.filter_cons, List.lookup_cons]
    cases hax : a == x with
    | true => rw [if_pos rfl, List.lookup_cons, hax]
    | false => rw [if_neg Bool.false_ne_true, ih]

namespace AliasLog

/-- Records many pairs in addition to those recorded so far. -/
theorem get?_foldl_insert (l : AliasLog) (pairs : List (Text × Text)) (a : Text) :
    (pairs.foldl (fun l p => l.insert p.1 p.2) l).table.get? a
      = (l.table.get? a).or (pairs.lookup a) := by
  induction pairs generalizing l with
  | nil => rw [List.foldl_nil, List.lookup_nil, Option.or_none]
  | cons p pairs ih =>
    obtain ⟨x, y⟩ := p
    have hone : ((if a = x then some y else none).or (pairs.lookup a))
        = ((x, y) :: pairs).lookup a := by
      rw [List.lookup_cons]
      by_cases hax : a = x
      · simp [hax]
      · have hbeq : (a == x) = false := beq_false_of_ne hax
        simp [hax, hbeq]
    rw [List.foldl_cons, ih, table_insert, AliasTable.get?_insert, Option.or_assoc, hone]

/-- **The first public name of an internal name stays.** -/
theorem get?_ofPairs (pairs : List (Text × Text)) (a : Text) :
    (ofPairs pairs).table.get? a = pairs.lookup a := by
  rw [ofPairs, get?_foldl_insert]
  rfl

theorem distinct_foldl_insert {l : AliasLog} (h : l.table.Distinct) (pairs : List (Text × Text)) :
    (pairs.foldl (fun l p => l.insert p.1 p.2) l).table.Distinct := by
  induction pairs generalizing l with
  | nil => exact h
  | cons p pairs ih =>
    apply ih
    rw [table_insert]
    exact AliasTable.distinct_insert h p.1 p.2

/-- A table under construction has every internal name once. -/
theorem distinct_ofPairs (pairs : List (Text × Text)) : (ofPairs pairs).table.Distinct :=
  distinct_foldl_insert (l := .empty) List.Pairwise.nil pairs

theorem mem_ofPairs {pairs : List (Text × Text)} {e : Text × Text}
    (h : e ∈ (ofPairs pairs).table.entries) : e ∈ pairs := by
  have hget : (ofPairs pairs).table.get? e.1 = some e.2 :=
    (lookup_eq_some_iff_mem (distinct_ofPairs pairs)).mpr h
  rw [get?_ofPairs] at hget
  obtain ⟨us, vs, rfl, -⟩ := List.lookup_eq_some_iff.mp hget
  simp

end AliasLog

/-! ## §3. The order of renames. -/

namespace AliasTable

variable {t : AliasTable}

/-- Every order has the same entries. -/
theorem ordered_perm (t : AliasTable) (order : RenameOrder) : (t.ordered order).Perm t.entries := by
  cases order with
  | discovery => exact List.Perm.refl _
  | longestFirst => exact Sorted.sort_perm _ _

/-- Longest first, every entry is at least as long as those behind it. -/
theorem pairwise_longestFirst (t : AliasTable) :
    (t.ordered .longestFirst).Pairwise (fun a b => Text.byteSize b.1 ≤ Text.byteSize a.1) := by
  have htotal : ∀ a b : Text × Text, decide (Text.byteSize b.1 ≤ Text.byteSize a.1) = true
      ∨ decide (Text.byteSize a.1 ≤ Text.byteSize b.1) = true := by
    intro a b
    rw [decide_eq_true_eq, decide_eq_true_eq]
    omega
  have htrans : ∀ a b c : Text × Text, decide (Text.byteSize b.1 ≤ Text.byteSize a.1) = true
      → decide (Text.byteSize c.1 ≤ Text.byteSize b.1) = true
      → decide (Text.byteSize c.1 ≤ Text.byteSize a.1) = true := by
    intro a b c
    rw [decide_eq_true_eq, decide_eq_true_eq, decide_eq_true_eq]
    omega
  have hsorted := Sorted.pairwise_sort htotal htrans t.entries
  exact hsorted.imp (fun h => of_decide_eq_true h)

/-- Longest first, entries of a kind that have names of one length stay in the order of
discovery. -/
theorem filter_longestFirst (t : AliasTable) {q : Text × Text → Bool} {n : Nat}
    (hq : ∀ e, q e = true → Text.byteSize e.1 = n) :
    (t.ordered .longestFirst).filter q = t.entries.filter q := by
  refine Sorted.filter_sort ?_
  intro e _ f _ he hf
  rw [hq e he, hq f hf]
  exact decide_eq_true (Nat.le_refl n)

/-- In every order an internal name stands first with the public name that it has in the table:
entries of one name stay in the order of discovery. -/
theorem lookup_ordered (t : AliasTable) (order : RenameOrder) (a : Text) :
    (t.ordered order).lookup a = t.get? a := by
  cases order with
  | discovery => rfl
  | longestFirst =>
    have hstable : (t.ordered .longestFirst).filter (fun e => a == e.1)
        = t.entries.filter (fun e => a == e.1) :=
      t.filter_longestFirst (fun e he => congrArg Text.byteSize (beq_iff_eq.mp he).symm)
    rw [get?, ← lookup_filter, hstable, lookup_filter]

theorem Distinct.ordered (h : t.Distinct) (order : RenameOrder) :
    (t.ordered order).Pairwise (fun a b => a.1 ≠ b.1) :=
  ((t.ordered_perm order).pairwise_iff (fun hab => Ne.symm hab)).mpr h

/-- **Longest first, no name comes before one that contains it.** -/
theorem Distinct.longestFirst_apart (h : t.Distinct) :
    (t.ordered .longestFirst).Pairwise (fun a b => ¬ a.1 <:+: b.1) := by
  refine ((h.ordered .longestFirst).and t.pairwise_longestFirst).imp ?_
  rintro a b ⟨hne, hle⟩ hin
  exact hne (Text.eq_of_infix_of_byteSize_le hin hle)

/-- **Longest first is a stable sort by the bytes of the internal names.**  The entries are those
of the table, none has fewer bytes than one behind it, and those that have as many stay in the
order of discovery.  So no internal name comes before another that contains it, whether names are
repeated or not.  The order of discovery is that of the table. -/
theorem ordered_isStableSort (t : AliasTable) :
    (t.ordered .longestFirst).Perm t.entries
      ∧ (t.ordered .longestFirst).Pairwise
          (fun a b => (Text.encode b.1).size ≤ (Text.encode a.1).size)
      ∧ (∀ n, (t.ordered .longestFirst).filter (fun e => (Text.encode e.1).size == n)
          = t.entries.filter (fun e => (Text.encode e.1).size == n))
      ∧ (t.ordered .longestFirst).Pairwise (fun a b => ¬(a.1 <:+: b.1 ∧ a.1 ≠ b.1))
      ∧ t.ordered .discovery = t.entries := by
  simp only [Text.size_encode]
  have hstable : ∀ n, (t.ordered .longestFirst).filter (fun e => Text.byteSize e.1 == n)
      = t.entries.filter (fun e => Text.byteSize e.1 == n) :=
    fun n => t.filter_longestFirst (fun e he => beq_iff_eq.mp he)
  have hcontained : (t.ordered .longestFirst).Pairwise (fun a b => ¬(a.1 <:+: b.1 ∧ a.1 ≠ b.1)) := by
    refine t.pairwise_longestFirst.imp ?_
    rintro a b hle ⟨hin, hne⟩
    exact hne (Text.eq_of_infix_of_byteSize_le hin hle)
  exact ⟨t.ordered_perm .longestFirst, t.pairwise_longestFirst, hstable, hcontained, rfl⟩

/-- Bytes count, and not characters: a name of one character comes before a longer one. -/
example : (⟨[("$a", "1"), ("𝄞", "2"), ("$b", "3")]⟩ : AliasTable).ordered .longestFirst
    = ([("𝄞", "2"), ("$a", "1"), ("$b", "3")] : List (Text × Text)) := by decide

end AliasTable

end ScriptWeave
