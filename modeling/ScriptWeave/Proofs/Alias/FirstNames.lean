/-
  ScriptWeave.Proofs.Alias.FirstNames
  ───────────────────────────────────
  **FIRST NAMES STAY, LATER ONES ARE NOTED.**

  What becomes of a pair that is recorded depends on the pairs before it.  If
  none of them has its internal name, the pair is appended to the table.
  Otherwise the table stays, and if the public name kept is another one, that
  is noted.

      (ofPairs pairs).table.entries = firstPairs pairs
      (ofPairs pairs).notes         = secondNames pairs

  Both sides on the right look at every pair with the pairs before it, and
  not at a table.  So the table is a map in which the first name stays: its
  keys are the internal names, each once, in the order in which they came.
-/
import Mathlib.Data.Finset.Card
import Mathlib.Data.List.Basic
import Mathlib.Data.List.Induction
import ScriptWeave.Proofs.Alias.Order

namespace ScriptWeave

/-! ## §1. Pairs with the pairs before them. -/

/-- What `f` makes of each pair, given the pairs before it. -/
def afterEarlier {β : Type} (f : List (Text × Text) → Text × Text → Option β)
    (pairs : List (Text × Text)) : List β :=
  pairs.zipIdx.filterMap (fun x => f (pairs.take x.2) x.1)

/-- The pairs whose internal name does not occur before. -/
def firstPairs (pairs : List (Text × Text)) : List (Text × Text) :=
  afterEarlier (fun earlier p => if (earlier.lookup p.1).isNone then some p else none) pairs

/-- A note for every pair whose internal name occurs before, first with another public name. -/
def secondNames (pairs : List (Text × Text)) : List AliasNote :=
  afterEarlier (fun earlier p => (earlier.lookup p.1).bind (fun kept =>
    if kept = p.2 then none else some (.secondName p.1 kept p.2))) pairs

/-- A pair behind the others does not matter to them. -/
theorem afterEarlier_concat {β : Type} (f : List (Text × Text) → Text × Text → Option β)
    (pairs : List (Text × Text)) (p : Text × Text) :
    afterEarlier f (pairs ++ [p]) = afterEarlier f pairs ++ (f pairs p).toList := by
  have hplaces : (pairs ++ [p]).zipIdx = pairs.zipIdx ++ [(p, pairs.length)] := by
    rw [List.zipIdx_append, Nat.zero_add]
    rfl
  have hbefore : pairs.zipIdx.filterMap (fun x => f ((pairs ++ [p]).take x.2) x.1)
      = afterEarlier f pairs := by
    apply List.filterMap_congr
    intro x hx
    have hlt : x.2 < pairs.length := List.snd_lt_of_mem_zipIdx hx
    rw [List.take_append_of_le_length (Nat.le_of_lt hlt)]
  have hlast : [(p, pairs.length)].filterMap (fun x => f ((pairs ++ [p]).take x.2) x.1)
      = (f pairs p).toList := by
    rw [List.filterMap_cons, List.take_left]
    cases f pairs p <;> rfl
  rw [afterEarlier, hplaces, List.filterMap_append, hbefore, hlast]

namespace AliasLog

variable {l : AliasLog}

/-! ## §2. Recording. -/

theorem ofPairs_concat (pairs : List (Text × Text)) (p : Text × Text) :
    ofPairs (pairs ++ [p]) = (ofPairs pairs).insert p.1 p.2 := by
  rw [ofPairs, List.foldl_append]
  rfl

/-- A pair is appended to the table if its internal name is not there. -/
theorem entries_insert (l : AliasLog) (p : Text × Text) :
    (l.insert p.1 p.2).table.entries
      = l.table.entries ++ (if (l.table.get? p.1).isNone then some p else none).toList := by
  rw [table_insert]
  cases hget : l.table.get? p.1 with
  | none => rw [AliasTable.entries_insert_of_get?_eq_none hget]; rfl
  | some kept => rw [AliasTable.insert_of_get?_eq_some hget]; exact (List.append_nil _).symm

/-- A pair is noted if its internal name is there with another public name. -/
theorem notes_insert (l : AliasLog) (a shown : Text) :
    (l.insert a shown).notes
      = l.notes ++ ((l.table.get? a).bind (fun kept =>
          if kept = shown then none else some (.secondName a kept shown))).toList := by
  unfold insert
  cases l.table.get? a with
  | none => exact (List.append_nil _).symm
  | some kept =>
    by_cases hkept : kept = shown
    · simp [hkept]
    · simp [hkept, note]

/-- **The table holds the pairs whose internal name is new**, in the order in which they came. -/
theorem entries_ofPairs (pairs : List (Text × Text)) :
    (ofPairs pairs).table.entries = firstPairs pairs := by
  induction pairs using List.reverseRecOn with
  | nil => rfl
  | append_singleton pairs p ih =>
    rw [ofPairs_concat, entries_insert, get?_ofPairs, ih]
    exact (afterEarlier_concat _ pairs p).symm

/-- **Later names that differ from the one kept are noted**, one by one. -/
theorem notes_ofPairs (pairs : List (Text × Text)) :
    (ofPairs pairs).notes = secondNames pairs := by
  induction pairs using List.reverseRecOn with
  | nil => rfl
  | append_singleton pairs p ih =>
    rw [ofPairs_concat, notes_insert, get?_ofPairs, ih]
    exact (afterEarlier_concat _ pairs p).symm

/-! ## §3. The table as a map. -/

theorem lookup_eq_none_iff_not_mem (pairs : List (Text × Text)) (a : Text) :
    pairs.lookup a = none ↔ a ∉ pairs.map Prod.fst := by
  rw [List.lookup_eq_none_iff, List.mem_map]
  constructor
  · rintro h ⟨e, he, rfl⟩
    simpa using h e he
  · intro h e he
    exact bne_iff_ne.mpr (fun hname => h ⟨e, he, hname.symm⟩)

/-- The names in the table are those recorded, each in the place where it first came. -/
theorem names_ofPairs (pairs : List (Text × Text)) :
    (ofPairs pairs).table.entries.map Prod.fst = (pairs.map Prod.fst).eraseDups := by
  induction pairs using List.reverseRecOn with
  | nil => rfl
  | append_singleton pairs p ih =>
    -- a name joins the others just if no pair has it yet
    have hlast : ((if (pairs.lookup p.1).isNone then some p else none).toList).map Prod.fst
        = ([p.1].removeAll (pairs.map Prod.fst)).eraseDups := by
      cases hlookup : pairs.lookup p.1 with
      | none =>
        have hnew := (lookup_eq_none_iff_not_mem pairs p.1).mp hlookup
        have hkept : [p.1].removeAll (pairs.map Prod.fst) = [p.1] :=
          List.filter_eq_self.mpr (by simpa using hnew)
        rw [hkept]
        rfl
      | some kept =>
        obtain ⟨us, vs, rfl, -⟩ := List.lookup_eq_some_iff.mp hlookup
        have hgone : [p.1].removeAll ((us ++ (p.1, kept) :: vs).map Prod.fst) = [] :=
          List.filter_eq_nil_iff.mpr (by simp)
        rw [hgone]
        rfl
    rw [ofPairs_concat, entries_insert, get?_ofPairs, List.map_append, ih, List.map_append,
      List.map_singleton, List.eraseDups_append, hlast]

/-- The table has as many entries as there are names. -/
theorem size_ofPairs (pairs : List (Text × Text)) :
    (ofPairs pairs).table.size = (pairs.map Prod.fst).toFinset.card := by
  have hnodup : ((ofPairs pairs).table.entries.map Prod.fst).Nodup :=
    List.pairwise_map.mpr (distinct_ofPairs pairs)
  have hnames : ((ofPairs pairs).table.entries.map Prod.fst).toFinset
      = (pairs.map Prod.fst).toFinset := by
    ext a
    rw [names_ofPairs, List.mem_toFinset, List.mem_toFinset, List.mem_eraseDups]
  rw [← hnames, List.toFinset_card_of_nodup hnodup, List.length_map]
  rfl

/-- **A table is a map in which the first name stays.**  Its entries are the internal names that
were recorded, each once and in the place where it first came, with the public names that came
with them then; these are what is found for them, and nothing is found for another name.  A name
that came again is noted if its public name is not the one in the table. -/
theorem ofPairs_isFirstMap (pairs : List (Text × Text)) :
    (ofPairs pairs).table.entries.map Prod.fst = (pairs.map Prod.fst).eraseDups
      ∧ (∀ e ∈ (ofPairs pairs).table.entries, pairs.lookup e.1 = some e.2)
      ∧ (∀ a, (ofPairs pairs).table.get? a = pairs.lookup a)
      ∧ (∀ a, (ofPairs pairs).table.get? a = none ↔ a ∉ pairs.map Prod.fst)
      ∧ (ofPairs pairs).table.size = (pairs.map Prod.fst).toFinset.card
      ∧ (ofPairs pairs).notes = secondNames pairs := by
  have hfirst : ∀ e ∈ (ofPairs pairs).table.entries, pairs.lookup e.1 = some e.2 := by
    intro e he
    rw [← get?_ofPairs]
    exact (lookup_eq_some_iff_mem (distinct_ofPairs pairs)).mpr he
  have hother : ∀ a, (ofPairs pairs).table.get? a = none ↔ a ∉ pairs.map Prod.fst := by
    intro a
    rw [get?_ofPairs]
    exact lookup_eq_none_iff_not_mem pairs a
  exact ⟨names_ofPairs pairs, hfirst, get?_ofPairs pairs, hother, size_ofPairs pairs,
    notes_ofPairs pairs⟩

/-- A name that comes three times is kept once and noted once. -/
example : ofPairs [("a", "x"), ("b", "y"), ("a", "x"), ("a", "z")]
    = ⟨⟨[("a", "x"), ("b", "y")]⟩, [.secondName "a" "x" "z"]⟩ := by decide

end AliasLog

end ScriptWeave
