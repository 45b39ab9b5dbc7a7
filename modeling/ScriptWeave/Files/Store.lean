/-
  ScriptWeave.Files.Store
  ───────────────────────
  **FILES, DIRECTORIES AND LINKS.**

  The store holds what there is below the working directory: at each
  location, which is the list of names that leads to it, a file, a directory
  or a symbolic link.  The working directory itself is always there.

      (s.put l e).get? l = some e
      (s.put l e).get? m = s.get? m       for m ≠ l
-/
import ScriptWeave.Files.Path
import ScriptWeave.Sorted

namespace ScriptWeave

/-- The names that lead to an entry. -/
abbrev Location := List Text

/-- What there can be at a location. -/
inductive Entry where
  /-- A file with its bytes. -/
  | file (bytes : ByteArray)
  /-- A directory. -/
  | dir
  /-- A symbolic link. -/
  | link (target : Text)

/-- Entries are equal if they are of one kind and hold the same. -/
instance : DecidableEq Entry
  | .file ⟨a⟩, .file ⟨b⟩ => decidable_of_iff (a = b) (by simp)
  | .dir, .dir => .isTrue rfl
  | .link t, .link u => decidable_of_iff (t = u) (by simp)
  | .file _, .dir => .isFalse (by simp)
  | .file _, .link _ => .isFalse (by simp)
  | .dir, .file _ => .isFalse (by simp)
  | .dir, .link _ => .isFalse (by simp)
  | .link _, .file _ => .isFalse (by simp)
  | .link _, .dir => .isFalse (by simp)

/-- What there is below the working directory. -/
structure Files where
  /-- The entries with their locations. -/
  entries : List (Location × Entry)
  deriving DecidableEq

namespace Files

/-- Nothing. -/
def empty : Files := ⟨[]⟩

/-- What there is at a location. -/
def get? (s : Files) (l : Location) : Option Entry := s.entries.lookup l

/-- Puts an entry at a location. -/
def put (s : Files) (l : Location) (e : Entry) : Files :=
  ⟨(l, e) :: s.entries.filter (fun x => x.1 != l)⟩

/-- Takes the entry at a location away. -/
def erase (s : Files) (l : Location) : Files := ⟨s.entries.filter (fun x => x.1 != l)⟩

/-- Takes the entry at a location away, with all below it. -/
def eraseTree (s : Files) (l : Location) : Files :=
  ⟨s.entries.filter (fun x => !l.isPrefixOf x.1)⟩

/-- Moves the entry at a location, with all below it, to another location. -/
def moveTree (s : Files) (l m : Location) : Files :=
  let s' := if l = m then s else s.eraseTree m
  ⟨s'.entries.map (fun x => if l.isPrefixOf x.1 then (m ++ x.1.drop l.length, x.2) else x)⟩

/-- The names directly below a location, in order. -/
def namesIn (s : Files) (l : Location) : List Text :=
  Sorted.sort Json.textLe
    (s.entries.filterMap (fun x =>
      if x.1.length = l.length + 1 && l.isPrefixOf x.1 then x.1.getLast? else none))

/-! ## §1. Laws. -/

theorem lookup_filter_ne {l m : Location} (h : m ≠ l) (xs : List (Location × Entry)) :
    (xs.filter (fun x => x.1 != l)).lookup m = xs.lookup m := by
  induction xs with
  | nil => rfl
  | cons x xs ih =>
    obtain ⟨k, e⟩ := x
    by_cases hk : k = l
    · have hm : (m == k) = false := by simpa [hk] using h
      rw [List.filter_cons_of_neg (by simp [hk]), List.lookup_cons, hm, ih]
    · rw [List.filter_cons_of_pos (by simpa using hk), List.lookup_cons, List.lookup_cons, ih]

theorem get?_put_self (s : Files) (l : Location) (e : Entry) :
    (s.put l e).get? l = some e := by
  simp [get?, put]

theorem get?_put_of_ne (s : Files) {l m : Location} (e : Entry) (h : m ≠ l) :
    (s.put l e).get? m = s.get? m := by
  have hm : (m == l) = false := by simpa using h
  simp [get?, put, List.lookup_cons, hm, lookup_filter_ne h]

theorem get?_erase_self (s : Files) (l : Location) : (s.erase l).get? l = none := by
  refine List.lookup_eq_none_iff.mpr ?_
  intro x hx
  have hne : x.1 ≠ l := by simpa using (List.mem_filter.mp hx).2
  simpa using hne.symm

theorem get?_erase_of_ne (s : Files) {l m : Location} (h : m ≠ l) :
    (s.erase l).get? m = s.get? m := by
  simp [get?, erase, lookup_filter_ne h]

end Files

end ScriptWeave
