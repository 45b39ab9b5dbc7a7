/-
  ScriptWeave.Alias.Table
  ───────────────────────
  **THE ALIAS TABLE.**

  A compiled script exports its names under other names.  The table holds, in
  the order in which they were met, the internal names and the public name of
  each.  The first public name recorded for an internal name stays; a later
  one that differs is worth a note.

      (t.insert a p).get? a = some p       when t knows no a
      (t.insert a p) = t                   when t knows a
-/
import ScriptWeave.Sorted
import ScriptWeave.Text.Basic

namespace ScriptWeave

/-! ## §1. The table. -/

/-- Internal names with their public names, in the order of discovery. -/
structure AliasTable where
  /-- The pairs of an internal and a public name. -/
  entries : List (Text × Text)
  deriving Repr, DecidableEq, Inhabited

namespace AliasTable

/-- The table without entries. -/
def empty : AliasTable := ⟨[]⟩

/-- The public name of an internal name. -/
def get? (t : AliasTable) (internal : Text) : Option Text := t.entries.lookup internal

/-- The number of entries. -/
def size (t : AliasTable) : Nat := t.entries.length

/-- Whether there are no entries. -/
def isEmpty (t : AliasTable) : Bool := t.entries.isEmpty

/-- Records a public name unless the internal name has one. -/
def insert (t : AliasTable) (internal shown : Text) : AliasTable :=
  match t.get? internal with
  | some _ => t
  | none => ⟨t.entries ++ [(internal, shown)]⟩

theorem insert_of_get?_eq_some {t : AliasTable} {internal shown kept : Text}
    (h : t.get? internal = some kept) : t.insert internal shown = t := by
  simp [insert, h]

theorem entries_insert_of_get?_eq_none {t : AliasTable} {internal shown : Text}
    (h : t.get? internal = none) :
    (t.insert internal shown).entries = t.entries ++ [(internal, shown)] := by
  simp [insert, h]

end AliasTable

/-! ## §2. Notes. -/

/-- Something odd about an export list that does not stop the work. -/
inductive AliasNote where
  /-- An internal name has a second public name, which is ignored. -/
  | secondName (internal kept ignored : Text)
  /-- An entry has a third part, which is ignored with all that follow. -/
  | extraParts (entry : Text)
  /-- An entry has no internal name and is skipped. -/
  | noInternalName (entry : Text)
  /-- An entry has no public name and stands for itself. -/
  | noPublicName (entry : Text)
  deriving Repr, DecidableEq

/-- A table under construction, with the notes made so far. -/
structure AliasLog where
  /-- The table. -/
  table : AliasTable
  /-- The notes in order. -/
  notes : List AliasNote
  deriving Repr, DecidableEq

namespace AliasLog

/-- Nothing recorded and nothing noted. -/
def empty : AliasLog := ⟨.empty, []⟩

/-- Adds a note. -/
def note (l : AliasLog) (n : AliasNote) : AliasLog := { l with notes := l.notes ++ [n] }

/-- Records a public name; if the internal name has a different one, notes that. -/
def insert (l : AliasLog) (internal shown : Text) : AliasLog :=
  match l.table.get? internal with
  | none => { l with table := l.table.insert internal shown }
  | some kept => if kept = shown then l else l.note (.secondName internal kept shown)

/-- Inserting changes the table as the table's own insertion does. -/
@[simp] theorem table_insert (l : AliasLog) (internal shown : Text) :
    (l.insert internal shown).table = l.table.insert internal shown := by
  unfold insert
  cases h : l.table.get? internal with
  | none => rfl
  | some kept =>
    rw [AliasTable.insert_of_get?_eq_some h]
    by_cases hk : kept = shown <;> simp [hk, note]

/-- Records many pairs, the first one first. -/
def ofPairs (pairs : List (Text × Text)) : AliasLog :=
  pairs.foldl (fun l p => l.insert p.1 p.2) .empty

end AliasLog

/-! ## §3. The order of renames. -/

/-- In which order renames are applied. -/
inductive RenameOrder where
  /-- In the order of discovery. -/
  | discovery
  /-- The longest internal name first, counted in bytes; names of one length in the order
  of discovery. -/
  | longestFirst
  deriving Repr, DecidableEq, Inhabited

/-- The entries in the order in which they are applied. -/
def AliasTable.ordered (t : AliasTable) : RenameOrder → List (Text × Text)
  | .discovery => t.entries
  | .longestFirst =>
    Sorted.sort (fun a b => Text.byteSize b.1 ≤ Text.byteSize a.1) t.entries

end ScriptWeave
