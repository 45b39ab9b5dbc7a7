/-
  ScriptWeave.Proofs.Script.RecordedAliases
  ─────────────────────────────────────────
  **WHAT EXPORTS RECORD IS WELL FORMED.**

  A dialect may bring any two patterns: one that matches the empty text, one
  whose list takes no part in a match, a separator that stands at the end of
  an entry.  Whatever they are, an alias table that exports are recorded in
  has every internal name once, and names that are not empty, have no comma
  and neither begin nor end with white space.

      an entry without comma  →  parts without comma, trimmed
                              →  none recorded that is empty

  An adapted script is made by replacements of names and of the sigil.  None
  of them replaces the empty text, which would put something in everywhere.
-/
import ScriptWeave.Proofs.Alias.Order
import ScriptWeave.Proofs.Pattern.Gaps
import ScriptWeave.Proofs.Script.Sigils
import ScriptWeave.Proofs.Text.Cuts
import ScriptWeave.Script.Adapted

namespace ScriptWeave

open Text

/-! ## §1. Well-formed tables. -/

/-- A part of an entry: without comma, and without white space at its ends. -/
def IsAliasPart (a : Text) : Prop := ',' ∉ a ∧ IsTrimmed a

/-- A name as a table holds it: a part that is not empty. -/
def IsAliasName (a : Text) : Prop := a ≠ [] ∧ IsAliasPart a

/-- A table with names only, and every internal name once. -/
structure AliasTable.WellFormed (t : AliasTable) : Prop where
  distinct : t.Distinct
  internal_ok : ∀ e ∈ t.entries, IsAliasName e.1
  shown_ok : ∀ e ∈ t.entries, IsAliasName e.2

namespace AliasTable

theorem wellFormed_empty : AliasTable.empty.WellFormed where
  distinct := List.Pairwise.nil
  internal_ok _ he := absurd he List.not_mem_nil
  shown_ok _ he := absurd he List.not_mem_nil

/-- An entry of a table with one more pair was there or is that pair. -/
theorem mem_entries_insert {t : AliasTable} {a shown : Text} {e : Text × Text}
    (h : e ∈ (t.insert a shown).entries) : e ∈ t.entries ∨ e = (a, shown) := by
  unfold insert at h
  split at h
  next => exact Or.inl h
  next => exact (List.mem_append.mp h).imp id List.mem_singleton.mp

/-- Recording a name for a name keeps a table well formed. -/
theorem WellFormed.insert {t : AliasTable} (h : t.WellFormed) {a shown : Text} (ha : IsAliasName a)
    (hs : IsAliasName shown) : (t.insert a shown).WellFormed where
  distinct := distinct_insert h.distinct a shown
  internal_ok e he := by
    rcases mem_entries_insert he with he | rfl
    · exact h.internal_ok e he
    · exact ha
  shown_ok e he := by
    rcases mem_entries_insert he with he | rfl
    · exact h.shown_ok e he
    · exact hs

end AliasTable

/-! ## §2. Recording. -/

namespace AliasLog

variable {l : AliasLog}

/-- Two parts of an entry: an empty internal name records nothing, and for an empty public name
the internal one stands in. -/
theorem wellFormed_recordNames (h : l.table.WellFormed) (entry : Text) {a shown : Text}
    (ha : IsAliasPart a) (hs : IsAliasPart shown) :
    (recordParts.recordNames l entry a shown).table.WellFormed := by
  unfold recordParts.recordNames
  split
  next => exact h
  next hne =>
    have haName : IsAliasName a := ⟨by simpa using hne, ha⟩
    split
    next =>
      rw [table_insert]
      exact h.insert haName haName
    next hne' =>
      rw [table_insert]
      exact h.insert haName ⟨by simpa using hne', hs⟩

theorem wellFormed_recordParts (h : l.table.WellFormed) (entry : Text) {parts : List Text}
    (hparts : ∀ a ∈ parts, IsAliasPart a) : (l.recordParts entry parts).table.WellFormed := by
  unfold recordParts
  split
  next => exact h
  next name =>
    have hname := hparts name List.mem_cons_self
    exact wellFormed_recordNames h entry hname hname
  next a shown =>
    exact wellFormed_recordNames h entry (hparts a List.mem_cons_self)
      (hparts shown (List.mem_cons_of_mem a List.mem_cons_self))
  next a shown rest _ =>
    -- the note about further parts leaves the table alone
    have hnoted : (l.note (.extraParts entry)).table.WellFormed := h
    exact wellFormed_recordNames hnoted entry (hparts a List.mem_cons_self)
      (hparts shown (List.mem_cons_of_mem a List.mem_cons_self))

/-- **An entry without comma keeps a table well formed**, whatever the separator. -/
theorem wellFormed_recordEntry (rules : DialectRules) (h : l.table.WellFormed) {entry : Text}
    (hentry : ',' ∉ entry) : (l.recordEntry rules entry).table.WellFormed := by
  unfold recordEntry
  dsimp only
  split
  next => exact h
  next =>
    apply wellFormed_recordParts h
    intro a ha
    obtain ⟨part, hpart, rfl⟩ := List.mem_map.mp ha
    refine ⟨?_, isTrimmed_trim part⟩
    intro hcomma
    exact hentry (mem_of_mem_trim (Pattern.mem_of_mem_split hpart (mem_of_mem_trim hcomma)))

theorem wellFormed_recordList (rules : DialectRules) (h : l.table.WellFormed) (list : Text) :
    (l.recordList rules list).table.WellFormed :=
  List.foldlRecOn (motive := fun l : AliasLog => l.table.WellFormed) _ _ h
    (fun _ hl _ hentry => wellFormed_recordEntry rules hl (not_mem_of_mem_splitOn hentry))

end AliasLog

/-- **The table of a script is well formed**, whatever the rules. -/
theorem wellFormed_collectExports (rules : DialectRules) (source : Text) :
    (collectExports rules source).table.WellFormed :=
  List.foldlRecOn (motive := fun l : AliasLog => l.table.WellFormed) _ _
    AliasTable.wellFormed_empty (fun _ hl list _ => AliasLog.wellFormed_recordList rules hl list)

/-! ## §3. Replacements. -/

/-- What an adapted script replaces in a text, in order: internal names that differ from their
public names, and then the sigil. -/
def replacements (rules : DialectRules) (order : RenameOrder) (source : Text) :
    List (Text × Text) :=
  ((collectExports rules source).table.ordered order).filter (fun e => e.1 ≠ e.2)
    ++ [([rules.sigil], rules.sigilReplacement)]

/-- Applies replacements one after the other. -/
def replaceEach (rs : List (Text × Text)) (t : Text) : Text :=
  rs.foldl (fun t r => Text.replace r.1 r.2 t) t

theorem applyRenames_eq_replaceEach (table : AliasTable) (order : RenameOrder) (t : Text) :
    applyRenames table order t
      = replaceEach ((table.ordered order).filter (fun e => e.1 ≠ e.2)) t := by
  rw [applyRenames, replaceEach, List.foldl_filter]
  congr 1
  funext t e
  by_cases he : e.1 = e.2 <;> simp [applyRename, he]

/-- An adapted script is made by its replacements, before declarations are replaced. -/
theorem adapt_code_eq (rules : DialectRules) (order : RenameOrder) (source map : Text) :
    (adapt rules order source map).code
      = downgrade rules
          (replaceEach (replacements rules order source) (deleteExports rules source)) := by
  show adaptCode rules order _ source = _
  rw [adaptCode, sanitize_eq_replace, applyRenames_eq_replaceEach, replacements, replaceEach,
    replaceEach, List.foldl_append]
  rfl

theorem replacements_ne_nil (rules : DialectRules) (order : RenameOrder) (source : Text) :
    ∀ r ∈ replacements rules order source, r.1 ≠ [] := by
  intro r hr
  rcases List.mem_append.mp hr with hr | hr
  · have hmem := ((AliasTable.ordered_perm _ order).mem_iff).mp (List.mem_filter.mp hr).1
    exact ((wellFormed_collectExports rules source).internal_ok r hmem).1
  · rw [List.mem_singleton.mp hr]
    exact List.cons_ne_nil _ _

/-- **The alias table of an accepted dialect is well formed**, and no replacement of the empty text
is performed: neither of a name nor of the sigil, nor of a keyword. -/
theorem recordedAliases_spec {d : Dialect} {rules : DialectRules} (h : d.rules = .ok rules)
    (source : Text) :
    (collectExports rules source).table.WellFormed
      ∧ (∀ order map,
          (adapt rules order source map).code
            = downgrade rules
                (replaceEach (replacements rules order source) (deleteExports rules source))
          ∧ ∀ r ∈ replacements rules order source, r.1 ≠ [])
      ∧ Pattern.Advances rules.declaration := by
  obtain ⟨e, s, k, -, -, -, hkeyword, hread, rfl⟩ := Dialect.rules_eq_ok_iff.mp h
  obtain rfl := Dialect.eq_wholeWord_of_readPattern hread
  refine ⟨wellFormed_collectExports _ source, ?_, ?_⟩
  · intro order map
    exact ⟨adapt_code_eq _ order source map, replacements_ne_nil _ order source⟩
  · apply Pattern.advances_wholeWord
    intro hnil
    rw [hnil] at hkeyword
    exact absurd hkeyword (by decide)

/-- A dialect whose export pattern also matches the empty text, or without its list, and whose
separator also stands at the end of an entry. -/
def nullableDialect : Dialect :=
  { Dialect.builtin with
    exportPattern := "(?:<([^>]*)>|<)?", aliasSeparator := "(?:\\s*:)+|$" }

/-- An entry without an internal name, one without a public name, and one without a separator. -/
theorem recordedAliases_nullableDialect :
    ∃ rules, nullableDialect.rules = .ok rules
      ∧ (collectExports rules "a<b::c,:d,e :,f>$<").table = ⟨[("b", "c"), ("e", "e"), ("f", "f")]⟩
      ∧ (collectExports rules "a<b::c,:d,e :,f>$<").table.WellFormed
      ∧ (∀ r ∈ replacements rules .longestFirst "a<b::c,:d,e :,f>$<", r.1 ≠ [])
      ∧ Pattern.Advances rules.declaration := by
  have htable : nullableDialect.rules.toOption.map
      (fun rules => (collectExports rules "a<b::c,:d,e :,f>$<").table)
        = some ⟨[("b", "c"), ("e", "e"), ("f", "f")]⟩ := by
    decide +kernel
  cases hrules : nullableDialect.rules with
  | error e =>
    rw [hrules] at htable
    exact absurd htable (by simp [Except.toOption])
  | ok rules =>
    rw [hrules] at htable
    obtain ⟨hwell, hcode, hkeyword⟩ := recordedAliases_spec hrules "a<b::c,:d,e :,f>$<"
    exact ⟨rules, rfl, Option.some.inj htable, hwell, (hcode .longestFirst []).2, hkeyword⟩

end ScriptWeave
