/-
  ScriptWeave.Proofs.Script.WrittenExports
  ────────────────────────────────────────
  **EXPORT STATEMENTS AS A COMPILER WRITES THEM.**

  A well-formed statement is written from its entries, with white space of
  any amount wherever it may stand and perhaps a comma behind the last entry:

      export { a as p, b , c as q, } ;

  Reading a script that such statements are woven into gives the entries back
  in order, and leaves what stood between the statements.

      collectExports (weave t parts) = ofPairs (the names of all entries)
      deleteExports  (weave t parts) = the texts of t and parts
-/
import ScriptWeave.Proofs.Script.ExportScan

namespace ScriptWeave

open Pattern Text

/-! ## §1. Written entries. -/

/-- A name as it can stand in an export list: not empty, without white space, commas and closing
braces. -/
def IsEntryName (a : Text) : Prop := a ≠ [] ∧ ∀ c ∈ a, isBlank c = false ∧ c ≠ ',' ∧ c ≠ '}'

instance (a : Text) : Decidable (IsEntryName a) :=
  decidable_of_iff (a ≠ [] ∧ a.all (fun c => !isBlank c && c != ',' && c != '}') = true)
    (by simp [IsEntryName, and_assoc])

/-- The public name of an entry as it is written: behind the word `as`, with white space on both
sides of the word. -/
structure WrittenPublic where
  /-- The white space before the word. -/
  before : Text
  /-- The white space behind the word. -/
  behind : Text
  /-- The name. -/
  name : Text
  before_run : IsRun isBlank before
  behind_run : IsRun isBlank behind
  name_ok : IsEntryName name

/-- An entry as it is written. -/
structure WrittenEntry where
  /-- The white space before the entry. -/
  before : Text
  /-- The internal name. -/
  internal : Text
  /-- The public name, if it is written. -/
  shown? : Option WrittenPublic
  /-- The white space behind the entry. -/
  behind : Text
  before_blanks : IsBlanks before
  internal_ok : IsEntryName internal
  behind_blanks : IsBlanks behind

namespace WrittenEntry

/-- The internal and the public name of an entry. -/
def names (e : WrittenEntry) : Text × Text :=
  match e.shown? with
  | none => (e.internal, e.internal)
  | some s => (e.internal, s.name)

/-- An entry without the white space around it. -/
def core (e : WrittenEntry) : Text :=
  match e.shown? with
  | none => e.internal
  | some s => e.internal ++ ((s.before ++ asWord ++ s.behind) ++ s.name)

/-- An entry as text. -/
def text (e : WrittenEntry) : Text := e.before ++ e.core ++ e.behind

end WrittenEntry

theorem ne_of_isBlank {c d : Char} (hc : isBlank c = true) (hd : isBlank d = false) : c ≠ d := by
  rintro rfl
  rw [hc] at hd
  exact absurd hd (by decide)

theorem IsEntryName.no_blank {a : Text} (h : IsEntryName a) : ∀ c ∈ a, isBlank c = false :=
  fun c hc => (h.2 c hc).1

theorem IsEntryName.isTrimmed {a : Text} (h : IsEntryName a) : IsTrimmed a :=
  isTrimmed_of_no_blank h.no_blank

namespace WrittenEntry

variable (e : WrittenEntry)

theorem core_ne_nil : e.core ≠ [] := by
  unfold core
  split
  next => exact e.internal_ok.1
  next => exact fun h => e.internal_ok.1 (List.append_eq_nil_iff.mp h).1

theorem isTrimmed_core : IsTrimmed e.core := by
  unfold core
  split
  next => exact e.internal_ok.isTrimmed
  next s _ =>
    rw [← List.append_assoc]
    exact isTrimmed_append_append e.internal_ok.isTrimmed s.name_ok.isTrimmed e.internal_ok.1
      s.name_ok.1 _

theorem trim_text : trim e.text = e.core :=
  trim_append e.before_blanks e.behind_blanks e.isTrimmed_core e.core_ne_nil

/-- An entry has no comma and no closing brace. -/
theorem mem_text {c : Char} (h : c ∈ e.text) : c ≠ ',' ∧ c ≠ '}' := by
  have hblank : isBlank c = true → c ≠ ',' ∧ c ≠ '}' :=
    fun hc => ⟨ne_of_isBlank hc (by decide), ne_of_isBlank hc (by decide)⟩
  have has : c ∈ asWord → c ≠ ',' ∧ c ≠ '}' := by
    intro hc
    rcases (by simpa [asWord] using hc : c = 'a' ∨ c = 's') with rfl | rfl <;> decide
  have hcore : c ∈ e.core → c ≠ ',' ∧ c ≠ '}' := by
    unfold core
    split
    next => exact fun hc => (e.internal_ok.2 c hc).2
    next s _ =>
      simp only [List.mem_append]
      rintro (hc | ((hc | hc) | hc) | hc)
      · exact (e.internal_ok.2 c hc).2
      · exact hblank (s.before_run.2 c hc)
      · exact has hc
      · exact hblank (s.behind_run.2 c hc)
      · exact (s.name_ok.2 c hc).2
  rw [text, List.mem_append, List.mem_append] at h
  rcases h with (h | h) | h
  · exact hblank (e.before_blanks c h)
  · exact hcore h
  · exact hblank (e.behind_blanks c h)

/-- The parts of an entry are its names, the public one only if it is written. -/
theorem split_core :
    (DialectRules.builtin.aliasSeparator.split e.core).map trim
      = e.internal :: (e.shown?.map WrittenPublic.name).toList := by
  have hin : trim e.internal = e.internal := trim_eq_self e.internal_ok.isTrimmed e.internal_ok.1
  unfold core
  split
  next hs =>
    rw [split_separator_name e.internal_ok.no_blank, hs]
    simp [hin]
  next s hs =>
    have hout : trim s.name = s.name := trim_eq_self s.name_ok.isTrimmed s.name_ok.1
    rw [split_separator_names e.internal_ok.no_blank s.before_run s.behind_run
      s.name_ok.no_blank, hs]
    simp [hin, hout]

theorem recordNames_eq_insert (l : AliasLog) {entry a b : Text} (ha : a ≠ []) (hb : b ≠ []) :
    AliasLog.recordParts.recordNames l entry a b = l.insert a b := by
  rw [AliasLog.recordParts.recordNames, if_neg (by simpa using ha), if_neg (by simpa using hb)]

/-- **A written entry records its names**, and nothing is noted about its form. -/
theorem recordEntry_text (l : AliasLog) :
    l.recordEntry .builtin e.text = l.insert e.names.1 e.names.2 := by
  have hne : e.core.isEmpty = false := by simpa using e.core_ne_nil
  simp only [AliasLog.recordEntry, e.trim_text, hne, e.split_core, Bool.false_eq_true, if_false]
  unfold names
  split
  next hs =>
    rw [hs]
    exact recordNames_eq_insert l e.internal_ok.1 e.internal_ok.1
  next s hs =>
    rw [hs]
    exact recordNames_eq_insert l e.internal_ok.1 s.name_ok.1

end WrittenEntry

/-! ## §2. Written statements. -/

/-- An export statement as it is written. -/
structure WrittenExport where
  /-- The white space before the list. -/
  beforeList : Text
  /-- The entries. -/
  entries : List WrittenEntry
  /-- If there is a comma behind the last entry, the white space that follows it. -/
  behindComma? : Option Text
  /-- The white space before the semicolon. -/
  beforeEnd : Text
  beforeList_blanks : IsBlanks beforeList
  entries_ne_nil : entries ≠ []
  behindComma_blanks : ∀ w ∈ behindComma?, IsBlanks w
  beforeEnd_blanks : IsBlanks beforeEnd

namespace WrittenExport

variable (s : WrittenExport)

/-- What is written between the commas. -/
def parts : List Text := s.entries.map WrittenEntry.text ++ s.behindComma?.toList

/-- What is written between the braces. -/
def list : Text := join [','] s.parts

/-- A statement as text. -/
def text : Text := exportText s.beforeList s.list s.beforeEnd

/-- The names of the entries. -/
def pairs : List (Text × Text) := s.entries.map WrittenEntry.names

theorem mem_parts {t : Text} {c : Char} (ht : t ∈ s.parts) (hc : c ∈ t) : c ≠ ',' ∧ c ≠ '}' := by
  rw [parts, List.mem_append] at ht
  rcases ht with ht | ht
  · obtain ⟨e, -, rfl⟩ := List.mem_map.mp ht
    exact e.mem_text hc
  · have hblank := s.behindComma_blanks t (Option.mem_toList.mp ht) c hc
    exact ⟨ne_of_isBlank hblank (by decide), ne_of_isBlank hblank (by decide)⟩

theorem parts_ne_nil : s.parts ≠ [] := by
  intro h
  exact s.entries_ne_nil (List.map_eq_nil_iff.mp (List.append_eq_nil_iff.mp h).1)

theorem brace_not_mem_list : '}' ∉ s.list := by
  intro h
  rcases mem_join h with h | ⟨t, ht, hc⟩
  · exact absurd h (by decide)
  · exact (s.mem_parts ht hc).2 rfl

theorem list_ne_nil : s.list ≠ [] := by
  obtain ⟨e, es, he⟩ := List.exists_cons_of_ne_nil s.entries_ne_nil
  have htext : e.text ≠ [] := by
    intro h
    rw [WrittenEntry.text, List.append_eq_nil_iff, List.append_eq_nil_iff] at h
    exact e.core_ne_nil h.1.2
  rw [list, parts, he, List.map_cons, List.cons_append]
  intro h
  -- the first entry alone is the list, or a comma follows it
  cases hrest : es.map WrittenEntry.text ++ s.behindComma?.toList with
  | nil =>
    rw [hrest] at h
    exact htext h
  | cons t ts =>
    rw [hrest, join, List.append_assoc, List.append_eq_nil_iff] at h
    · exact htext h.1
    · exact List.cons_ne_nil t ts

/-- A written statement as it is read. -/
def read : ReadExport :=
  ⟨s.beforeList, s.list, s.beforeEnd, s.beforeList_blanks, s.list_ne_nil, s.brace_not_mem_list,
    s.beforeEnd_blanks⟩

theorem split_list : splitOn ',' s.list = s.parts :=
  splitOn_join s.parts_ne_nil (fun _ ht hc => (s.mem_parts ht hc).1 rfl)

theorem recordEntry_blanks (l : AliasLog) {w : Text} (hw : IsBlanks w) :
    l.recordEntry .builtin w = l := by
  simp only [AliasLog.recordEntry, trim_blanks hw, List.isEmpty_nil, if_true]

/-- Records the names of entries, one after the other. -/
def record (l : AliasLog) (pairs : List (Text × Text)) : AliasLog :=
  pairs.foldl (fun l p => l.insert p.1 p.2) l

theorem recordEntries_text (l : AliasLog) (es : List WrittenEntry) :
    (es.map WrittenEntry.text).foldl (AliasLog.recordEntry .builtin) l
      = record l (es.map WrittenEntry.names) := by
  induction es generalizing l with
  | nil => rfl
  | cons e es ih =>
    rw [List.map_cons, List.foldl_cons, e.recordEntry_text, ih]
    rfl

/-- **The list of a written statement records the names of its entries.** -/
theorem recordList_list (l : AliasLog) : l.recordList .builtin s.list = record l s.pairs := by
  rw [AliasLog.recordList, s.split_list, parts, List.foldl_append, recordEntries_text, pairs]
  cases hc : s.behindComma? with
  | none => rfl
  | some w => exact recordEntry_blanks _ (s.behindComma_blanks w hc)

end WrittenExport

/-! ## §3. Scripts. -/

/-- A script: a text, and statements each with the text that follows it. -/
def weave (t : Text) (parts : List (WrittenExport × Text)) : Text :=
  t ++ parts.flatMap (fun p => p.1.text ++ p.2)

/-- The texts between the statements, without them. -/
def unwoven (t : Text) (parts : List (WrittenExport × Text)) : Text :=
  t ++ parts.flatMap Prod.snd

/-- The names of all entries, statement by statement. -/
def writtenPairs (parts : List (WrittenExport × Text)) : List (Text × Text) :=
  parts.flatMap (fun p => p.1.pairs)

/-- The statements of a woven script, each with the text before it. -/
def wovenCuts (t : Text) : List (WrittenExport × Text) → List (Text × ReadExport)
  | [] => []
  | (s, u) :: parts => (t, s.read) :: wovenCuts u parts

/-- The text behind the last statement. -/
def lastWoven (t : Text) : List (WrittenExport × Text) → Text
  | [] => t
  | (_, u) :: parts => lastWoven u parts

section

variable {t : Text} {parts : List (WrittenExport × Text)}

/-- Inside a text without the word no statement begins, whatever statement follows. -/
theorem not_beginsExport_of_not_infix (ht : ¬ exportWord <:+: t) {a b : Text} {x : Char}
    (hab : t = a ++ x :: b) (s : ReadExport) (u : Text) :
    ¬ BeginsExport (x :: b ++ (s.text ++ u)) := by
  have hnot : ¬ exportWord <+: x :: b := by
    intro hpre
    apply ht
    rw [hab]
    exact hpre.isInfix.trans (List.suffix_append a (x :: b)).isInfix
  intro hbegins
  have hpre := hbegins.beginsWord
  rw [ReadExport.text, exportText, List.append_assoc] at hpre
  exact not_prefix_append_exportWord (List.cons_ne_nil x b) hnot _ hpre

/-- **A woven script is cut where its statements were written.** -/
theorem cutAtExports_weave (ht : ¬ exportWord <:+: t) (hp : ∀ p ∈ parts, ¬ exportWord <:+: p.2) :
    CutAtExports (weave t parts) (wovenCuts t parts) (lastWoven t parts) := by
  induction parts generalizing t with
  | nil =>
    rw [weave, List.flatMap_nil, List.append_nil]
    exact .done (fun v hv hbegins => ht (hbegins.beginsWord.isInfix.trans hv.isInfix))
  | cons p parts ih =>
    obtain ⟨s, u⟩ := p
    have hweave : weave t ((s, u) :: parts) = t ++ (s.read.text ++ weave u parts) := by
      simp [weave, ReadExport.text, WrittenExport.read, WrittenExport.text]
    rw [hweave]
    exact .next (fun a x b hab => not_beginsExport_of_not_infix ht hab s.read (weave u parts))
      (ih (hp (s, u) List.mem_cons_self) (fun p h => hp p (List.mem_cons_of_mem _ h)))

theorem gaps_wovenCuts (t : Text) (parts : List (WrittenExport × Text)) :
    (wovenCuts t parts).flatMap Prod.fst ++ lastWoven t parts = unwoven t parts := by
  induction parts generalizing t with
  | nil => exact (List.append_nil t).symm
  | cons p parts ih =>
    rw [wovenCuts, lastWoven, List.flatMap_cons, List.append_assoc, ih]
    rfl

theorem lists_wovenCuts (t : Text) (parts : List (WrittenExport × Text)) :
    (wovenCuts t parts).map (fun c => c.2.list) = parts.map (fun p => p.1.list) := by
  induction parts generalizing t with
  | nil => rfl
  | cons p parts ih =>
    rw [wovenCuts, List.map_cons, List.map_cons, ih]
    rfl

/-- **Deleting the statements leaves the texts between them.** -/
theorem deleteExports_weave (ht : ¬ exportWord <:+: t)
    (hp : ∀ p ∈ parts, ¬ exportWord <:+: p.2) :
    deleteExports .builtin (weave t parts) = unwoven t parts := by
  rw [(cutAtExports_weave ht hp).deleteExports_eq, gaps_wovenCuts]

theorem recordLists (l : AliasLog) (parts : List (WrittenExport × Text)) :
    (parts.map (fun p => p.1.list)).foldl (AliasLog.recordList .builtin) l
      = WrittenExport.record l (writtenPairs parts) := by
  induction parts generalizing l with
  | nil => rfl
  | cons p parts ih =>
    have hpairs : writtenPairs (p :: parts) = p.1.pairs ++ writtenPairs parts := List.flatMap_cons
    rw [List.map_cons, List.foldl_cons, p.1.recordList_list, ih, hpairs]
    exact List.foldl_append.symm

/-- **The statements record the names of their entries in order.** -/
theorem collectExports_weave (ht : ¬ exportWord <:+: t)
    (hp : ∀ p ∈ parts, ¬ exportWord <:+: p.2) :
    collectExports .builtin (weave t parts) = AliasLog.ofPairs (writtenPairs parts) := by
  rw [collectExports, (cutAtExports_weave ht hp).exportLists_eq, lists_wovenCuts, recordLists]
  rfl

end

end ScriptWeave
