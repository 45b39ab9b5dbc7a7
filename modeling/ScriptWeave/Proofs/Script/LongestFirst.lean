/-
  ScriptWeave.Proofs.Script.LongestFirst
  ──────────────────────────────────────
  **WHAT RENAMING LONGEST NAMES FIRST DOES TO A RUN.**

  Entries of a table whose names are runs act on every run of a text apart
  from the others, in whatever order they are applied.  Longest first, a run
  that is an internal name meets no shorter name before its own entry, and
  becomes its public name:

      applyRenames table longestFirst t
        = mapRuns p (applyRenames table longestFirst) t
      applyRenames table longestFirst r = table.rename r

  An entry that names the same name twice is passed over.  So nothing
  protects a run that is exported under its own name from the shorter names
  that it contains, and for such a run the second law takes a condition.
-/
import ScriptWeave.Proofs.Script.Renaming

namespace ScriptWeave

open Text (mapRuns runs IsRun)

section

variable {p : Char → Bool} {b r t : Text} {e : Text × Text} {es : List (Text × Text)}

/-! ## §1. Run by run. -/

theorem isRun_applyRename (he : IsRun p e.1 ∧ IsRun p e.2) (hr : IsRun p r) :
    IsRun p (applyRename r e) := by
  unfold applyRename
  split
  next => exact hr
  next => exact Text.isRun_replace he.1.1 he.2 hr

/-- An entry acts on every run apart from the others. -/
theorem applyRename_eq_mapRuns_applyRename (he : IsRun p e.1) (t : Text) :
    applyRename t e = mapRuns p (fun r => applyRename r e) t := by
  unfold applyRename
  by_cases hself : e.1 = e.2
  · simp only [if_pos hself]
    exact (Text.mapRuns_eq_self (fun _ _ => rfl)).symm
  · simp only [if_neg hself]
    exact Text.replace_eq_mapRuns_replace he t

/-- **Entries act on every run apart from the others**, in whatever order they are applied. -/
theorem foldl_applyRename_eq_mapRuns (hes : ∀ e ∈ es, IsRun p e.1 ∧ IsRun p e.2) (t : Text) :
    es.foldl applyRename t = mapRuns p (fun r => es.foldl applyRename r) t := by
  induction es generalizing t with
  | nil => exact (Text.mapRuns_eq_self (fun _ _ => rfl)).symm
  | cons e es ih =>
    have he := hes e List.mem_cons_self
    have hrest := ih (fun f hf => hes f (List.mem_cons_of_mem e hf))
    rw [List.foldl_cons, hrest, applyRename_eq_mapRuns_applyRename he.1,
      Text.mapRuns_mapRuns (fun r hr => isRun_applyRename he (Text.isRun_of_mem_runs hr))]
    rfl

/-! ## §2. A single run. -/

/-- Entries none of whose names occurs change nothing. -/
theorem foldl_applyRename_of_not_contained (h : ∀ e ∈ es, e.1 ≠ e.2 → ¬ e.1 <:+: t) :
    es.foldl applyRename t = t := by
  induction es with
  | nil => rfl
  | cons e es ih =>
    have hfirst : applyRename t e = t := by
      unfold applyRename
      split
      next => rfl
      next hne => exact Text.replace_of_not_contained (h e List.mem_cons_self hne)
    rw [List.foldl_cons, hfirst, ih (fun f hf => h f (List.mem_cons_of_mem e hf))]

/-- **An internal name becomes its public name**, if the entries stand longest first and the
public name contains no internal one. -/
theorem foldl_applyRename_of_lookup
    (hsorted : es.Pairwise (fun a b => Text.byteSize b.1 ≤ Text.byteSize a.1)) (hr : r ≠ [])
    (hfound : es.lookup r = some b) (hne : r ≠ b) (hshown : ∀ e ∈ es, ¬ e.1 <:+: b) :
    es.foldl applyRename r = b := by
  obtain ⟨us, vs, rfl, hus⟩ := List.lookup_eq_some_iff.mp hfound
  -- what stands before the entry is not shorter than the run, and another name
  have hbefore : us.foldl applyRename r = r := by
    apply foldl_applyRename_of_not_contained
    intro e he _ hin
    have hle : Text.byteSize r ≤ Text.byteSize e.1 :=
      (List.pairwise_append.mp hsorted).2.2 e he (r, b) List.mem_cons_self
    have hsame := Text.eq_of_infix_of_byteSize_le hin hle
    exact absurd (hus e he) (by simp [hsame])
  have hentry : applyRename r (r, b) = b := by
    rw [applyRename, if_neg hne, Text.replace_self hr]
  have hbehind : vs.foldl applyRename b = b :=
    foldl_applyRename_of_not_contained (fun e he _ =>
      hshown e (List.mem_append_right us (List.mem_cons_of_mem _ he)))
  rw [List.foldl_append, hbefore, List.foldl_cons, hentry, hbehind]

/-! ## §3. Longest first. -/

/-- **Longest first, runs are renamed as a whole.**  Let the names of a table be runs, no public
name that differs from its internal name contain an internal one, and each run of a text be an
internal name or contain none.  Then every run is renamed apart from the others, and becomes its
public name if it has one, unless it is exported under its own name and contains the name of an
entry that replaces something. -/
theorem applyRenames_longestFirst {table : AliasTable} {source : Text}
    (hnames : ∀ e ∈ table.entries, IsRun p e.1 ∧ IsRun p e.2)
    (hshown : ∀ e ∈ table.entries, e.1 ≠ e.2 → ∀ b ∈ table.entries, ¬ b.1 <:+: e.2)
    (hsource : ∀ r ∈ runs p source,
      (∃ e ∈ table.entries, e.1 = r) ∨ ∀ e ∈ table.entries, ¬ e.1 <:+: r) :
    applyRenames table .longestFirst source
        = mapRuns p (applyRenames table .longestFirst) source
      ∧ ∀ r ∈ runs p source,
          (table.get? r = some r → ∀ b ∈ table.entries, b.1 ≠ b.2 → ¬ b.1 <:+: r) →
          applyRenames table .longestFirst r = table.rename r := by
  have hmem : ∀ e, e ∈ table.ordered .longestFirst ↔ e ∈ table.entries :=
    fun e => (table.ordered_perm .longestFirst).mem_iff
  constructor
  · exact foldl_applyRename_eq_mapRuns (fun e he => hnames e ((hmem e).mp he)) source
  intro r hr hself
  have hrename : table.rename r = (table.get? r).getD r := rfl
  rw [hrename]
  cases hget : table.get? r with
  | none =>
    -- a run without an entry contains no name at all
    rcases hsource r hr with ⟨e, he, rfl⟩ | hno
    · exact absurd rfl (bne_iff_ne.mp (List.lookup_eq_none_iff.mp hget e he))
    · exact foldl_applyRename_of_not_contained (fun e he _ => hno e ((hmem e).mp he))
  | some b =>
    by_cases hrb : r = b
    · subst hrb
      exact foldl_applyRename_of_not_contained (fun e he => hself hget e ((hmem e).mp he))
    · have hfound : (table.ordered .longestFirst).lookup r = some b := by
        rw [table.lookup_ordered, hget]
      obtain ⟨us, vs, hes, -⟩ := List.lookup_eq_some_iff.mp hget
      have hin : (r, b) ∈ table.entries := by
        rw [hes]
        exact List.mem_append_right us List.mem_cons_self
      exact foldl_applyRename_of_lookup table.pairwise_longestFirst
        (Text.isRun_of_mem_runs hr).1 hfound hrb (fun e he => hshown _ hin hrb e ((hmem e).mp he))

end

/-- Three names, one of which begins the others, and one of which stays as it is. -/
def nestedNames : AliasTable := ⟨[("$a", "c"), ("$ab", "b"), ("$d", "$d")]⟩

/-- The shorter name leaves the longer one alone, and the third one stays. -/
theorem applyRenames_nestedNames :
    runs isDialectChar "$a+$ab;$d" = [['$', 'a'], ['$', 'a', 'b'], ['$', 'd']]
      ∧ applyRenames nestedNames .longestFirst "$a+$ab;$d" = "c+b;$d".toList := by
  have hout : isDialectChar '+' = false ∧ isDialectChar ';' = false := by decide
  have hin : isDialectChar '$' = true ∧ isDialectChar 'a' = true ∧ isDialectChar 'b' = true
      ∧ isDialectChar 'd' = true := by decide
  have hruns : runs isDialectChar "$a+$ab;$d" = [['$', 'a'], ['$', 'a', 'b'], ['$', 'd']] := by
    simp [runs, hout, hin]
  refine ⟨hruns, ?_⟩
  have hnames : ∀ e ∈ nestedNames.entries,
      IsRun isDialectChar e.1 ∧ IsRun isDialectChar e.2 := by decide
  have hshown : ∀ e ∈ nestedNames.entries, e.1 ≠ e.2 →
      ∀ b ∈ nestedNames.entries, ¬ b.1 <:+: e.2 := by decide
  have hsource : ∀ r ∈ runs isDialectChar "$a+$ab;$d",
      (∃ e ∈ nestedNames.entries, e.1 = r) ∨ ∀ e ∈ nestedNames.entries, ¬ e.1 <:+: r := by
    rw [hruns]
    decide
  obtain ⟨hapart, hrenamed⟩ := applyRenames_longestFirst hnames hshown hsource
  have hself : ∀ r ∈ runs isDialectChar "$a+$ab;$d", nestedNames.get? r = some r →
      ∀ b ∈ nestedNames.entries, b.1 ≠ b.2 → ¬ b.1 <:+: r := by
    rw [hruns]
    decide
  have htext : ("$a+$ab;$d" : String).toList
      = ['$', 'a', '+', '$', 'a', 'b', ';', '$', 'd'] := by decide
  rw [hapart, Text.mapRuns_congr (fun r hr => hrenamed r hr (hself r hr)), htext]
  simp only [mapRuns, hout, hin, List.takeWhile, List.dropWhile]
  decide

/-- A name that is exported under its own, and a shorter one that it contains. -/
def keptName : AliasTable := ⟨[("$ab", "$ab"), ("$a", "x")]⟩

/-- **A shorter name clobbers a longer one that is exported under its own name**: the run that
should stay is renamed in part. -/
theorem applyRenames_keptName :
    (∀ e ∈ keptName.entries, IsRun isDialectChar e.1 ∧ IsRun isDialectChar e.2)
      ∧ (∀ e ∈ keptName.entries, e.1 ≠ e.2 → ∀ b ∈ keptName.entries, ¬ b.1 <:+: e.2)
      ∧ runs isDialectChar "$ab" = [['$', 'a', 'b']]
      ∧ keptName.get? "$ab" = some ['$', 'a', 'b']
      ∧ mapRuns isDialectChar keptName.rename "$ab" = "$ab".toList
      ∧ applyRenames keptName .longestFirst "$ab" = "xb".toList := by
  have hin : isDialectChar '$' = true ∧ isDialectChar 'a' = true ∧ isDialectChar 'b' = true := by
    decide
  refine ⟨by decide, by decide, by simp [runs, hin], by decide, ?_, by decide⟩
  have htext : ("$ab" : String).toList = ['$', 'a', 'b'] := by decide
  rw [htext]
  simp only [mapRuns, hin, List.takeWhile, List.dropWhile]
  decide

end ScriptWeave
