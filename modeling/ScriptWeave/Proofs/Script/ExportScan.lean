/-
  ScriptWeave.Proofs.Script.ExportScan
  ────────────────────────────────────
  **EXPORT STATEMENTS ARE FOUND FROM LEFT TO RIGHT.**

  The pattern of an export statement has three greedy loops and a group.  It
  matches where a statement can be read, and there only; and there is only
  one way to read it.  So a script falls into statements and the gaps
  between them, each statement at the leftmost position that is left:

      t = gap ++ statement ++ u        no statement begins inside the gap

  Deleting leaves the gaps.  What is recorded are the pieces between the
  commas of each list, in order.
-/
import ScriptWeave.Proofs.Script.ExportGrammar

namespace ScriptWeave

open Pattern Text

/-! ## §1. Statements as they are read. -/

/-- An export statement as it stands in a text. -/
structure ReadExport where
  /-- The white space before the list. -/
  beforeList : Text
  /-- What stands between the braces. -/
  list : Text
  /-- The white space before the semicolon. -/
  beforeEnd : Text
  beforeList_blanks : IsBlanks beforeList
  list_ne_nil : list ≠ []
  brace_not_mem_list : '}' ∉ list
  beforeEnd_blanks : IsBlanks beforeEnd

namespace ReadExport

/-- A statement as text. -/
def text (s : ReadExport) : Text := exportText s.beforeList s.list s.beforeEnd

/-- The pieces between the commas of the list. -/
def entries (s : ReadExport) : List Text := splitOn ',' s.list

end ReadExport

/-- Whether a statement can be read at the beginning of a text. -/
def BeginsExport (t : Text) : Prop := ∃ (s : ReadExport) (u : Text), t = s.text ++ u

/-- A statement begins with the word. -/
theorem BeginsExport.beginsWord {t : Text} (h : BeginsExport t) : exportWord <+: t := by
  obtain ⟨s, u, rfl⟩ := h
  rw [ReadExport.text, exportText, List.append_assoc]
  exact List.prefix_append exportWord _

/-- What the pattern matches can be read as a statement. -/
theorem beginsExport_of_matchAt {prev : Option Char} {t : Text} {m : Match}
    (h : DialectRules.builtin.exportStatement.matchAt ⟨prev, t⟩ = some m) : BeginsExport t := by
  obtain ⟨r, hr, -⟩ := Option.map_eq_some_iff.mp h
  have hwalk : (Node.ofList (Node.chars exportWord
      ++ [.many .blank, .char (.single '{'), .group 1 (.many1 (.compl (.single '}'))),
        .char (.single '}'), .many .blank, .char (.single ';')])).run ⟨prev, t⟩ []
      (fun c' g => some (c', g)) = some r := hr
  rw [run_chars_append] at hwalk
  split at hwalk
  next hword =>
    obtain ⟨v₀, rfl⟩ := hword
    rw [List.drop_left] at hwalk
    -- part by part, as the pattern has them
    obtain ⟨w, v₁, hw, rfl, h₁⟩ := run_many_single_eq_some (s := .blank) (by decide) hwalk
    obtain ⟨list, v₂, g, hlist, rfl, h₂⟩ := run_group_single_eq_some (by decide) h₁
    obtain ⟨w', u, hw', rfl, -⟩ := run_many_single_eq_some (s := .blank) (by decide) h₂
    have hbrace : '}' ∉ list := fun hc => absurd (hlist.2 _ hc) (by decide)
    exact ⟨⟨w, list, w', hw, hlist.1, hbrace, hw'⟩, u, by simp [ReadExport.text, exportText]⟩
  next => exact absurd hwalk (by simp)

/-- A statement is matched, with its list as group 1. -/
theorem ReadExport.matchAt_text (s : ReadExport) (prev : Option Char) (u : Text) :
    ∃ m, DialectRules.builtin.exportStatement.matchAt ⟨prev, s.text ++ u⟩ = some m
      ∧ m.whole.length = s.text.length ∧ m.groupText 1 = s.list :=
  matchAt_exportText s.beforeList_blanks s.list_ne_nil s.brace_not_mem_list s.beforeEnd_blanks
    prev u

/-- **The pattern matches where a statement can be read**, and nowhere else. -/
theorem matchAt_exportStatement_isSome_iff {prev : Option Char} {t : Text} :
    (DialectRules.builtin.exportStatement.matchAt ⟨prev, t⟩).isSome = true ↔ BeginsExport t := by
  rw [Option.isSome_iff_exists]
  constructor
  · rintro ⟨m, hm⟩
    exact beginsExport_of_matchAt hm
  · rintro ⟨s, u, rfl⟩
    obtain ⟨m, hm, -⟩ := s.matchAt_text prev u
    exact ⟨m, hm⟩

theorem matchAt_exportStatement_eq_none {prev : Option Char} {t : Text} (h : ¬ BeginsExport t) :
    DialectRules.builtin.exportStatement.matchAt ⟨prev, t⟩ = none := by
  rw [← Option.not_isSome_iff_eq_none, matchAt_exportStatement_isSome_iff]
  exact h

/-! ## §2. Statement by statement. -/

/-- A text cut at its statements.  Each stands at the leftmost position behind its predecessor at
which one can be read, with the gap before it; behind the last of them none can be read. -/
inductive CutAtExports : Text → List (Text × ReadExport) → Text → Prop where
  /-- No statement is left. -/
  | done {t : Text} (none : ∀ v, v <:+ t → ¬ BeginsExport v) : CutAtExports t [] t
  /-- The next statement, and what follows it. -/
  | next {gap u last : Text} {s : ReadExport} {cuts : List (Text × ReadExport)}
      (leftmost : ∀ a x b, gap = a ++ x :: b → ¬ BeginsExport (x :: b ++ (s.text ++ u)))
      (rest : CutAtExports u cuts last) :
      CutAtExports (gap ++ (s.text ++ u)) ((gap, s) :: cuts) last

/-- Every text can be cut at its statements. -/
theorem exists_cutAtExports (t : Text) : ∃ cuts last, CutAtExports t cuts last := by
  obtain ⟨n, hn⟩ : ∃ n, t.length = n := ⟨_, rfl⟩
  induction n using Nat.strongRecOn generalizing t with
  | _ n ih =>
    let begins : Text → Bool :=
      fun v => (DialectRules.builtin.exportStatement.matchAt ⟨none, v⟩).isSome
    cases hsplit : firstSplit begins t with
    | none =>
      refine ⟨[], t, .done ?_⟩
      intro v hv hbegins
      have hno := firstSplit_eq_none_iff.mp hsplit v hv
      rw [show begins v = true from matchAt_exportStatement_isSome_iff.mpr hbegins] at hno
      exact absurd hno (by decide)
    | some parts =>
      obtain ⟨gap, v⟩ := parts
      obtain ⟨rfl, hv⟩ := firstSplit_eq_append hsplit
      obtain ⟨s, u, rfl⟩ := matchAt_exportStatement_isSome_iff.mp hv
      -- a statement has characters, so what follows it is shorter
      have hshort : u.length < n := by
        rw [← hn]
        simp [ReadExport.text, exportText]
        omega
      obtain ⟨cuts, last, hrest⟩ := ih u.length hshort u rfl
      refine ⟨(gap, s) :: cuts, last, .next ?_ hrest⟩
      intro a x b hab hbegins
      have hno := not_holds_before hsplit hab
      rw [show begins _ = true from matchAt_exportStatement_isSome_iff.mpr hbegins] at hno
      exact absurd hno (by decide)

namespace CutAtExports

variable {t u gap last : Text} {s : ReadExport} {cuts : List (Text × ReadExport)}

/-- The gaps and the statements make up the text. -/
theorem eq_append (h : CutAtExports t cuts last) :
    t = cuts.flatMap (fun c => c.1 ++ c.2.text) ++ last := by
  induction h with
  | done => rfl
  | next _ _ ih => rw [List.flatMap_cons, List.append_assoc, List.append_assoc, ← ih]

/-- Where no statement is left the scan passes every character. -/
theorem piecesFrom_done (h : ∀ v, v <:+ t → ¬ BeginsExport v) (prev : Option Char) :
    piecesFrom DialectRules.builtin.exportStatement prev t = t.map .plain := by
  have hpass := @piecesFrom_append DialectRules.builtin.exportStatement prev t []
    (fun a x b hab => matchAt_exportStatement_eq_none
      (h _ (by rw [List.append_nil, hab]; exact List.suffix_append a (x :: b))))
  rw [piecesFrom_nil (matchAt_exportStatement_eq_none (h _ List.nil_suffix)), List.append_nil,
    List.append_nil] at hpass
  exact hpass

/-- The scan passes the gap and takes the statement. -/
theorem piecesFrom_next
    (h : ∀ a x b, gap = a ++ x :: b → ¬ BeginsExport (x :: b ++ (s.text ++ u)))
    (prev : Option Char) :
    ∃ m prev', m.groupText 1 = s.list ∧
      piecesFrom DialectRules.builtin.exportStatement prev (gap ++ (s.text ++ u))
        = gap.map .plain
          ++ .hit m :: piecesFrom DialectRules.builtin.exportStatement prev' u := by
  obtain ⟨m, hm, hlen, hgroup⟩ := s.matchAt_text (lastOr prev gap) u
  refine ⟨m, lastOr (lastOr prev gap) s.text, hgroup, ?_⟩
  rw [piecesFrom_append (fun a x b hab => matchAt_exportStatement_eq_none (h a x b hab)),
    piecesFrom_match advances_exportStatement hm hlen]

theorem replaced_piecesFrom (h : CutAtExports t cuts last) (prev : Option Char) :
    (piecesFrom DialectRules.builtin.exportStatement prev t).flatMap
      (Piece.replaced (fun _ => [])) = cuts.flatMap Prod.fst ++ last := by
  induction h generalizing prev with
  | done hnone =>
    rw [piecesFrom_done hnone, flatMap_replaced_plain]
    rfl
  | next hleft _ ih =>
    obtain ⟨m, prev', -, hpieces⟩ := piecesFrom_next hleft prev
    rw [hpieces, List.flatMap_append, flatMap_replaced_plain, List.flatMap_cons, ih prev',
      List.flatMap_cons, List.append_assoc]
    rfl

theorem lists_piecesFrom (h : CutAtExports t cuts last) (prev : Option Char) :
    ((piecesFrom DialectRules.builtin.exportStatement prev t).filterMap Piece.match?).map
      (·.groupText 1) = cuts.map (fun c => c.2.list) := by
  induction h generalizing prev with
  | done hnone =>
    rw [piecesFrom_done hnone, filterMap_match?_plain]
    rfl
  | next hleft _ ih =>
    obtain ⟨m, prev', hgroup, hpieces⟩ := piecesFrom_next hleft prev
    have hhit : ∀ ps, (Piece.hit m :: ps).filterMap Piece.match? = m :: ps.filterMap Piece.match? :=
      fun _ => rfl
    rw [hpieces, List.filterMap_append, filterMap_match?_plain, List.nil_append, hhit,
      List.map_cons, List.map_cons, ih prev', hgroup]

/-- **Deleting the statements leaves the gaps.** -/
theorem deleteExports_eq (h : CutAtExports t cuts last) :
    deleteExports .builtin t = cuts.flatMap Prod.fst ++ last := by
  rw [deleteExports, replaceAll_eq rfl]
  exact h.replaced_piecesFrom none

/-- **The export lists are those of the statements.** -/
theorem exportLists_eq (h : CutAtExports t cuts last) :
    exportLists .builtin t = cuts.map (fun c => c.2.list) := by
  rw [exportLists, matchesIn_eq rfl]
  exact h.lists_piecesFrom none

/-- What is recorded are the entries of the statements, one after the other. -/
theorem collectExports_eq (h : CutAtExports t cuts last) :
    collectExports .builtin t
      = (cuts.flatMap (fun c => c.2.entries)).foldl (AliasLog.recordEntry .builtin) .empty := by
  rw [collectExports, h.exportLists_eq, List.foldl_map, List.foldl_flatMap]
  rfl

end CutAtExports

/-- **Reading and deleting exports.**  A script can be cut at its export statements.  However it is
cut, deleting the statements leaves the gaps, and the entries between the commas of each list are
recorded in order.  A script in which no statement can be read stays as it is and exports nothing. -/
theorem exports_spec (source : Text) :
    (∃ cuts last, CutAtExports source cuts last)
      ∧ (∀ cuts last, CutAtExports source cuts last →
          source = cuts.flatMap (fun c => c.1 ++ c.2.text) ++ last
          ∧ deleteExports .builtin source = cuts.flatMap Prod.fst ++ last
          ∧ collectExports .builtin source
            = (cuts.flatMap (fun c => c.2.entries)).foldl (AliasLog.recordEntry .builtin) .empty)
      ∧ ((∀ v, v <:+ source → ¬ BeginsExport v) →
          deleteExports .builtin source = source ∧ collectExports .builtin source = .empty) := by
  refine ⟨exists_cutAtExports source, ?_, ?_⟩
  · intro cuts last h
    exact ⟨h.eq_append, h.deleteExports_eq, h.collectExports_eq⟩
  · intro hnone
    have h : CutAtExports source [] source := .done hnone
    exact ⟨h.deleteExports_eq, h.collectExports_eq⟩

end ScriptWeave
