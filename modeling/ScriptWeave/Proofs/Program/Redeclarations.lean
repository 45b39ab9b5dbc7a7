/-
  ScriptWeave.Proofs.Program.Redeclarations
  ─────────────────────────────────────────
  **WHICH NAMES AN ADAPTED SCRIPT DECLARES TWICE.**

  Adapting replaces dollar signs, which can make two names one, and turns
  declarations with `var`, which may be repeated, into declarations with
  `let`, which may not.  Checking the adapted script reports exactly the names
  that are declared again:

      check (adapt "var n₁ = 1; …").code = (repeated [] [n₁', …]).map redeclared

  The checker walks through the declarations in order.  The invariant of the
  walk is that the scope binds the names declared so far and no others.
-/
import ScriptWeave.Proofs.Program.LetScripts
import ScriptWeave.Proofs.Script.NormalForm
import ScriptWeave.Proofs.Script.Renaming

namespace ScriptWeave

open Text (mapRuns IsRun)

namespace Program

variable {t : Text} {seen ts : List Text} {n : Names}

/-! ## §1. Names that repeat a name before them. -/

theorem repeated_nil : repeated seen [] = [] := rfl

theorem repeated_of_mem (h : t ∈ seen) : repeated seen (t :: ts) = t :: repeated seen ts := if_pos h

theorem repeated_of_not_mem (h : t ∉ seen) : repeated seen (t :: ts) = repeated (t :: seen) ts :=
  if_neg h

/-- No name repeats another if all are distinct, and distinct from those before. -/
theorem repeated_eq_nil_iff :
    repeated seen ts = [] ↔ ts.Nodup ∧ ∀ t ∈ ts, t ∉ seen := by
  induction ts generalizing seen with
  | nil => simp [repeated_nil]
  | cons t ts ih =>
    by_cases hseen : t ∈ seen
    · simp [repeated_of_mem hseen, hseen]
    · rw [repeated_of_not_mem hseen, ih, List.nodup_cons]
      simp only [List.mem_cons, not_or, forall_eq_or_imp]
      constructor
      · rintro ⟨hnodup, hnot⟩
        exact ⟨⟨fun ht => (hnot t ht).1 rfl, hnodup⟩, hseen, fun u hu => (hnot u hu).2⟩
      · rintro ⟨⟨ht, hnodup⟩, -, hnot⟩
        exact ⟨hnodup, fun u hu => ⟨fun hut => ht (hut ▸ hu), hnot u hu⟩⟩

/-! ## §2. The walk. -/

/-- Exactly these names are bound, all in the scope of the module. -/
structure Names.Binds (n : Names) (seen : List Text) : Prop where
  /-- Only the scope of the module is open. -/
  scope : ∃ bound, n.scopes = [⟨.module, bound, []⟩]
    ∧ ∀ t, (bound.lookup t).isSome = true ↔ t ∈ seen

theorem Names.binds_start : Names.start.Binds [] := ⟨[], rfl, by simp⟩

/-- A name that is bound is reported. -/
theorem Names.Binds.bindBlock_of_mem (h : n.Binds seen) (ht : t ∈ seen) :
    (n.bindBlock t).Binds seen ∧ (n.bindBlock t).reports = .redeclared t :: n.reports := by
  obtain ⟨bound, hscopes, hbound⟩ := h.scope
  obtain ⟨id, hid⟩ := Option.isSome_iff_exists.mp ((hbound t).mpr ht)
  have hget : Scope.get? ⟨.module, bound, []⟩ t = some id := by
    rw [Scope.get?, hid, Option.some_or]
  have hrun : n.bindBlock t
      = (({ n with scopes := [⟨.module, bound, []⟩] }.report (.redeclared t)).redeclare id
          .block) := by
    rw [bindBlock, declare, hscopes]
    simp only [declareIn, hget, check, if_true]
  rw [hrun]
  exact ⟨⟨bound, rfl, hbound⟩, rfl⟩

/-- Another name is bound from then on. -/
theorem Names.Binds.bindBlock_of_not_mem (h : n.Binds seen) (ht : t ∉ seen) :
    (n.bindBlock t).Binds (t :: seen) ∧ (n.bindBlock t).reports = n.reports := by
  obtain ⟨bound, hscopes, hbound⟩ := h.scope
  have hnone : bound.lookup t = none := by
    rw [← Option.not_isSome_iff_eq_none, hbound]
    exact ht
  have hget : Scope.get? ⟨.module, bound, []⟩ t = none := by
    rw [Scope.get?, hnone]
    rfl
  have hrun : n.bindBlock t
      = { n with scopes := [⟨.module, (t, n.history.size) :: bound, []⟩] }.fresh .block := by
    rw [bindBlock, declare, hscopes]
    simp only [declareIn, hget, Scope.bind]
  rw [hrun]
  refine ⟨⟨(t, n.history.size) :: bound, rfl, ?_⟩, rfl⟩
  intro u
  rw [List.lookup_cons, List.mem_cons, ← hbound u]
  by_cases hu : u = t
  · simp [hu]
  · simp [hu, beq_false_of_ne hu]

/-- Walking through a declaration of a name that is not reserved binds it. -/
theorem walk_letNumber (p : Place) (ht : IsDeclarable t) (n : Names) :
    (letNumber t).walk p n = n.bindBlock t := by
  have hreserved : reservedWords.contains t = false := by simpa using ht.not_reserved
  have hstrict : strictNames.contains t = false := by simpa using ht.not_strict
  simp only [letNumber, Statement.walk, walkItems, boundNames, List.filterMap_cons, Part.name?,
    List.filterMap_nil, List.foldl_cons, List.foldl_nil, walkPattern, Names.setName, Names.useName,
    hreserved, hstrict, Bool.false_eq_true, if_false, walkExpressions, Expression.walk]

/-- **The walk reports the names that repeat one before them**, in order. -/
theorem reports_walkStatements (p : Place) (hts : ∀ t ∈ ts, IsDeclarable t) (h : n.Binds seen) :
    (walkStatements p (ts.map letNumber) n).reports
      = ((repeated seen ts).map Diagnostic.redeclared).reverse ++ n.reports := by
  induction ts generalizing n seen with
  | nil =>
    rw [List.map_nil, walkStatements, repeated_nil]
    rfl
  | cons t ts ih =>
    obtain ⟨ht, hts⟩ := List.forall_mem_cons.mp hts
    rw [List.map_cons, walkStatements, walk_letNumber p ht]
    by_cases hseen : t ∈ seen
    · obtain ⟨hbinds, hreports⟩ := h.bindBlock_of_mem hseen
      rw [ih hts hbinds, hreports, repeated_of_mem hseen, List.map_cons, List.reverse_cons,
        List.append_assoc]
      rfl
    · obtain ⟨hbinds, hreports⟩ := h.bindBlock_of_not_mem hseen
      rw [ih hts hbinds, hreports, repeated_of_not_mem hseen]

/-- Nothing else is wrong with the names of such a script. -/
theorem namingProblems_letNumber (hts : ∀ t ∈ ts, IsDeclarable t) :
    namingProblems (ts.map letNumber) = (repeated [] ts).map .redeclared := by
  have hexports : exportItems (ts.map letNumber) = [] := by
    rw [exportItems, List.flatMap_map, List.flatMap_eq_nil_iff]
    exact fun _ _ => rfl
  rw [namingProblems, hexports, reports_walkStatements .module hts Names.binds_start]
  simp only [Names.start, List.append_nil, List.reverse_reverse, List.map_nil, List.filter_nil]

end Program

/-! ## §3. Declarations that are adapted. -/

open Program (numbered check repeated IsDeclarable)

/-- A name with its dollar signs replaced. -/
def scalaName (n : Text) : Text := n.flatMap (fun c => if c = '$' then "scala_".toList else [c])

variable {n : Text} {names : List Text}

theorem adaptToken_builtin (hn : n ≠ "var") : adaptToken .builtin "var" n = scalaName n := by
  rw [adaptToken, if_neg hn, scalaName]
  rfl

theorem isAsciiWord_scalaName (hn : ∀ c ∈ n, isAsciiWord c = true ∨ c = '$') :
    ∀ c ∈ scalaName n, isAsciiWord c = true := by
  intro c hc
  obtain ⟨d, hd, hcd⟩ := List.mem_flatMap.mp hc
  split at hcd
  next => exact (List.all_eq_true (p := isAsciiWord)).mp (by decide) c hcd
  next hdollar =>
    obtain rfl := List.mem_singleton.mp hcd
    exact (hn c hd).resolve_right hdollar

/-- A line is replaced name by name. -/
theorem mapRuns_numbered {f : Text → Text} (hone : f ['1'] = ['1'])
    (hn : IsRun isDialectChar n) (u : Text) :
    mapRuns isDialectChar f (numbered "var" n ++ u)
      = numbered (f "var") (f n) ++ mapRuns isDialectChar f u := by
  have hblank : isDialectChar ' ' = false := by decide
  have hequals : isDialectChar '=' = false := by decide
  have hsemicolon : isDialectChar ';' = false := by decide
  have hline : isDialectChar '\n' = false := by decide
  have hend : " = 1;\n".toList = ' ' :: '=' :: ' ' :: (['1'] ++ [';', '\n']) := by decide
  have hvar : IsRun isDialectChar "var" := by decide
  have hdigit : IsRun isDialectChar ['1'] := by decide
  simp only [numbered, hend, List.append_assoc, List.cons_append, List.nil_append]
  rw [Text.mapRuns_append hvar (Text.startsOutside_cons.mpr hblank),
    Text.mapRuns_cons_of_outside hblank,
    Text.mapRuns_append hn (Text.startsOutside_cons.mpr hblank),
    Text.mapRuns_cons_of_outside hblank, Text.mapRuns_cons_of_outside hequals,
    Text.mapRuns_cons_of_outside hblank,
    show '1' :: ';' :: '\n' :: u = ['1'] ++ ';' :: '\n' :: u from rfl,
    Text.mapRuns_append hdigit (Text.startsOutside_cons.mpr hsemicolon),
    Text.mapRuns_cons_of_outside hsemicolon, Text.mapRuns_cons_of_outside hline, hone]
  rfl

/-- Without braces nothing is exported. -/
theorem not_beginsExport_of_not_mem {t v : Text} (ht : '{' ∉ t) (hv : v <:+ t) :
    ¬ BeginsExport v := by
  rintro ⟨s, u, rfl⟩
  refine ht (hv.subset ?_)
  rw [ReadExport.text, exportText]
  simp

/-- **The lines of a script are adapted one by one**, and nothing is exported. -/
theorem adapt_numbered (hn : ∀ n ∈ names, IsRun isDialectChar n ∧ n ≠ "var")
    (order : RenameOrder) (map : Text) :
    (adapt .builtin order (names.flatMap (numbered "var")) map).code
      = (names.map scalaName).flatMap (numbered "let") := by
  have hbrace : '{' ∉ names.flatMap (numbered "var") := by
    intro hmem
    obtain ⟨n, hname, hin⟩ := List.mem_flatMap.mp hmem
    have hsign : isDialectChar '{' = false := by decide
    have hnot : '{' ∉ n := fun h => by
      have := (hn n hname).1.2 _ h
      rw [hsign] at this
      cases this
    simp [numbered, hnot] at hin
  have hcut : CutAtExports (names.flatMap (numbered "var")) [] (names.flatMap (numbered "var")) :=
    .done (fun v hv => not_beginsExport_of_not_mem hbrace hv)
  have htable : (collectExports .builtin (names.flatMap (numbered "var"))).table = .empty := by
    rw [hcut.collectExports_eq]
    rfl
  show adaptCode .builtin order _ _ = _
  rw [htable, adaptCode, hcut.deleteExports_eq, List.flatMap_nil, List.nil_append,
    applyRenames_empty, downgrade_sanitize_builtin]
  clear hbrace hcut htable
  induction names with
  | nil => exact Text.mapRuns_nil
  | cons n names ih =>
    obtain ⟨⟨hrun, hvar⟩, hnames⟩ := List.forall_mem_cons.mp hn
    rw [List.flatMap_cons, mapRuns_numbered (by decide) hrun, ih hnames, adaptToken_builtin hvar]
    rfl

/-- **The checker finds exactly the names that an adapted script declares twice.**  It makes no
difference whether a name is repeated or adapting makes two names one.  The names are those that
can be declared alone. -/
theorem check_adapt_numbered
    (hchars : ∀ n ∈ names, ∀ c ∈ n, isAsciiWord c = true ∨ c = '$')
    (halone : ∀ n ∈ names, check (numbered "let" (scalaName n)) = [])
    (order : RenameOrder) (map : Text) :
    check (adapt .builtin order (names.flatMap (numbered "var")) map).code
        = (repeated [] (names.map scalaName)).map .redeclared
      ∧ (check (adapt .builtin order (names.flatMap (numbered "var")) map).code = []
          ↔ (names.map scalaName).Nodup) := by
  have hdeclarable : ∀ n ∈ names, IsDeclarable (scalaName n) := fun n hn =>
    Program.isDeclarable_of_check (isAsciiWord_scalaName (hchars n hn)) (halone n hn)
  have hruns : ∀ n ∈ names, IsRun isDialectChar n ∧ n ≠ "var" := by
    intro n hn
    have hgood := hdeclarable n hn
    refine ⟨⟨?_, ?_⟩, ?_⟩
    · rintro rfl
      exact hgood.ne_nil rfl
    · intro c hc
      rw [isDialectChar, isTokenChar, Bool.or_eq_true, beq_iff_eq]
      refine (hchars n hn c hc).imp_left (fun h => ?_)
      rw [isWordChar_of_lt (Program.lt_of_isAsciiWord h), h]
    · rintro rfl
      exact absurd hgood.binding (by decide)
  have hcheck : check (adapt .builtin order (names.flatMap (numbered "var")) map).code
      = (repeated [] (names.map scalaName)).map .redeclared := by
    rw [adapt_numbered hruns, Program.check_flatMap_numbered (List.forall_mem_map.mpr hdeclarable),
      Program.namingProblems_letNumber (List.forall_mem_map.mpr hdeclarable)]
  refine ⟨hcheck, ?_⟩
  rw [hcheck, List.map_eq_nil_iff, Program.repeated_eq_nil_iff]
  simp

/-- A name that is repeated, and two names that become one. -/
theorem check_adapt_numbered_collision :
    (∀ n ∈ (["$a", "b", "scala_a", "b"] : List Text), check (numbered "let" (scalaName n)) = [])
      ∧ check (adapt .builtin .longestFirst
          ((["$a", "b", "scala_a", "b"] : List Text).flatMap (numbered "var")) []).code
        = [.redeclared "scala_a", .redeclared "b"] := by
  have halone : ∀ n ∈ (["$a", "b", "scala_a", "b"] : List Text),
      check (numbered "let" (scalaName n)) = [] := by
    decide +kernel
  have hchars : ∀ n ∈ (["$a", "b", "scala_a", "b"] : List Text), ∀ c ∈ n,
      isAsciiWord c = true ∨ c = '$' := by
    have hall : (["$a", "b", "scala_a", "b"] : List Text).all
        (fun n => n.all (fun c => isAsciiWord c || c == '$')) = true := by
      decide
    intro n hn c hc
    simpa using List.all_eq_true.mp (List.all_eq_true.mp hall n hn) c hc
  refine ⟨halone, ?_⟩
  rw [(check_adapt_numbered hchars halone .longestFirst []).1]
  decide

end ScriptWeave
