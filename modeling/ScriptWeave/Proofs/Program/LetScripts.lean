/-
  ScriptWeave.Proofs.Program.LetScripts
  ─────────────────────────────────────
  **SCRIPTS OF LET DECLARATIONS.**

  A script of declarations `let t = 1;` is read statement by statement.  The
  invariant is `Reading.IsClean`: a declaration of a name that can be declared
  leaves a reading that nothing is wrong with, in front of the next one.

      readModule (ts.flatMap (numbered "let")) = (ts.map letNumber, clean)

  A word of letters, digits and low lines can be declared if nothing is wrong
  with the script that declares it alone: every other word halts the reading,
  leaves `let` an operand, or is refused as a name.
-/
import Mathlib.Tactic.Set
import ScriptWeave.Proofs.Program.Declarations
import ScriptWeave.Proofs.Program.Lexemes

namespace ScriptWeave.Program

/-! ## §1. Declarations. -/

/-- The line that declares a name with a number behind a keyword. -/
def numbered (keyword name : Text) : Text := keyword ++ ' ' :: (name ++ " = 1;\n".toList)

/-- The statement that such a line with `let` is. -/
def letNumber (t : Text) : Statement := .declare .block [([.name t], [.constant])]

/-- Whether a text is a word of letters, digits and low lines that can be declared. -/
structure IsDeclarable (t : Text) : Prop where
  /-- It has no other characters. -/
  signs : ∀ c ∈ t, isAsciiWord c = true
  ne_nil : t ≠ []
  /-- It does not start with a digit. -/
  no_digit : t.head?.any Char.isDigit = false
  /-- The grammar allows it as a name. -/
  binding : isBindingWord t = true
  /-- Modules do not reserve it. -/
  not_reserved : t ∉ reservedWords
  /-- Strict code does not keep it. -/
  not_strict : t ∉ strictNames

variable {t u : Text} {ts : List Text} {body : Parse (List Statement)} {s : Reading} {fuel : Nat}

/-- The only words between operands are `in` and `instanceof`. -/
theorem relation_of_precedence {p : Nat} (h : precedence? t = some p)
    (ht : t.head?.any isAsciiWord = true) : t = "in" ∨ t = "instanceof" := by
  obtain ⟨l₁, l₂, hl, -⟩ := List.lookup_eq_some_iff.mp h
  have hmem : (t, p) ∈ l₁ ++ (t, p) :: l₂ := by simp
  rw [← hl] at hmem
  have hall := (List.all_eq_true (p := fun e : Text × Nat =>
    e.1 == ("in" : Text) || e.1 == ("instanceof" : Text) || !e.1.head?.any isAsciiWord)).mp
    (by decide +kernel) _ hmem
  simpa [ht] using hall

theorem precedence?_of_isBindingWord (hname : isBindingWord t = true)
    (ht : t.head?.any isAsciiWord = true) : precedence? t = none := by
  cases h : precedence? t with
  | none => rfl
  | some p =>
    rcases relation_of_precedence h ht with rfl | rfl
    · exact absurd hname (by decide)
    · exact absurd hname (by decide)

theorem head_isAsciiWord (hsigns : ∀ c ∈ t, isAsciiWord c = true) (hne : t ≠ []) :
    t.head?.any isAsciiWord = true := by
  obtain ⟨c, w, rfl⟩ := List.exists_cons_of_ne_nil hne
  exact hsigns c List.mem_cons_self

/-! ## §2. One declaration after the other. -/

/-- The reading behind a statement, with what that exports. -/
def Reading.exporting (s : Reading) (x : Statement) : Reading :=
  { s with exported := s.exported ++ x.exportedNames }

theorem Reading.exporting_eq_self {x : Statement} (h : x.exportedNames = []) (s : Reading) :
    s.exporting x = s := by
  rw [exporting, h, List.append_nil]

namespace Parse

/-- **A declaration is read** and leaves a clean reading behind it. -/
theorem runIn_readStatement_of_isDeclarable (body : Parse (List Statement)) (fuel : Nat)
    (hs : s.IsClean) (ht : IsDeclarable t)
    (hlet : s.next.token = .word "let")
    (hrest : s.next.rest = ' ' :: (t ++ ' ' :: '=' :: ' ' :: '1' :: ';' :: '\n' :: u))
    (hbehind : (nextLexeme ('\n' :: u)).2 = []) :
    ∃ s', runIn (readStatement body false (fuel + 9)) s = (letNumber t, s') ∧ s'.IsClean
      ∧ s'.next = (nextLexeme ('\n' :: u)).1 := by
  have hname : Lexes s.next.rest (.word t) (' ' :: '=' :: ' ' :: '1' :: ';' :: '\n' :: u) := by
    rw [hrest]
    exact lexes_word isGap_blank ht.signs ht.ne_nil ht.no_digit _
  have hequals : Lexes s.passed.next.rest (.mark "=") (' ' :: '1' :: ';' :: '\n' :: u) := by
    rw [hname.passed.2]
    exact lexes_equals isGap_blank _
  have hnumber : Lexes s.passed.passed.next.rest (.number .decimal none true)
      (';' :: '\n' :: u) := by
    rw [hequals.passed.2]
    exact lexes_one _
  have hend : Lexes s.passed.passed.passed.next.rest (.mark ";") ('\n' :: u) := by
    rw [hnumber.passed.2]
    exact lexes_semicolon _
  have hawait : t ≠ "await" := by
    rintro rfl
    exact ht.not_reserved (by decide)
  have hclean := ((((hs.passed hname.faults_eq).passed hequals.faults_eq).passed
    hnumber.faults_eq).passed hend.faults_eq)
  refine ⟨_, runIn_readStatement_of_declaration hs ht.binding hawait
    (precedence?_of_isBindingWord ht.binding (head_isAsciiWord ht.signs ht.ne_nil)) hlet
    hname.passed.1 hequals.passed.1 hnumber.passed.1 hend.passed.1, hclean.passed ?_, ?_⟩
  · rw [hend.passed.2, hbehind]
  · rw [Reading.passed_next, hend.passed.2]

theorem runIn_readScript_of_halt (h : s.halt.isSome = true) :
    runIn (readScript body (fuel + 1)) s = ([], s) := by
  rw [readScript]
  simp only [↓runIn_bind, ↓runIn_ite, runIn_stuck, h, Bool.true_or, if_true, runIn_pure]

theorem runIn_readScript_of_finish (h : s.next.token = .finish) :
    runIn (readScript body (fuel + 1)) s = ([], s) := by
  rw [readScript]
  simp only [↓runIn_bind, ↓runIn_ite, runIn_stuck, h, beq_self_eq_true, Bool.or_true,
    Bool.true_or, if_true, runIn_pure]

/-- A statement, and the script behind it. -/
theorem runIn_readScript_of_statement {x : Statement} {s' : Reading} (hs : s.IsClean)
    (hlet : s.next.token = .word "let")
    (hstatement : runIn (readStatement body false fuel) s = (x, s')) :
    runIn (readScript body (fuel + 1)) s
      = (x :: (runIn (readScript body fuel) (s'.exporting x)).1,
          (runIn (readScript body fuel) (s'.exporting x)).2) := by
  have hmore : (Token.word "let" == .finish || Token.word "let" == .unreadable) = false := by
    decide
  rw [Bool.or_eq_false_iff] at hmore
  rw [readScript]
  simp only [↓runIn_bind, ↓runIn_ite, runIn_stuck, hs.halt, hlet, hmore, Option.isSome_none,
    Bool.or_self, Bool.false_eq_true, if_false, hstatement, runIn_modify, Reading.exporting,
    runIn_pure]

end Parse

/-! ## §3. Scripts. -/

theorem flatMap_numbered_cons (t : Text) (ts : List Text) :
    (t :: ts).flatMap (numbered "let")
      = "let".toList ++ ' ' :: (t ++ ' ' :: '=' :: ' ' :: '1' :: ';' :: '\n'
          :: ts.flatMap (numbered "let")) := by
  have hend : " = 1;\n".toList = [' ', '=', ' ', '1', ';', '\n'] := by decide
  simp only [List.flatMap_cons, numbered, hend, List.append_assoc, List.cons_append,
    List.nil_append]

/-- What follows a gap before further declarations has no fault. -/
theorem faults_flatMap_numbered {g : Text} (hg : IsGap g) (ts : List Text) :
    (nextLexeme (g ++ ts.flatMap (numbered "let"))).2 = [] := by
  cases ts with
  | nil =>
    rw [List.flatMap_nil, List.append_nil]
    exact (lexes_finish hg).faults_eq
  | cons t ts =>
    rw [flatMap_numbered_cons]
    exact (lexes_let hg _).faults_eq

/-- **Declarations are read one after the other**, to the end of the script. -/
theorem Parse.runIn_readScript_of_isDeclarable {g : Text} (hg : IsGap g)
    (hts : ∀ t ∈ ts, IsDeclarable t) (hs : s.IsClean)
    (hnext : s.next = (nextLexeme (g ++ ts.flatMap (numbered "let"))).1)
    (hfuel : ts.length + 9 ≤ fuel) :
    ∃ s', runIn (readScript body (fuel + 1)) s = (ts.map letNumber, s') ∧ s'.IsClean := by
  induction ts generalizing s g fuel with
  | nil =>
    refine ⟨s, runIn_readScript_of_finish ?_, hs⟩
    rw [hnext, List.flatMap_nil, List.append_nil]
    exact (lexes_finish hg).token_eq
  | cons t ts ih =>
    obtain ⟨ht, hts⟩ := List.forall_mem_cons.mp hts
    rw [List.length_cons] at hfuel
    obtain ⟨k, rfl⟩ := Nat.exists_eq_add_of_le' (show 9 ≤ fuel by omega)
    rw [flatMap_numbered_cons] at hnext
    have hlex := lexes_let hg (t ++ ' ' :: '=' :: ' ' :: '1' :: ';' :: '\n'
      :: ts.flatMap (numbered "let"))
    have hlet : s.next.token = .word "let" := by rw [hnext, hlex.token_eq]
    obtain ⟨s', hread, hs', hnext'⟩ := runIn_readStatement_of_isDeclarable body k
      (u := ts.flatMap (numbered "let")) hs ht hlet (by rw [hnext, hlex.rest_eq])
      (faults_flatMap_numbered isGap_line ts)
    obtain ⟨s'', hrest, hs''⟩ := ih isGap_line hts hs' hnext'
      (show ts.length + 9 ≤ k + 8 by omega)
    refine ⟨s'', ?_, hs''⟩
    rw [runIn_readScript_of_statement hs hlet hread, Reading.exporting_eq_self rfl, hrest]
    rfl

theorem next_start {t : Text} (ht : ∀ u, t ≠ '#' :: '!' :: u) :
    (Reading.start t).next = (nextLexeme t).1 ∧ (Reading.start t).faults = (nextLexeme t).2 := by
  have hfirst : firstLexeme t = nextLexeme t := by
    rw [firstLexeme]
    exact ht
  exact ⟨congrArg Prod.fst hfirst, congrArg Prod.snd hfirst⟩

/-- A script of declarations does not start with a hash sign. -/
theorem flatMap_numbered_ne (ts : List Text) (u : Text) :
    ts.flatMap (numbered "let") ≠ '#' :: '!' :: u := by
  cases ts with
  | nil => exact (List.cons_ne_nil _ _).symm
  | cons t ts =>
    rw [flatMap_numbered_cons]
    intro h
    exact absurd (List.cons.inj h).1 (by decide)

theorem length_flatMap_numbered (ts : List Text) :
    ts.length ≤ (ts.flatMap (numbered "let")).length := by
  induction ts with
  | nil => exact Nat.le_refl _
  | cons t ts ih =>
    rw [flatMap_numbered_cons]
    simp only [List.length_append, List.length_cons]
    omega

/-- The reading at the start of such a script. -/
theorem isClean_start (ts : List Text) :
    (Reading.start (ts.flatMap (numbered "let"))).IsClean := by
  refine Reading.IsClean.start ?_
  exact (next_start (flatMap_numbered_ne ts)).2.trans (faults_flatMap_numbered isGap_nil ts)

/-- The names of a script decide if its text is read to the end. -/
theorem check_of_isClean {source : Text} {xs : List Statement}
    (hread : ∀ body fuel, source.length + 11 ≤ fuel →
      ∃ s', Parse.runIn (readScript body fuel) (.start source) = (xs, s') ∧ s'.IsClean) :
    check source = namingProblems xs := by
  obtain ⟨s', hrun, hs'⟩ := hread (readNested (32 * (source.length + 2)) (source.length + 1))
    (32 * (source.length + 2)) (by omega)
  have hmodule : readModule source = (xs, s') := hrun
  have hnone : repeated [] [] = [] := rfl
  rw [check, hmodule]
  simp only [hs'.problems_eq, hs'.exported, hnone, List.map_nil, List.append_nil,
    List.isEmpty_nil, if_true]

/-- **A script of declarations is what it says**, and nothing is wrong with its text. -/
theorem check_flatMap_numbered (hts : ∀ t ∈ ts, IsDeclarable t) :
    check (ts.flatMap (numbered "let")) = namingProblems (ts.map letNumber) := by
  have hlen := length_flatMap_numbered ts
  refine check_of_isClean (fun body fuel hfuel => ?_)
  obtain ⟨k, rfl⟩ := Nat.exists_eq_add_of_le' (show 1 ≤ fuel by omega)
  exact Parse.runIn_readScript_of_isDeclarable isGap_nil hts (isClean_start ts)
    (next_start (flatMap_numbered_ne ts)).1 (by omega)

/-! ## §4. Names that cannot be declared. -/

section

variable {source : Text}

/-- A reading that halted has found something wrong. -/
theorem check_ne_nil_of_halt (h : (readModule source).2.halt.isSome = true) :
    check source ≠ [] := by
  have hproblems := Reading.problems_ne_nil_of_halt h
  have hempty : ((readModule source).2.problems
      ++ (repeated [] (readModule source).2.exported).map Diagnostic.duplicateExport).isEmpty
        = false := by
    rw [List.isEmpty_eq_false_iff]
    exact List.append_ne_nil_of_left_ne_nil hproblems _
  rw [check]
  simp only [hempty, Bool.false_eq_true, if_false]
  exact List.append_ne_nil_of_left_ne_nil hproblems _

/-- The first statement of a script halts the reading. -/
theorem check_ne_nil_of_statement (hs : (Reading.start source).IsClean)
    (hlet : (Reading.start source).next.token = .word "let")
    (h : ∀ body fuel, (Parse.runIn (readStatement body false (fuel + 9))
      (.start source)).2.halt.isSome = true) :
    check source ≠ [] := by
  obtain ⟨k, hk⟩ : ∃ k, 32 * (source.length + 2) = k + 11 :=
    ⟨32 * (source.length + 2) - 11, by omega⟩
  obtain ⟨body, hmodule⟩ : ∃ body,
      readModule source = Parse.runIn (readScript body (k + 11)) (.start source) := by
    rw [← hk]
    exact ⟨_, rfl⟩
  obtain ⟨x, s', hread⟩ : ∃ x s',
      Parse.runIn (readStatement body false (k + 1 + 9)) (.start source) = (x, s') := ⟨_, _, rfl⟩
  have hhalt : (s'.exporting x).halt.isSome = true := by
    have hfirst := h body (k + 1)
    rw [hread] at hfirst
    exact hfirst
  refine check_ne_nil_of_halt ?_
  rw [hmodule, Parse.runIn_readScript_of_statement hs hlet hread,
    Parse.runIn_readScript_of_halt hhalt]
  exact hhalt

/-- Behind `let` stands neither a mark nor a word that could be a name. -/
theorem check_ne_nil_of_no_name (hs : (Reading.start source).IsClean)
    (hlet : (Reading.start source).next.token = .word "let")
    (hmark : ∀ m, (Reading.start source).passed.next.token ≠ .mark m)
    (hword : ∀ t, (Reading.start source).passed.next.token = .word t →
      isBindingWord t = false ∧ precedence? t = none) :
    check source ≠ [] := by
  refine check_ne_nil_of_statement hs hlet (fun body fuel => ?_)
  refine Parse.halt_readStatement_of_no_name (fuel + 5) hlet ?_ hmark
    (fun t ht => (hword t ht).1)
  cases hn : (Reading.start source).passed.next.token with
  | mark m => exact absurd hn (hmark m)
  | word t => rw [Token.followsLetName, (hword t hn).2, Option.isSome_none]
  | _ => rfl

end

/-- What follows the name that a line declares. -/
def valueText : Text := " = 1;\n"

theorem numbered_eq (t : Text) : numbered "let" t = "let".toList ++ ' ' :: (t ++ valueText) := rfl

/-- Such a script starts with `let`, and nothing is wrong with it so far. -/
theorem start_numbered (t : Text) :
    (Reading.start (numbered "let" t)).IsClean
      ∧ (Reading.start (numbered "let" t)).next.token = .word "let"
      ∧ (Reading.start (numbered "let" t)).next.rest = ' ' :: (t ++ valueText) := by
  have hone : [t].flatMap (numbered "let") = numbered "let" t := by
    rw [List.flatMap_cons, List.flatMap_nil, List.append_nil]
  have hclean := isClean_start [t]
  have hnext := (next_start (flatMap_numbered_ne [t])).1
  rw [hone] at hclean hnext
  have hlex := lexes_let isGap_nil (t ++ valueText)
  rw [List.nil_append, ← numbered_eq] at hlex
  exact ⟨hclean, by rw [hnext, hlex.token_eq], by rw [hnext, hlex.rest_eq]⟩

/-- Without a name, `let` is assigned to, and that is no name to assign to. -/
theorem check_numbered_nil : check (numbered "let" []) ≠ [] := by
  obtain ⟨hclean, hlet, hrest⟩ := start_numbered []
  set source := numbered "let" [] with hsource
  set s := Reading.start source with hs
  have hequals : Lexes s.next.rest (.mark "=") (' ' :: '1' :: ';' :: '\n' :: []) := by
    rw [hrest]
    exact lexes_equals isGap_blanks _
  have hnumber : Lexes s.passed.next.rest (.number .decimal none true) (';' :: '\n' :: []) := by
    rw [hequals.passed.2]
    exact lexes_one _
  have hend : Lexes s.passed.passed.next.rest (.mark ";") ('\n' :: []) := by
    rw [hnumber.passed.2]
    exact lexes_semicolon _
  have hfinish : Lexes s.passed.passed.passed.next.rest .finish [] := by
    rw [hend.passed.2]
    exact lexes_finish isGap_line
  have hend' := (((hclean.passed hequals.faults_eq).passed hnumber.faults_eq).passed
    hend.faults_eq).passed hfinish.faults_eq
  have hcheck : check source = namingProblems [.plain [.assign (.name "let") .constant]] := by
    refine check_of_isClean (fun body fuel hfuel => ⟨_, ?_, hend'⟩)
    obtain ⟨k, rfl⟩ := Nat.exists_eq_add_of_le' (show 11 ≤ fuel by omega)
    have hread := Parse.runIn_readStatement_of_assignment body (k + 1) hclean hlet
      hequals.passed.1 hnumber.passed.1 hend.passed.1
    rw [Parse.runIn_readScript_of_statement hclean hlet hread, Reading.exporting_eq_self rfl,
      Parse.runIn_readScript_of_finish hfinish.passed.1]
  rw [hcheck]
  decide +kernel

/-- Reserved words and the names that strict code keeps are refused. -/
theorem check_ne_nil_of_reserved (h : t ∈ reservedWords ∨ t ∈ strictNames) :
    check (numbered "let" t) ≠ [] := by
  have hall : (reservedWords ++ strictNames).all
      (fun t => !(check (numbered "let" t)).isEmpty) = true := by
    decide +kernel
  have hone := List.all_eq_true.mp hall t (List.mem_append.mpr h)
  intro hnil
  rw [hnil] at hone
  cases hone

/-- **A word is declarable if nothing is wrong with its declaration.** -/
theorem isDeclarable_of_check (hsigns : ∀ c ∈ t, isAsciiWord c = true)
    (h : check (numbered "let" t) = []) : IsDeclarable t := by
  obtain ⟨hclean, hlet, hrest⟩ := start_numbered t
  have hne : t ≠ [] := by
    rintro rfl
    exact check_numbered_nil h
  have hdigit : t.head?.any Char.isDigit = false := by
    refine Bool.eq_false_iff.mpr (fun hdigit => ?_)
    obtain ⟨c, w, rfl⟩ := List.exists_cons_of_ne_nil hne
    have hc : c.isDigit = true := hdigit
    have hnumber := nextLexeme_digits (hsigns c List.mem_cons_self) hc (w ++ valueText)
    rw [← List.cons_append, ← hrest, ← Reading.passed_next] at hnumber
    refine check_ne_nil_of_no_name hclean hlet ?_ ?_ h
    · intro m hm
      rcases hnumber with ⟨form, outdated, complete, hn⟩ | hn <;> rw [hn] at hm <;> cases hm
    · intro u hu
      rcases hnumber with ⟨form, outdated, complete, hn⟩ | hn <;> rw [hn] at hu <;> cases hu
  have hword : Lexes (Reading.start (numbered "let" t)).next.rest (.word t) valueText := by
    rw [hrest]
    exact lexes_word isGap_blank hsigns hne hdigit _
  have hbinding : isBindingWord t = true := by
    refine Bool.of_not_eq_false (fun hbinding => ?_)
    cases hp : precedence? t with
    | none =>
      refine check_ne_nil_of_no_name hclean hlet ?_ ?_ h
      · intro m hm
        rw [hword.passed.1] at hm
        cases hm
      · intro u hu
        rw [hword.passed.1] at hu
        injection hu with hu
        exact hu ▸ ⟨hbinding, hp⟩
    | some p =>
      have hequals := lexes_equals isGap_blank ('1' :: ';' :: '\n' :: [])
      rw [show [' '] ++ '=' :: ' ' :: '1' :: ';' :: '\n' :: [] = valueText from by decide,
        ← hword.passed.2] at hequals
      refine check_ne_nil_of_statement hclean hlet (fun body fuel => ?_) h
      exact Parse.halt_readStatement_of_relation hclean
        (relation_of_precedence hp (head_isAsciiWord hsigns hne)) hlet hword.passed.1
        hequals.passed.1
  exact ⟨hsigns, hne, hdigit, hbinding, fun hr => check_ne_nil_of_reserved (Or.inl hr) h,
    fun hr => check_ne_nil_of_reserved (Or.inr hr) h⟩

end ScriptWeave.Program
