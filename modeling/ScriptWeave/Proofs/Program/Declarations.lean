/-
  ScriptWeave.Proofs.Program.Declarations
  ───────────────────────────────────────
  **READING LET DECLARATIONS.**

  Behind `let` a name, an equals sign, a number and a semicolon are a
  declaration.  What stands there instead of a name decides what else
  happens: no name halts the reading, and so does a word between operands,
  since then `let` is an operand itself.

  No step here goes deeper than nine others, so with that much fuel none of
  them ends for want of it.
-/
import Mathlib.Tactic.Set
import ScriptWeave.Proofs.Program.Operands

namespace ScriptWeave.Program

namespace Parse

variable {body : Parse (List Statement)} {s s' : Reading} {fuel : Nat}

/-! ## §1. One declarator. -/

theorem opensPattern_eq_false {t : Token} (h : ∀ m, t ≠ .mark m) : opensPattern t = false := by
  rw [opensPattern, beq_false_of_ne (h _), beq_false_of_ne (h _), Bool.or_self]

theorem runIn_readNamePattern (h : ∀ m, s.next.token ≠ .mark m) :
    runIn (readNamePattern body (fuel + 1)) s
      = ([.name (runIn readBinding s).1], (runIn readBinding s).2) := by
  rw [readNamePattern]
  simp only [↓runIn_bind, runIn_peek, runIn_pure]

/-- A name without a value. -/
theorem runIn_readDeclarator_of_no_value (h : ∀ m, s.next.token ≠ .mark m)
    (hvalue : (runIn readBinding s).2.next.token ≠ .mark "=") :
    runIn (readDeclarator body (fuel + 1)) s
      = (⟨[.name (runIn readBinding s).1], [], false⟩, (runIn readBinding s).2) := by
  rw [readDeclarator]
  simp only [↓runIn_bind, runIn_peek, opensPattern_eq_false h, runIn_readNamePattern h,
    runIn_accept_of_ne hvalue, Bool.false_eq_true, if_false, runIn_pure]

/-- A name with a value. -/
theorem runIn_readDeclarator_of_value {e : Expression} (h : ∀ m, s.next.token ≠ .mark m)
    (hequals : (runIn readBinding s).2.next.token = .mark "=")
    (hvalue : runIn (readAssignment body (fuel + 1)) (runIn readBinding s).2.passed = (e, s')) :
    runIn (readDeclarator body (fuel + 1)) s
      = (⟨[.name (runIn readBinding s).1], [e], false⟩, s') := by
  rw [readDeclarator]
  simp only [↓runIn_bind, runIn_peek, opensPattern_eq_false h, runIn_readNamePattern h,
    runIn_accept_of_eq hequals, if_true, hvalue, runIn_pure]

/-- A declaration with one declarator. -/
theorem runIn_readDeclaration {names : Pattern} {value : List Expression}
    (hdeclarator : runIn (readDeclarator body fuel) s = (⟨names, value, false⟩, s'))
    (hcomma : s'.next.token ≠ .mark ",") :
    runIn (readDeclaration body .let false (fuel + 1)) s
      = (.declare .block [(names, value)], (runIn endStatement s').2) := by
  have hmissing : runIn (missingValue .let false) s' = (⟨⟩, s') := rfl
  have hone : runIn (readDeclarators body .let true (fuel + 1)) s
      = ([⟨names, value, false⟩], s') := by
    rw [readDeclarators]
    simp only [↓runIn_bind, ↓runIn_ite, hdeclarator, hmissing, runIn_pure, ite_self,
      runIn_accept_of_ne hcomma, Bool.false_eq_true, if_false]
  rw [readDeclaration]
  simp only [↓runIn_bind, hone, Bool.false_and, Bool.false_eq_true, if_false, runIn_pure]
  rfl

/-! ## §2. What stands behind `let`. -/

/-- A halted reading is not ended by a token that is no semicolon. -/
theorem runIn_endStatement_of_halt (hhalt : s.halt.isSome = true)
    (htoken : s.next.token ≠ .mark ";") : runIn endStatement s = (⟨⟩, s) := by
  have hend : (runIn canEnd s).2 = s := rfl
  rw [endStatement]
  simp only [↓runIn_bind, ↓runIn_ite, hend, runIn_accept_of_ne htoken,
    runIn_haltWith_of_halt _ hhalt, runIn_pure, ite_self]

theorem runIn_readStatement_of_let (h : s.next.token = .word "let") :
    runIn (readStatement body false (fuel + 1)) s = runIn (readLet body false fuel) s := by
  rw [readStatement]
  simp +decide only [↓runIn_bind, runIn_peek, h, if_false, if_true]

/-- Behind `let` stands something other than a mark: it is declared. -/
theorem runIn_readLet_of_declaration (hnext : s.passed.next.token.followsLetName = false)
    (hmark : ∀ m, s.passed.next.token ≠ .mark m) :
    runIn (readLet body false fuel) s = runIn (readDeclaration body .let false fuel) s.passed := by
  rw [readLet]
  simp only [↓runIn_bind, ↓runIn_ite, runIn_look, runIn_advance, runIn_peek, hnext,
    beq_false_of_ne (hmark _), Bool.false_and, Bool.or_self, Bool.false_eq_true, if_false]

/-- Behind `let` stands something that follows a name: `let` is a name itself. -/
theorem runIn_readLet_of_value {e : Expression}
    (hnext : s.passed.next.token.followsLetName = true)
    (hvalue : runIn (readAssignment body fuel) s = (e, s')) :
    runIn (readLet body false fuel) s = (.plain [e], (runIn endStatement s').2) := by
  rw [readLet]
  simp only [↓runIn_bind, runIn_look, runIn_advance, runIn_peek, hnext, if_true, hvalue, runIn_pure]

/-- **A declaration of one name with a number.** -/
theorem runIn_readStatement_of_declaration {t : Text} {form : NumberForm} (hs : s.IsClean)
    (hname : isBindingWord t = true) (hawait : t ≠ "await") (hprecedence : precedence? t = none)
    (hlet : s.next.token = .word "let") (hword : s.passed.next.token = .word t)
    (hequals : s.passed.passed.next.token = .mark "=")
    (hnumber : s.passed.passed.passed.next.token = .number form none true)
    (hend : s.passed.passed.passed.passed.next.token = .mark ";") :
    runIn (readStatement body false (fuel + 9)) s
      = (.declare .block [([.name t], [.constant])],
          s.passed.passed.passed.passed.passed) := by
  have hfollows : s.passed.next.token.followsLetName = false := by
    rw [hword, Token.followsLetName, hprecedence]
    rfl
  have hmark : ∀ m, s.passed.next.token ≠ .mark m := by
    intro m
    rw [hword]
    exact Token.noConfusion
  have hbinding : runIn readBinding s.passed = (t, s.passed.passed) :=
    runIn_readBinding hword hname hawait (by rw [Reading.passed_context, hs.context])
  have hvalue : runIn (readAssignment body (fuel + 7)) (runIn readBinding s.passed).2.passed
      = (.constant, s.passed.passed.passed.passed) := by
    rw [hbinding]
    refine runIn_readAssignment_of_endsValue (by rw [hnumber]; rfl)
      (runIn_readPrimary_of_number hnumber) ?_
    rw [hend]
    decide
  have hdeclarator := runIn_readDeclarator_of_value hmark (by rw [hbinding]; exact hequals) hvalue
  rw [hbinding] at hdeclarator
  have hcomma : s.passed.passed.passed.passed.next.token ≠ .mark "," := by
    rw [hend]
    decide
  rw [runIn_readStatement_of_let hlet, runIn_readLet_of_declaration hfollows hmark,
    runIn_readDeclaration hdeclarator hcomma, runIn_endStatement_of_eq hend]

/-- **No name behind `let`** halts the reading. -/
theorem halt_readStatement_of_no_name (fuel : Nat) (hlet : s.next.token = .word "let")
    (hfollows : s.passed.next.token.followsLetName = false)
    (hmark : ∀ m, s.passed.next.token ≠ .mark m)
    (hname : ∀ t, s.passed.next.token = .word t → isBindingWord t = false) :
    (runIn (readStatement body false (fuel + 4)) s).2.halt.isSome = true := by
  have hbinding := halts_readBinding hname
  have hmark' : ∀ m, (runIn readBinding s.passed).2.next.token ≠ .mark m := by
    intro m
    rw [hbinding.token]
    exact hmark m
  rw [runIn_readStatement_of_let hlet, runIn_readLet_of_declaration hfollows hmark,
    runIn_readDeclaration (runIn_readDeclarator_of_no_value hmark (hmark' _)) (hmark' _),
    runIn_endStatement_of_halt hbinding.halt (hmark' _)]
  exact hbinding.halt

/-! ## §3. What is read when `let` is a name. -/

theorem runIn_readPrimary_let (hs : s.IsClean) (hlet : s.next.token = .word "let") :
    runIn (readPrimary body (fuel + 1)) s = (.name "let", s.passed) := by
  rw [runIn_readPrimary_of_isBindingWord hlet (by decide) (by decide),
    runIn_readReference hlet (by decide) (by decide) (by rw [hs.context])]

theorem isBare_let (hlet : s.next.token = .word "let") : s.next.token.isBare = true := by
  rw [hlet]
  decide

/-- Without a name behind it, `let` is assigned to. -/
theorem runIn_readStatement_of_assignment (body : Parse (List Statement)) (fuel : Nat)
    {form : NumberForm} (hs : s.IsClean)
    (hlet : s.next.token = .word "let") (hequals : s.passed.next.token = .mark "=")
    (hnumber : s.passed.passed.next.token = .number form none true)
    (hend : s.passed.passed.passed.next.token = .mark ";") :
    runIn (readStatement body false (fuel + 9)) s
      = (.plain [.assign (.name "let") .constant], s.passed.passed.passed.passed) := by
  have hfollows : s.passed.next.token.followsLetName = true := by
    rw [hequals]
    decide
  have hbinary : runIn (readBinary body 0 (fuel + 6)) s = (.name "let", s.passed) :=
    runIn_readBinary_of_endsOperands (isBare_let hlet) (runIn_readPrimary_let hs hlet)
      (by rw [hequals]; decide)
  have htarget : runIn (checkTarget true (.name "let")) s.passed = (⟨⟩, s.passed) := by
    rw [checkTarget, runIn_pure]
  have hvalue : runIn (readAssignment body (fuel + 6)) s.passed.passed
      = (.constant, s.passed.passed.passed) :=
    runIn_readAssignment_of_endsValue (by rw [hnumber]; rfl) (runIn_readPrimary_of_number hnumber)
      (by rw [hend]; decide)
  have hassign := runIn_readOperation_of_assign hbinary hequals htarget hvalue
  have hwhole := (runIn_readAssignment_of_isBare (isBare_let hlet)).trans hassign
  rw [runIn_readStatement_of_let hlet, runIn_readLet_of_value hfollows hwhole,
    runIn_endStatement_of_eq hend]

/-- At the end of a script there is no value. -/
theorem runIn_readAssignment_of_finish (body : Parse (List Statement)) (fuel : Nat)
    (h : s.next.token = .finish) :
    runIn (readAssignment body (fuel + 6)) s = (.constant, (runIn unexpected s).2) :=
  runIn_readAssignment_of_endsValue (by rw [h]; rfl)
    (runIn_readPrimary_of_no_operand (Or.inl h))
    (by rw [(halts_unexpected s).token, h]; decide)

/-- **A word between operands behind `let`**, and no operand behind that: the reading halts. -/
theorem halt_readStatement_of_relation {op : Text} (hs : s.IsClean)
    (hop : op = "in" ∨ op = "instanceof") (hlet : s.next.token = .word "let")
    (hword : s.passed.next.token = .word op)
    (hequals : s.passed.passed.next.token = .mark "=") :
    (runIn (readStatement body false (fuel + 9)) s).2.halt.isSome = true := by
  have hfollows : s.passed.next.token.followsLetName = true := by
    rw [hword]
    rcases hop with rfl | rfl <;> rfl
  have hsuffix : s.passed.next.token.isSuffix = false := by
    rw [hword]
    rfl
  -- the right operand starts at the equals sign, where the reading halts
  have hright := halts_unexpected s.passed.passed
  set stopped := (runIn unexpected s.passed.passed).2
  have hends : stopped.next.token.endsOperands = true := by
    rw [hright.token, hequals]
    decide
  have hoperand : runIn (readBinary body 8 (fuel + 4)) s.passed.passed = (.constant, stopped) :=
    runIn_readBinary_of_endsOperands (by rw [hequals]; decide)
      (runIn_readPrimary_of_no_operand (Or.inr hequals)) hends
  have hbinary : runIn (readBinary body 0 (fuel + 6)) s
      = (.binary op (.name "let") .constant, stopped) := by
    rw [runIn_readBinary_of_isBare (isBare_let hlet) (runIn_readPrimary_let hs hlet) hsuffix,
      runIn_readBinaryRest_of_relation hop hword (by rw [Reading.passed_context, hs.context])
        hoperand,
      runIn_readBinaryRest_of_endsOperands hends]
  have htarget : runIn (checkTarget true (.binary op (.name "let") .constant)) stopped
      = (⟨⟩, stopped) := by
    rw [checkTarget, runIn_haltWith_of_halt _ hright.halt]
    all_goals simp
  -- nothing is left behind the equals sign
  have hfinish : stopped.passed.next.token = .finish := by
    have hhalt : s.passed.passed.halt = none := hs.halt
    rw [Reading.passed_next, hright.rest hhalt]
    rfl
  have hvalue := runIn_readAssignment_of_finish body fuel hfinish
  have hlast := halts_unexpected stopped.passed
  have hsemicolon : (runIn unexpected stopped.passed).2.next.token ≠ .mark ";" := by
    rw [hlast.token, hfinish]
    exact Token.noConfusion
  have hassign := runIn_readOperation_of_assign hbinary (hright.token.trans hequals) htarget hvalue
  have hwhole := (runIn_readAssignment_of_isBare (isBare_let hlet)).trans hassign
  rw [runIn_readStatement_of_let hlet, runIn_readLet_of_value hfollows hwhole,
    runIn_endStatement_of_halt hlast.halt hsemicolon]
  exact hlast.halt

end Parse

end ScriptWeave.Program
