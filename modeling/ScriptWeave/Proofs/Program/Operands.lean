/-
  ScriptWeave.Proofs.Program.Operands
  ───────────────────────────────────
  **OPERANDS THAT STAND ALONE.**

  Most of the steps that read an expression only look for what an expression
  could go on with.  Before a bare token none of them finds the start of
  anything longer, and behind an operand none of them finds a further part if
  the token there ends it.  Then the value is the operand itself:

      runIn (readAssignment (fuel + 6)) s = runIn (readPrimary (fuel + 1)) s
-/
import ScriptWeave.Proofs.Program.Steps

namespace ScriptWeave.Program

/-! ## §1. Tokens around an operand. -/

namespace Token

/-- Whether a token starts nothing longer than an operand of its own. -/
def isBare : Token → Bool
  | .mark m =>
    !unaryOperators.contains m && !([['+', '+'], ['-', '-'], ['(']] : List Text).contains m
  | .word t =>
    !unaryOperators.contains t && !(["await", "async", "yield"].map String.toList).contains t
  | .privateName _ => false
  | _ => true

/-- Whether a token goes on with an operand. -/
def isSuffix : Token → Bool
  | .mark m => ([['.'], ['['], ['('], ['?', '.'], ['+', '+'], ['-', '-']] : List Text).contains m
  | .template _ _ => true
  | _ => false

/-- Whether a token ends operands with operators between them. -/
def endsOperands (t : Token) : Bool := !t.isSuffix && (t.operator?.bind precedence?).isNone

/-- Whether a token ends an expression that no comma divides. -/
def endsValue (t : Token) : Bool :=
  t.endsOperands && !t.assigns && t != .mark "=>" && t != .mark "?"

variable {t : Token}

theorem updates_eq_false_of_isSuffix (h : t.isSuffix = false) : t.updates = false := by
  cases t with
  | mark m =>
    simp only [isSuffix, List.contains_cons, Bool.or_eq_false_iff] at h
    simp only [updates, h, Bool.or_self]
  | _ => rfl

theorem isSuffix_eq_false_of_endsOperands (h : t.endsOperands = true) : t.isSuffix = false := by
  simp only [endsOperands, Bool.and_eq_true, Bool.not_eq_true'] at h
  exact h.1

theorem endsOperands_of_endsValue (h : t.endsValue = true) : t.endsOperands = true := by
  simp only [endsValue, Bool.and_eq_true] at h
  exact h.1.1.1

theorem updates_eq_false_of_isBare (h : t.isBare = true) : t.updates = false := by
  cases t with
  | mark m =>
    simp only [isBare, List.contains_cons, Bool.and_eq_true, Bool.not_eq_true',
      Bool.or_eq_false_iff] at h
    simp only [updates, h, Bool.or_self]
  | _ => rfl

theorem unary?_eq_none_of_isBare (h : t.isBare = true) : t.unary? = none := by
  cases t with
  | mark m =>
    simp only [isBare, Bool.and_eq_true, Bool.not_eq_true'] at h
    simp only [unary?, h, Bool.false_eq_true, if_false]
  | word w =>
    simp only [isBare, Bool.and_eq_true, Bool.not_eq_true'] at h
    simp only [unary?, h, Bool.false_eq_true, if_false]
  | _ => rfl

theorem ne_word_of_isBare (h : t.isBare = true) {w : Text}
    (hw : w ∈ ["await", "async", "yield"].map String.toList) : t ≠ .word w := by
  rintro rfl
  simp only [isBare, Bool.and_eq_true, Bool.not_eq_true', List.contains_eq_mem,
    decide_eq_false_iff_not] at h
  exact h.2 hw

theorem ne_parenthesis_of_isBare (h : t.isBare = true) : t ≠ .mark "(" := by
  rintro rfl
  exact absurd h (by decide)

theorem ne_privateName_of_isBare (h : t.isBare = true) (w : Text) : t ≠ .privateName w := by
  rintro rfl
  cases h

end Token

namespace Parse

variable {body : Parse (List Statement)} {s s' s'' : Reading} {fuel : Nat} {e : Expression}

/-! ## §2. Before and behind an operand. -/

theorem runIn_yieldAhead_of_isBare (h : s.next.token.isBare = true) :
    runIn yieldAhead s = (false, s) := by
  have hword := Token.ne_word_of_isBare h (w := "yield") (by decide)
  rw [yieldAhead, runIn_look, runIn_bind, runIn_acceptWord_of_ne hword]
  rfl

theorem runIn_awaitAhead_of_isBare (h : s.next.token.isBare = true) :
    runIn awaitAhead s = (false, s) := by
  have hword := Token.ne_word_of_isBare h (w := "await") (by decide)
  rw [awaitAhead, runIn_look, runIn_bind, runIn_acceptWord_of_ne hword]
  rfl

theorem runIn_asyncArrowAhead_of_isBare (h : s.next.token.isBare = true) :
    runIn asyncArrowAhead s = (false, s) := by
  have hword := Token.ne_word_of_isBare h (w := "async") (by decide)
  rw [asyncArrowAhead, runIn_look, runIn_bind, runIn_acceptWord_of_ne hword]
  rfl

theorem runIn_arrowSight_of_isBare (h : s.next.token.isBare = true) :
    runIn arrowSight s = (.no, s) := by
  have hword := Token.ne_word_of_isBare h (w := "async") (by decide)
  rw [arrowSight, runIn_look, runIn_bind, runIn_acceptWord_of_ne hword]
  simp only [Bool.false_eq_true, if_false]
  rw [runIn_bind, runIn_accept_of_ne (Token.ne_parenthesis_of_isBare h)]
  rfl

theorem runIn_readSuffixes_of_not_isSuffix (h : s.next.token.isSuffix = false) :
    runIn (readSuffixes body true false e (fuel + 1)) s = (e, s) := by
  rw [readSuffixes]
  simp only [↓runIn_bind, ↓runIn_ite, runIn_halted, runIn_peek, Bool.false_eq_true, if_false,
    runIn_pure]
  cases hn : s.next.token with
  | mark m =>
    simp only [hn, Token.isSuffix, List.contains_cons, Bool.or_eq_false_iff,
      beq_eq_false_iff_ne] at h
    simp only [h, ↓runIn_ite, runIn_pure, decide_false, Bool.false_and, Bool.false_eq_true,
      if_false, ite_self]
  | template p v =>
    rw [hn] at h
    cases h
  | _ => simp only [runIn_pure, ite_self]

theorem runIn_readUnary_of_isBare (hs : s.next.token.isBare = true)
    (hprimary : runIn (readPrimary body (fuel + 1)) s = (e, s'))
    (hs' : s'.next.token.isSuffix = false) :
    runIn (readUnary body (fuel + 3)) s = (e, s') := by
  have hoperand : runIn (readOperand body (fuel + 2)) s = (e, s') := by
    rw [readOperand, runIn_bind, hprimary, runIn_readSuffixes_of_not_isSuffix hs']
  rw [readUnary]
  simp only [↓runIn_bind, ↓runIn_ite, runIn_peek, Token.unary?_eq_none_of_isBare hs,
    runIn_awaitAhead_of_isBare hs, Token.updates_eq_false_of_isBare hs, hoperand,
    Token.updates_eq_false_of_isSuffix hs', Bool.false_and, Bool.false_eq_true, if_false,
    runIn_pure, runIn_atNewLine]

/-- A bare operand is read before the operators behind it. -/
theorem runIn_readBinary_of_isBare {least : Nat} (hs : s.next.token.isBare = true)
    (hprimary : runIn (readPrimary body (fuel + 1)) s = (e, s'))
    (hs' : s'.next.token.isSuffix = false) :
    runIn (readBinary body least (fuel + 4)) s
      = runIn (readBinaryRest body least false e (fuel + 3)) s' := by
  have hparens : (s.next.token == Token.mark "(") = false :=
    beq_false_of_ne (Token.ne_parenthesis_of_isBare hs)
  have hprivate := Token.ne_privateName_of_isBare hs
  rw [readBinary]
  simp only [↓runIn_bind, runIn_peek, runIn_at, hparens,
    runIn_readUnary_of_isBare hs hprimary hs']

theorem runIn_readBinaryRest_of_endsOperands {least : Nat} {parens : Bool}
    (h : s.next.token.endsOperands = true) :
    runIn (readBinaryRest body least parens e (fuel + 1)) s = (e, s) := by
  simp only [Token.endsOperands, Bool.and_eq_true, Option.isNone_iff_eq_none] at h
  rw [readBinaryRest]
  simp only [↓runIn_bind, runIn_peek]
  cases hop : s.next.token.operator? with
  | none => rfl
  | some op =>
    have hnone : precedence? op = none := by simpa only [hop, Option.bind_some] using h.2
    simp only [hnone, runIn_pure]

/-- The words `in` and `instanceof` stand between operands. -/
theorem runIn_readBinaryRest_of_relation {op : Text} {right : Expression}
    (hop : op = "in" ∨ op = "instanceof") (htoken : s.next.token = .word op)
    (hin : s.context.inOperator = true)
    (hright : runIn (readBinary body 8 fuel) s.passed = (right, s')) :
    runIn (readBinaryRest body 0 false e (fuel + 1)) s
      = runIn (readBinaryRest body 0 false (.binary op e right) fuel) s' := by
  have hoperator : s.next.token.operator? = some op := by
    rw [htoken]
    rcases hop with rfl | rfl <;> rfl
  have hprecedence : precedence? op = some 8 := by rcases hop with rfl | rfl <;> rfl
  have hmarks : (op == ['?', '?']) = false ∧ (op == ['*', '*']) = false := by
    rcases hop with rfl | rfl <;> decide
  rw [readBinaryRest]
  simp +decide only [↓runIn_bind, ↓runIn_ite, runIn_peek, runIn_get, hoperator, hprecedence, hin,
    Bool.not_true, Bool.and_false, if_false, runIn_advance, runIn_at, hright, hmarks,
    Bool.false_and, decide_false, Bool.or_self, Nat.reduceBEq]

/-! ## §3. Values. -/

/-- A bare operand is all there is if the token behind it ends operands. -/
theorem runIn_readBinary_of_endsOperands {least : Nat} (hs : s.next.token.isBare = true)
    (hprimary : runIn (readPrimary body (fuel + 1)) s = (e, s'))
    (hs' : s'.next.token.endsOperands = true) :
    runIn (readBinary body least (fuel + 4)) s = (e, s') := by
  rw [runIn_readBinary_of_isBare hs hprimary (Token.isSuffix_eq_false_of_endsOperands hs'),
    runIn_readBinaryRest_of_endsOperands hs']

theorem runIn_readAssignment_of_isBare (hs : s.next.token.isBare = true) :
    runIn (readAssignment body (fuel + 1)) s = runIn (readOperation body fuel) s := by
  rw [readAssignment]
  simp only [↓runIn_bind, ↓runIn_ite, runIn_yieldAhead_of_isBare hs,
    runIn_asyncArrowAhead_of_isBare hs, runIn_arrowSight_of_isBare hs, Bool.false_eq_true, if_false]

theorem runIn_readOperation_of_endsValue (hbinary : runIn (readBinary body 0 fuel) s = (e, s'))
    (hs' : s'.next.token.endsValue = true) :
    runIn (readOperation body (fuel + 1)) s = (e, s') := by
  simp only [Token.endsValue, Bool.and_eq_true, Bool.not_eq_true', bne_iff_ne] at hs'
  rw [readOperation]
  simp only [↓runIn_bind, ↓runIn_ite, hbinary, runIn_at, runIn_peek, beq_false_of_ne hs'.1.2,
    hs'.1.1.2, Bool.false_eq_true, if_false, runIn_accept_of_ne hs'.2, runIn_pure]

/-- **A value is a bare operand** if the token behind that ends values. -/
theorem runIn_readAssignment_of_endsValue (hs : s.next.token.isBare = true)
    (hprimary : runIn (readPrimary body (fuel + 1)) s = (e, s'))
    (hs' : s'.next.token.endsValue = true) :
    runIn (readAssignment body (fuel + 6)) s = (e, s') := by
  have hbinary : runIn (readBinary body 0 (fuel + 4)) s = (e, s') :=
    runIn_readBinary_of_endsOperands hs hprimary (Token.endsOperands_of_endsValue hs')
  rw [runIn_readAssignment_of_isBare hs, runIn_readOperation_of_endsValue hbinary hs']

/-- What stands before an equals sign is assigned to. -/
theorem runIn_readOperation_of_assign {s₁ s₂ s₃ : Reading} {v : Expression}
    (hbinary : runIn (readBinary body 0 fuel) s = (e, s₁)) (hequals : s₁.next.token = .mark "=")
    (htarget : runIn (checkTarget true e) s₁ = (⟨⟩, s₂))
    (hvalue : runIn (readAssignment body fuel) s₂.passed = (v, s₃)) :
    runIn (readOperation body (fuel + 1)) s = (.assign e v, s₃) := by
  have harrow : (Token.mark "=" == .mark "=>") = false := by decide
  have hassigns : (Token.mark "=").assigns = true := by decide
  rw [readOperation]
  simp only [↓runIn_bind, ↓runIn_ite, hbinary, runIn_at, runIn_peek, hequals, harrow, hassigns,
    Bool.false_eq_true, if_false, if_true, beq_self_eq_true, htarget, runIn_advance, hvalue,
    runIn_pure]

/-! ## §4. Names and numbers. -/

theorem runIn_checkName {t : Text} {c : Context} (ht : t ≠ "await") (hc : c.yields = false) :
    runIn (checkName t c) s = (⟨⟩, s) := by
  rw [checkName]
  simp only [beq_false_of_ne ht, hc, Bool.and_false, Bool.false_and, Bool.false_eq_true, if_false]
  rfl

theorem runIn_readReference {t : Text} (htoken : s.next.token = .word t)
    (hname : isBindingWord t = true) (ht : t ≠ "await") (hc : s.context.yields = false) :
    runIn readReference s = (.name t, s.passed) := by
  rw [readReference]
  simp only [↓runIn_bind, runIn_peek, runIn_get, htoken, hname, if_true, runIn_checkName ht hc,
    runIn_advance, runIn_pure]

theorem runIn_readBinding {t : Text} (htoken : s.next.token = .word t)
    (hname : isBindingWord t = true) (ht : t ≠ "await") (hc : s.context.yields = false) :
    runIn readBinding s = (t, s.passed) := by
  rw [readBinding]
  simp only [↓runIn_bind, runIn_peek, runIn_get, htoken, hname, if_true, runIn_checkName ht hc,
    runIn_advance, runIn_pure]

/-- No name is read where the language keeps the word or there is none. -/
theorem halts_readBinding (h : ∀ t, s.next.token = .word t → isBindingWord t = false) :
    Halts readBinding s := by
  cases hn : s.next.token with
  | word t =>
    refine (halts_haltWith (.wordAsName t) s).of_runIn_eq ?_
    rw [readBinding]
    simp only [↓runIn_bind, runIn_peek, hn, h t hn, Bool.false_eq_true, if_false, runIn_pure]
  | _ =>
    refine (halts_unexpected s).of_runIn_eq ?_
    rw [readBinding]
    simp only [↓runIn_bind, runIn_peek, hn, runIn_pure]

theorem ne_of_isBindingWord {t w : Text} (ht : isBindingWord t = true)
    (hw : languageWords.contains w = true) : (t == w) = false := by
  refine beq_false_of_ne ?_
  rintro rfl
  rw [isBindingWord, hw] at ht
  cases ht

/-- A word that is no word of the language is a name. -/
theorem runIn_readPrimary_of_isBindingWord {t : Text} (htoken : s.next.token = .word t)
    (hname : isBindingWord t = true) (ht : t ≠ "async") :
    runIn (readPrimary body (fuel + 1)) s = runIn readReference s := by
  have hne {w : Text} := ne_of_isBindingWord (w := w) hname
  have hliteral : literalWords.contains t = false := by
    simp only [literalWords, List.map_cons, List.map_nil, List.contains_cons, List.contains_nil,
      hne (w := "null") (by decide), hne (w := "true") (by decide),
      hne (w := "false") (by decide), Bool.or_self]
  rw [readPrimary]
  simp only [↓runIn_bind, runIn_peek, htoken, hliteral, hne (w := "this") (by decide),
    hne (w := "function") (by decide), hne (w := "class") (by decide),
    hne (w := "new") (by decide), hne (w := "super") (by decide), hne (w := "import") (by decide),
    beq_false_of_ne ht,
    Bool.or_self, Bool.false_eq_true, if_false]

theorem runIn_readPrimary_of_number {form : NumberForm}
    (htoken : s.next.token = .number form none true) :
    runIn (readPrimary body (fuel + 1)) s = (.constant, s.passed) := by
  rw [readPrimary]
  simp only [↓runIn_bind, runIn_peek, htoken, if_true, runIn_pure, runIn_advance]
  rfl

/-- **No operand is read** at the end of a script and at an equals sign. -/
theorem runIn_readPrimary_of_no_operand (h : s.next.token = .finish ∨ s.next.token = .mark "=") :
    runIn (readPrimary body (fuel + 1)) s = (.constant, (runIn unexpected s).2) := by
  rw [readPrimary]
  rcases h with h | h
  · simp only [↓runIn_bind, runIn_peek, h, runIn_pure]
  · simp +decide only [↓runIn_bind, runIn_peek, h, if_false, runIn_pure]

end Parse

end ScriptWeave.Program
