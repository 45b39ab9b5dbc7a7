/-
  ScriptWeave.Proofs.Program.Steps
  ────────────────────────────────
  **WHAT A STEP OF READING DOES.**

  A step answers something and leaves a reading.  `runIn` gives both, and
  here is one equation for each of the steps that others are made of: looking
  changes nothing, passing a token leaves `Reading.passed`, halting leaves a
  reading that is halted at the same token.

      runIn (p >>= f) s = runIn (f a) s'     where (a, s') = runIn p s
-/
import ScriptWeave.Program.Validity

namespace ScriptWeave.Program

/-! ## §1. Readings. -/

namespace Reading

/-- The reading behind the next token. -/
def passed (s : Reading) : Reading :=
  { s with next := (nextLexeme s.next.rest).1, position := s.position + 1
           faults := s.faults ++ (nextLexeme s.next.rest).2 }

variable {s : Reading}

@[simp] theorem passed_next : s.passed.next = (nextLexeme s.next.rest).1 := rfl
@[simp] theorem passed_context : s.passed.context = s.context := rfl

/-- A reading that nothing is wrong with and that has read no exports. -/
structure IsClean (s : Reading) : Prop where
  /-- `in` and `await` are operators, and `yield` and `return` cannot stand here. -/
  context : s.context = ⟨true, true, false, false⟩
  /-- No literal is faulty. -/
  faults : s.faults = []
  /-- There are no remarks. -/
  remarks : s.remarks = []
  /-- It goes on. -/
  halt : s.halt = none
  /-- No object waits to become a target. -/
  defaults : s.defaults = []
  /-- Nothing is exported. -/
  exported : s.exported = []

/-- A token without a fault leaves a reading that nothing is wrong with. -/
theorem IsClean.passed (h : s.IsClean) (hfaults : (nextLexeme s.next.rest).2 = []) :
    s.passed.IsClean where
  context := h.context
  faults := by rw [Reading.passed, h.faults, hfaults]; rfl
  remarks := h.remarks
  halt := h.halt
  defaults := h.defaults
  exported := h.exported

theorem IsClean.start {source : Text} (hfaults : (firstLexeme source).2 = []) :
    (Reading.start source).IsClean := ⟨rfl, hfaults, rfl, rfl, rfl, rfl⟩

/-- Nothing is wrong with the text of such a reading. -/
theorem IsClean.problems_eq (h : s.IsClean) : s.problems = [] := by
  rw [problems, h.faults, h.halt, h.remarks, h.defaults]
  rfl

/-- **Something is wrong with a script whose reading halted.** -/
theorem problems_ne_nil_of_halt (h : s.halt.isSome = true) : s.problems ≠ [] := by
  obtain ⟨stop, hstop⟩ := Option.isSome_iff_exists.mp h
  rw [problems, hstop]
  by_cases hf : s.faults = []
  · simp [hf]
  · simp [hf]

end Reading

/-! ## §2. Runs of steps. -/

namespace Parse

variable {α β : Type} {s : Reading}

/-- What a step answers, and the reading it leaves. -/
def runIn (p : Parse α) (s : Reading) : α × Reading := p.run s

@[simp] theorem runIn_pure (a : α) : runIn (pure a) s = (a, s) := rfl

-- unfolded by hand, since a long step is not to be compared with its run by computing both
@[simp] theorem runIn_bind (p : Parse α) (f : α → Parse β) :
    runIn (p >>= f) s = runIn (f (runIn p s).1) (runIn p s).2 := by
  unfold runIn
  rfl

@[simp] theorem runIn_get : runIn get s = (s, s) := rfl

@[simp] theorem runIn_set (s' : Reading) : runIn (set s') s = (⟨⟩, s') := rfl

@[simp] theorem runIn_modify (f : Reading → Reading) : runIn (modify f) s = (⟨⟩, f s) := rfl

@[simp] theorem runIn_ite (c : Prop) [Decidable c] (p q : Parse α) :
    runIn (if c then p else q) s = if c then runIn p s else runIn q s := by
  split <;> rfl

@[simp] theorem runIn_look (p : Parse α) : runIn (look p) s = ((runIn p s).1, s) := rfl

@[simp] theorem runIn_peek : runIn peek s = (s.next.token, s) := rfl

@[simp] theorem runIn_halted : runIn halted s = (s.halt.isSome, s) := rfl

@[simp] theorem runIn_stuck :
    runIn stuck s = (s.halt.isSome || s.next.token == .finish || s.next.token == .unreadable, s) :=
  rfl

@[simp] theorem runIn_atNewLine : runIn atNewLine s = (s.next.newLine, s) := rfl

@[simp] theorem runIn_at (m : Text) : runIn (at? m) s = (s.next.token == .mark m, s) := rfl

@[simp] theorem runIn_atWord (w : Text) : runIn (atWord w) s = (s.next.token == .word w, s) := rfl

@[simp] theorem runIn_advance : runIn advance s = (⟨⟩, s.passed) := rfl

/-! ## §3. Tokens that are accepted. -/

theorem runIn_accept_of_eq {m : Text} (h : s.next.token = .mark m) :
    runIn (accept m) s = (true, s.passed) := by
  rw [accept, runIn_bind, runIn_at, h, beq_self_eq_true]
  rfl

theorem runIn_accept_of_ne {m : Text} (h : s.next.token ≠ .mark m) :
    runIn (accept m) s = (false, s) := by
  rw [accept, runIn_bind, runIn_at, beq_false_of_ne h]
  rfl

theorem runIn_acceptWord_of_ne {w : Text} (h : s.next.token ≠ .word w) :
    runIn (acceptWord w) s = (false, s) := by
  rw [acceptWord, runIn_bind, runIn_atWord, beq_false_of_ne h]
  rfl

/-- A semicolon ends a statement. -/
theorem runIn_endStatement_of_eq (h : s.next.token = .mark ";") :
    runIn endStatement s = (⟨⟩, s.passed) := by
  have hend : runIn canEnd s = (true, s) := by
    show (_ || decide (s.next.token ∈ _), s) = _
    rw [h, decide_eq_true (List.mem_cons_self), Bool.or_true]
  rw [endStatement, runIn_bind, hend]
  simp only [if_true, runIn_bind, runIn_accept_of_eq h, runIn_pure]

/-! ## §4. Steps that halt. -/

/-- A step halts the reading where it is, or leaves it halted. -/
structure Halts (p : Parse α) (s : Reading) : Prop where
  /-- The reading is halted. -/
  halt : (runIn p s).2.halt.isSome = true
  /-- The token stays. -/
  token : (runIn p s).2.next.token = s.next.token
  /-- A reading that went on has nothing left behind its token. -/
  rest : s.halt = none → (runIn p s).2.next.rest = []

theorem halts_haltWith (d : Diagnostic) (s : Reading) : Halts (haltWith d) s := by
  cases h : s.halt with
  | some stop =>
    have hrun : runIn (haltWith d) s = (⟨⟩, s) := by simp only [haltWith, runIn_modify, h]
    exact ⟨by rw [hrun, h]; rfl, by rw [hrun], by simp [h]⟩
  | none =>
    have hrun : runIn (haltWith d) s = (⟨⟩, { s with
        halt := some ⟨d, s.remarks.length⟩
        next := { s.next with start := [], rest := [] } }) := by
      simp only [haltWith, runIn_modify, h]
    exact ⟨by rw [hrun]; rfl, by rw [hrun], fun _ => by rw [hrun]⟩

/-- A reading that is halted stays as it is. -/
theorem runIn_haltWith_of_halt (d : Diagnostic) (h : s.halt.isSome = true) :
    runIn (haltWith d) s = (⟨⟩, s) := by
  obtain ⟨stop, hstop⟩ := Option.isSome_iff_exists.mp h
  simp only [haltWith, runIn_modify, hstop]

theorem Halts.of_runIn_eq {p : Parse α} {q : Parse β} (h : Halts q s)
    (hpq : (runIn p s).2 = (runIn q s).2) : Halts p s :=
  ⟨by rw [hpq]; exact h.halt, by rw [hpq]; exact h.token, by rw [hpq]; exact h.rest⟩

theorem halts_unexpected (s : Reading) : Halts unexpected s := by
  -- a fault that is taken back changes neither the token nor what follows it
  have hless : ∀ d, Halts (do set { s with faults := s.faults.dropLast }; haltWith d) s := by
    intro d
    have h := halts_haltWith d { s with faults := s.faults.dropLast }
    exact ⟨h.halt, h.token, h.rest⟩
  have hplain := halts_haltWith .unexpectedToken s
  cases hlast : s.faults.getLast? with
  | none =>
    refine hplain.of_runIn_eq ?_
    cases htoken : s.next.token <;>
      simp only [unexpected, runIn_bind, runIn_get, htoken, hlast]
  | some d =>
    cases htoken : s.next.token with
    | finish =>
      refine (hless d).of_runIn_eq ?_
      simp only [unexpected, runIn_bind, runIn_get, htoken, hlast]
    | unreadable =>
      refine (hless d).of_runIn_eq ?_
      simp only [unexpected, runIn_bind, runIn_get, htoken, hlast]
    | _ =>
      refine hplain.of_runIn_eq ?_
      simp only [unexpected, runIn_bind, runIn_get, htoken]

end Parse

end ScriptWeave.Program
