/-
  ScriptWeave.Proofs.Build.Outcomes
  ─────────────────────────────────
  **WHAT A PREPROCESSOR MAKES OF A SOURCE, WHATEVER THE WORLD.**

  If the compiler is a fixed function of the source, a source has an outcome:
  the adapted script, or a failure of the compiler or of the check.  Blocks
  have one, and so have components.  A preprocessor that has the outcome of
  every source that it is given has the outcome of every component.

      compile, adapt, check       the outcome of a source
      in order, up to a failure   the outcome of blocks
-/
import ScriptWeave.Build.Preprocessor
import ScriptWeave.Proofs.Build.Actions

namespace ScriptWeave

namespace Preprocessor

/-! ## §1. Outcomes. -/

/-- What the check of adapted code says. -/
def checkOutcome (p : Preprocessor) (code file : Text) : Except Failure Unit :=
  if p.options.outputCheck = .deny ∧ Program.check code ≠ [] then
    .error (.unacceptable file (Program.check code))
  else .ok ()

/-- What becomes of a source when it is compiled by `f`. -/
def outcome (p : Preprocessor) (f : Text → Except Failure Artifacts) (content file : Text) :
    Except Failure Adapted :=
  (f content).bind (fun artifacts =>
    let r := adapt p.rules p.options.renameOrder artifacts.js artifacts.map
    (p.checkOutcome r.code file).map (fun _ => r))

/-- What becomes of a block when its content is compiled by `f`. -/
def blockOutcome (p : Preprocessor) (f : Text → Except Failure Artifacts) (content : Text)
    (attributes : Attributes) (file : Text) : Except Failure (Option Adapted) :=
  if attributes.isLang p.options.lang then (p.outcome f content file).map some else .ok none

/-- What becomes of blocks when they are compiled by `f`. -/
def blocksOutcome (p : Preprocessor) (f : Text → Except Failure Artifacts) (file : Text) :
    List ScriptBlock → Except Failure (List (ScriptBlock × Adapted))
  | [] => .ok []
  | b :: bs =>
    (p.blockOutcome f b.content b.attributes file).bind (fun
      | some r => (blocksOutcome p f file bs).map (fun done => (b, r) :: done)
      | none => blocksOutcome p f file bs)

/-- What becomes of a component when its blocks are compiled by `f`. -/
def componentOutcome (p : Preprocessor) (f : Text → Except Failure Artifacts)
    (source file : Text) : Except Failure ComponentOutput :=
  (p.blocksOutcome f file (findBlocks source)).map (assemble source)

variable {p : Preprocessor} {f : Text → Except Failure Artifacts} {inv : World → Prop}
  {content file : Text}

theorem checkOutcome_eq_ok_iff {code : Text} :
    p.checkOutcome code file = .ok () ↔ (p.options.outputCheck = .deny → Program.check code = []) := by
  unfold checkOutcome
  split
  next hrefused => simp [hrefused.1, hrefused.2]
  next hpass =>
    refine iff_of_true rfl (fun hdeny => ?_)
    exact Decidable.not_not.mp (fun hne => hpass ⟨hdeny, hne⟩)

/-- A source has an adapted script for an outcome if it compiles, and the script passes the check
or need not. -/
theorem outcome_eq_ok_iff {r : Adapted} :
    p.outcome f content file = .ok r
      ↔ ∃ a, f content = .ok a ∧ adapt p.rules p.options.renameOrder a.js a.map = r
        ∧ (p.options.outputCheck = .deny → Program.check r.code = []) := by
  unfold outcome
  cases f content with
  | error e => simp [Except.bind]
  | ok a =>
    simp only [Except.bind, Except.ok.injEq, exists_eq_left']
    constructor
    · intro h
      cases hcheck : p.checkOutcome (adapt p.rules p.options.renameOrder a.js a.map).code file with
      | error e =>
        rw [hcheck] at h
        exact absurd h (by simp [Except.map])
      | ok u =>
        rw [hcheck] at h
        obtain rfl := Except.ok.inj h
        exact ⟨rfl, checkOutcome_eq_ok_iff.mp hcheck⟩
    · rintro ⟨rfl, hpass⟩
      rw [checkOutcome_eq_ok_iff.mpr hpass]
      rfl

/-- A script that passes the check passes it in every file. -/
theorem outcome_eq_ok {r : Adapted} (h : p.outcome f content file = .ok r) (file' : Text) :
    p.outcome f content file' = .ok r :=
  outcome_eq_ok_iff.mpr (outcome_eq_ok_iff.mp h)

/-- Whoever denies adapts nothing but code that passes the check. -/
theorem check_eq_nil_of_outcome (hdeny : p.options.outputCheck = .deny) {r : Adapted}
    (h : p.outcome f content file = .ok r) : Program.check r.code = [] := by
  obtain ⟨_, _, _, hpass⟩ := outcome_eq_ok_iff.mp h
  exact hpass hdeny

/-! ## §2. Sources. -/

/-- Checking code changes no files, and ends as the check says. -/
theorem meets_check {inv : Files → Prop} (code file : Text) :
    Meets (fun w => inv w.files) (p.check code file) (· = p.checkOutcome code file) := by
  unfold check checkOutcome
  by_cases hoff : p.options.outputCheck = .off
  · rw [if_pos hoff, if_neg (by simp [hoff])]
    exact .pure rfl
  rw [if_neg hoff]
  dsimp only
  by_cases hempty : (Program.check code).isEmpty = true
  · rw [if_pos hempty, if_neg (by simp [List.isEmpty_iff.mp hempty])]
    exact .pure rfl
  -- there are diagnostics: they are a failure or warnings
  have hne : Program.check code ≠ [] := fun h => hempty (List.isEmpty_iff.mpr h)
  rw [if_neg hempty]
  by_cases hdeny : p.options.outputCheck = .deny
  · rw [if_pos hdeny, if_pos ⟨hdeny, hne⟩]
    exact .throw rfl
  · rw [if_neg hdeny, if_neg (fun h => hdeny h.1)]
    exact .lift (fun w hw => ⟨rfl, hw⟩)

/-- What the compiler makes of a source is adapted and checked. -/
theorem meets_produce {inv : Files → Prop} {ends : Except Failure Artifacts → Prop}
    (hcompiler : Meets (fun w => inv w.files) (p.compiler content) ends) :
    Meets (fun w => inv w.files) (p.produce content file)
      (fun r => ∃ a, ends a ∧ r = p.outcome (fun _ => a) content file) := by
  unfold produce outcome
  refine .bind_unit (fun w hw => ⟨rfl, hw⟩) ?_
  -- a compiler that fails is the outcome; else the script is adapted, and then checked
  refine .bind hcompiler ?_ (fun e he => ⟨.error e, he, rfl⟩)
  intro artifacts hartifacts
  refine .bind_unit (.lift (fun w hw => ⟨rfl, hw⟩)) ?_
  refine .bind (meets_check _ file) ?_ ?_
  · intro _ hcheck
    refine .pure ⟨.ok artifacts, hartifacts, ?_⟩
    simp only [Except.bind, ← hcheck]
    rfl
  · intro e he
    refine ⟨.ok artifacts, hartifacts, ?_⟩
    simp only [Except.bind, ← he]
    rfl

/-- Whether a source that is processed has its outcome, in every world in which an invariant
holds, and whichever file it stands in. -/
def Settles (p : Preprocessor) (f : Text → Except Failure Artifacts) (inv : World → Prop)
    (content : Text) : Prop :=
  ∀ file, Meets inv (p.process content file)
    (fun r => r.map Processed.script = p.outcome f content file)

/-! ## §3. Blocks and components. -/

/-- A block of a source that has its outcome has its own. -/
theorem meets_processBlock (h : p.Settles f inv content) (attributes : Attributes) (file : Text) :
    Meets inv (p.processBlock content attributes file)
      (fun r => r.map (Option.map Processed.script) = p.blockOutcome f content attributes file) := by
  unfold processBlock blockOutcome
  split
  next =>
    refine .map ?_
    intro w hw
    obtain ⟨hends, hinv⟩ := h file w hw
    refine ⟨?_, hinv⟩
    rw [← hends]
    cases ((p.process content file).runIn w).1 <;> rfl
  next => exact .pure rfl

/-- Blocks of sources that have their outcomes have theirs. -/
theorem meets_processBlocks {bs : List ScriptBlock} (h : ∀ b ∈ bs, p.Settles f inv b.content)
    (file : Text) :
    Meets inv (p.processBlocks file bs) (· = p.blocksOutcome f file bs) := by
  induction bs with
  | nil => exact .pure rfl
  | cons b bs ih =>
    have hrest := ih (fun b' hb' => h b' (List.mem_cons_of_mem b hb'))
    unfold processBlocks blocksOutcome
    -- the first block decides whether the rest is processed at all
    refine .bind (meets_processBlock (h b List.mem_cons_self) b.attributes file) ?_ ?_
    · intro found hfound
      rw [← hfound]
      cases found with
      | none => exact hrest
      | some r =>
        refine .bind hrest ?_ ?_
        · intro done hdone
          show Meets inv _ (· = (p.blocksOutcome f file bs).map _)
          rw [← hdone]
          exact .pure rfl
        · intro e he
          show _ = (p.blocksOutcome f file bs).map _
          rw [← he]
          rfl
    · intro e he
      rw [← he]
      rfl

/-- **A component whose sources have their outcomes has its own.** -/
theorem meets_component {source : Text}
    (h : ∀ b ∈ findBlocks source, p.Settles f inv b.content) (file : Text) :
    Meets inv (p.component source file) (· = p.componentOutcome f source file) := by
  unfold component componentOutcome
  refine .bind (meets_processBlocks h file) ?_ ?_
  · intro done hdone
    rw [← hdone]
    exact .pure rfl
  · intro e he
    rw [← he]
    rfl

end Preprocessor

end ScriptWeave
