/-
  ScriptWeave.Proofs.Build.Components
  ───────────────────────────────────
  **PREPROCESSING A COMPONENT BLOCK BY BLOCK.**

  The blocks of the configured language are processed in order, each in the
  world that its predecessor left.  If all of them succeed, their adapted
  code stands in the place of their contents, and all else stays.  The first
  that fails ends the work: what comes behind it leaves no trace.

      BlocksRun p file bs w os w'      every block went well
      BlocksFail p file bs w e w'      one failed, and those before it went well
-/
import ScriptWeave.Build.Preprocessor
import ScriptWeave.Proofs.Build.Actions
import ScriptWeave.Proofs.Component.Splicing

namespace ScriptWeave

/-! ## §1. Runs. -/

/-- Blocks are processed in order, from one world to another.  A block in another language is
passed, and the world with it. -/
inductive BlocksRun (p : Preprocessor) (file : Text) :
    List ScriptBlock → World → List (Option Adapted) → World → Prop where
  /-- No block is left. -/
  | done (w : World) : BlocksRun p file [] w [] w
  /-- A block in another language is passed. -/
  | skip {b : ScriptBlock} {bs : List ScriptBlock} {w w' : World} {os : List (Option Adapted)}
      (lang : b.isLang p.options.lang = false) (rest : BlocksRun p file bs w os w') :
      BlocksRun p file (b :: bs) w (none :: os) w'
  /-- A block of the language is processed. -/
  | adapt {b : ScriptBlock} {bs : List ScriptBlock} {w w₁ w' : World}
      {os : List (Option Adapted)} {r : Processed}
      (lang : b.isLang p.options.lang = true)
      (here : (p.process b.content file).runIn w = (.ok r, w₁))
      (rest : BlocksRun p file bs w₁ os w') :
      BlocksRun p file (b :: bs) w (some r.script :: os) w'

/-- Blocks are processed in order up to the first one that fails. -/
inductive BlocksFail (p : Preprocessor) (file : Text) :
    List ScriptBlock → World → Failure → World → Prop where
  /-- The first block fails. -/
  | here {b : ScriptBlock} {bs : List ScriptBlock} {w w' : World} {e : Failure}
      (lang : b.isLang p.options.lang = true)
      (here : (p.process b.content file).runIn w = (.error e, w')) :
      BlocksFail p file (b :: bs) w e w'
  /-- A block in another language is passed. -/
  | skip {b : ScriptBlock} {bs : List ScriptBlock} {w w' : World} {e : Failure}
      (lang : b.isLang p.options.lang = false) (rest : BlocksFail p file bs w e w') :
      BlocksFail p file (b :: bs) w e w'
  /-- A block of the language is processed, and a later one fails. -/
  | later {b : ScriptBlock} {bs : List ScriptBlock} {w w₁ w' : World} {e : Failure}
      {r : Processed} (lang : b.isLang p.options.lang = true)
      (here : (p.process b.content file).runIn w = (.ok r, w₁))
      (rest : BlocksFail p file bs w₁ e w') :
      BlocksFail p file (b :: bs) w e w'

variable {p : Preprocessor} {file : Text} {bs : List ScriptBlock} {w w' : World}
  {os : List (Option Adapted)} {e : Failure}

/-- All blocks go well, or one is the first to fail. -/
theorem blocksRun_or_blocksFail (p : Preprocessor) (file : Text) (bs : List ScriptBlock)
    (w : World) :
    (∃ os w', BlocksRun p file bs w os w') ∨ ∃ e w', BlocksFail p file bs w e w' := by
  induction bs generalizing w with
  | nil => exact Or.inl ⟨[], w, .done w⟩
  | cons b bs ih =>
    cases hlang : b.isLang p.options.lang with
    | false =>
      rcases ih w with ⟨os, w', hrest⟩ | ⟨e, w', hrest⟩
      · exact Or.inl ⟨none :: os, w', .skip hlang hrest⟩
      · exact Or.inr ⟨e, w', .skip hlang hrest⟩
    | true =>
      -- this block goes well or not, and what comes behind it runs in the world that it leaves
      rcases hhere : (p.process b.content file).runIn w with ⟨r, w₁⟩
      cases r with
      | error e => exact Or.inr ⟨e, w₁, .here hlang hhere⟩
      | ok r =>
        rcases ih w₁ with ⟨os, w', hrest⟩ | ⟨e, w', hrest⟩
        · exact Or.inl ⟨some r.script :: os, w', .adapt hlang hhere hrest⟩
        · exact Or.inr ⟨e, w', .later hlang hhere hrest⟩

theorem BlocksRun.length_eq (h : BlocksRun p file bs w os w') : os.length = bs.length := by
  induction h with
  | done => rfl
  | skip _ _ ih => rw [List.length_cons, List.length_cons, ih]
  | adapt _ _ _ ih => rw [List.length_cons, List.length_cons, ih]

/-- The outcomes that are adapted scripts are as many as the blocks of the language. -/
theorem BlocksRun.length_scripts (h : BlocksRun p file bs w os w') :
    (os.filterMap id).length = bs.countP (fun b => b.isLang p.options.lang) := by
  induction h with
  | done => rfl
  | skip hlang _ ih =>
    rw [List.countP_cons_of_neg (by simp [hlang])]
    exact ih
  | @adapt b bs _ _ _ _ _ hlang _ _ ih =>
    have hcount : (b :: bs).countP (fun b => b.isLang p.options.lang)
        = bs.countP (fun b => b.isLang p.options.lang) + 1 :=
      List.countP_cons_of_pos hlang
    rw [hcount, ← ih]
    rfl

/-! ## §2. The loop over the blocks. -/

/-- The blocks that were adapted, each with its script. -/
def adaptedBlocks : List ScriptBlock → List (Option Adapted) → List (ScriptBlock × Adapted)
  | b :: bs, some r :: os => (b, r) :: adaptedBlocks bs os
  | _ :: bs, none :: os => adaptedBlocks bs os
  | _, _ => []

theorem runIn_processBlock_skip {b : ScriptBlock} (h : b.isLang p.options.lang = false) :
    (p.processBlock b.content b.attributes file).runIn w = (.ok none, w) := by
  have hlang : ¬ b.attributes.isLang p.options.lang = true := by
    rw [ScriptBlock.isLang] at h
    rw [h]
    decide
  rw [Preprocessor.processBlock, if_neg hlang]
  rfl

theorem runIn_processBlock {b : ScriptBlock} {r : Except Failure Processed}
    (h : b.isLang p.options.lang = true) (hhere : (p.process b.content file).runIn w = (r, w')) :
    (p.processBlock b.content b.attributes file).runIn w = (r.map some, w') := by
  have hlang : b.attributes.isLang p.options.lang = true := h
  rw [Preprocessor.processBlock, if_pos hlang, Action.runIn_map, hhere]

/-- The loop hands out the adapted blocks if every block goes well. -/
theorem BlocksRun.runIn_processBlocks (h : BlocksRun p file bs w os w') :
    (p.processBlocks file bs).runIn w = (.ok (adaptedBlocks bs os), w') := by
  induction h with
  | done => rfl
  | skip hlang _ ih =>
    rw [Preprocessor.processBlocks, Action.runIn_bind_ok (runIn_processBlock_skip hlang)]
    exact ih
  | adapt hlang hhere _ ih =>
    rw [Preprocessor.processBlocks, Action.runIn_bind_ok (runIn_processBlock hlang hhere)]
    show Action.runIn (p.processBlocks file _ >>= _) _ = _
    rw [Action.runIn_bind_ok ih]
    rfl

/-- The loop fails as the first block that fails does, in the world that this block left. -/
theorem BlocksFail.runIn_processBlocks (h : BlocksFail p file bs w e w') :
    (p.processBlocks file bs).runIn w = (.error e, w') := by
  induction h with
  | here hlang hhere =>
    rw [Preprocessor.processBlocks, Action.runIn_bind_error (runIn_processBlock hlang hhere)]
  | skip hlang _ ih =>
    rw [Preprocessor.processBlocks, Action.runIn_bind_ok (runIn_processBlock_skip hlang)]
    exact ih
  | later hlang hhere _ ih =>
    rw [Preprocessor.processBlocks, Action.runIn_bind_ok (runIn_processBlock hlang hhere)]
    show Action.runIn (p.processBlocks file _ >>= _) _ = _
    rw [Action.runIn_bind_error ih]

/-! ## §3. Components. -/

theorem map_adaptedBlocks_replacement (bs : List ScriptBlock) (os : List (Option Adapted)) :
    (adaptedBlocks bs os).map (fun d => ⟨d.1.start, d.1.stop, d.2.code⟩)
      = chosen bs (os.map (Option.map Adapted.code)) := by
  fun_induction adaptedBlocks bs os with
  | case1 b bs r os ih => rw [List.map_cons, ih]; rfl
  | case2 b bs os ih => exact ih
  | case3 bs os h₁ h₂ =>
    cases bs with
    | nil => rfl
    | cons b bs =>
      cases os with
      | nil => rfl
      | cons o os =>
        cases o with
        | none => exact absurd rfl (h₂ b bs os rfl)
        | some r => exact absurd rfl (h₁ b bs r os rfl)

theorem map_adaptedBlocks_snd {bs : List ScriptBlock} {os : List (Option Adapted)}
    (h : os.length = bs.length) : (adaptedBlocks bs os).map Prod.snd = os.filterMap id := by
  fun_induction adaptedBlocks bs os with
  | case1 b bs r os ih => rw [List.map_cons, ih (Nat.succ.inj h)]; rfl
  | case2 b bs os ih => exact ih (Nat.succ.inj h)
  | case3 bs os h₁ h₂ =>
    cases os with
    | nil => rfl
    | cons o os =>
      obtain ⟨b, bs, rfl⟩ := List.exists_cons_of_length_eq_add_one h.symm
      cases o with
      | none => exact absurd rfl (h₂ b bs os rfl)
      | some r => exact absurd rfl (h₁ b bs r os rfl)

/-- A component whose blocks all go well. -/
theorem BlocksRun.runIn_component {source : Text} {gaps : List Text} {last : Text}
    (h : BlocksRun p file (findBlocks source) w os w')
    (hsource : source = interleave gaps ((findBlocks source).map (·.content)) last)
    (hlaid : LaidOut 0 gaps (findBlocks source)) :
    (p.component source file).runIn w
      = (.ok ⟨interleave gaps (settled (findBlocks source) (os.map (Option.map Adapted.code))) last,
              (os.filterMap id).map (·.map),
              (findBlocks source).countP (fun b => b.isLang p.options.lang)⟩, w') := by
  -- the code, the maps and the count are read off the adapted blocks one by one
  have hscripts := map_adaptedBlocks_snd h.length_eq
  have hcode : splice source ((adaptedBlocks (findBlocks source) os).map
        (fun d => ⟨d.1.start, d.1.stop, d.2.code⟩))
      = interleave gaps (settled (findBlocks source) (os.map (Option.map Adapted.code))) last := by
    rw [map_adaptedBlocks_replacement]
    refine splice_chosen hsource hlaid ?_
    rw [List.length_map]
    exact h.length_eq
  have hmaps : (adaptedBlocks (findBlocks source) os).map (fun d => d.2.map)
      = (os.filterMap id).map (·.map) := by
    rw [← hscripts, List.map_map]
    rfl
  have hcount : (adaptedBlocks (findBlocks source) os).length
      = (findBlocks source).countP (fun b => b.isLang p.options.lang) := by
    rw [← h.length_scripts, ← hscripts, List.length_map]
  rw [Preprocessor.component, Action.runIn_bind_ok h.runIn_processBlocks, Action.runIn_pure,
    Preprocessor.assemble, hcode, hmaps, hcount]

/-- A component one of whose blocks fails. -/
theorem BlocksFail.runIn_component {source : Text}
    (h : BlocksFail p file (findBlocks source) w e w') :
    (p.component source file).runIn w = (.error e, w') := by
  rw [Preprocessor.component, Action.runIn_bind_error h.runIn_processBlocks]

/-- **Preprocessing a component.**  A component is gaps and the contents of its blocks in turn.
Either every block of the language goes well, and then the adapted code stands in the place of its
contents and all else is as it was; or the first that fails decides the failure, and the world is
the one that it left. -/
theorem component_spec (p : Preprocessor) (source file : Text) (w : World) :
    ∃ gaps last, source = interleave gaps ((findBlocks source).map (·.content)) last
      ∧ LaidOut 0 gaps (findBlocks source)
      ∧ (∀ os w', BlocksRun p file (findBlocks source) w os w' →
          (p.component source file).runIn w
            = (.ok ⟨interleave gaps
                      (settled (findBlocks source) (os.map (Option.map Adapted.code))) last,
                    (os.filterMap id).map (·.map),
                    (findBlocks source).countP (fun b => b.isLang p.options.lang)⟩, w'))
      ∧ (∀ e w', BlocksFail p file (findBlocks source) w e w' →
          (p.component source file).runIn w = (.error e, w'))
      ∧ ((∃ os w', BlocksRun p file (findBlocks source) w os w')
          ∨ ∃ e w', BlocksFail p file (findBlocks source) w e w') := by
  obtain ⟨gaps, last, hsource, hlaid, -⟩ := findBlocks_laidOut source
  refine ⟨gaps, last, hsource, hlaid, ?_, ?_, blocksRun_or_blocksFail p file _ w⟩
  · intro os w' h
    exact h.runIn_component hsource hlaid
  · intro e w' h
    exact h.runIn_component

end ScriptWeave
