/-
  ScriptWeave.Proofs.Build.StrictCheck
  ────────────────────────────────────
  **WHEN CODE THAT IS HANDED OUT HAS PASSED THE CHECK.**

  A preprocessor that denies checks what it compiles, but hands out what it
  finds in its cache without a look; and the key of an entry says nothing
  about the check that was made before it was stored.  So what it hands out
  has passed the check as long as all who store entries under its key deny.

      stored under the key   →   passed the check
      found under the key    →   passed the check

  One preprocessor with the same cache that does not check is enough to have
  code handed out that would have been refused.
-/
import ScriptWeave.Proofs.Build.Transparency

namespace ScriptWeave

open ScriptCache

/-! ## §1. Sources. -/

namespace Preprocessor

variable {p : Preprocessor} {content file path : Text} {good : Text → Adapted → Prop}

/-- Processing a source keeps a good entry if all that may be stored for the source is good. -/
theorem keeps_process (hcompiler : Keeps (fun w => EntryAt path good w.files) (p.compiler content))
    (hgood : ∀ c, p.cache = some c → ∀ f r, p.outcome f content file = .ok r →
      good (c.key content) r) :
    Keeps (fun w => EntryAt path good w.files) (p.process content file) := by
  have hlookUp : Keeps (fun w => EntryAt path good w.files) (liftM (p.lookUp content)) := by
    unfold lookUp
    cases p.cache with
    | none => exact .lift (fun w hw => ⟨trivial, hw⟩)
    | some c => exact .lift (fun w hw => ⟨trivial, hw.runIn_get? c content⟩)
  have hstore : ∀ f r, p.outcome f content file = .ok r →
      Keeps (fun w => EntryAt path good w.files) (liftM (p.store content r)) := by
    intro f r hr
    unfold store
    cases hc : p.cache with
    | none => exact .lift (fun w hw => ⟨trivial, hw⟩)
    | some c => exact .lift (fun w hw => ⟨trivial, hw.runIn_set (hgood c hc f r hr)⟩)
  unfold process
  refine hlookUp.bind ?_
  intro found
  cases found with
  | some r => exact .pure
  | none =>
    refine Meets.bind (meets_produce hcompiler) ?_ (fun _ _ => trivial)
    rintro r ⟨a, -, hr⟩
    exact (hstore _ r hr.symm).bind (fun _ => .pure)

/-- What a preprocessor that denies compiles passes the check, whatever the compiler does. -/
theorem meets_compiled_strict (hdeny : p.options.outputCheck = .deny) :
    Meets (fun _ => True)
      (do let r ← p.produce content file; p.store content r; return ⟨r, false⟩)
      (fun r => ∀ x : Processed, r = .ok x → Program.check x.script.code = []) := by
  have hproduce := @meets_produce p content file (fun _ => True) (fun _ => True)
    (fun _ _ => ⟨trivial, trivial⟩)
  refine hproduce.bind ?_ (fun _ _ _ hx => absurd hx (by simp))
  rintro r ⟨a, -, hr⟩
  refine .bind_unit (.lift (fun _ _ => ⟨rfl, trivial⟩)) (.pure ?_)
  intro x hx
  obtain rfl := Except.ok.inj hx
  exact check_eq_nil_of_outcome hdeny hr.symm

/-- What a preprocessor that denies makes of a source passes the check, if what its cache holds
for the source does. -/
theorem check_process (hdeny : p.options.outputCheck = .deny) {u : World}
    (hentry : ∀ c, p.cache = some c → EntryAt (c.entryPath (c.key content))
      (fun key r => key = c.key content → Program.check r.code = []) u.files)
    {r : Processed} (h : ((p.process content file).runIn u).1 = .ok r) :
    Program.check r.script.code = [] := by
  unfold process at h
  rw [Action.runIn_bind, Action.runIn_lift] at h
  dsimp only at h
  cases hfound : (Effect.runIn (p.lookUp content) u).1 with
  | some r' =>
    -- only a cache hands anything out
    rw [hfound] at h
    obtain rfl := Except.ok.inj h
    unfold lookUp at hfound
    split at hfound
    next c hc => exact (hentry c hc).good_of_found hfound rfl
    next => exact absurd hfound (by simp)
  | none =>
    rw [hfound] at h
    exact (meets_compiled_strict hdeny _ trivial).1 r h

/-- A script is made of its content. -/
theorem runIn_script_eq_ok {attributes : Attributes} {u : World} {r : Processed}
    (h : ((p.script content attributes).runIn u).1 = .ok (some r)) :
    ((p.process content "<script>").runIn u).1 = .ok r := by
  unfold script processBlock at h
  split at h
  next =>
    rw [Action.runIn_map] at h
    cases hrun : ((p.process content "<script>").runIn u).1 with
    | error e =>
      rw [hrun] at h
      exact absurd h (by simp [Except.map])
    | ok r' =>
      rw [hrun] at h
      obtain rfl := Option.some.inj (Except.ok.inj h)
      rfl
  next => exact absurd h (by simp)

/-! ## §2. Blocks and components. -/

variable {inv : World → Prop}

theorem keeps_processBlock (h : Keeps inv (p.process content file)) (attributes : Attributes) :
    Keeps inv (p.processBlock content attributes file) := by
  unfold processBlock
  split
  next => exact h.map
  next => exact .pure

theorem keeps_processBlocks {bs : List ScriptBlock}
    (h : ∀ b ∈ bs, Keeps inv (p.process b.content file)) : Keeps inv (p.processBlocks file bs) := by
  induction bs with
  | nil => exact .pure
  | cons b bs ih =>
    have hrest := ih (fun b' hb' => h b' (List.mem_cons_of_mem b hb'))
    unfold processBlocks
    refine (keeps_processBlock (h b List.mem_cons_self) b.attributes).bind ?_
    intro found
    cases found with
    | none => exact hrest
    | some r => exact hrest.bind (fun _ => .pure)

end Preprocessor

/-! ## §3. Runs. -/

namespace Call

variable {inv : World → Prop}

/-- A call keeps what processing its contents keeps. -/
theorem keeps_run {q : Preprocessor} {call : Call}
    (h : ∀ s ∈ call.contents, ∀ file, Keeps inv (q.process s file)) : Keeps inv (call.run q) := by
  cases call with
  | script content attributes =>
    exact (Preprocessor.keeps_processBlock (h content (List.mem_singleton.mpr rfl) "<script>")
      attributes).map
  | component source file =>
    have hblocks : Keeps inv (q.processBlocks file (findBlocks source)) :=
      Preprocessor.keeps_processBlocks (fun b hb => h b.content (List.mem_map.mpr ⟨b, hb, rfl⟩) file)
    exact (hblocks.bind (fun _ => .pure)).map

/-- The world that calls of several preprocessors leave, whether they succeed or fail. -/
def after (w : World) : List (Preprocessor × Call) → World
  | [] => w
  | (q, call) :: rest => after ((call.run q).runIn w).2 rest

/-- Calls keep what each of them keeps. -/
theorem inv_after (inv : World → Prop) {calls : List (Preprocessor × Call)}
    (h : ∀ x ∈ calls, Keeps inv (x.2.run x.1)) {w : World} (hw : inv w) : inv (after w calls) := by
  induction calls generalizing w with
  | nil => exact hw
  | cons x calls ih =>
    have hstep := h x List.mem_cons_self w hw
    exact ih (fun y hy => h y (List.mem_cons_of_mem x hy)) hstep.2

end Call

/-! ## §4. Preprocessors that deny. -/

/-- **A script of a preprocessor that denies passes the check**, if whoever has stored an entry
under its key denies, too.  To begin with the entry is not there, and no compiler writes it. -/
theorem check_script_of_strict_calls {p : Preprocessor} (hdeny : p.options.outputCheck = .deny)
    {content : Text} {attributes : Attributes} {calls : List (Preprocessor × Call)} {w : World}
    (hempty : ∀ c, p.cache = some c → ∀ t,
      w.files.readText (c.entryPath (c.key content)) ≠ .ok t)
    (hapart : ∀ c, p.cache = some c → ∀ x ∈ calls, ∀ source u t,
      ((x.1.compiler source).runIn u).2.files.readText (c.entryPath (c.key content)) = .ok t →
        u.files.readText (c.entryPath (c.key content)) = .ok t)
    (hstrict : ∀ c, p.cache = some c → ∀ x ∈ calls, x.1.options.outputCheck = .deny
      ∨ ∀ c', x.1.cache = some c' → ∀ s ∈ x.2.contents, c'.key s ≠ c.key content)
    {r : Processed}
    (h : ((p.script content attributes).runIn (Call.after w calls)).1 = .ok (some r)) :
    Program.check r.script.code = [] := by
  refine Preprocessor.check_process hdeny ?_ (Preprocessor.runIn_script_eq_ok h)
  intro c hc
  refine Call.inv_after (fun u => EntryAt (c.entryPath (c.key content))
    (fun key r => key = c.key content → Program.check r.code = []) u.files) ?_
    (fun t _ hread => absurd hread (hempty c hc t))
  intro x hx
  refine Call.keeps_run ?_
  intro s hs file
  refine Preprocessor.keeps_process ?_ ?_
  · exact fun u hu => ⟨trivial, fun t e hread => hu t e (hapart c hc x hx s u t hread)⟩
  · intro c' hc' f r hr hkey
    rcases hstrict c hc x hx with hdeny' | hother
    · exact Preprocessor.check_eq_nil_of_outcome hdeny' hr
    · exact absurd hkey (hother c' hc' s hs)

/-! ## §5. Two checks and one cache. -/

/-- The default options with a check. -/
def optionsWith (check : OutputCheck) : Options := { Options.builtin with outputCheck := check }

/-- The preprocessor with these options; its cache is the same for every check. -/
def preprocessorWith (check : OutputCheck) : Preprocessor :=
  ⟨optionsWith check, .builtin, echoCompiler,
    some ⟨Options.builtin.cacheDir, Options.builtin.cacheSalt⟩⟩

theorem runIn_new_optionsWith (check : OutputCheck) (w : World) :
    ((Preprocessor.new (optionsWith check) echoCompiler).runIn w).1 = .ok (preprocessorWith check) := by
  have hrules : Preprocessor.rulesOf (optionsWith check) = .ok .builtin := Dialect.rules_builtin
  rw [Preprocessor.runIn_new, hrules]
  rfl

/-- A script that declares a name twice. -/
def twice : Text := "let a = 1;\nlet a = 2;"

/-- A call without a check, which stores nothing, and one with it. -/
def mixedCalls : List (Preprocessor × Call) :=
  [((preprocessorWith .off).withoutCache, .script twice [("lang", "scala")]),
    (preprocessorWith .deny, .script "a" [("lang", "scala")])]

/-- A script that was stored with a check is found after these calls. -/
theorem check_script_after_mixedCalls :
    ∃ r, (((preprocessorWith .deny).script "a" [("lang", "scala")]).runIn
        (Call.after bareWorld mixedCalls)).1 = .ok (some r)
      ∧ r.cached = true ∧ Program.check r.script.code = [] := by
  have hrun : (((preprocessorWith .deny).script "a" [("lang", "scala")]).runIn
      (Call.after bareWorld mixedCalls)).1 = .ok (some ⟨⟨"a", "\x7b\x7d", .empty⟩, true⟩) := by
    decide +kernel
  refine ⟨_, hrun, rfl, check_script_of_strict_calls rfl ?_ ?_ ?_ hrun⟩
  · exact fun c _ t => readText_bareWorld _ t
  · -- every compiler leaves the files alone
    intro c _ x hx source u t hread
    have hcompiler : x.1.compiler = echoCompiler := by
      rcases List.mem_cons.mp hx with rfl | hx
      · rfl
      · obtain rfl := List.mem_singleton.mp hx
        rfl
    rwa [hcompiler, runIn_echoCompiler] at hread
  · intro c _ x hx
    rcases List.mem_cons.mp hx with rfl | hx
    · exact Or.inr (fun c' hc' => absurd hc' (by simp [Preprocessor.withoutCache]))
    · obtain rfl := List.mem_singleton.mp hx
      exact Or.inl rfl

/-- **A preprocessor that denies hands out code that does not pass the check** when one with the
same cache and without a check has stored it. -/
theorem exists_unacceptable_script :
    ∃ lax strict r,
      ((Preprocessor.new (optionsWith .off) echoCompiler).runIn bareWorld).1 = .ok lax
      ∧ ((Preprocessor.new (optionsWith .deny) echoCompiler).runIn bareWorld).1 = .ok strict
      ∧ ((strict.script twice [("lang", "scala")]).runIn
          (Call.after bareWorld [(lax, .script twice [("lang", "scala")])])).1 = .ok (some r)
      ∧ Program.check r.script.code ≠ [] := by
  refine ⟨_, _, ⟨⟨twice, "\x7b\x7d", .empty⟩, true⟩, runIn_new_optionsWith .off bareWorld,
    runIn_new_optionsWith .deny bareWorld, ?_, ?_⟩
  · decide +kernel
  · decide +kernel

end ScriptWeave
