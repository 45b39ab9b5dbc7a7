/-
  ScriptWeave.Proofs.Build.ScratchFiles
  ─────────────────────────────────────
  **NO SCRATCH FILE IS LEFT BEHIND.**

  A call of the compiler makes a scratch file, runs the compiler, and reads
  what that leaves.  It may end at any of these steps.  However it ends, the
  scratch file is not where it was made.  It is where kept files are just if
  it is to be kept and the call succeeds.

      not made     ·             the compiler was not run
      dropped      removed       it failed, or nothing is to be kept
      not kept     removed       the file could not be moved
      kept         moved

  The compiler may do what it wants with other files.  Two things must not be
  so.  Where scratch files are kept, the directory of kept files must not lead
  back to the directory of scratch files: then the file is moved to where it
  is, which does nothing, and it stays (`compile_leavesIt_linkedBack`).  And
  the write of the source must not break off when the file is open: there is
  no scratch file to drop then, and what was written stays (`Ended.cut`).
-/
import ScriptWeave.Build.Compiler
import ScriptWeave.Proofs.Build.Actions
import ScriptWeave.Proofs.Files.Tree

namespace ScriptWeave

open Files

/-! ## §1. Steps. -/

namespace Scratch

/-- The files in which a scratch file is made: its directory is made if nothing is there. -/
def prepared (dir : Text) (s : Files) : Files := if s.existsAt dir then s else (s.makeDirAll dir).2

theorem addsDirs_prepared (dir : Text) (s : Files) : s.AddsDirs (prepared dir s) := by
  unfold prepared
  split
  next => exact AddsDirs.refl s
  next => exact addsDirs_makeDirAll s dir

theorem isTree_prepared {s : Files} (htree : s.IsTree) (dir : Text) : (prepared dir s).IsTree := by
  unfold prepared
  split
  next => exact htree
  next => exact htree.makeDirAll dir

/-- The path of the next scratch file in a directory. -/
def nextPath (dir stem extension : Text) (w : World) : Text :=
  Path.join dir (fileName stem w.processId w.nextScratch extension)

/-- The world that is left when the number of the next scratch file is taken and its file written. -/
def numbered (s : Files) (w : World) : World :=
  { w with files := s, nextScratch := followingNumber w.nextScratch, faults := w.faults.tail }

/-- How the making of a scratch file may end, and the world that it leaves. -/
inductive Created (dir stem extension contents : Text) (w : World) :
    Except Failure Scratch → World → Prop where
  /-- The directory could not be made.  No number is taken. -/
  | noDir (e : Failure) :
      Created dir stem extension contents w (.error e) { w with files := prepared dir w.files }
  /-- The file could not be opened. -/
  | refused (e : Failure) :
      Created dir stem extension contents w (.error e) (numbered (prepared dir w.files) w)
  /-- The file was opened, and did not take the whole contents. -/
  | cut {x : WriteFault} {s : Files} (fault : w.fault? contents = some x)
      (opened : (prepared dir w.files).writeBytes (nextPath dir stem extension w) (x.taken contents)
        = .ok s) (e : Failure) :
      Created dir stem extension contents w (.error e) (numbered s w)
  /-- The scratch file is made. -/
  | made {s : Files}
      (written : (prepared dir w.files).writeText (nextPath dir stem extension w) contents = .ok s) :
      Created dir stem extension contents w (.ok ⟨nextPath dir stem extension w⟩) (numbered s w)

/-- Where the directory is, a number is taken and the file is written. -/
theorem created_write (dir stem extension contents : Text) (w : World) :
    let write : Action Scratch := do
      let number ← takeNumber
      let path := Path.join dir (fileName stem (← get).processId number extension)
      orFail path (← World.write path contents)
      return ⟨path⟩
    let ran := write.runIn { w with files := prepared dir w.files }
    Created dir stem extension contents w ran.1 ran.2 := by
  dsimp only
  have hnumber : Effect.runIn takeNumber { w with files := prepared dir w.files }
      = (w.nextScratch, { w with
          files := prepared dir w.files, nextScratch := followingNumber w.nextScratch }) := rfl
  rw [Action.runIn_bind, Action.runIn_lift, hnumber]
  dsimp only
  rw [Action.runIn_bind, Action.runIn_get]
  dsimp only
  rw [Action.runIn_bind, Action.runIn_lift]
  obtain ⟨r, s, hrun, hwritten⟩ := Effect.runIn_write (nextPath dir stem extension w) contents
    { w with files := prepared dir w.files, nextScratch := followingNumber w.nextScratch }
  unfold nextPath at hrun
  rw [hrun]
  dsimp only
  rw [Action.runIn_bind, Action.runIn_orFail]
  cases hwritten with
  | whole nofault written => exact .made written
  | refused closed => exact .refused _
  | @cut x s fault opened =>
    have hfault : w.fault? contents = some x := fault
    exact .cut hfault opened _

/-- **A scratch file is made in its directory**, which is made first if nothing is there, or the
making of it ends in one of these ways. -/
theorem runIn_create (dir stem extension contents : Text) (w : World) :
    Created dir stem extension contents w ((create dir stem extension contents).runIn w).1
      ((create dir stem extension contents).runIn w).2 := by
  have hwrite := created_write dir stem extension contents w
  have hexists : Effect.runIn (World.existsAt dir) w = (w.files.existsAt dir, w) := rfl
  unfold create
  rw [Action.runIn_bind, Action.runIn_lift, hexists]
  dsimp only at hwrite ⊢
  split
  next hthere =>
    have hprepared : prepared dir w.files = w.files := if_pos hthere
    rw [hprepared] at hwrite
    exact hwrite
  next hthere =>
    have hprepared : prepared dir w.files = (w.files.makeDirAll dir).2 := if_neg hthere
    rw [Action.runIn_bind, Action.runIn_lift, Effect.runIn_makeDirAll, ← hprepared]
    dsimp only
    rw [Action.runIn_bind, Action.runIn_orFail]
    cases (w.files.makeDirAll dir).1 with
    | error e => exact .noDir _
    | ok u => exact hwrite

/-- The files without a scratch file, if it can be removed. -/
def dropped (f : Scratch) (s : Files) : Files := (s.removeFile f.path).toOption.getD s

theorem files_runIn_drop (f : Scratch) (w : World) :
    (Effect.runIn f.drop w).2.files = f.dropped w.files := by
  unfold drop dropped
  rw [Effect.runIn_bind, Effect.runIn_change]
  cases w.files.removeFile f.path <;> rfl

/-- The path at which a scratch file is kept in a directory. -/
def keptIn (f : Scratch) (dir : Text) : Text := Path.join dir ((Path.fileName? f.path).getD [])

/-- A scratch file is moved if it can be renamed in the directory, which is made first. -/
theorem runIn_moveTo (f : Scratch) (dir : Text) (w : World) :
    let s := (w.files.makeDirAll dir).2
    (∃ e, (f.moveTo dir).runIn w = (.error e, { w with files := s }))
      ∨ ∃ s', s.rename f.path (f.keptIn dir) = .ok s'
        ∧ (f.moveTo dir).runIn w = (.ok (f.keptIn dir), { w with files := s' }) := by
  unfold moveTo
  dsimp only
  rw [Action.runIn_bind, Action.runIn_lift, Effect.runIn_makeDirAll]
  dsimp only
  rw [Action.runIn_bind, Action.runIn_orFail]
  cases (w.files.makeDirAll dir).1 with
  | error e => exact Or.inl ⟨_, rfl⟩
  | ok u =>
    dsimp only [Except.mapError]
    rcases Action.runIn_change_orFail _ _ _ with ⟨e, -, hrun⟩ | ⟨s', hrename, hrun⟩
    · exact Or.inl ⟨_, hrun⟩
    · exact Or.inr ⟨s', hrename, hrun⟩

/-- A scratch file that cannot be moved is dropped. -/
theorem runIn_keepIn (f : Scratch) (dir : Text) (w : World) :
    let s := (w.files.makeDirAll dir).2
    (∃ e, (f.keepIn dir).runIn w = (.error e, (Effect.runIn f.drop { w with files := s }).2))
      ∨ ∃ s', s.rename f.path (f.keptIn dir) = .ok s'
        ∧ (f.keepIn dir).runIn w = (.ok (f.keptIn dir), { w with files := s' }) := by
  unfold keepIn
  dsimp only
  rw [Action.runIn_tryCatch]
  rcases runIn_moveTo f dir w with ⟨e, hmove⟩ | ⟨s', hrename, hmove⟩ <;> rw [hmove]
  · exact Or.inl ⟨e, rfl⟩
  · exact Or.inr ⟨s', hrename, rfl⟩

end Scratch

namespace Toolchain

variable (t : Toolchain) (spawn : Spawn) (scratch : Text) (w : World)

/-- How the compiler ends on a scratch file, and the files it leaves. -/
def process (s : Files) : Except IoError ProcessResult × Files :=
  spawn t.command.program (t.command.args.map (Text.replace placeholder scratch))
    t.command.workingDir s

/-- Running the compiler leaves the files that it leaves, and fails if it does not start. -/
theorem runIn_run : ((t.run spawn scratch).runIn w).2.files = (t.process spawn scratch w.files).2
    ∧ (((t.run spawn scratch).runIn w).1.toBool = true →
      (t.process spawn scratch w.files).1.toBool = true) := by
  unfold run process
  dsimp only
  rw [Action.runIn_bind, Action.runIn_get]
  dsimp only
  rw [Action.runIn_bind, Action.runIn_modify]
  dsimp only
  rcases spawn t.command.program (t.command.args.map (Text.replace placeholder scratch))
    t.command.workingDir w.files with ⟨e | r, s⟩
  · exact ⟨rfl, id⟩
  · dsimp only
    split <;> exact ⟨rfl, fun _ => rfl⟩

/-- Reading what the compiler leaves changes nothing. -/
theorem world_readArtifact (path : Text) : ((readArtifact path).runIn w).2 = w := by
  unfold readArtifact
  rw [Action.runIn_bind, Action.runIn_lift]
  have hexists : Effect.runIn (World.existsAt path) w = (w.files.existsAt path, w) := rfl
  have hread : Effect.runIn (World.readText path) w = (w.files.readText path, w) := rfl
  rw [hexists]
  dsimp only
  split
  next =>
    rw [Action.runIn_bind, Action.runIn_lift, hread]
    dsimp only
    rw [Action.runIn_orFail]
  next => rfl

theorem keeps_readArtifact {inv : World → Prop} (path : Text) : Keeps inv (readArtifact path) := by
  intro w hw
  rw [world_readArtifact]
  exact ⟨trivial, hw⟩

/-- Reading what the compiler leaves comes after it, and changes nothing. -/
theorem runIn_produce : ((t.produce spawn scratch).runIn w).2.files
      = (t.process spawn scratch w.files).2
    ∧ (((t.produce spawn scratch).runIn w).1.toBool = true →
      (t.process spawn scratch w.files).1.toBool = true) := by
  have hran := t.runIn_run spawn scratch w
  unfold produce
  rw [Action.runIn_bind]
  rcases hrun : (t.run spawn scratch).runIn w with ⟨e | u, w'⟩ <;> rw [hrun] at hran
  · exact hran
  · have hrest : Keeps (fun w => w.files = w'.files) (do
        let js ← readArtifact t.outputJs
        let map ← readArtifact t.outputMap
        return (⟨js, map⟩ : Artifacts)) :=
      .bind (keeps_readArtifact _) (fun _ => .bind (keeps_readArtifact _) (fun _ => .pure))
    exact ⟨(hrest w' rfl).2.trans hran.1, fun _ => hran.2 rfl⟩

/-! ## §2. How a call ends. -/

/-- The path of the scratch file that a call makes. -/
def scratchPath (t : Toolchain) (w : World) : Text :=
  Path.join t.scratchDir
    (Scratch.fileName t.scratchStem w.processId w.nextScratch t.scratchExtension)

/-- The path at which it is kept. -/
def keptPath (t : Toolchain) (w : World) : Text :=
  Path.join t.keptDir ((Path.fileName? (t.scratchPath w)).getD [])

/-- The files in which the scratch file is made. -/
def prepared (t : Toolchain) (w : World) : Files := Scratch.prepared t.scratchDir w.files

/-- How a call may end, and the files that it leaves. -/
inductive Ended (t : Toolchain) (spawn : Spawn) (source : Text) (w : World) :
    Except Failure Artifacts → Files → Prop where
  /-- No scratch file was made. -/
  | notMade (e : Failure) : Ended t spawn source w (.error e) (t.prepared w)
  /-- The scratch file was opened, and did not take the whole source. -/
  | cut {x : WriteFault} {s : Files} (hfault : w.fault? source = some x)
      (hopened : (t.prepared w).writeBytes (t.scratchPath w) (x.taken source) = .ok s)
      (e : Failure) : Ended t spawn source w (.error e) s
  /-- The scratch file was dropped when the compiler had run. -/
  | dropped {s s' : Files} {ran : Except IoError ProcessResult}
      (hwrite : (t.prepared w).writeText (t.scratchPath w) source = .ok s)
      (hran : t.process spawn (t.scratchPath w) s = (ran, s'))
      (r : Except Failure Artifacts) (hresult : t.keepScratch = true → r.toBool = false) :
      Ended t spawn source w r (Scratch.dropped ⟨t.scratchPath w⟩ s')
  /-- The scratch file was dropped since it could not be kept. -/
  | notKept {s s' : Files} {ran : ProcessResult}
      (hwrite : (t.prepared w).writeText (t.scratchPath w) source = .ok s)
      (hran : t.process spawn (t.scratchPath w) s = (.ok ran, s')) (e : Failure) :
      Ended t spawn source w (.error e)
        (Scratch.dropped ⟨t.scratchPath w⟩ (s'.makeDirAll t.keptDir).2)
  /-- The scratch file was moved. -/
  | kept {s s' s'' : Files} {ran : ProcessResult}
      (hwrite : (t.prepared w).writeText (t.scratchPath w) source = .ok s)
      (hran : t.process spawn (t.scratchPath w) s = (.ok ran, s')) (hkeep : t.keepScratch = true)
      (hrename : (s'.makeDirAll t.keptDir).2.rename (t.scratchPath w) (t.keptPath w) = .ok s'')
      (a : Artifacts) : Ended t spawn source w (.ok a) s''

/-- A scratch file whose compiler has succeeded is kept or dropped. -/
theorem settle_ended {source : Text} {s : Files} {out : ProcessResult}
    (hwrite : (t.prepared w).writeText (t.scratchPath w) source = .ok s) (w₂ : World)
    (hran : t.process spawn (t.scratchPath w) s = (.ok out, w₂.files)) (a : Artifacts) :
    let f : Scratch := ⟨t.scratchPath w⟩
    let settle : Action Artifacts := do
      if t.keepScratch then
        let _ ← f.keepIn t.keptDir
      else
        f.drop
      return a
    Ended t spawn source w (settle.runIn w₂).1 (settle.runIn w₂).2.files := by
  dsimp only
  split
  next hkeep =>
    rw [Action.runIn_bind]
    rcases Scratch.runIn_keepIn ⟨t.scratchPath w⟩ t.keptDir w₂ with
      ⟨e, hkept⟩ | ⟨s', hrename, hkept⟩ <;> rw [hkept] <;> dsimp only
    · have hends := Ended.notKept hwrite hran e
      rw [← Scratch.files_runIn_drop _ { w₂ with files := (w₂.files.makeDirAll t.keptDir).2 }]
        at hends
      exact hends
    · exact .kept hwrite hran hkeep hrename a
  next hkeep =>
    have hends := Ended.dropped hwrite hran (.ok a) (fun h => absurd h hkeep)
    rw [← Scratch.files_runIn_drop] at hends
    exact hends

/-- **A call ends in one of these ways.** -/
theorem compile_ended (source : Text) :
    Ended t spawn source w ((t.compile spawn source).runIn w).1
      ((t.compile spawn source).runIn w).2.files := by
  have hcreated :=
    Scratch.runIn_create t.scratchDir t.scratchStem t.scratchExtension source w
  unfold compile
  rw [Action.runIn_bind]
  generalize (Scratch.create t.scratchDir t.scratchStem t.scratchExtension source).runIn w = created
    at hcreated ⊢
  obtain ⟨r, w₁⟩ := created
  cases hcreated with
  | noDir e => exact .notMade e
  | refused e => exact .notMade e
  | cut hfault hopened e => exact .cut hfault hopened e
  | @made s hwrite =>
    have hpath : Scratch.nextPath t.scratchDir t.scratchStem t.scratchExtension w = t.scratchPath w :=
      rfl
    rw [hpath]
    dsimp only
    have hproduced := t.runIn_produce spawn (t.scratchPath w) (Scratch.numbered s w)
    rcases hran : t.process spawn (t.scratchPath w) s with ⟨ran, s'⟩
    dsimp only [Scratch.numbered] at hproduced
    rw [hran] at hproduced
    obtain ⟨hfiles, hstarted⟩ := hproduced
    rw [Action.runIn_bind, Action.runIn_tryCatch]
    generalize (t.produce spawn (t.scratchPath w)).runIn _ = produced at hfiles hstarted ⊢
    obtain ⟨e | a, w₂⟩ := produced <;> dsimp only at hfiles hstarted ⊢ <;> subst hfiles
    · -- the compiler failed
      have hends := Ended.dropped hwrite hran (.error e) (fun _ => rfl)
      rw [← Scratch.files_runIn_drop] at hends
      exact hends
    · obtain ⟨out, rfl⟩ := exists_ok_of_toBool (hstarted rfl)
      exact settle_ended t spawn w hwrite w₂ hran a

/-! ## §3. What becomes of the scratch file. -/

variable {t spawn scratch w} {source : Text} {s s' : Files} {l : Location} {b : ByteArray}

/-- What a compiler that runs leaves alone: the files are a tree again, the scratch file is in
place with what it contains, and no other file is where it is to be kept. -/
structure Spares (t : Toolchain) (w : World) (s s' : Files) : Prop where
  tree : s'.IsTree
  scratch : s'.find .change (t.scratchPath w) = s.find .change (t.scratchPath w)
  kept : ∀ l e, (s'.makeDirAll t.keptDir).2.find .change (t.keptPath w) = .ok (.entry l e) →
    e ≠ .dir → s'.find .change (t.scratchPath w) = .ok (.entry l e)

/-- Whether the compiler leaves the scratch file alone; one that does not start changes nothing. -/
def Behaves (t : Toolchain) (w : World) (s : Files) : Except IoError ProcessResult × Files → Prop
  | (.error _, s') => s' = s
  | (.ok _, s') => t.Spares w s s'

/-- Whether the path at which the scratch file is to be kept leads to where it is already. -/
def LeadsBack (t : Toolchain) (w : World) (s : Files) : Prop :=
  (s.makeDirAll t.keptDir).2.find .change (t.keptPath w) = s.find .change (t.scratchPath w)

/-- What a call leaves of its scratch file, and of all others. -/
structure Leaves (t : Toolchain) (spawn : Spawn) (source : Text) (w : World)
    (r : Except Failure Artifacts) (final : Files) : Prop where
  /-- The scratch file is gone. -/
  gone : final.NoFileAt (t.scratchPath w)
  /-- It is kept with the source in it just if this is asked for and the call succeeds. -/
  kept : (∃ l, final.HasFile (t.keptPath w) (Text.encode source) l)
    ↔ t.keepScratch = true ∧ r.toBool = true
  /-- Otherwise no file is there. -/
  notKept : ¬(t.keepScratch = true ∧ r.toBool = true) → final.NoFileAt (t.keptPath w)
  /-- Before the compiler runs, the scratch file is made, and nothing but directories otherwise;
  after that, it is removed or moved, and nothing but directories is made otherwise. -/
  others : (r.toBool = false ∧ w.files.OnlyChanges final (fun _ => False) (fun _ => False))
    ∨ ∃ s, (t.prepared w).writeText (t.scratchPath w) source = .ok s
      ∧ w.files.OnlyChanges s (fun _ => False)
          (s.HasFile (t.scratchPath w) (Text.encode source))
      ∧ (t.process spawn (t.scratchPath w) s).2.OnlyChanges final
          (s.HasFile (t.scratchPath w) (Text.encode source))
          (final.HasFile (t.keptPath w) (Text.encode source))

theorem addsDirs_prepared (t : Toolchain) (w : World) : w.files.AddsDirs (t.prepared w) :=
  Scratch.addsDirs_prepared t.scratchDir w.files

/-- The scratch file is made where nothing was. -/
theorem written (hscratch : (t.prepared w).NoFileAt (t.scratchPath w))
    (hwrite : (t.prepared w).writeText (t.scratchPath w) source = .ok s) :
    ∃ l, (t.prepared w).get? l = none ∧ s = (t.prepared w).put l (.file (Text.encode source))
      ∧ s.HasFile (t.scratchPath w) (Text.encode source) l
      ∧ endsInSlash (t.scratchPath w) = false := by
  obtain ⟨d, name, hfind, rfl⟩ := writeText_of_noFileAt hscratch hwrite
  exact ⟨d ++ [name], find_holds hfind, rfl, find_put hfind _, endsInSlash_of_vacant hfind⟩

theorem onlyChanges_written (hnone : (t.prepared w).get? l = none)
    (hfile : ((t.prepared w).put l (.file b)).HasFile (t.scratchPath w) b l) :
    w.files.OnlyChanges ((t.prepared w).put l (.file b)) (fun _ => False)
      (((t.prepared w).put l (.file b)).HasFile (t.scratchPath w) b) := by
  have hadds := addsDirs_prepared t w
  intro k
  by_cases hk : k = l
  · subst hk
    exact Or.inr (Or.inl ⟨hadds.get?_of_none hnone, Or.inr hfile⟩)
  · rw [get?_put_of_ne _ _ hk]
    exact hadds.onlyChanges (fun _ => False) _ k

/-- A scratch file that is in place is removed. -/
theorem dropped_eq_erase (hfile : s.HasFile (t.scratchPath w) b l)
    (hslash : endsInSlash (t.scratchPath w) = false) :
    Scratch.dropped ⟨t.scratchPath w⟩ s = s.erase l := by
  rw [Scratch.dropped, removeFile_of_find hfile hslash]
  rfl

/-- What is where the scratch file would be kept is the scratch file, if anything. -/
theorem Spares.eq_of_kept {k : Location} {e : Entry} (hspares : t.Spares w s s')
    (hfile : s.HasFile (t.scratchPath w) b l) (hdir : e ≠ .dir)
    (h : (s'.makeDirAll t.keptDir).2.find .change (t.keptPath w) = .ok (.entry k e)) : k = l := by
  have hplace := hspares.scratch.symm.trans (hspares.kept k e h hdir)
  exact (Place.entry.inj (Except.ok.inj (hplace.symm.trans hfile))).1

section

variable {ran : Except IoError ProcessResult} {s'' : Files}
  (hscratch : (t.prepared w).NoFileAt (t.scratchPath w))
  (hwrite : (t.prepared w).writeText (t.scratchPath w) source = .ok s)
  (hran : t.process spawn (t.scratchPath w) s = (ran, s'))

include hscratch hwrite hran

/-- A call that drops its scratch file leaves none. -/
theorem leaves_of_dropped {r : Except Failure Artifacts}
    (hresult : ¬(t.keepScratch = true ∧ r.toBool = true)) (hadds : s'.AddsDirs s'')
    (hplace : s''.find .change (t.scratchPath w) = s.find .change (t.scratchPath w))
    (hkept : ∀ l, s.HasFile (t.scratchPath w) (Text.encode source) l →
      ∀ k e, k ≠ l → s''.find .change (t.keptPath w) = .ok (.entry k e) → e = .dir) :
    t.Leaves spawn source w r (Scratch.dropped ⟨t.scratchPath w⟩ s'') := by
  obtain ⟨l, hnone, rfl, hfile, hslash⟩ := written hscratch hwrite
  have hfile'' : s''.HasFile (t.scratchPath w) (Text.encode source) l := hplace.trans hfile
  rw [dropped_eq_erase hfile'' hslash]
  have hno : (s''.erase l).NoFileAt (t.keptPath w) := by
    intro k e hfind
    by_contra hdir
    obtain ⟨hne, hbefore⟩ := find_of_erase hfind hdir
    exact hdir (hkept l hfile k e hne hbefore)
  refine ⟨noFileAt_erase hfile'', ⟨?_, fun h => absurd h hresult⟩, fun _ => hno, Or.inr ?_⟩
  · rintro ⟨k, hk⟩
    exact absurd (hno k _ hk) (by simp)
  · refine ⟨_, hwrite, onlyChanges_written hnone hfile, fun k => ?_⟩
    rw [hran]
    by_cases hk : k = l
    · subst hk
      exact Or.inr (Or.inr ⟨hfile, get?_erase_self _ _⟩)
    · rw [get?_erase_of_ne _ hk]
      exact hadds.onlyChanges _ _ k

/-- A call that moves its scratch file keeps it. -/
theorem leaves_of_kept {a : Artifacts} (hkeep : t.keepScratch = true) (hspares : t.Spares w s s')
    (hback : ¬t.LeadsBack w s')
    (hrename : (s'.makeDirAll t.keptDir).2.rename (t.scratchPath w) (t.keptPath w) = .ok s'') :
    t.Leaves spawn source w (.ok a) s'' := by
  obtain ⟨l, hnone, rfl, hfile, -⟩ := written hscratch hwrite
  have hadds := addsDirs_makeDirAll s' t.keptDir
  have hthere := hspares.scratch.trans hfile
  have hthere' := hadds.find_entry hthere (by simp)
  have hfree : ∀ m e, (s'.makeDirAll t.keptDir).2.find .change (t.keptPath w) = .ok (.entry m e) →
      e = .dir := by
    intro m e hfind
    by_contra hdir
    exact hback (hfind.trans (hspares.kept m e hfind hdir).symm)
  obtain ⟨d, name, hvacant, rfl⟩ := rename_eq_ok hthere' hfree hrename
  obtain ⟨hkept, hgone, hnone', helse⟩ :=
    (hspares.tree.makeDirAll t.keptDir).moveTree hthere' hvacant
  refine ⟨hgone, ⟨fun _ => ⟨hkeep, rfl⟩, fun _ => ⟨_, hkept⟩⟩, fun h => absurd ⟨hkeep, rfl⟩ h,
    Or.inr ⟨_, hwrite, onlyChanges_written hnone hfile, fun k => ?_⟩⟩
  rw [hran]
  by_cases hkl : k = l
  · subst hkl
    exact Or.inr (Or.inr ⟨hfile, hnone'⟩)
  by_cases hkm : k = d ++ [name]
  · subst hkm
    exact Or.inr (Or.inl ⟨hadds.get?_of_none (find_holds hvacant), Or.inr hkept⟩)
  · rw [helse k hkl hkm]
    exact hadds.onlyChanges _ _ k

end

/-- **A call leaves no scratch file behind**, however it ends, and keeps it just if that is asked
for and the call succeeds.  The path at which it is kept must not lead back to where it is; and a
scratch file that is opened must take the whole source, for else what it took stays. -/
theorem compile_leaves (hfault : w.fault? source = none)
    (hscratch : (t.prepared w).NoFileAt (t.scratchPath w))
    (hkept : (t.prepared w).NoFileAt (t.keptPath w))
    (hbehaves : ∀ s, (t.prepared w).writeText (t.scratchPath w) source = .ok s →
      t.Behaves w s (t.process spawn (t.scratchPath w) s))
    (hback : t.keepScratch = true →
      ∀ s s' ran, (t.prepared w).writeText (t.scratchPath w) source = .ok s →
        t.process spawn (t.scratchPath w) s = (.ok ran, s') → ¬t.LeadsBack w s') :
    t.Leaves spawn source w ((t.compile spawn source).runIn w).1
      ((t.compile spawn source).runIn w).2.files := by
  have hended := compile_ended t spawn w source
  generalize ((t.compile spawn source).runIn w).1 = r at hended ⊢
  generalize ((t.compile spawn source).runIn w).2.files = final at hended ⊢
  cases hended with
  | notMade e =>
    refine ⟨hscratch, ⟨?_, fun h => Bool.noConfusion h.2⟩, fun _ => hkept,
      Or.inl ⟨rfl, (addsDirs_prepared t w).onlyChanges _ _⟩⟩
    rintro ⟨l, hl⟩
    exact absurd (hkept l _ hl) (by simp)
  | cut hcut => exact absurd (hfault.symm.trans hcut) (by simp)
  | @dropped s s' ran hwrite hran r hresult =>
    have hbehaved := hbehaves s hwrite
    rw [hran] at hbehaved
    have hnot : ¬(t.keepScratch = true ∧ r.toBool = true) :=
      fun h => Bool.noConfusion ((hresult h.1).symm.trans h.2)
    refine leaves_of_dropped hscratch hwrite hran hnot (AddsDirs.refl s') ?_ ?_
    · cases ran with
      | error failed => exact congrArg (fun s : Files => s.find .change (t.scratchPath w)) hbehaved
      | ok out => exact hbehaved.scratch
    · intro l hfile k e hne hfind
      by_contra hdir
      cases ran with
      | error failed =>
        -- the compiler did not start, so the files are those in which it was to run
        obtain rfl : s' = s := hbehaved
        obtain ⟨l', -, rfl, hfile', -⟩ := written hscratch hwrite
        obtain ⟨rfl, -⟩ := Place.entry.inj (Except.ok.inj (hfile.symm.trans hfile'))
        exact hdir (hkept k e (find_of_put hfind hdir hne))
      | ok out =>
        have hadds := addsDirs_makeDirAll s' t.keptDir
        exact hne (hbehaved.eq_of_kept hfile hdir (hadds.find_entry hfind hdir))
  | @notKept s s' ran hwrite hran e =>
    have hspares := hbehaves s hwrite
    rw [hran] at hspares
    have hadds := addsDirs_makeDirAll s' t.keptDir
    refine leaves_of_dropped hscratch hwrite hran (fun h => Bool.noConfusion h.2) hadds ?_ ?_
    · obtain ⟨l, -, -, hfile, -⟩ := written hscratch hwrite
      exact (hadds.find_entry (hspares.scratch.trans hfile) (by simp)).trans hfile.symm
    · intro l hfile k e hne hfind
      by_contra hdir
      exact hne (hspares.eq_of_kept hfile hdir hfind)
  | @kept s s' s'' ran hwrite hran hkeep hrename a =>
    have hspares := hbehaves s hwrite
    rw [hran] at hspares
    exact leaves_of_kept hscratch hwrite hran hkeep hspares (hback hkeep s s' ran hwrite hran) hrename

/-- A toolchain that keeps its scratch files. -/
def keepingTools : Toolchain where
  command := ⟨"sh", ["-c", "cp '\x7bsource\x7d' out.js && cp out.js out.js.map"], "."⟩
  scratchDir := "tmp"
  scratchStem := "S"
  scratchExtension := "scala"
  keepScratch := true
  outputJs := "out.js"
  outputMap := "out.js.map"

/-- A compiler that leaves two empty files. -/
def writesOutput : Spawn := fun _ _ _ s =>
  (.ok ⟨some 0, .empty, .empty⟩,
    (s.put ["out.js"] (.file .empty)).put ["out.js.map"] (.file .empty))

/-- A world with files in which nothing has happened yet. -/
def freshWorld (s : Files) : World := ⟨s, 7, 0, 0, [], []⟩

/-- The files with a scratch file. -/
def withScratch (rest : List (Location × Entry)) : Files :=
  ⟨(["tmp", "S_7_0.scala"], .file (Text.encode "object A")) :: rest⟩

/-- The files that the compiler leaves. -/
def withOutput (rest : List (Location × Entry)) : Files :=
  ⟨(["out.js.map"], .file .empty) :: (["out.js"], .file .empty) :: (withScratch rest).entries⟩

/-- Where there is nothing at first, a scratch file is kept. -/
theorem compile_leaves_fresh :
    let ran := (keepingTools.compile writesOutput "object A").runIn (freshWorld .empty)
    ran.2.files.NoFileAt "tmp/S_7_0.scala"
      ∧ ∃ l, ran.2.files.HasFile "tmp/kept/S_7_0.scala" (Text.encode "object A") l := by
  have hvacant : (keepingTools.prepared (freshWorld .empty)).find .change
      (keepingTools.scratchPath (freshWorld .empty)) = .ok (.vacant ["tmp"] "S_7_0.scala" false) := rfl
  have hmissing : (keepingTools.prepared (freshWorld .empty)).find .change
      (keepingTools.keptPath (freshWorld .empty)) = .error .missing := rfl
  have hwrite : (keepingTools.prepared (freshWorld .empty)).writeText
      (keepingTools.scratchPath (freshWorld .empty)) "object A"
        = .ok (withScratch [(["tmp"], .dir)]) := rfl
  have hran : keepingTools.process writesOutput (keepingTools.scratchPath (freshWorld .empty))
      (withScratch [(["tmp"], .dir)]) = (.ok ⟨some 0, .empty, .empty⟩, withOutput [(["tmp"], .dir)]) :=
    rfl
  have hmade : (withScratch [(["tmp"], .dir)]).find .change (keepingTools.scratchPath (freshWorld .empty))
      = .ok (.entry ["tmp", "S_7_0.scala"] (.file (Text.encode "object A"))) := rfl
  have hthere : (withOutput [(["tmp"], .dir)]).find .change (keepingTools.scratchPath (freshWorld .empty))
      = .ok (.entry ["tmp", "S_7_0.scala"] (.file (Text.encode "object A"))) := rfl
  have hfree : ((withOutput [(["tmp"], .dir)]).makeDirAll keepingTools.keptDir).2.find .change
      (keepingTools.keptPath (freshWorld .empty)) = .ok (.vacant ["tmp", "kept"] "S_7_0.scala" false) :=
    rfl
  have hok : ((keepingTools.compile writesOutput "object A").runIn (freshWorld .empty)).1.toBool
      = true := rfl
  have hleaves := @compile_leaves keepingTools writesOutput (freshWorld .empty) "object A"
    rfl (noFileAt_of_vacant hvacant) ?_ ?_ ?_
  · exact ⟨hleaves.gone, hleaves.kept.mpr ⟨rfl, hok⟩⟩
  · intro l e h
    exact absurd (hmissing.symm.trans h) (by simp)
  · intro s hs
    obtain rfl := Except.ok.inj (hwrite.symm.trans hs)
    rw [hran]
    refine ⟨isTree_of_entries (by decide), hthere.trans hmade.symm, fun l e h _ => ?_⟩
    exact absurd (hfree.symm.trans h) (by simp)
  · intro _ s s' ran hs hran' hback
    obtain rfl := Except.ok.inj (hwrite.symm.trans hs)
    obtain rfl := (Prod.mk.inj (hran.symm.trans hran')).2
    rw [LeadsBack, hfree, hthere] at hback
    exact absurd hback (by simp)

/-- A link in the directory of scratch files, from where kept files should be to the directory
itself. -/
def linkedBack : List (Location × Entry) := [(["tmp"], .dir), (["tmp", "kept"], .link ".")]

/-- There a call that succeeds leaves its scratch file where it was made, though no file was at
either path, and the compiler left the scratch file alone. -/
theorem compile_leavesIt_linkedBack :
    let w := freshWorld ⟨linkedBack⟩
    let ran := (keepingTools.compile writesOutput "object A").runIn w
    (keepingTools.prepared w).NoFileAt (keepingTools.scratchPath w)
      ∧ (keepingTools.prepared w).NoFileAt (keepingTools.keptPath w)
      ∧ (∀ s, (keepingTools.prepared w).writeText (keepingTools.scratchPath w) "object A" = .ok s →
        keepingTools.Behaves w s (keepingTools.process writesOutput (keepingTools.scratchPath w) s))
      ∧ ran.1.toBool = true ∧ ¬ran.2.files.NoFileAt (keepingTools.scratchPath w) := by
  have hvacant : (keepingTools.prepared (freshWorld ⟨linkedBack⟩)).find .change
      (keepingTools.scratchPath (freshWorld ⟨linkedBack⟩))
        = .ok (.vacant ["tmp"] "S_7_0.scala" false) := rfl
  have hvacant' : (keepingTools.prepared (freshWorld ⟨linkedBack⟩)).find .change
      (keepingTools.keptPath (freshWorld ⟨linkedBack⟩))
        = .ok (.vacant ["tmp"] "S_7_0.scala" false) := rfl
  have hwrite : (keepingTools.prepared (freshWorld ⟨linkedBack⟩)).writeText
      (keepingTools.scratchPath (freshWorld ⟨linkedBack⟩)) "object A"
        = .ok (withScratch linkedBack) := rfl
  have hran : keepingTools.process writesOutput (keepingTools.scratchPath (freshWorld ⟨linkedBack⟩))
      (withScratch linkedBack) = (.ok ⟨some 0, .empty, .empty⟩, withOutput linkedBack) := rfl
  have hmade : (withScratch linkedBack).find .change
      (keepingTools.scratchPath (freshWorld ⟨linkedBack⟩))
        = .ok (.entry ["tmp", "S_7_0.scala"] (.file (Text.encode "object A"))) := rfl
  have hthere : (withOutput linkedBack).find .change
      (keepingTools.scratchPath (freshWorld ⟨linkedBack⟩))
        = .ok (.entry ["tmp", "S_7_0.scala"] (.file (Text.encode "object A"))) := rfl
  have hback : ((withOutput linkedBack).makeDirAll keepingTools.keptDir).2.find .change
      (keepingTools.keptPath (freshWorld ⟨linkedBack⟩))
        = .ok (.entry ["tmp", "S_7_0.scala"] (.file (Text.encode "object A"))) := rfl
  have hleft : ((keepingTools.compile writesOutput "object A").runIn
      (freshWorld ⟨linkedBack⟩)).2.files.find .change
      (keepingTools.scratchPath (freshWorld ⟨linkedBack⟩))
        = .ok (.entry ["tmp", "S_7_0.scala"] (.file (Text.encode "object A"))) := rfl
  refine ⟨noFileAt_of_vacant hvacant, noFileAt_of_vacant hvacant', ?_, rfl, fun hno => ?_⟩
  · intro s hs
    obtain rfl := Except.ok.inj (hwrite.symm.trans hs)
    rw [hran]
    exact ⟨isTree_of_entries (by decide), hthere.trans hmade.symm,
      fun l e h _ => hthere.trans (hback.symm.trans h)⟩
  · exact absurd (hno _ _ hleft) (by simp)

end Toolchain

end ScriptWeave
