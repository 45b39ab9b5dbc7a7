/-
  ScriptWeave.Proofs.Build.Directories
  ────────────────────────────────────
  **DIRECTORIES IN ANY ORDER.**

  The components of a directory share one cache, so what one file stores the
  next may find.  Still the report says of every file what becomes of it on
  its own, in whichever order the files are processed:

      report of a run  =  report of (path, file path alone), in path order

  For a fixed compiler every file has an outcome that depends on its text
  alone, as long as the cache holds outcomes.  It does in every state that
  calls can lead to, and each file that is processed, well or not, leaves
  such a state for the next, so the whole run leaves one for the next run.
-/
import ScriptWeave.Proofs.Build.Transparency
import ScriptWeave.Proofs.Files.PathOrder

namespace ScriptWeave

namespace Preprocessor

variable {p : Preprocessor} {f : Text → Except Failure Artifacts} {contents : List Text}
  {content path : Text} {w : World}

/-! ## §1. Fixed compilers. -/

/-- Whether the compiler is a fixed function of the source and writes no entry of the cache, and no
two contents that occur have one digest. -/
structure IsFixed (p : Preprocessor) (f : Text → Except Failure Artifacts) (contents : List Text) :
    Prop where
  compiler : ∀ source u, ((p.compiler source).runIn u).1 = f source
  apart : ∀ c, p.cache = some c → ∀ source u s t,
    ((p.compiler source).runIn u).2.files.readText (c.entryPath (c.key s)) = .ok t →
      u.files.readText (c.entryPath (c.key s)) = .ok t
  digests : ∀ c, p.cache = some c → ∀ s ∈ contents, ∀ s' ∈ contents,
    Sha256.hex (c.message s) = Sha256.hex (c.message s') → c.message s = c.message s'

/-- Whether the cache, if there is one, holds outcomes only. -/
def HoldsOutcomes (p : Preprocessor) (f : Text → Except Failure Artifacts) (contents : List Text)
    (s : Files) : Prop :=
  ∀ c, p.cache = some c → c.Sound (p.IsOutcome f contents) s

/-- Where no entry has been written, the cache holds outcomes as before. -/
theorem HoldsOutcomes.of_readText {s s' : Files} (h : p.HoldsOutcomes f contents s)
    (hkept : ∀ c, p.cache = some c → ∀ source t,
      s'.readText (c.entryPath (c.key source)) = .ok t →
        s.readText (c.entryPath (c.key source)) = .ok t) :
    p.HoldsOutcomes f contents s' :=
  fun c hc => (h c hc).of_readText (hkept c hc)

/-- With and without a cache, sources have their outcomes. -/
theorem IsFixed.settles (h : p.IsFixed f contents) (hmem : content ∈ contents) :
    p.Settles f (fun u => p.HoldsOutcomes f contents u.files) content := by
  have hcompiler : Meets (fun u => p.HoldsOutcomes f contents u.files) (p.compiler content)
      (· = f content) :=
    fun u hu => ⟨h.compiler content u, hu.of_readText (fun c hc => h.apart c hc content u)⟩
  cases hcache : p.cache with
  | none => exact settles_of_uncached _ hcache hcompiler
  | some c =>
    have hinv : (fun u : World => p.HoldsOutcomes f contents u.files)
        = fun u => c.Sound (p.IsOutcome f contents) u.files := by
      funext u
      simp [HoldsOutcomes, hcache]
    rw [hinv] at hcompiler ⊢
    refine settles_of_cached _ hcache ?_ hmem (fun _ hs => hs) (fun _ hw => hw.runIn_get?)
      (fun _ _ hr hw => hw.runIn_set hr) hcompiler
    intro s hs s' hs' hsame
    exact c.message_injective (h.digests c hcache s hs s' hs' hsame)

/-! ## §2. Files. -/

/-- What becomes of the component in a file when its blocks are compiled by `f`. -/
def fileOutcome (p : Preprocessor) (f : Text → Except Failure Artifacts) (s : Files)
    (path : Text) : Except Failure ComponentOutput :=
  match s.readText path with
  | .error e => .error (.io path e)
  | .ok source => p.componentOutcome f source path

/-- A component is read from its file before anything else is done. -/
theorem runIn_file (p : Preprocessor) (path : Text) (w : World) :
    (p.file path).runIn w = match w.files.readText path with
      | .error e => (.error (.io path e), w)
      | .ok source => (p.component source path).runIn w := by
  have hread : Action.runIn (liftM (World.readText path) : Action (Except IoError Text)) w
      = (.ok (w.files.readText path), w) := rfl
  unfold file
  rw [Action.runIn_bind_ok hread]
  cases w.files.readText path <;> rfl

/-- **A file has its outcome, and the next one finds a cache that holds outcomes.** -/
theorem IsFixed.runIn_file (h : p.IsFixed f contents) (hw : p.HoldsOutcomes f contents w.files)
    (hblocks : ∀ source, w.files.readText path = .ok source →
      ∀ b ∈ findBlocks source, b.content ∈ contents) :
    ((p.file path).runIn w).1 = p.fileOutcome f w.files path
      ∧ p.HoldsOutcomes f contents ((p.file path).runIn w).2.files := by
  rw [Preprocessor.runIn_file, fileOutcome]
  cases hread : w.files.readText path with
  | error e => exact ⟨rfl, hw⟩
  | ok source =>
    have hsettled : ∀ b ∈ findBlocks source,
        p.Settles f (fun u => p.HoldsOutcomes f contents u.files) b.content :=
      fun b hb => h.settles (hblocks source hread b hb)
    exact meets_component hsettled path w hw

/-! ## §3. Schedules. -/

/-- Preprocesses the components in files, each of which has its place among those that were
found, one after the other. -/
def filesIn (p : Preprocessor) :
    List (Text × Nat) → Effect (List ((Text × Nat) × Except Failure ComponentOutput))
  | [] => return []
  | job :: rest => do
    let r ← attempt (p.file job.1)
    return (job, r) :: (← filesIn p rest)

/-- What became of files, in the order of their places. -/
def collect (jobs : List (Text × Nat))
    (results : List ((Text × Nat) × Except Failure ComponentOutput)) :
    List (Text × Except Failure ComponentOutput) :=
  jobs.filterMap (fun job => (results.lookup job).map (fun r => (job.1, r)))

/-- Preprocesses the components below a directory in the order of a schedule. -/
def dirIn (p : Preprocessor) (schedule : List (Text × Nat) → List (Text × Nat)) (path : Text) :
    Action DirReport := do
  unless ← World.isDirAt path do throw (.io path .noDirectory)
  let paths ← findComponentFiles path p.options.componentExtensions
  let r := report (collect paths.zipIdx (← p.filesIn (schedule paths.zipIdx)))
  World.warnAll (r.failures.map (fun f => Warning.componentFailed f.1 f.2))
  return r

/-- The first of the files is not among the others. -/
theorem collect_cons {job : Text × Nat} {jobs : List (Text × Nat)} (hfresh : job ∉ jobs)
    (r : Except Failure ComponentOutput)
    (results : List ((Text × Nat) × Except Failure ComponentOutput)) :
    collect (job :: jobs) ((job, r) :: results) = (job.1, r) :: collect jobs results := by
  have hfirst : ((job, r) :: results).lookup job = some r := by
    rw [List.lookup_cons, beq_self_eq_true]
  rw [collect, List.filterMap_cons, hfirst, Option.map_some]
  refine congrArg ((job.1, r) :: ·) (List.filterMap_congr ?_)
  intro job' hjob'
  have hne : (job' == job) = false := beq_false_of_ne (fun h => hfresh (h ▸ hjob'))
  rw [List.lookup_cons, hne]

/-- Files that are processed in the order of their places are answered for in that order. -/
theorem runIn_files (p : Preprocessor) (paths : List Text) (k : Nat) (w : World) :
    Effect.runIn (p.files paths) w
      = (collect (paths.zipIdx k) (Effect.runIn (p.filesIn (paths.zipIdx k)) w).1,
          (Effect.runIn (p.filesIn (paths.zipIdx k)) w).2) := by
  induction paths generalizing k w with
  | nil => rfl
  | cons path paths ih =>
    have hfresh : (path, k) ∉ paths.zipIdx (k + 1) := by
      intro hin
      have := List.le_snd_of_mem_zipIdx hin
      omega
    have hfiles : Effect.runIn (p.files (path :: paths)) w
        = ((path, ((p.file path).runIn w).1)
            :: (Effect.runIn (p.files paths) ((p.file path).runIn w).2).1,
          (Effect.runIn (p.files paths) ((p.file path).runIn w).2).2) := rfl
    have hfilesIn : Effect.runIn (p.filesIn ((path, k) :: paths.zipIdx (k + 1))) w
        = (((path, k), ((p.file path).runIn w).1)
            :: (Effect.runIn (p.filesIn (paths.zipIdx (k + 1))) ((p.file path).runIn w).2).1,
          (Effect.runIn (p.filesIn (paths.zipIdx (k + 1))) ((p.file path).runIn w).2).2) := rfl
    rw [List.zipIdx_cons, hfiles, hfilesIn, collect_cons hfresh, ih (k + 1)]

/-- **A directory is processed in the order of paths.** -/
theorem dir_eq_dirIn (p : Preprocessor) (path : Text) : p.dir path = p.dirIn id path := by
  have hfiles : ∀ paths : List Text,
      p.files paths = collect paths.zipIdx <$> p.filesIn (id paths.zipIdx) := by
    intro paths
    funext w
    exact p.runIn_files paths 0 w
  unfold dir dirIn
  simp only [hfiles]
  rfl

/-- What a run over a directory reports, and which files it leaves. -/
theorem runIn_dirIn {schedule : List (Text × Nat) → List (Text × Nat)} {paths : List Text}
    {w₁ : World} (hdir : w.files.isDirAt path = true)
    (hfound : Effect.runIn (findComponentFiles path p.options.componentExtensions) w = (paths, w₁)) :
    ((p.dirIn schedule path).runIn w).1
        = .ok (report (collect paths.zipIdx
            (Effect.runIn (p.filesIn (schedule paths.zipIdx)) w₁).1))
      ∧ ((p.dirIn schedule path).runIn w).2.files
        = (Effect.runIn (p.filesIn (schedule paths.zipIdx)) w₁).2.files := by
  have hcheck : Action.runIn (liftM (World.isDirAt path) : Action Bool) w = (.ok true, w) := by
    rw [Action.runIn_lift]
    exact congrArg (fun b => (Except.ok b, w)) hdir
  have hpaths : Action.runIn
      (liftM (findComponentFiles path p.options.componentExtensions) : Action (List Text)) w
      = (.ok paths, w₁) := by
    rw [Action.runIn_lift, hfound]
  unfold dirIn
  rw [Action.runIn_bind_ok hcheck]
  show (Action.runIn (_ >>= _) w).1 = _ ∧ (Action.runIn (_ >>= _) w).2.files = _
  rw [Action.runIn_bind_ok hpaths]
  exact ⟨rfl, rfl⟩

/-- Whether none of some files is changed while they are processed. -/
def Unchanged (p : Preprocessor) (jobs : List (Text × Nat)) (w : World) : Prop :=
  ∀ done, done <+: jobs → ∀ job ∈ jobs,
    (Effect.runIn (p.filesIn done) w).2.files.readText job.1 = w.files.readText job.1

/-- The first file leaves the others, and after it they are not changed either. -/
theorem Unchanged.rest {job : Text × Nat} {jobs : List (Text × Nat)}
    (h : p.Unchanged (job :: jobs) w) :
    (∀ j ∈ jobs, ((p.file job.1).runIn w).2.files.readText j.1 = w.files.readText j.1)
      ∧ p.Unchanged jobs ((p.file job.1).runIn w).2 := by
  have hfirst : ∀ j ∈ jobs,
      ((p.file job.1).runIn w).2.files.readText j.1 = w.files.readText j.1 :=
    fun j hj => h [job] (List.prefix_append [job] jobs) j (List.mem_cons_of_mem job hj)
  refine ⟨hfirst, ?_⟩
  intro done hdone j hj
  have hdone' := h (job :: done) (List.cons_prefix_cons.mpr ⟨rfl, hdone⟩) j
    (List.mem_cons_of_mem job hj)
  exact hdone'.trans (hfirst j hj).symm

/-- **Files have the outcomes of their texts**, one after the other, if none of them is
changed on the way. -/
theorem IsFixed.runIn_filesIn (h : p.IsFixed f contents) {jobs : List (Text × Nat)}
    (hw : p.HoldsOutcomes f contents w.files)
    (hblocks : ∀ job ∈ jobs, ∀ source, w.files.readText job.1 = .ok source →
      ∀ b ∈ findBlocks source, b.content ∈ contents)
    (hunchanged : p.Unchanged jobs w) :
    (Effect.runIn (p.filesIn jobs) w).1
      = jobs.map (fun job => (job, p.fileOutcome f w.files job.1)) := by
  induction jobs generalizing w with
  | nil => rfl
  | cons job jobs ih =>
    obtain ⟨hends, hinv⟩ := h.runIn_file hw (hblocks job List.mem_cons_self)
    obtain ⟨hsame, hunchanged'⟩ := hunchanged.rest
    have hrest := ih hinv (fun j hj source hread =>
      hblocks j (List.mem_cons_of_mem job hj) source ((hsame j hj).symm.trans hread)) hunchanged'
    have hstep : (Effect.runIn (p.filesIn (job :: jobs)) w).1
        = (job, ((p.file job.1).runIn w).1)
          :: (Effect.runIn (p.filesIn jobs) ((p.file job.1).runIn w).2).1 := rfl
    rw [hstep, hends, hrest, List.map_cons]
    refine congrArg (_ :: ·) (List.map_congr_left ?_)
    intro j hj
    rw [fileOutcome, fileOutcome, hsame j hj]

/-- What was gathered in any order is collected in the order of places. -/
theorem collect_map {jobs done : List (Text × Nat)} (hperm : done.Perm jobs)
    (g : Text → Except Failure ComponentOutput) :
    collect jobs (done.map (fun job => (job, g job.1))) = jobs.map (fun job => (job.1, g job.1)) := by
  have hlookup : ∀ {job : Text × Nat} {done : List (Text × Nat)}, job ∈ done →
      (done.map (fun job => (job, g job.1))).lookup job = some (g job.1) := by
    intro job done hjob
    induction done with
    | nil => exact absurd hjob List.not_mem_nil
    | cons d done ih =>
      rw [List.map_cons, List.lookup_cons]
      by_cases hd : job = d
      · rw [hd, beq_self_eq_true]
      · have hrest := (List.mem_cons.mp hjob).resolve_left hd
        rw [beq_false_of_ne hd]
        exact ih hrest
  have hall : collect jobs (done.map (fun job => (job, g job.1)))
      = jobs.filterMap (some ∘ fun job => (job.1, g job.1)) := by
    refine List.filterMap_congr ?_
    intro job hjob
    rw [hlookup (hperm.mem_iff.mpr hjob)]
    rfl
  rw [hall, List.filterMap_eq_map]

/-- **In whichever order files are processed, each comes to the outcome of its text.** -/
theorem IsFixed.collect_filesIn (h : p.IsFixed f contents) {paths : List Text}
    {jobs : List (Text × Nat)} (hperm : jobs.Perm paths.zipIdx)
    (hw : p.HoldsOutcomes f contents w.files)
    (hblocks : ∀ q ∈ paths, ∀ source, w.files.readText q = .ok source →
      ∀ b ∈ findBlocks source, b.content ∈ contents)
    (hunchanged : ∀ done, done <+: jobs → ∀ q ∈ paths,
      (Effect.runIn (p.filesIn done) w).2.files.readText q = w.files.readText q) :
    collect paths.zipIdx (Effect.runIn (p.filesIn jobs) w).1
      = paths.map (fun q => (q, p.fileOutcome f w.files q)) := by
  have hmem : ∀ job ∈ jobs, job.1 ∈ paths :=
    fun job hjob => List.fst_mem_of_mem_zipIdx (hperm.mem_iff.mp hjob)
  have hresults := h.runIn_filesIn hw (fun job hjob => hblocks job.1 (hmem job hjob))
    (fun done hdone job hjob => hunchanged done hdone job.1 (hmem job hjob))
  calc
    _ = paths.zipIdx.map (fun job => (job.1, p.fileOutcome f w.files job.1)) := by
      rw [hresults, collect_map hperm]
    _ = (paths.zipIdx.map Prod.fst).map (fun q => (q, p.fileOutcome f w.files q)) := by
      rw [List.map_map]
      rfl
    _ = paths.map (fun q => (q, p.fileOutcome f w.files q)) := by
      rw [List.zipIdx_map_fst]

end Preprocessor

/-! ## §4. States that are reached. -/

/-- The worlds that calls of a preprocessor lead to, from one without entries of its cache on.
The contents of the calls are from a list, and in between nobody writes an entry. -/
inductive CacheReached (p : Preprocessor) (contents : List Text) : World → Prop where
  /-- No entry can be read. -/
  | start {w : World} (hempty : ∀ c, p.cache = some c → ∀ source t,
      w.files.readText (c.entryPath (c.key source)) ≠ .ok t) : CacheReached p contents w
  /-- A call, whether it succeeds or fails. -/
  | call {w : World} (call : Call) (hcontents : ∀ s ∈ call.contents, s ∈ contents)
      (hw : CacheReached p contents w) : CacheReached p contents ((call.run p).runIn w).2
  /-- Anything else; entries may be taken away. -/
  | elsewhere {w w' : World} (hkept : ∀ c, p.cache = some c → ∀ source t,
      w'.files.readText (c.entryPath (c.key source)) = .ok t →
        w.files.readText (c.entryPath (c.key source)) = .ok t)
      (hw : CacheReached p contents w) : CacheReached p contents w'

/-- **In every state that is reached the cache holds outcomes.** -/
theorem CacheReached.holdsOutcomes {p : Preprocessor} {f : Text → Except Failure Artifacts}
    {contents : List Text} {w : World} (h : CacheReached p contents w)
    (hp : p.IsFixed f contents) : p.HoldsOutcomes f contents w.files := by
  induction h with
  | start hempty => exact fun c hc => .of_empty (hempty c hc)
  | call call hcontents _ ih =>
    exact (Call.meets_run (fun s hs => hp.settles (hcontents s hs)) _ ih).2
  | elsewhere hkept _ ih => exact ih.of_readText hkept

namespace CacheReached

variable {p : Preprocessor} {contents : List Text} {path : Text} {w : World}

/-- A world with the same files is reached as well. -/
theorem of_files_eq {w' : World} (h : CacheReached p contents w) (hfiles : w'.files = w.files) :
    CacheReached p contents w' :=
  .elsewhere (fun _ _ _ _ hread => hfiles ▸ hread) h

/-- A file is a call about the component in it. -/
theorem file (h : CacheReached p contents w)
    (hblocks : ∀ source, w.files.readText path = .ok source →
      ∀ b ∈ findBlocks source, b.content ∈ contents) :
    CacheReached p contents ((p.file path).runIn w).2 := by
  rw [Preprocessor.runIn_file]
  cases hread : w.files.readText path with
  | error e => exact h
  | ok source =>
    have hcontents : ∀ s ∈ (Call.component source path).contents, s ∈ contents := by
      intro s hs
      obtain ⟨b, hb, rfl⟩ := List.mem_map.mp hs
      exact hblocks source hread b hb
    have hcall := CacheReached.call (.component source path) hcontents h
    rwa [Call.run, Action.runIn_map] at hcall

/-- Files that are processed one after the other are calls one after the other. -/
theorem filesIn {jobs : List (Text × Nat)} (h : CacheReached p contents w)
    (hblocks : ∀ job ∈ jobs, ∀ source, w.files.readText job.1 = .ok source →
      ∀ b ∈ findBlocks source, b.content ∈ contents)
    (hunchanged : p.Unchanged jobs w) :
    CacheReached p contents (Effect.runIn (p.filesIn jobs) w).2 := by
  induction jobs generalizing w with
  | nil => exact h
  | cons job jobs ih =>
    obtain ⟨hsame, hunchanged'⟩ := hunchanged.rest
    exact ih (h.file (hblocks job List.mem_cons_self)) (fun j hj source hread =>
      hblocks j (List.mem_cons_of_mem job hj) source ((hsame j hj).symm.trans hread)) hunchanged'

/-- **A run over a directory leaves a state that is reached**, in whichever order it takes the
files, so another run may follow. -/
theorem dirIn {schedule : List (Text × Nat) → List (Text × Nat)} {paths : List Text} {w₁ : World}
    (h : CacheReached p contents w) (hdir : w.files.isDirAt path = true)
    (hfound : Effect.runIn (findComponentFiles path p.options.componentExtensions) w = (paths, w₁))
    (hperm : (schedule paths.zipIdx).Perm paths.zipIdx)
    (hblocks : ∀ q ∈ paths, ∀ source, w.files.readText q = .ok source →
      ∀ b ∈ findBlocks source, b.content ∈ contents)
    (hunchanged : p.Unchanged (schedule paths.zipIdx) w₁) :
    CacheReached p contents ((p.dirIn schedule path).runIn w).2 := by
  have hfiles : w₁.files = w.files := (congrArg (fun x => x.2.files) hfound).symm
  have hblocks' : ∀ job ∈ schedule paths.zipIdx, ∀ source, w₁.files.readText job.1 = .ok source →
      ∀ b ∈ findBlocks source, b.content ∈ contents := by
    intro job hjob
    rw [hfiles]
    exact hblocks job.1 (List.fst_mem_of_mem_zipIdx (hperm.mem_iff.mp hjob))
  have hrun := (h.of_files_eq hfiles).filesIn hblocks' hunchanged
  exact hrun.of_files_eq (Preprocessor.runIn_dirIn hdir hfound).2

end CacheReached

/-! ## §5. Reports. -/

namespace Preprocessor

/-- **The report of a directory does not depend on the order in which its files are processed.**
It has, in path order, every file that comes to an output with adapted blocks on its own, with
that output, and every file that fails on its own, with that failure; on its own it may find
another state of the cache. -/
theorem report_dirIn {p : Preprocessor} {f : Text → Except Failure Artifacts}
    {contents : List Text} {w w₁ v : World} {path : Text} {paths : List Text}
    {schedule : List (Text × Nat) → List (Text × Nat)}
    (hp : p.IsFixed f contents) (hreached : CacheReached p contents w)
    (hdir : w.files.isDirAt path = true)
    (hfound : Effect.runIn (findComponentFiles path p.options.componentExtensions) w = (paths, w₁))
    (hblocks : ∀ q ∈ paths, ∀ source, w.files.readText q = .ok source →
      ∀ b ∈ findBlocks source, b.content ∈ contents)
    (hperm : (schedule paths.zipIdx).Perm paths.zipIdx)
    (hunchanged : ∀ done, done <+: schedule paths.zipIdx → ∀ q ∈ paths,
      (Effect.runIn (p.filesIn done) w₁).2.files.readText q = w.files.readText q)
    (hreached' : CacheReached p contents v)
    (hsame : ∀ q ∈ paths, v.files.readText q = w.files.readText q) :
    p.dir path = p.dirIn id path ∧ ∃ r, ((p.dirIn schedule path).runIn w).1 = .ok r
      ∧ r.filesScanned = paths.length
      ∧ paths.Pairwise (fun q q' => Path.le q q' = true)
      ∧ r.outputs = paths.filterMap (fun q =>
          match ((p.file q).runIn v).1 with
          | .ok o => if o.blocksAdapted = 0 then none else some (q, o)
          | .error _ => none)
      ∧ r.failures = paths.filterMap (fun q =>
          match ((p.file q).runIn v).1 with
          | .ok _ => none
          | .error e => some (q, e)) := by
  -- finding files changes none
  have hfiles : w₁.files = w.files := (congrArg (fun x => x.2.files) hfound).symm
  have hpaths : paths = Files.componentFiles p.options.componentExtensions (w.files.walkAll path) :=
    (congrArg Prod.fst hfound).symm
  have halone : ∀ q ∈ paths, ((p.file q).runIn v).1 = p.fileOutcome f w.files q := by
    intro q hq
    have hown := (hp.runIn_file (hreached'.holdsOutcomes hp)
      (fun source hread => hblocks q hq source ((hsame q hq).symm.trans hread))).1
    rw [hown, fileOutcome, fileOutcome, hsame q hq]
  have hcollected : collect paths.zipIdx (Effect.runIn (p.filesIn (schedule paths.zipIdx)) w₁).1
      = paths.map (fun q => (q, ((p.file q).runIn v).1)) := by
    rw [← hfiles] at hblocks hunchanged
    rw [hp.collect_filesIn hperm (hfiles ▸ hreached.holdsOutcomes hp) hblocks hunchanged, hfiles]
    refine List.map_congr_left ?_
    intro q hq
    rw [halone q hq]
  refine ⟨p.dir_eq_dirIn path, _, (runIn_dirIn hdir hfound).1, ?_, ?_, ?_, ?_⟩
  · rw [hcollected, report, List.length_map]
  · rw [hpaths]
    exact Files.pairwise_componentFiles _ _
  · rw [hcollected]
    exact List.filterMap_map
  · rw [hcollected]
    exact List.filterMap_map

end Preprocessor

/-! ## §6. A run. -/

/-- A preprocessor that stores what it adapts in the directory `cache`. -/
def cachingPreprocessor : Preprocessor := ⟨.builtin, .builtin, echoCompiler, some ⟨"cache", []⟩⟩

/-- A component whose script is `a`. -/
def componentOfA : Text := "<script lang=scala>a</script>"

/-- A world with three components, two of which have the same content, and one that fails. -/
def threeComponents : World where
  files := ⟨[(["cache"], .dir), (["src"], .dir),
    (["src", "A.svelte"], .file (Text.encode componentOfA)),
    (["src", "B.svelte"], .file (Text.encode "<script lang=scala>!</script>")),
    (["src", "C.svelte"], .file (Text.encode componentOfA))]⟩
  processId := 1
  nextScratch := 0
  compilations := 0
  warnings := []
  faults := []

/-- The paths of the components. -/
def threePaths : List Text := ["src/A.svelte", "src/B.svelte", "src/C.svelte"]

theorem isFixed_cachingPreprocessor : cachingPreprocessor.IsFixed echo ["a", "!"] := by
  refine ⟨?_, ?_, ?_⟩
  · intro source u
    exact congrArg Prod.fst (runIn_echoCompiler source u)
  · intro c _ source u s t hread
    have hrun : (cachingPreprocessor.compiler source).runIn u = (echo source, u) :=
      runIn_echoCompiler source u
    rwa [hrun] at hread
  · intro c hc s hs s' hs' hsame
    obtain rfl := Option.some.inj hc
    have hne : Sha256.hex (ScriptCache.message ⟨"cache", []⟩ "a")
        ≠ Sha256.hex (ScriptCache.message ⟨"cache", []⟩ "!") := by
      decide +kernel
    simp only [List.mem_cons, List.not_mem_nil, or_false] at hs hs'
    rcases hs with rfl | rfl <;> rcases hs' with rfl | rfl
    · rfl
    · exact absurd hsame hne
    · exact absurd hsame.symm hne
    · rfl

theorem slash_not_mem_hex (message : List UInt8) : '/' ∉ Sha256.hex message := by
  have hdigit : ∀ n < 16, Json.hexChar n ≠ '/' := by
    decide
  intro hin
  obtain ⟨n, hn, hslash⟩ := Sha256.eq_hexChar_of_mem_hex hin
  exact hdigit n hn hslash.symm

/-- To begin with nothing is in the cache. -/
theorem readText_entry_threeComponents (source t : Text) :
    threeComponents.files.readText
      (ScriptCache.entryPath ⟨"cache", []⟩ (ScriptCache.key ⟨"cache", []⟩ source)) ≠ .ok t := by
  have hslash : '/' ∉ ScriptCache.key ⟨"cache", []⟩ source ++ ".json".toList := by
    rw [List.mem_append]
    rintro (hin | hin)
    · exact slash_not_mem_hex _ hin
    · exact absurd hin (by decide)
  rw [ScriptCache.entryPath]
  generalize hname : ScriptCache.key ⟨"cache", []⟩ source ++ ".json".toList = name at hslash ⊢
  have hlen : 5 ≤ name.length := by
    rw [← hname, List.length_append]
    exact Nat.le_add_left 5 _
  have hisName : Files.IsName name := by
    refine ⟨?_, ?_, ?_, hslash⟩ <;> rintro rfl <;> exact absurd hlen (by decide)
  have hrelative : Path.isAbsolute name = false := by
    rw [Path.isAbsolute, beq_eq_false_iff_ne]
    exact fun h => hslash (List.mem_of_mem_head? h)
  have hjoin : Path.join "cache" name = "cache".toList ++ '/' :: name := by
    rw [Path.join, hrelative]
    rfl
  rw [hjoin]
  exact Files.readText_ne_ok_of_vacant ⟨by decide, by decide, by decide, by decide⟩ hisName rfl rfl t

theorem found_threeComponents :
    Effect.runIn (findComponentFiles "src" cachingPreprocessor.options.componentExtensions)
      threeComponents = (threePaths, threeComponents) := by
  have hpaths : Files.componentFiles cachingPreprocessor.options.componentExtensions
      (threeComponents.files.walkAll "src") = threePaths := by
    decide +kernel
  have hskipped : Files.skippedEntries (threeComponents.files.walkAll "src") = [] := by
    decide +kernel
  have hrun : Effect.runIn (findComponentFiles "src"
      cachingPreprocessor.options.componentExtensions) threeComponents
      = (Files.componentFiles cachingPreprocessor.options.componentExtensions
          (threeComponents.files.walkAll "src"),
        { threeComponents with
          warnings := [] ++ (Files.skippedEntries (threeComponents.files.walkAll "src")).map
            Warning.entrySkipped }) := rfl
  rw [hrun, hpaths, hskipped]
  rfl

theorem contents_threeComponents : ∀ q ∈ threePaths, ∀ source,
    threeComponents.files.readText q = .ok source →
      ∀ b ∈ findBlocks source, b.content ∈ [("a" : Text), ("!" : Text)] := by
  have hall : ∀ q ∈ threePaths, ∀ source ∈ (threeComponents.files.readText q).toOption,
      ∀ t ∈ (findBlocks source).map (·.content), t ∈ [("a" : Text), ("!" : Text)] := by
    decide +kernel
  intro q hq source hread b hb
  exact hall q hq source (by rw [hread]; rfl) b.content (List.mem_map.mpr ⟨b, hb, rfl⟩)

theorem unchanged_threeComponents : ∀ n < 4, ∀ q ∈ threePaths,
    (Effect.runIn (cachingPreprocessor.filesIn (threePaths.zipIdx.reverse.take n))
      threeComponents).2.files.readText q = threeComponents.files.readText q := by
  decide +kernel

/-- The last component is processed first, the first one finds its script in the cache, and the
one between them fails. -/
theorem report_threeComponents :
    ((cachingPreprocessor.dirIn List.reverse "src").runIn threeComponents).1 = .ok
      ⟨[("src/A.svelte", ⟨componentOfA, ["\x7b\x7d"], 1⟩),
          ("src/C.svelte", ⟨componentOfA, ["\x7b\x7d"], 1⟩)],
        [("src/B.svelte", .missingArtifact "out.js")], 3⟩ := by
  have hunchanged : ∀ done, done <+: threePaths.zipIdx.reverse → ∀ q ∈ threePaths,
      (Effect.runIn (cachingPreprocessor.filesIn done) threeComponents).2.files.readText q
        = threeComponents.files.readText q := by
    intro done hdone
    have hlen : done.length ≤ 3 := hdone.length_le
    rw [List.prefix_iff_eq_take.mp hdone]
    exact unchanged_threeComponents done.length (by omega)
  have hreached : CacheReached cachingPreprocessor ["a", "!"] threeComponents :=
    .start (fun c hc => Option.some.inj hc ▸ readText_entry_threeComponents)
  obtain ⟨-, r, hr, hscanned, -, houtputs, hfailures⟩ := Preprocessor.report_dirIn
    isFixed_cachingPreprocessor hreached (by decide +kernel) found_threeComponents
    contents_threeComponents (List.reverse_perm _) hunchanged hreached (fun _ _ => rfl)
  -- each component on its own
  have hA : ((cachingPreprocessor.file "src/A.svelte").runIn threeComponents).1
      = .ok ⟨componentOfA, ["\x7b\x7d"], 1⟩ := by
    decide +kernel
  have hB : ((cachingPreprocessor.file "src/B.svelte").runIn threeComponents).1
      = .error (.missingArtifact "out.js") := by
    decide +kernel
  have hC : ((cachingPreprocessor.file "src/C.svelte").runIn threeComponents).1
      = .ok ⟨componentOfA, ["\x7b\x7d"], 1⟩ := by
    decide +kernel
  simp only [threePaths, List.filterMap_cons, List.filterMap_nil, hA, hB, hC] at houtputs hfailures
  rw [hr]
  cases r
  obtain rfl := hscanned
  obtain rfl := houtputs
  obtain rfl := hfailures
  rfl

end ScriptWeave
