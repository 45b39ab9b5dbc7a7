/-
  ScriptWeave.Proofs.Build.Transparency
  ─────────────────────────────────────
  **A CACHE CHANGES NO RESULT.**

  A preprocessor with a cache and one without are given the same calls.  The
  compiler is a fixed function of the source and leaves the files of the
  cache alone; to begin with there are none.  Then both answer alike, call by
  call: whatever the cache hands out is the outcome of the source that it is
  asked for.

      entries hold outcomes   →   (lookup, or compile and store) = outcome
                              →   entries hold outcomes

  No two contents that occur may have one digest.  Writing an entry may fail,
  and may leave the beginning of one; that is no entry, and the next lookup
  of its source removes it.
-/
import ScriptWeave.Proofs.Build.Outcomes
import ScriptWeave.Proofs.Build.SoundCache

namespace ScriptWeave

namespace Preprocessor

/-! ## §1. Sources with and without a cache. -/

variable {p : Preprocessor} {f : Text → Except Failure Artifacts} {content : Text}

/-- A source that is compiled and stored has its outcome. -/
theorem meets_compiled {inv : Files → Prop} {file : Text}
    (hcompiler : Meets (fun w => inv w.files) (p.compiler content) (· = f content))
    (hstore : ∀ r, p.outcome f content file = .ok r →
      Meets (fun w => inv w.files) (liftM (p.store content r)) (· = .ok ())) :
    Meets (fun w => inv w.files)
      (do let r ← p.produce content file; p.store content r; return ⟨r, false⟩)
      (fun r => r.map Processed.script = p.outcome f content file) := by
  have hproduce : Meets (fun w => inv w.files) (p.produce content file)
      (· = p.outcome f content file) := by
    refine (meets_produce hcompiler).weaken ?_
    rintro r ⟨a, rfl, rfl⟩
    rfl
  refine .bind hproduce ?_ ?_
  · intro r hr
    rw [← hr]
    refine .bind_unit (hstore r hr.symm) ?_
    exact .pure rfl
  · intro e he
    rw [← he]
    rfl

/-- Without a cache a source is compiled, and has its outcome. -/
theorem settles_of_uncached (inv : Files → Prop) (hcache : p.cache = none)
    (hcompiler : Meets (fun w => inv w.files) (p.compiler content) (· = f content)) :
    p.Settles f (fun w => inv w.files) content := by
  intro file
  have hlookUp : Meets (fun w => inv w.files) (liftM (p.lookUp content)) (· = .ok none) := by
    unfold lookUp
    rw [hcache]
    exact .lift (fun w hw => ⟨rfl, hw⟩)
  have hstore : ∀ r, Meets (fun w => inv w.files) (liftM (p.store content r)) (· = .ok ()) := by
    intro r
    unfold store
    rw [hcache]
    exact .lift (fun w hw => ⟨rfl, hw⟩)
  unfold process
  refine .bind hlookUp ?_ (fun e he => absurd he (by simp))
  intro found hfound
  obtain rfl := Except.ok.inj hfound
  exact meets_compiled hcompiler (fun r _ => hstore r)

/-- Whether an adapted script is the outcome of a source that occurs. -/
def IsOutcome (p : Preprocessor) (f : Text → Except Failure Artifacts) (contents : List Text)
    (source : Text) (r : Adapted) : Prop :=
  source ∈ contents ∧ ∀ file, p.outcome f source file = .ok r

/-- With a cache that holds outcomes a source has its outcome, and the cache holds outcomes
again.  The invariant may say more about the files than that. -/
theorem settles_of_cached (inv : Files → Prop) {c : ScriptCache} (hcache : p.cache = some c)
    {contents : List Text} (hkey : ∀ s ∈ contents, ∀ s' ∈ contents, c.key s = c.key s' → s = s')
    (hmem : content ∈ contents)
    (hsound : ∀ s, inv s → c.Sound (p.IsOutcome f contents) s)
    (hget : ∀ w : World, inv w.files → inv (Effect.runIn (c.get? content) w).2.files)
    (hset : ∀ (w : World) r, p.IsOutcome f contents content r → inv w.files →
      inv (Effect.runIn (c.set content r) w).2.files)
    (hcompiler : Meets (fun w => inv w.files) (p.compiler content) (· = f content)) :
    p.Settles f (fun w => inv w.files) content := by
  intro file
  -- what is looked up is nothing or the outcome
  have hlookUp : Meets (fun w => inv w.files) (liftM (p.lookUp content))
      (fun r => ∃ found, r = .ok found ∧ ∀ r, found = some r → p.outcome f content file = .ok r) := by
    unfold lookUp
    rw [hcache]
    refine .lift ?_
    intro w hw
    refine ⟨⟨_, rfl, ?_⟩, hget w hw⟩
    intro r hr
    exact ((hsound _ hw).good_of_found
      (fun source' _ hr hsame => hkey source' hr.1 content hmem hsame) hr).2 file
  -- what is stored is the outcome
  have hstore : ∀ r, p.outcome f content file = .ok r →
      Meets (fun w => inv w.files) (liftM (p.store content r)) (· = .ok ()) := by
    intro r hr
    unfold store
    rw [hcache]
    exact .lift (fun w hw => ⟨rfl, hset w r ⟨hmem, outcome_eq_ok hr⟩ hw⟩)
  unfold process
  refine .bind hlookUp ?_ ?_
  · rintro found ⟨_, hsame, hgood⟩
    obtain rfl := Except.ok.inj hsame
    cases found with
    | some r =>
      refine .pure ?_
      rw [hgood r rfl]
      rfl
    | none => exact meets_compiled hcompiler hstore
  · rintro e ⟨_, hsame, -⟩
    exact absurd hsame (by simp)

end Preprocessor

/-! ## §2. Calls. -/

/-- A call of a preprocessor. -/
inductive Call where
  /-- A block that stands alone. -/
  | script (content : Text) (attributes : Attributes)
  /-- A component. -/
  | component (source file : Text)
  deriving Repr, DecidableEq

/-- The answer to a call, without what it says about the cache. -/
inductive Reply where
  /-- The script of a block, none if it is in another language. -/
  | script (r : Option Adapted)
  /-- A component with its blocks put back. -/
  | component (o : ComponentOutput)
  deriving Repr, DecidableEq

namespace Call

/-- Makes a call. -/
def run (p : Preprocessor) : Call → Action Reply
  | .script content attributes =>
    (fun r => .script (r.map Processed.script)) <$> p.script content attributes
  | .component source file => .component <$> p.component source file

/-- Makes calls one after the other, whether they succeed or fail. -/
def runAll (p : Preprocessor) : List Call → Effect (List (Except Failure Reply))
  | [] => return []
  | call :: calls => do
    let r ← attempt (call.run p)
    return r :: (← runAll p calls)

/-- The contents of blocks that a call is about. -/
def contents : Call → List Text
  | .script content _ => [content]
  | .component source _ => (findBlocks source).map (·.content)

/-- What a call is answered when sources are compiled by `f`. -/
def outcome (p : Preprocessor) (f : Text → Except Failure Artifacts) : Call → Except Failure Reply
  | .script content attributes => (p.blockOutcome f content attributes "<script>").map .script
  | .component source file => (p.componentOutcome f source file).map .component

variable {p : Preprocessor} {f : Text → Except Failure Artifacts} {inv : World → Prop}

/-- A call about sources that have their outcomes is answered accordingly. -/
theorem meets_run {call : Call} (h : ∀ content ∈ call.contents, p.Settles f inv content) :
    Meets inv (call.run p) (· = call.outcome p f) := by
  cases call with
  | script content attributes =>
    have hblock := Preprocessor.meets_processBlock (h content (List.mem_singleton.mpr rfl))
      attributes "<script>"
    refine .map ?_
    intro w hw
    obtain ⟨hends, hinv⟩ := hblock w hw
    refine ⟨?_, hinv⟩
    rw [outcome, ← hends]
    show Except.map _ ((p.processBlock content attributes "<script>").runIn w).1 = _
    cases ((p.processBlock content attributes "<script>").runIn w).1 <;> rfl
  | component source file =>
    refine .map ?_
    intro w hw
    have hcomponent := Preprocessor.meets_component
      (fun b hb => h b.content (List.mem_map.mpr ⟨b, hb, rfl⟩)) file
    obtain ⟨hends, hinv⟩ := hcomponent w hw
    refine ⟨?_, hinv⟩
    rw [hends]
    rfl

/-- Calls are answered one by one. -/
theorem runIn_runAll (inv : World → Prop) {calls : List Call}
    (h : ∀ content ∈ calls.flatMap contents, p.Settles f inv content) {w : World} (hw : inv w) :
    (Effect.runIn (runAll p calls) w).1 = calls.map (outcome p f) := by
  induction calls generalizing w with
  | nil => rfl
  | cons call calls ih =>
    rw [List.flatMap_cons] at h
    obtain ⟨hends, hinv⟩ := meets_run (fun s hs => h s (List.mem_append_left _ hs)) w hw
    have hrest := ih (fun s hs => h s (List.mem_append_right _ hs)) hinv
    -- a call that fails leaves a world, too, and the next one is made there
    have hstep : (Effect.runIn (runAll p (call :: calls)) w).1
        = ((call.run p).runIn w).1
          :: (Effect.runIn (runAll p calls) ((call.run p).runIn w).2).1 := rfl
    rw [hstep, hends, hrest, List.map_cons]

end Call

/-! ## §3. Transparency. -/

namespace Preprocessor

/-- The preprocessor without its cache. -/
def withoutCache (p : Preprocessor) : Preprocessor :=
  { p with options := { p.options with cache := false }, cache := none }

theorem blockOutcome_withoutCache (p : Preprocessor) (f : Text → Except Failure Artifacts) :
    p.withoutCache.blockOutcome f = p.blockOutcome f := rfl

theorem blocksOutcome_withoutCache (p : Preprocessor) (f : Text → Except Failure Artifacts)
    (file : Text) (bs : List ScriptBlock) :
    p.withoutCache.blocksOutcome f file bs = p.blocksOutcome f file bs := by
  induction bs with
  | nil => rfl
  | cons b bs ih => rw [blocksOutcome, blocksOutcome, blockOutcome_withoutCache, ih]

end Preprocessor

/-- Calls have one outcome with and without a cache. -/
theorem Call.outcome_withoutCache (p : Preprocessor) (f : Text → Except Failure Artifacts)
    (call : Call) : call.outcome p.withoutCache f = call.outcome p f := by
  cases call with
  | script content attributes => rfl
  | component source file =>
    rw [outcome, outcome, Preprocessor.componentOutcome, Preprocessor.componentOutcome,
      Preprocessor.blocksOutcome_withoutCache]

theorem ScriptCache.runIn_open (dir salt : Text) (w : World) :
    (Effect.runIn (ScriptCache.open dir salt) w).1 = ⟨dir, salt⟩ := by
  unfold ScriptCache.open
  rw [Effect.runIn_bind]
  split
  next => rfl
  next =>
    rw [Effect.runIn_bind]
    split <;> rfl

/-- What options make: a preprocessor if they are acceptable, with a cache if they ask for one. -/
theorem Preprocessor.runIn_new (o : Options) (compiler : Compiler) (w : World) :
    ((Preprocessor.new o compiler).runIn w).1
      = match Preprocessor.rulesOf o with
        | .error e => .error (.setup e)
        | .ok rules =>
          .ok ⟨o, rules, compiler, if o.cache then some ⟨o.cacheDir, o.cacheSalt⟩ else none⟩ := by
  unfold Preprocessor.new
  cases Preprocessor.rulesOf o with
  | error e => rfl
  | ok rules =>
    cases o.cache with
    | false => rfl
    | true =>
      have hopen : Action.runIn
            (some <$> liftM (ScriptCache.open o.cacheDir o.cacheSalt) : Action (Option ScriptCache)) w
          = (.ok (some ⟨o.cacheDir, o.cacheSalt⟩),
              (Effect.runIn (ScriptCache.open o.cacheDir o.cacheSalt) w).2) := by
        rw [Action.runIn_map, Action.runIn_lift, ScriptCache.runIn_open]
        rfl
      show (Action.runIn (_ >>= _) w).1 = _
      rw [Action.runIn_bind_ok hopen]
      rfl

/-- Options that differ in the cache alone make preprocessors that do so. -/
theorem Preprocessor.runIn_new_uncached {o : Options} {compiler : Compiler} {p q : Preprocessor}
    {v v' : World} (hp : ((Preprocessor.new o compiler).runIn v).1 = .ok p)
    (hq : ((Preprocessor.new { o with cache := false } compiler).runIn v').1 = .ok q) :
    p.compiler = compiler ∧ p.cache = (if o.cache then some ⟨o.cacheDir, o.cacheSalt⟩ else none)
      ∧ q = p.withoutCache := by
  have hrules : Preprocessor.rulesOf { o with cache := false } = Preprocessor.rulesOf o := rfl
  rw [Preprocessor.runIn_new] at hp hq
  rw [hrules] at hq
  cases h : Preprocessor.rulesOf o with
  | error e =>
    rw [h] at hp
    exact absurd hp (by simp)
  | ok rules =>
    rw [h] at hp hq
    obtain rfl := Except.ok.inj hp
    obtain rfl := Except.ok.inj hq
    exact ⟨rfl, rfl, rfl⟩

/-- The cache of options, if they ask for one. -/
def Options.scriptCache (o : Options) : ScriptCache := ⟨o.cacheDir, o.cacheSalt⟩

/-- The files that a preprocessor comes upon while it processes some contents, whatever else is in
the world. -/
inductive Preprocessor.Encounters (p : Preprocessor) (contents : List Text) (start : Files) :
    Files → Prop where
  /-- Those at the start. -/
  | start : p.Encounters contents start start
  /-- Those that a lookup leaves. -/
  | lookUp {u : World} {content : Text} (hmem : content ∈ contents)
      (hu : p.Encounters contents start u.files) :
      p.Encounters contents start (Effect.runIn (p.lookUp content) u).2.files
  /-- Those that the compiler leaves. -/
  | compile {u : World} {content : Text} (hmem : content ∈ contents)
      (hu : p.Encounters contents start u.files) :
      p.Encounters contents start ((p.compiler content).runIn u).2.files
  /-- Those that a store leaves, however it ends. -/
  | store {u : World} {content : Text} (hmem : content ∈ contents) (r : Adapted)
      (hu : p.Encounters contents start u.files) :
      p.Encounters contents start (Effect.runIn (p.store content r) u).2.files

/-- **A cache changes no result.**  Calls are answered alike with and without it, from any world
in which no file of the cache can be read, however the writing of entries goes.  The compiler
writes no entry in the files that are come upon; others it may change. -/
theorem runAll_cached_eq_runAll_uncached {o : Options} {compiler : Compiler}
    {f : Text → Except Failure Artifacts} {p q : Preprocessor} {v v' : World}
    (hcache : o.cache = true)
    (hp : ((Preprocessor.new o compiler).runIn v).1 = .ok p)
    (hq : ((Preprocessor.new { o with cache := false } compiler).runIn v').1 = .ok q)
    (hfixed : ∀ source u, ((compiler source).runIn u).1 = f source)
    (calls : List Call)
    (hdigests : ∀ s ∈ calls.flatMap Call.contents, ∀ s' ∈ calls.flatMap Call.contents,
      Sha256.hex (o.scriptCache.message s) = Sha256.hex (o.scriptCache.message s') →
      o.scriptCache.message s = o.scriptCache.message s')
    (w w' : World)
    (hempty : ∀ s t,
      w.files.readText (o.scriptCache.entryPath (o.scriptCache.key s)) ≠ .ok t)
    (hapart : ∀ source ∈ calls.flatMap Call.contents, ∀ u : World,
      p.Encounters (calls.flatMap Call.contents) w.files u.files → ∀ s t,
      ((compiler source).runIn u).2.files.readText
          (o.scriptCache.entryPath (o.scriptCache.key s)) = .ok t →
        u.files.readText (o.scriptCache.entryPath (o.scriptCache.key s)) = .ok t) :
    (Effect.runIn (Call.runAll p calls) w).1 = (Effect.runIn (Call.runAll q calls) w').1 := by
  obtain ⟨hcompiler, hc, rfl⟩ := Preprocessor.runIn_new_uncached hp hq
  rw [if_pos hcache] at hc
  -- with the cache: from no entries on, entries hold outcomes
  have hcached : (Effect.runIn (Call.runAll p calls) w).1 = calls.map (Call.outcome p f) := by
    refine Call.runIn_runAll
      (fun u => o.scriptCache.Sound (p.IsOutcome f (calls.flatMap Call.contents)) u.files
        ∧ p.Encounters (calls.flatMap Call.contents) w.files u.files) ?_ ⟨.of_empty hempty, .start⟩
    intro content hmem
    refine Preprocessor.settles_of_cached
      (fun s => o.scriptCache.Sound (p.IsOutcome f (calls.flatMap Call.contents)) s
        ∧ p.Encounters (calls.flatMap Call.contents) w.files s)
      hc ?_ hmem (fun s hs => hs.1) ?_ ?_ ?_
    · intro s hs s' hs' hsame
      exact ScriptCache.message_injective _ (hdigests s hs s' hs' hsame)
    · intro u hu
      have hmet := Preprocessor.Encounters.lookUp hmem hu.2
      rw [Preprocessor.lookUp, hc] at hmet
      exact ⟨hu.1.runIn_get?, hmet⟩
    · intro u r hr hu
      have hmet := Preprocessor.Encounters.store hmem r hu.2
      rw [Preprocessor.store, hc] at hmet
      exact ⟨hu.1.runIn_set hr, hmet⟩
    · intro u hu
      have hmet := Preprocessor.Encounters.compile hmem hu.2
      rw [hcompiler] at hmet ⊢
      exact ⟨hfixed content u, hu.1.of_readText (hapart content hmem u hu.2), hmet⟩
  -- without it: every world will do
  have huncached : (Effect.runIn (Call.runAll p.withoutCache calls) w').1
      = calls.map (Call.outcome p.withoutCache f) := by
    refine Call.runIn_runAll (fun _ => True) ?_ trivial
    intro content _
    refine Preprocessor.settles_of_uncached (fun _ => True) rfl (fun u _ => ⟨?_, trivial⟩)
    show ((p.compiler content).runIn u).1 = f content
    rw [hcompiler]
    exact hfixed content u
  rw [hcached, huncached]
  refine List.map_congr_left ?_
  intro call _
  exact (Call.outcome_withoutCache p f call).symm

/-! ## §4. A run. -/

/-- What a compiler that hands on every source but one makes of it. -/
def echo (source : Text) : Except Failure Artifacts :=
  if source = ['!'] then .error (.missingArtifact "out.js") else .ok ⟨source, "\x7b\x7d"⟩

/-- The compiler that does so. -/
def echoCompiler : Compiler := fun source =>
  match echo source with
  | .ok artifacts => return artifacts
  | .error e => throw e

theorem runIn_echoCompiler (source : Text) (u : World) :
    (echoCompiler source).runIn u = (echo source, u) := by
  unfold echoCompiler
  cases echo source <;> rfl

/-- A world with nothing in it but the directory of the cache. -/
def bareWorld : World where
  files := ⟨[([".svala"], .dir), ([".svala", "cache"], .dir)]⟩
  processId := 1
  nextScratch := 0
  compilations := 0
  warnings := []
  faults := []

theorem get?_bareWorld {l : Location} {e : Entry} (h : bareWorld.files.get? l = some e) :
    e = .dir := by
  rw [Files.get?, bareWorld, List.lookup_cons, List.lookup_cons, List.lookup_nil] at h
  split at h
  next => exact (Option.some.inj h).symm
  next =>
    split at h
    next => exact (Option.some.inj h).symm
    next => exact absurd h (by simp)

theorem readText_bareWorld (p t : Text) : bareWorld.files.readText p ≠ .ok t := by
  intro h
  obtain ⟨l, u, hget⟩ := Files.get?_of_readText h
  exact absurd (get?_bareWorld hget) (by simp)

/-- The compiler that does so and also leaves the source in a file. -/
def scribeCompiler : Compiler := fun source => do
  let _ ← World.change (fun s => s.writeText "./out.js" source)
  echoCompiler source

theorem runIn_scribeCompiler (source : Text) (u : World) :
    (scribeCompiler source).runIn u
      = (echo source, { u with
          files := (u.files.writeText "./out.js" source).toOption.getD u.files }) := by
  unfold scribeCompiler
  rw [Action.runIn_bind, Action.runIn_lift, Effect.runIn_change]
  cases u.files.writeText "./out.js" source with
  | error e => exact runIn_echoCompiler source u
  | ok s => exact runIn_echoCompiler source _

/-- Whether files have a directory for the cache, and no links. -/
structure PlainFiles (s : Files) : Prop where
  noLink : ∀ l, s.HasNoLink l
  leads : s.find .read ".svala/cache" = .ok (.entry [".svala", "cache"] .dir)

namespace PlainFiles

variable {s s' : Files} {l : Location}

/-- Files stay plain if a file is put where one may be, or one is taken away. -/
theorem of_elsewhere (h : PlainFiles s) (hfile : s.MayHoldFile l) (hfile' : s'.MayHoldFile l)
    (helse : ∀ m, m ≠ l → s'.get? m = s.get? m) : PlainFiles s' where
  noLink m := by
    by_cases hm : m = l
    · exact hm ▸ hfile'.hasNoLink
    · intro t ht
      exact h.noLink m t ((helse m hm).symm.trans ht)
  leads := Files.find_dir_of_elsewhere hfile helse h.leads

theorem put (h : PlainFiles s) (hfile : s.MayHoldFile l) (b : ByteArray) :
    PlainFiles (s.put l (.file b)) :=
  h.of_elsewhere hfile
    (fun _ he => ⟨b, Option.some.inj (he.symm.trans (Files.get?_put_self _ _ _))⟩)
    (fun _ hm => Files.get?_put_of_ne _ _ hm)

theorem erase (h : PlainFiles s) (hdir : s.get? l ≠ some .dir) : PlainFiles (s.erase l) := by
  have hfile : s.MayHoldFile l := by
    intro e he
    cases e with
    | dir => exact absurd he hdir
    | file b => exact ⟨b, rfl⟩
    | link t => exact absurd he (h.noLink l t)
  exact h.of_elsewhere hfile
    (fun _ he => absurd ((Files.get?_erase_self _ _).symm.trans he) (by simp))
    (fun _ hm => Files.get?_erase_of_ne _ hm)

/-- The file of the compiler is written in the working directory. -/
theorem writeText_output (h : PlainFiles s) {t : Text} (hwrite : s.writeText "./out.js" t = .ok s') :
    s' = s.put ["out.js"] (.file (Text.encode t)) ∧ s.MayHoldFile ["out.js"] := by
  have hdir : s.find .read "." = .ok (.entry [] .dir) := rfl
  have hname : Files.IsFileName "out.js" := by decide
  exact Files.writeText_join_eq_ok hdir hname (by decide) (h.noLink _) hwrite

/-- Where an entry is read. -/
theorem find_entry (h : PlainFiles s) {c : ScriptCache} (hc : c.dir = ".svala/cache")
    (source : Text) : s.find .read (c.entryPath (c.key source))
      = .ok (s.placeAt [".svala", "cache"] (c.fileName source)) := by
  have hname := c.isFileName_fileName source
  have hne : c.dir ≠ [] := by
    rw [hc]
    decide
  have hfits : Text.byteSize (Path.join c.dir (c.fileName source)) < Files.pathLimit := by
    have hdir : Text.byteSize c.dir = 12 := by
      rw [hc]
      rfl
    have hshort : Text.byteSize (c.fileName source) ≤ 255 := hname.short
    have hslash : Char.utf8Size '/' = 1 := rfl
    have hlimit : Files.pathLimit = 4096 := rfl
    rcases Files.join_cases hne hname.toIsName with ⟨p, hp, hjoin⟩ | hjoin
    · rw [hp, Text.byteSize_append] at hdir
      rw [hjoin, Text.byteSize_append, Text.byteSize_cons]
      omega
    · rw [hjoin, Text.byteSize_append, Text.byteSize_cons]
      omega
  exact Files.find_join (hc ▸ h.leads) hname hfits (h.noLink _)

/-- The compiler leaves plain files, in which every entry is read as before. -/
theorem compile {u : World} (h : PlainFiles u.files) (source : Text) {c : ScriptCache}
    (hc : c.dir = ".svala/cache") :
    PlainFiles ((scribeCompiler source).runIn u).2.files
      ∧ ∀ s, ((scribeCompiler source).runIn u).2.files.readText (c.entryPath (c.key s))
        = u.files.readText (c.entryPath (c.key s)) := by
  rw [runIn_scribeCompiler]
  cases hwrite : u.files.writeText "./out.js" source with
  | error e => exact ⟨h, fun _ => rfl⟩
  | ok s' =>
    obtain ⟨rfl, hfile⟩ := h.writeText_output hwrite
    have hplain := h.put hfile (Text.encode source)
    refine ⟨hplain, fun s => ?_⟩
    have hne : [".svala".toList, "cache".toList] ++ [c.fileName s] ≠ ["out.js".toList] := by simp
    have hplace : (u.files.put ["out.js"] (.file (Text.encode source))).placeAt
        [".svala", "cache"] (c.fileName s) = u.files.placeAt [".svala", "cache"] (c.fileName s) := by
      rw [Files.placeAt, Files.placeAt, Files.get?_put_of_ne _ _ hne]
    show Files.readText _ _ = _
    rw [Files.readText, Files.readText, Files.readBytes, Files.readBytes, Files.entryAt,
      Files.entryAt, Except.toOption, Option.getD_some, hplain.find_entry hc, h.find_entry hc, hplace]

/-- Wherever the preprocessor comes, the files are plain. -/
theorem of_encounters {p : Preprocessor} (hp : p.compiler = scribeCompiler) {c : ScriptCache}
    (hcache : p.cache = some c) (hc : c.dir = ".svala/cache") {contents : List Text}
    (hstart : PlainFiles s) (h : p.Encounters contents s s') : PlainFiles s' := by
  induction h with
  | start => exact hstart
  | @lookUp u content _ _ ih =>
    rw [Preprocessor.lookUp, hcache]
    rcases c.runIn_get? content u with ⟨t, e, -, -, hrun⟩ | ⟨-, hsame | hremoved⟩
    · rw [hrun]
      exact ih
    · rw [hsame]
      exact ih
    · obtain ⟨l, heq, hdir⟩ := Files.exists_notDir_of_removeFile hremoved
      rw [heq]
      exact ih.erase hdir
  | @compile u content _ _ ih =>
    rw [hp]
    exact (ih.compile content hc).1
  | @store u content _ r _ ih =>
    rw [Preprocessor.store, hcache]
    obtain ⟨a, hwritten⟩ := c.files_runIn_set content r u
    generalize (Effect.runIn (c.set content r) u).2.files = s₁ at hwritten
    cases hwritten with
    | refused _ => exact ih
    | whole _ hopened =>
      obtain ⟨l, rfl, hfile⟩ := Files.exists_mayHoldFile_of_writeBytes hopened
      exact ih.put hfile _
    | cut _ hopened =>
      obtain ⟨l, rfl, hfile⟩ := Files.exists_mayHoldFile_of_writeBytes hopened
      exact ih.put hfile _

end PlainFiles

/-- One content in two blocks and again on its own, and one that fails. -/
def echoCalls : List Call :=
  [.component "<script lang=scala>a</script>\n<p>\n<script lang=scala>a</script>" "A.svelte",
    .script "a" [("lang", "scala")], .script "!" [("lang", "scala")], .script "a" []]

/-- The bare world, on a device that has room for ten bytes of the first file. -/
def fullWorld : World := { bareWorld with faults := [some ⟨10, .noSpace⟩] }

/-- Calls that find their contents in the cache are answered as without it, though the first entry
is cut short: the next lookup finds what is left of it, and removes it. -/
theorem runAll_echoCalls :
    ∃ p q, ((Preprocessor.new .builtin scribeCompiler).runIn bareWorld).1 = .ok p
      ∧ ((Preprocessor.new { Options.builtin with cache := false } scribeCompiler).runIn bareWorld).1
        = .ok q
      ∧ (Effect.runIn (Call.runAll p echoCalls) fullWorld).1
        = (Effect.runIn (Call.runAll q echoCalls) bareWorld).1
      ∧ ∃ path e, (Effect.runIn (Call.runAll p echoCalls) fullWorld).2.warnings
        = [.cacheNotWritten path .noSpace, .corruptEntry path e] := by
  have hp := Preprocessor.runIn_new .builtin scribeCompiler bareWorld
  have hq := Preprocessor.runIn_new { Options.builtin with cache := false } scribeCompiler bareWorld
  have hrules : Preprocessor.rulesOf .builtin = .ok .builtin := Dialect.rules_builtin
  have hrules' : Preprocessor.rulesOf { Options.builtin with cache := false } = .ok .builtin := hrules
  rw [hrules] at hp
  rw [hrules'] at hq
  refine ⟨_, _, hp, hq, ?_, ?_⟩
  · refine runAll_cached_eq_runAll_uncached (f := echo) rfl hp hq ?_ echoCalls ?_ fullWorld bareWorld
      (fun s t => readText_bareWorld _ t) ?_
    · intro source u
      rw [runIn_scribeCompiler]
    · -- two contents occur, and their digests differ
      have hcontents : echoCalls.flatMap Call.contents = ["a", "a", "a", "!", "a"] := by
        decide +kernel
      have hne : Sha256.hex (Options.builtin.scriptCache.message "a")
          ≠ Sha256.hex (Options.builtin.scriptCache.message "!") := by
        decide +kernel
      have htwo : ∀ s ∈ echoCalls.flatMap Call.contents, s = "a".toList ∨ s = "!".toList := by
        rw [hcontents]
        decide
      intro s hs s' hs' hsame
      rcases htwo s hs with rfl | rfl <;> rcases htwo s' hs' with rfl | rfl
      · rfl
      · exact absurd hsame hne
      · exact absurd hsame.symm hne
      · rfl
    · -- the files stay plain, and so the compiler writes no entry
      have hplain : PlainFiles fullWorld.files :=
        ⟨fun l t hlink => absurd (get?_bareWorld hlink) (by simp), by decide⟩
      intro source _ u hu s t hread
      have hmet := hplain.of_encounters rfl rfl rfl hu
      rwa [(hmet.compile source rfl).2 s] at hread
  · refine ⟨Options.builtin.scriptCache.entryPath (Options.builtin.scriptCache.key "a"),
      ⟨.eofString, some (1, 10)⟩, ?_⟩
    decide +kernel

end ScriptWeave
