/-
  ScriptWeave.Proofs.Build.FailedBlocks
  ─────────────────────────────────────
  **A BLOCK THAT FAILS LEAVES NOTHING IN THE CACHE.**

  A lookup can take one thing away, the file of the source if it is no entry.
  Then the source is compiled and its adapted script checked, and only what
  passes is stored:

      look up    may remove a malformed entry
      compile    changes whatever files the compiler changes
      check      changes no files
      store      puts the entry at one location, or the beginning of it

  So a block that fails has stored nothing.  Of a component that fails, those
  blocks are stored that come before the failure and that the cache did not
  have; a location that none of them is written to is as it was, or has lost
  a malformed entry.  An entry that is written stays: no lookup that comes
  later takes a well-formed entry for a malformed one.  Where a write breaks
  off, the beginning of an entry is left, or a later lookup has removed it.

  Locations are single places in the store, and paths may lead to them
  through links.  What a compiler does to a location matters only in the
  worlds in which it is called.
-/
import ScriptWeave.Proofs.Build.CacheMap
import ScriptWeave.Proofs.Build.Components
import ScriptWeave.Proofs.Build.Directories
import ScriptWeave.Proofs.Files.Walks

namespace ScriptWeave

/-! ## §1. What a lookup takes away. -/

namespace ScriptCache

variable {c c' : ScriptCache} {source source' : Text} {sources sources' : List Text}
  {s s' s'' : Files} {l : Location} {w : World} {r : Adapted}

/-- Whether the file of a source is no entry, and stands at a location from which it can be
removed. -/
def Malformed (c : ScriptCache) (source : Text) (s : Files) (l : Location) : Prop :=
  ∃ t e, s.readText (c.entryPath (c.key source)) = .ok t ∧ CacheEntry.decoder.decode t = .error e
    ∧ s.removeFile (c.entryPath (c.key source)) = .ok (s.erase l)

/-- The text of the entry of a source. -/
def entryText (c : ScriptCache) (source : Text) (r : Adapted) : Text :=
  (CacheEntry.toJson ⟨c.key source, r⟩).text

/-- An entry is not malformed, whichever source it is for and in whichever cache. -/
theorem Malformed.get?_ne_entry (h : c.Malformed source s l) :
    s.get? l ≠ some (.file (Text.encode (c'.entryText source' r))) := by
  obtain ⟨t, e, hread, hdecode, hremove⟩ := h
  intro hget
  have htext := Files.decode?_of_removeFile hget hremove hread
  rw [Text.decode?_encode] at htext
  obtain rfl := Option.some.inj htext
  rw [entryText, CacheEntry.decode_toJson] at hdecode
  exact absurd hdecode (by simp)

/-- A lookup leaves a location as it was, or takes a malformed entry away. -/
theorem get?_runIn_get? (c : ScriptCache) (source : Text) (w : World) (l : Location) :
    (Effect.runIn (c.get? source) w).2.files.get? l = w.files.get? l
      ∨ ((Effect.runIn (c.get? source) w).2.files.get? l = none
        ∧ c.Malformed source w.files l) := by
  rw [runIn_get?_eq]
  cases hread : w.files.readText (c.entryPath (c.key source)) with
  | error _ => exact Or.inl rfl
  | ok t =>
    dsimp only
    cases hdecode : CacheEntry.decoder.decode t with
    | ok e => exact Or.inl rfl
    | error e =>
      dsimp only
      rw [Effect.runIn_change]
      dsimp only
      cases hremove : w.files.removeFile (c.entryPath (c.key source)) with
      | error _ => exact Or.inl rfl
      | ok s =>
        obtain ⟨m, rfl⟩ := Files.removeFile_eq_ok hremove
        by_cases hl : l = m
        · subst hl
          exact Or.inr ⟨Files.get?_erase_self _ _, t, e, hread, hdecode, hremove⟩
        · exact Or.inl (Files.get?_erase_of_ne _ hl)

/-- A lookup that finds an entry changes nothing. -/
theorem runIn_get?_of_found (h : (Effect.runIn (c.get? source) w).1 = some r) :
    (Effect.runIn (c.get? source) w).2 = w := by
  rcases c.runIn_get? source w with ⟨t, e, -, -, hrun⟩ | ⟨hnone, -⟩
  · rw [hrun]
  · exact absurd (hnone.symm.trans h) (by simp)

/-- Whether a location is as it was, or has lost a malformed entry of one of some sources. -/
def Kept (c : ScriptCache) (sources : List Text) (s s' : Files) (l : Location) : Prop :=
  s'.get? l = s.get? l
    ∨ (s'.get? l = none
      ∧ ∃ source ∈ sources, ∃ v : Files, v.get? l = s.get? l ∧ c.Malformed source v l)

namespace Kept

theorem of_eq (h : s'.get? l = s.get? l) : c.Kept sources s s' l := Or.inl h

/-- A lookup keeps a location in this sense. -/
theorem runIn_get? (c : ScriptCache) (source : Text) (w : World) (l : Location) :
    c.Kept [source] w.files (Effect.runIn (c.get? source) w).2.files l :=
  (c.get?_runIn_get? source w l).imp_right
    (fun ⟨hnone, hbad⟩ => ⟨hnone, source, List.mem_singleton.mpr rfl, w.files, rfl, hbad⟩)

theorem mono (h : c.Kept sources s s' l) (hsub : sources ⊆ sources') : c.Kept sources' s s' l :=
  h.imp_right (fun ⟨hnone, source, hin, hbad⟩ => ⟨hnone, source, hsub hin, hbad⟩)

/-- A location that is lost stays lost. -/
theorem trans (h : c.Kept sources s s' l) (h' : c.Kept sources' s' s'' l) :
    c.Kept (sources ++ sources') s s'' l := by
  rcases h with hsame | hlost
  · rcases h' with hsame' | ⟨hnone', source, hin, v, hv, hbad⟩
    · exact Or.inl (hsame'.trans hsame)
    · exact Or.inr ⟨hnone', source, List.mem_append_right _ hin, v, hv.trans hsame, hbad⟩
  · have hgone : s''.get? l = none := by
      rcases h' with hsame' | ⟨hnone', -⟩
      · exact hsame'.trans hlost.1
      · exact hnone'
    obtain ⟨-, source, hin, hbad⟩ := hlost
    exact Or.inr ⟨hgone, source, List.mem_append_left _ hin, hbad⟩

theorem trans_eq (h : c.Kept sources s s' l) (hsame : s''.get? l = s'.get? l) :
    c.Kept sources s s'' l := by
  rw [Kept, hsame]
  exact h

/-- A well-formed entry is not lost. -/
theorem get?_of_entry (h : c.Kept sources s s' l)
    (hentry : s.get? l = some (.file (Text.encode (c'.entryText source' r)))) :
    s'.get? l = s.get? l := by
  rcases h with hsame | ⟨-, source, -, v, hv, hbad⟩
  · exact hsame
  · exact absurd (hv.trans hentry) hbad.get?_ne_entry

end Kept

end ScriptCache

/-! ## §2. What is stored. -/

/-- A script that was made for a source and stored. -/
structure CacheStore where
  /-- The source. -/
  content : Text
  /-- The world that the lookup left, in which the source is compiled. -/
  start : World
  /-- The adapted script. -/
  script : Adapted
  /-- The world in which it is stored. -/
  stop : World

namespace CacheStore

variable {x : CacheStore} {c : ScriptCache} {l : Location}

/-- What is written. -/
def entry (x : CacheStore) (c : ScriptCache) : Entry :=
  .file (Text.encode (c.entryText x.content x.script))

/-- Whether it can be written, and nothing is wrong with the write. -/
def Succeeds (x : CacheStore) (c : ScriptCache) : Prop :=
  x.stop.fault? (c.entryText x.content x.script) = none
    ∧ ∃ s, x.stop.files.writeText (c.entryPath (c.key x.content)) (c.entryText x.content x.script)
      = .ok s

/-- Whether it is written to a location. -/
def WrittenTo (x : CacheStore) (c : ScriptCache) (l : Location) : Prop :=
  x.stop.fault? (c.entryText x.content x.script) = none
    ∧ x.stop.files.writeText (c.entryPath (c.key x.content)) (c.entryText x.content x.script)
      = .ok (x.stop.files.put l (x.entry c))

/-- Whether some bytes of it are written to a location before the write breaks off. -/
def CutTo (x : CacheStore) (c : ScriptCache) (l : Location) (b : ByteArray) : Prop :=
  ∃ fault, x.stop.fault? (c.entryText x.content x.script) = some fault
    ∧ fault.taken (c.entryText x.content x.script) = b
    ∧ x.stop.files.writeBytes (c.entryPath (c.key x.content)) b
      = .ok (x.stop.files.put l (.file b))

theorem Succeeds.exists_writtenTo (h : x.Succeeds c) : ∃ l, x.WrittenTo c l := by
  obtain ⟨hfault, s, hwrite⟩ := h
  obtain ⟨l, rfl⟩ := Files.writeBytes_eq_ok hwrite
  exact ⟨l, hfault, hwrite⟩

/-- A write with which nothing is wrong does not break off. -/
theorem not_cutTo_of_faultless (h : x.stop.Faultless) (b : ByteArray) : ¬x.CutTo c l b := by
  rintro ⟨fault, hfault, -⟩
  exact absurd ((h.fault?_eq_none _).symm.trans hfault) (by simp)

theorem put_location_eq {s : Files} {l m : Location} {e : Entry} (h : s.put l e = s.put m e) :
    l = m := (Prod.mk.inj (List.cons.inj (Files.mk.inj h)).1).1

/-- In a directory it is written to the file of the source. -/
theorem Succeeds.writtenTo_of_dir (h : x.Succeeds c) {d : Location}
    (hdir : x.stop.files.find .read c.dir = .ok (.entry d .dir))
    (hfile : x.stop.files.MayHoldFile (d ++ [c.fileName x.content])) :
    x.WrittenTo c (d ++ [c.fileName x.content]) := by
  obtain ⟨hfault, s, hwrite⟩ := h
  have hfits := Files.byteSize_lt_of_writeText hwrite
  exact ⟨hfault, Files.writeText_join hdir (c.isFileName_fileName x.content) hfits hfile _⟩

/-- **Storing a script puts its entry where it is written,** or the beginning of it where the write
breaks off, and leaves all other locations. -/
theorem get?_runIn_set (x : CacheStore) (c : ScriptCache) (l : Location) :
    let s := (Effect.runIn (c.set x.content x.script) x.stop).2.files
    (x.WrittenTo c l ∧ s.get? l = some (x.entry c))
      ∨ (∃ b, x.CutTo c l b ∧ s.get? l = some (.file b))
      ∨ (¬x.WrittenTo c l ∧ (∀ b, ¬x.CutTo c l b) ∧ s.get? l = x.stop.files.get? l) := by
  obtain ⟨a, hwritten⟩ := c.files_runIn_set x.content x.script x.stop
  dsimp only
  generalize (Effect.runIn (c.set x.content x.script) x.stop).2.files = s at hwritten
  cases hwritten with
  | whole hfault hopened =>
    obtain ⟨m, rfl⟩ := Files.writeBytes_eq_ok hopened
    by_cases hl : l = m
    · subst hl
      exact Or.inl ⟨⟨hfault, hopened⟩, Files.get?_put_self _ _ _⟩
    · refine Or.inr (Or.inr ⟨fun h => hl ?_, ?_, Files.get?_put_of_ne _ _ hl⟩)
      · exact put_location_eq (Except.ok.inj (h.2.symm.trans hopened))
      · rintro b ⟨fault, hcut, -⟩
        exact absurd (hfault.symm.trans hcut) (by simp)
  | refused hclosed =>
    refine Or.inr (Or.inr ⟨fun h => ?_, ?_, rfl⟩)
    · exact absurd (hclosed.symm.trans h.2) (by simp)
    · rintro b ⟨fault, -, -, hopened⟩
      exact absurd ((Files.writeBytes_eq_error hclosed b).symm.trans hopened) (by simp)
  | cut hfault hopened =>
    obtain ⟨m, rfl⟩ := Files.writeBytes_eq_ok hopened
    by_cases hl : l = m
    · subst hl
      exact Or.inr (Or.inl ⟨_, ⟨_, hfault, rfl, hopened⟩, Files.get?_put_self _ _ _⟩)
    · refine Or.inr (Or.inr ⟨fun h => ?_, ?_, Files.get?_put_of_ne _ _ hl⟩)
      · exact absurd (hfault.symm.trans h.1) (by simp)
      · rintro b ⟨fault, hcut, rfl, hopened'⟩
        obtain rfl := Option.some.inj (hfault.symm.trans hcut)
        exact hl (put_location_eq (Except.ok.inj (hopened'.symm.trans hopened)))

end CacheStore

/-! ## §3. One block. -/

namespace Preprocessor

variable {p : Preprocessor} {content file : Text} {w w' : World} {l : Location} {e : Failure}

/-- Whether the compiler, as it is called for a source in a world, leaves a location as it was. -/
def Spares (p : Preprocessor) (content : Text) (w : World) (l : Location) : Prop :=
  ((p.compiler content).runIn { w with compilations := w.compilations + 1 }).2.files.get? l
    = w.files.get? l

/-- What is made of a source changes no files but those that the compiler changes. -/
theorem files_runIn_produce (p : Preprocessor) (content file : Text) (w : World) :
    ((p.produce content file).runIn w).2.files
      = ((p.compiler content).runIn { w with compilations := w.compilations + 1 }).2.files := by
  unfold produce
  rw [Action.runIn_bind, Action.runIn_modify]
  dsimp only
  rw [Action.runIn_bind]
  rcases (p.compiler content).runIn { w with compilations := w.compilations + 1 } with ⟨r, w₁⟩
  cases r with
  | error e => rfl
  | ok artifacts =>
    -- warnings and the check keep the files
    have hrest : Keeps (fun u => u.files = w₁.files) (do
        World.warnAll ((adaptNotes p.rules artifacts.js).map Warning.exports)
        let r := adapt p.rules p.options.renameOrder artifacts.js artifacts.map
        p.check r.code file
        return r) := by
      refine Keeps.bind (.lift (fun u hu => ⟨trivial, hu⟩)) (fun _ => ?_)
      have hcheck := @meets_check p (· = w₁.files)
        (adapt p.rules p.options.renameOrder artifacts.js artifacts.map).code file
      exact Keeps.bind (hcheck.weaken (fun _ _ => trivial)) (fun _ => .pure)
    exact (hrest w₁ rfl).2

/-- **A source is processed in one of three ways**: it is found, it fails, or it is stored. -/
theorem runIn_process (p : Preprocessor) (content file : Text) (w : World) :
    (∃ r w₁, Effect.runIn (p.lookUp content) w = (some r, w₁)
        ∧ (p.process content file).runIn w = (.ok ⟨r, true⟩, w₁))
      ∨ ∃ w₁, Effect.runIn (p.lookUp content) w = (none, w₁)
        ∧ ((∃ e w₂, (p.produce content file).runIn w₁ = (.error e, w₂)
            ∧ (p.process content file).runIn w = (.error e, w₂))
          ∨ ∃ r w₂, (p.produce content file).runIn w₁ = (.ok r, w₂)
            ∧ (p.process content file).runIn w
              = (.ok ⟨r, false⟩, (Effect.runIn (p.store content r) w₂).2)) := by
  unfold process
  rw [Action.runIn_bind, Action.runIn_lift]
  rcases Effect.runIn (p.lookUp content) w with ⟨found, w₁⟩
  cases found with
  | some r => exact Or.inl ⟨r, w₁, rfl, rfl⟩
  | none =>
    refine Or.inr ⟨w₁, rfl, ?_⟩
    dsimp only
    rcases hmade : (p.produce content file).runIn w₁ with ⟨r, w₂⟩
    cases r with
    | error e => exact Or.inl ⟨e, w₂, rfl, Action.runIn_bind_error hmade⟩
    | ok r =>
      refine Or.inr ⟨r, w₂, rfl, ?_⟩
      rw [Action.runIn_bind_ok hmade]
      rfl

/-- A source fails when it is not found and cannot be made. -/
theorem produce_of_process_error (h : (p.process content file).runIn w = (.error e, w')) :
    ∃ w₁, Effect.runIn (p.lookUp content) w = (none, w₁)
      ∧ (p.produce content file).runIn w₁ = (.error e, w') := by
  rcases p.runIn_process content file w with
    ⟨r, w₁, -, hrun⟩ | ⟨w₁, hlookUp, ⟨e', w₂, hmade, hrun⟩ | ⟨r, w₂, -, hrun⟩⟩
  · exact absurd (hrun.symm.trans h) (by simp)
  · obtain ⟨he, rfl⟩ := Prod.mk.inj (hrun.symm.trans h)
    obtain rfl := Except.error.inj he
    exact ⟨w₁, hlookUp, hmade⟩
  · exact absurd (hrun.symm.trans h) (by simp)

/-- Making a script of a source leaves a location as it was, if the compiler does. -/
theorem get?_of_produce {r : Except Failure Adapted}
    (h : (p.produce content file).runIn w = (r, w')) (hspares : p.Spares content w l) :
    w'.files.get? l = w.files.get? l := by
  have hfiles := p.files_runIn_produce content file w
  rw [h] at hfiles
  rw [hfiles]
  exact hspares

theorem lookUp_of_cache {c : ScriptCache} (hcache : p.cache = some c) (content : Text) :
    p.lookUp content = c.get? content := by
  rw [lookUp, hcache]

theorem store_of_cache {c : ScriptCache} (hcache : p.cache = some c) (content : Text)
    (r : Adapted) : p.store content r = c.set content r := by
  rw [store, hcache]

/-- A lookup leaves a location as it was, or takes a malformed entry away, if there is a cache. -/
theorem get?_runIn_lookUp (p : Preprocessor) (content : Text) (w : World) (l : Location) :
    (Effect.runIn (p.lookUp content) w).2.files.get? l = w.files.get? l
      ∨ ((Effect.runIn (p.lookUp content) w).2.files.get? l = none
        ∧ ∃ c, p.cache = some c ∧ c.Malformed content w.files l) := by
  cases hcache : p.cache with
  | none =>
    rw [lookUp, hcache]
    exact Or.inl rfl
  | some c =>
    rw [lookUp_of_cache hcache]
    rcases c.get?_runIn_get? content w l with hsame | ⟨hnone, hbad⟩
    · exact Or.inl hsame
    · exact Or.inr ⟨hnone, c, rfl, hbad⟩

/-- A source that fails leaves a location as it was, or its malformed entry is gone. -/
theorem get?_of_process_error (h : (p.process content file).runIn w = (.error e, w'))
    (hspares : p.Spares content (Effect.runIn (p.lookUp content) w).2 l) :
    w'.files.get? l = w.files.get? l
      ∨ (w'.files.get? l = none ∧ ∃ c, p.cache = some c ∧ c.Malformed content w.files l) := by
  obtain ⟨w₁, hlookUp, hmade⟩ := produce_of_process_error h
  have hlook := p.get?_runIn_lookUp content w l
  rw [hlookUp] at hlook hspares
  rw [get?_of_produce hmade hspares]
  exact hlook

/-- A script fails as its content does. -/
theorem runIn_process_of_script_error {attributes : Attributes}
    (h : (p.script content attributes).runIn w = (.error e, w')) :
    (p.process content "<script>").runIn w = (.error e, w') := by
  unfold script processBlock at h
  split at h
  next =>
    rw [Action.runIn_map] at h
    rcases hrun : (p.process content "<script>").runIn w with ⟨r, w₁⟩
    rw [hrun] at h
    obtain ⟨hr, rfl⟩ := Prod.mk.inj h
    cases r with
    | error e' =>
      obtain rfl := Except.error.inj hr
      rfl
    | ok r => exact absurd hr (by simp [Except.map])
  next => exact absurd h (by simp)

end Preprocessor

/-! ## §4. The blocks before a failure. -/

/-- Blocks go well one after the other, from one world to another; those of the language are
found in the cache, or they are stored. -/
inductive BlocksStored (p : Preprocessor) (c : ScriptCache) (file : Text) :
    List ScriptBlock → World → List CacheStore → World → Prop where
  /-- No block is left. -/
  | done (w : World) : BlocksStored p c file [] w [] w
  /-- A block in another language is passed. -/
  | skip {b : ScriptBlock} {bs : List ScriptBlock} {w w' : World} {xs : List CacheStore}
      (lang : b.isLang p.options.lang = false) (rest : BlocksStored p c file bs w xs w') :
      BlocksStored p c file (b :: bs) w xs w'
  /-- A block is found in the cache. -/
  | found {b : ScriptBlock} {bs : List ScriptBlock} {w w' : World} {xs : List CacheStore}
      {r : Adapted} (lang : b.isLang p.options.lang = true)
      (lookup : Effect.runIn (c.get? b.content) w = (some r, w))
      (rest : BlocksStored p c file bs w xs w') : BlocksStored p c file (b :: bs) w xs w'
  /-- A block is not found, and is stored. -/
  | missed {b : ScriptBlock} {bs : List ScriptBlock} {w w₁ w₂ w' : World} {xs : List CacheStore}
      {r : Adapted} (lang : b.isLang p.options.lang = true)
      (lookup : Effect.runIn (c.get? b.content) w = (none, w₁))
      (made : (p.produce b.content file).runIn w₁ = (.ok r, w₂))
      (rest : BlocksStored p c file bs (Effect.runIn (c.set b.content r) w₂).2 xs w') :
      BlocksStored p c file (b :: bs) w (⟨b.content, w₁, r, w₂⟩ :: xs) w'

/-- The contents of the blocks of a language. -/
def contentsIn (lang : Text) (bs : List ScriptBlock) : List Text :=
  (bs.filter (fun b => b.isLang lang)).map (·.content)

theorem contentsIn_cons_of_lang {lang : Text} {b : ScriptBlock} (h : b.isLang lang = true)
    (bs : List ScriptBlock) : contentsIn lang (b :: bs) = b.content :: contentsIn lang bs := by
  simp [contentsIn, h]

theorem contentsIn_cons_of_other {lang : Text} {b : ScriptBlock} (h : b.isLang lang = false)
    (bs : List ScriptBlock) : contentsIn lang (b :: bs) = contentsIn lang bs := by
  simp [contentsIn, h]

variable {p : Preprocessor} {c : ScriptCache} {file : Text} {b : ScriptBlock}
  {bs : List ScriptBlock} {w w₁ w' : World} {xs : List CacheStore} {l : Location} {e : Failure}

/-- A block that goes well in front of others is found or stored. -/
theorem BlocksStored.cons {r : Processed} (hcache : p.cache = some c)
    (hlang : b.isLang p.options.lang = true)
    (hhere : (p.process b.content file).runIn w = (.ok r, w₁))
    (hrest : BlocksStored p c file bs w₁ xs w') :
    ∃ ys, BlocksStored p c file (b :: bs) w ys w' := by
  rcases p.runIn_process b.content file w with
    ⟨r', w₂, hlookUp, hrun⟩ | ⟨w₂, hlookUp, ⟨e, w₃, -, hrun⟩ | ⟨r', w₃, hmade, hrun⟩⟩
  · rw [Preprocessor.lookUp_of_cache hcache] at hlookUp
    obtain ⟨-, rfl⟩ := Prod.mk.inj (hrun.symm.trans hhere)
    have hsame := ScriptCache.runIn_get?_of_found (congrArg Prod.fst hlookUp)
    rw [hlookUp] at hsame
    obtain rfl := hsame
    exact ⟨xs, .found hlang hlookUp hrest⟩
  · exact absurd (hrun.symm.trans hhere) (by simp)
  · rw [Preprocessor.lookUp_of_cache hcache] at hlookUp
    rw [Preprocessor.store_of_cache hcache] at hrun
    obtain ⟨-, rfl⟩ := Prod.mk.inj (hrun.symm.trans hhere)
    exact ⟨_, .missed hlang hlookUp hmade hrest⟩

/-- **Before the first block that fails, blocks are found or stored.** -/
theorem BlocksFail.exists_blocksStored (hcache : p.cache = some c)
    (h : BlocksFail p file bs w e w') :
    ∃ before b behind xs u, bs = before ++ b :: behind ∧ b.isLang p.options.lang = true
      ∧ BlocksStored p c file before w xs u
      ∧ (p.process b.content file).runIn u = (.error e, w') := by
  induction h with
  | @here b bs w w' e hlang hhere => exact ⟨[], b, bs, [], w, rfl, hlang, .done w, hhere⟩
  | @skip b' bs w w' e hlang _ ih =>
    obtain ⟨before, b, behind, xs, u, rfl, hb, hstored, hfails⟩ := ih
    exact ⟨b' :: before, b, behind, xs, u, rfl, hb, .skip hlang hstored, hfails⟩
  | @later b' bs w w₁ w' e r hlang hhere _ ih =>
    obtain ⟨before, b, behind, xs, u, rfl, hb, hstored, hfails⟩ := ih
    obtain ⟨ys, hstored'⟩ := hstored.cons hcache hlang hhere
    exact ⟨b' :: before, b, behind, ys, u, rfl, hb, hstored', hfails⟩

/-- What becomes of a location while some scripts are stored: it holds the entry of one that is
written to it; or the beginning of one, where the write broke off, or no longer that; or none is
written to it and it is kept. -/
def StoredOrKept (c : ScriptCache) (xs : List CacheStore) (sources : List Text) (s s' : Files)
    (l : Location) : Prop :=
  (∃ x ∈ xs, x.WrittenTo c l ∧ s'.get? l = some (x.entry c))
    ∨ (∃ x ∈ xs, ∃ b, x.CutTo c l b ∧ (s'.get? l = some (.file b) ∨ s'.get? l = none))
    ∨ ((∀ x ∈ xs, ¬x.WrittenTo c l ∧ ∀ b, ¬x.CutTo c l b) ∧ c.Kept sources s s' l)

/-- What blocks before a failure make of a location. -/
theorem BlocksStored.storedOrKept (h : BlocksStored p c file bs w xs w')
    (hspares : ∀ x ∈ xs, p.Spares x.content x.start l) :
    StoredOrKept c xs (contentsIn p.options.lang bs) w.files w'.files l := by
  induction h with
  | done => exact Or.inr (Or.inr ⟨by simp, .of_eq rfl⟩)
  | @skip b bs w w' xs hlang _ ih =>
    rw [contentsIn_cons_of_other hlang]
    exact ih hspares
  | @found b bs w w' xs r hlang _ _ ih =>
    refine (ih hspares).imp_right (Or.imp_right (And.imp_right (fun hkept => hkept.mono ?_)))
    rw [contentsIn_cons_of_lang hlang]
    exact List.subset_cons_self _ _
  | @missed b bs w w₁ w₂ w' xs r hlang hlookUp hmade _ ih =>
    obtain ⟨hhead, htail⟩ := List.forall_mem_cons.mp hspares
    rcases ih htail with ⟨x, hx, hwritten⟩ | ⟨x, hx, hcut⟩ | ⟨hnone, hkept⟩
    · exact Or.inl ⟨x, List.mem_cons_of_mem _ hx, hwritten⟩
    · exact Or.inr (Or.inl ⟨x, List.mem_cons_of_mem _ hx, hcut⟩)
    -- no later script is written to the location; this one is, or is not either
    rcases CacheStore.get?_runIn_set ⟨b.content, w₁, r, w₂⟩ c l with
      ⟨hwritten, hentry⟩ | ⟨bytes, hcut, hentry⟩ | ⟨hother, hother', hsame⟩
    · exact Or.inl ⟨_, List.mem_cons_self, hwritten, (hkept.get?_of_entry hentry).trans hentry⟩
    · refine Or.inr (Or.inl ⟨_, List.mem_cons_self, bytes, hcut, ?_⟩)
      exact hkept.imp (fun hsame => hsame.trans hentry) And.left
    · refine Or.inr (Or.inr ⟨List.forall_mem_cons.mpr ⟨⟨hother, hother'⟩, hnone⟩, ?_⟩)
      have hlook := ScriptCache.Kept.runIn_get? c b.content w l
      rw [hlookUp] at hlook
      have hstored := hsame.trans (Preprocessor.get?_of_produce hmade hhead)
      rw [contentsIn_cons_of_lang hlang]
      exact (hlook.trans_eq hstored).trans hkept

/-- Making a script of a source leaves writes as they are, if the compiler does. -/
theorem Preprocessor.keeps_faultless_produce (hcompiler : ∀ content, Keeps World.Faultless (p.compiler content))
    (content file : Text) : Keeps World.Faultless (p.produce content file) := by
  unfold produce
  refine Keeps.bind (fun _ hu => ⟨trivial, hu⟩) (fun _ => ?_)
  refine Keeps.bind (hcompiler content) (fun artifacts => ?_)
  refine Keeps.bind (.lift (fun _ hu => ⟨trivial, hu⟩)) (fun _ => ?_)
  refine Keeps.bind ?_ (fun _ => .pure)
  unfold check
  split
  next => exact .pure
  next =>
    dsimp only
    split
    next => exact .pure
    next =>
      split
      next => exact .throw trivial
      next => exact .lift (fun _ hu => ⟨trivial, hu⟩)

/-- Where nothing is wrong with writes to come, no store breaks off. -/
theorem BlocksStored.faultless (h : BlocksStored p c file bs w xs w')
    (hcompiler : ∀ content, Keeps World.Faultless (p.compiler content)) (hw : w.Faultless) :
    ∀ x ∈ xs, x.stop.Faultless := by
  induction h with
  | done => exact fun x hx => absurd hx List.not_mem_nil
  | skip _ _ ih => exact ih hw
  | found _ _ _ ih => exact ih hw
  | @missed b bs w w₁ w₂ w' xs r _ hlookUp hmade _ ih =>
    have hlooked : w₁.Faultless := by
      have hfaults := c.faults_runIn_get? b.content w
      rw [hlookUp] at hfaults
      exact fun x hx => hw x (hfaults ▸ hx)
    have hstop : w₂.Faultless := by
      have hkept := (p.keeps_faultless_produce hcompiler b.content file w₁ hlooked).2
      rwa [hmade] at hkept
    exact List.forall_mem_cons.mpr
      ⟨hstop, ih (hstop.of_tail (c.faults_runIn_set b.content r w₂))⟩

/-- What a lookup and a failure behind the blocks make of it. -/
theorem StoredOrKept.trans_kept {sources sources' : List Text} {s s' s'' : Files}
    (h : StoredOrKept c xs sources s s' l) (hkept : c.Kept sources' s' s'' l) :
    StoredOrKept c xs (sources ++ sources') s s'' l := by
  rcases h with ⟨x, hx, hwritten, hentry⟩ | ⟨x, hx, b, hcut, hleft⟩ | ⟨hnone, hbefore⟩
  · exact Or.inl ⟨x, hx, hwritten, (hkept.get?_of_entry hentry).trans hentry⟩
  · refine Or.inr (Or.inl ⟨x, hx, b, hcut, ?_⟩)
    rcases hkept with hsame | ⟨hlost, -⟩
    · rwa [hsame]
    · exact Or.inr hlost
  · exact Or.inr (Or.inr ⟨hnone, hbefore.trans hkept⟩)

/-! ## §5. Scripts and components. -/

/-- A component fails because one of its blocks does. -/
theorem blocksFail_of_component_error {source : Text}
    (h : (p.component source file).runIn w = (.error e, w')) :
    BlocksFail p file (findBlocks source) w e w' := by
  obtain ⟨_, _, hsource, hlaid, -⟩ := findBlocks_laidOut source
  rcases blocksRun_or_blocksFail p file (findBlocks source) w with ⟨os, u, hall⟩ | ⟨e', u, hone⟩
  · exact absurd ((hall.runIn_component hsource hlaid).symm.trans h) (by simp)
  · obtain ⟨he, rfl⟩ := Prod.mk.inj (hone.runIn_component.symm.trans h)
    obtain rfl := Except.error.inj he
    exact hone

/-- **What a failure leaves in the cache.**  Take a location that the compiler spares.  A script
that fails leaves it as it was, unless the malformed entry of the script is gone from there.  A
component fails at a block that is not found and cannot be made; before it blocks are found or
stored.  The location then holds the entry of one that is written to it.  If none is, it is as it
was, or the malformed entry of a block up to the failing one is gone from there.  If a write breaks
off there, it holds the beginning of that entry, or a lookup has removed that. -/
theorem Preprocessor.cache_of_failed (p : Preprocessor) (w : World) :
    (∀ content attributes e w', (p.script content attributes).runIn w = (.error e, w') →
      ∀ l, p.Spares content (Effect.runIn (p.lookUp content) w).2 l →
        w'.files.get? l = w.files.get? l
          ∨ (w'.files.get? l = none ∧ ∃ c, p.cache = some c ∧ c.Malformed content w.files l))
    ∧ ∀ c, p.cache = some c →
      ∀ source file e w', (p.component source file).runIn w = (.error e, w') →
        ∃ before b behind xs u u', findBlocks source = before ++ b :: behind
          ∧ b.isLang p.options.lang = true
          ∧ BlocksStored p c file before w xs u
          ∧ Effect.runIn (c.get? b.content) u = (none, u')
          ∧ (p.produce b.content file).runIn u' = (.error e, w')
          ∧ (∀ x ∈ xs, x.Succeeds c → (∃ l, x.WrittenTo c l)
            ∧ ∀ d, x.stop.files.find .read c.dir = .ok (.entry d .dir) →
              x.stop.files.MayHoldFile (d ++ [c.fileName x.content]) →
                x.WrittenTo c (d ++ [c.fileName x.content]))
          ∧ ∀ l, (∀ x ∈ xs, p.Spares x.content x.start l) → p.Spares b.content u' l →
            (∃ x ∈ xs, x.WrittenTo c l ∧ w'.files.get? l = some (x.entry c))
              ∨ (∃ x ∈ xs, ∃ b, x.CutTo c l b
                ∧ (w'.files.get? l = some (.file b) ∨ w'.files.get? l = none))
              ∨ ((∀ x ∈ xs, ¬x.WrittenTo c l ∧ ∀ b, ¬x.CutTo c l b)
                ∧ c.Kept (contentsIn p.options.lang before ++ [b.content]) w.files w'.files l) := by
  refine ⟨?_, ?_⟩
  · intro content attributes e w' h l hspares
    exact get?_of_process_error (runIn_process_of_script_error h) hspares
  · intro c hcache source file e w' h
    obtain ⟨before, b, behind, xs, u, hblocks, hlang, hstored, hfails⟩ :=
      (blocksFail_of_component_error h).exists_blocksStored hcache
    obtain ⟨u', hlookUp, hmade⟩ := produce_of_process_error hfails
    rw [lookUp_of_cache hcache] at hlookUp
    refine ⟨before, b, behind, xs, u, u', hblocks, hlang, hstored, hlookUp, hmade,
      fun x _ hx => ⟨hx.exists_writtenTo, fun d => hx.writtenTo_of_dir⟩, ?_⟩
    intro l hspares hspared
    -- what the blocks made of the location, the lookup that found nothing, and the failure
    have hlook := ScriptCache.Kept.runIn_get? c b.content u l
    rw [hlookUp] at hlook
    exact (hstored.storedOrKept hspares).trans_kept (hlook.trans_eq (get?_of_produce hmade hspared))

/-- The cache of the preprocessor that stores in the directory `cache`. -/
def unsaltedCache : ScriptCache := ⟨"cache", []⟩

/-- Where it has the entry of a source. -/
def unsaltedEntry (source : Text) : Location := ["cache", unsaltedCache.fileName source]

/-- A component whose second block fails. -/
def failingComponent : Text :=
  "<script lang=scala>a</script><script lang=scala>!</script><script lang=scala>b</script>"

/-- A world with a malformed entry for the block that fails. -/
def spoiledWorld : World where
  files := ⟨[(["cache"], .dir), (unsaltedEntry "!", .file (Text.encode "no entry"))]⟩
  processId := 1
  nextScratch := 0
  compilations := 0
  warnings := []
  faults := []

/-- The script of the failing block leaves nothing, and the component leaves the entry of its
first block. -/
theorem cache_of_failingComponent :
    (∃ w', (cachingPreprocessor.script "!" [("lang", "scala")]).runIn spoiledWorld
        = (.error (.missingArtifact "out.js"), w')
      ∧ ∀ l, w'.files.get? l = spoiledWorld.files.get? l ∨ w'.files.get? l = none)
    ∧ ∃ w', (cachingPreprocessor.component failingComponent "A.svelte").runIn spoiledWorld
        = (.error (.missingArtifact "out.js"), w')
      ∧ ∃ x : CacheStore, x.WrittenTo unsaltedCache (unsaltedEntry "a")
        ∧ w'.files.get? (unsaltedEntry "a") = some (x.entry unsaltedCache) := by
  obtain ⟨hscript, hcomponent⟩ := cachingPreprocessor.cache_of_failed spoiledWorld
  have hspares : ∀ content u l, cachingPreprocessor.Spares content u l := by
    intro content u l
    have hrun : (cachingPreprocessor.compiler content).runIn
        { u with compilations := u.compilations + 1 } = _ := runIn_echoCompiler content _
    rw [Preprocessor.Spares, hrun]
  refine ⟨?_, ?_⟩
  · have hfails : ((cachingPreprocessor.script "!" [("lang", "scala")]).runIn spoiledWorld).1
        = .error (.missingArtifact "out.js") := by
      decide +kernel
    rcases hrun : (cachingPreprocessor.script "!" [("lang", "scala")]).runIn spoiledWorld
      with ⟨r, w'⟩
    rw [hrun] at hfails
    obtain rfl := hfails
    exact ⟨w', rfl, fun l => (hscript _ _ _ _ hrun l (hspares _ _ l)).imp_right And.left⟩
  · have hfails : ((cachingPreprocessor.component failingComponent "A.svelte").runIn
        spoiledWorld).1 = .error (.missingArtifact "out.js") := by
      decide +kernel
    have hbefore : spoiledWorld.files.get? (unsaltedEntry "a") = none := by decide +kernel
    have hthere : ((cachingPreprocessor.component failingComponent "A.svelte").runIn
        spoiledWorld).2.files.get? (unsaltedEntry "a") ≠ none := by
      decide +kernel
    rcases hrun : (cachingPreprocessor.component failingComponent "A.svelte").runIn spoiledWorld
      with ⟨r, w'⟩
    rw [hrun] at hfails hthere
    obtain rfl := hfails
    obtain ⟨_, b, _, xs, u, u', -, -, hblocks, -, -, -, hstored⟩ := hcomponent _ rfl _ _ _ _ hrun
    have hfaultless : spoiledWorld.Faultless := fun _ hx => absurd hx List.not_mem_nil
    have hstops := hblocks.faultless (fun content u hu => ⟨trivial, by
      rw [show cachingPreprocessor.compiler = echoCompiler from rfl, runIn_echoCompiler]
      exact hu⟩) hfaultless
    refine ⟨w', rfl, ?_⟩
    rcases hstored (unsaltedEntry "a") (fun x _ => hspares _ _ _) (hspares _ _ _) with
      ⟨x, -, hwritten, hentry⟩ | ⟨x, hx, b, hcut, -⟩ | ⟨-, hsame | ⟨hnone, -⟩⟩
    · exact ⟨x, hwritten, hentry⟩
    · exact absurd hcut (CacheStore.not_cutTo_of_faultless (hstops x hx) _)
    · exact absurd (hsame.trans hbefore) hthere
    · exact absurd hnone hthere

end ScriptWeave
