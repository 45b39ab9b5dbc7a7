/-
  ScriptWeave.Proofs.Build.CacheMap
  ─────────────────────────────────
  **A DIRECTORY OF CACHED SCRIPTS IS A MAP FROM SALTS AND SOURCES.**

  Several caches may share a directory, and paths to it may be spelt in
  several ways.  Sources are looked up and scripts are stored in any order,
  and files may be overwritten from outside with what is no entry.  The file
  of a salt and a source then is what was done to it last:

      absent  --set r-->  stored r  --overwrite t-->  spoiled t  --get-->  absent

  So a lookup hands out what was stored last for the salt and the source,
  unless it was overwritten since, and no other salt or source matters.
-/
import Mathlib.Data.List.Induction
import ScriptWeave.Proofs.Build.CacheKeys
import ScriptWeave.Proofs.Files.InDirectory

namespace ScriptWeave

/-! ## §1. The file of an entry. -/

namespace ScriptCache

variable {c c' : ScriptCache} {source source' : Text} {d : Location} {w : World} {r : Adapted}
  {t : Text} {e : Json.Error}

/-- A salt and a source have one key. -/
theorem key_eq_of_same (hsalt : c.salt = c'.salt) (hsource : source = source') :
    c.key source = c'.key source' := by
  rw [key, key, hsalt, hsource]

/-! ## §2. One operation. -/

section Operations

variable (hdir : w.files.find .read c.dir = .ok (.entry d .dir))
  (hfits : Text.byteSize (c.entryPath (c.key source)) < Files.pathLimit)

include hdir hfits

theorem runIn_get?_of_none (hget : w.files.get? (d ++ [c.fileName source]) = none) :
    Effect.runIn (c.get? source) w = (none, w) := by
  have hread := Files.readText_join_of_none hdir (c.isFileName_fileName source) hfits hget
  rw [runIn_get?_eq, entryPath, ← fileName, hread]

theorem runIn_get?_of_entry
    (hget : w.files.get? (d ++ [c.fileName source])
      = some (.file (Text.encode (CacheEntry.toJson ⟨c.key source, r⟩).text))) :
    Effect.runIn (c.get? source) w = (some r, w) := by
  have hread := Files.readText_join_of_text hdir (c.isFileName_fileName source) hfits hget
  rw [runIn_get?_eq, entryPath, ← fileName, hread]
  dsimp only
  rw [CacheEntry.decode_toJson]
  dsimp only
  rw [if_pos rfl]

theorem runIn_get?_of_malformed
    (hget : w.files.get? (d ++ [c.fileName source]) = some (.file (Text.encode t)))
    (hmalformed : CacheEntry.decoder.decode t = .error e) :
    Effect.runIn (c.get? source) w
      = (none, { w with
          files := w.files.erase (d ++ [c.fileName source])
          warnings := w.warnings ++ [.corruptEntry (c.entryPath (c.key source)) e] }) := by
  have hname := c.isFileName_fileName source
  have hread := Files.readText_join_of_text hdir hname hfits hget
  have hremove := Files.removeFile_join hdir hname hfits hget
  rw [runIn_get?_eq, entryPath, ← fileName, hread]
  dsimp only
  rw [hmalformed]
  dsimp only
  rw [Effect.runIn_change]
  dsimp only
  rw [hremove]

/-- A text is written to the file of a source. -/
theorem runIn_overwrite (hfile : w.files.MayHoldFile (d ++ [c.fileName source])) (t : Text) :
    Effect.runIn (World.change (fun s => s.writeText (c.entryPath (c.key source)) t)) w
      = (.ok (),
          { w with files := w.files.put (d ++ [c.fileName source]) (.file (Text.encode t)) }) := by
  have hwrite := Files.writeText_join hdir (c.isFileName_fileName source) hfits hfile t
  rw [Effect.runIn_change, entryPath, ← fileName, hwrite]

theorem runIn_set_of_file (hfile : w.files.MayHoldFile (d ++ [c.fileName source]))
    (hfaultless : w.Faultless) (r : Adapted) :
    Effect.runIn (c.set source r) w
      = ((), { w with
          files := w.files.put (d ++ [c.fileName source])
            (.file (Text.encode (CacheEntry.toJson ⟨c.key source, r⟩).text))
          faults := w.faults.tail }) := by
  have hwrite := Files.writeText_join hdir (c.isFileName_fileName source) hfits hfile
    (CacheEntry.toJson ⟨c.key source, r⟩).text
  rw [runIn_set_eq, Effect.runIn_write_of_noFault (hfaultless.fault?_eq_none _), entryPath,
    ← fileName, hwrite]

end Operations

end ScriptCache

/-! ## §3. The map. -/

/-- What is done to the entry of a salt and a source. -/
inductive CacheAct where
  /-- It is looked up. -/
  | get
  /-- A script is stored. -/
  | set (r : Adapted)
  /-- Its file is overwritten from outside. -/
  | overwrite (t : Text)

/-- What the file of a salt and a source is. -/
inductive Slot where
  /-- It is not there. -/
  | absent
  /-- It is the entry of a script. -/
  | stored (r : Adapted)
  /-- It is a text from outside. -/
  | spoiled (t : Text)

namespace Slot

/-- What becomes of it. -/
def next : Slot → CacheAct → Slot
  | _, .set r => .stored r
  | _, .overwrite t => .spoiled t
  | .spoiled _, .get => .absent
  | slot, .get => slot

/-- What was done to it one after the other. -/
def after (acts : List CacheAct) : Slot := acts.foldl next .absent

/-- What a lookup hands out. -/
def found? : Slot → Option Adapted
  | .stored r => some r
  | _ => none

/-- What there is in the store for it. -/
def content? (key : Text) : Slot → Option Entry
  | .absent => none
  | .stored r => some (.file (Text.encode (CacheEntry.toJson ⟨key, r⟩).text))
  | .spoiled t => some (.file (Text.encode t))

theorem after_concat (acts : List CacheAct) (a : CacheAct) :
    after (acts ++ [a]) = (after acts).next a := by
  rw [after, List.foldl_append]
  rfl

/-- A file is spoiled by what was done last. -/
theorem after_eq_spoiled_iff {acts : List CacheAct} {t : Text} :
    after acts = .spoiled t ↔ acts.getLast? = some (.overwrite t) := by
  cases acts using List.reverseRecOn with
  | nil => simp [after]
  | append_singleton acts a =>
    rw [after_concat, List.getLast?_concat]
    cases a with
    | get => cases after acts <;> simp [next]
    | set r => simp [next]
    | overwrite u => simp [next]

end Slot

namespace CacheAct

/-- Whether the file gets new contents. -/
def writes : CacheAct → Bool
  | .get => false
  | _ => true

/-- The script that was stored last, if nothing was written over it. -/
def lastStored? (acts : List CacheAct) : Option Adapted :=
  match (acts.filter writes).getLast? with
  | some (.set r) => some r
  | _ => none

/-- A lookup hands out what was stored last. -/
theorem found?_after (acts : List CacheAct) : (Slot.after acts).found? = lastStored? acts := by
  induction acts using List.reverseRecOn with
  | nil => rfl
  | append_singleton acts a ih =>
    rw [Slot.after_concat, lastStored?, List.filter_append]
    cases a with
    | get =>
      rw [List.filter_cons_of_neg (by simp [writes]), List.filter_nil, List.append_nil]
      rw [lastStored?] at ih
      rw [← ih]
      cases Slot.after acts <;> rfl
    | set r =>
      rw [List.filter_cons_of_pos rfl, List.filter_nil, List.getLast?_concat]
      rfl
    | overwrite t =>
      rw [List.filter_cons_of_pos rfl, List.filter_nil, List.getLast?_concat]
      rfl

end CacheAct

/-! ## §4. One step. -/

/-- What happens to the file of a source. -/
structure CacheEvent where
  /-- The cache through which it happens. -/
  cache : ScriptCache
  /-- The source. -/
  source : Text
  /-- What is done. -/
  act : CacheAct

namespace CacheEvent

variable {events : List CacheEvent} {salt source : Text} {slot : Slot} {d : Location} {w : World}

/-- Does it. -/
def run (ev : CacheEvent) : Effect Unit :=
  match ev.act with
  | .get => do
    let _ ← ev.cache.get? ev.source
  | .set r => ev.cache.set ev.source r
  | .overwrite t => do
    let _ ← World.change (fun s => s.writeText (ev.cache.entryPath (ev.cache.key ev.source)) t)

/-- The world after it was done. -/
def next (w : World) (ev : CacheEvent) : World := (Effect.runIn ev.run w).2

/-- The world after several events. -/
def after (events : List CacheEvent) (w : World) : World := events.foldl next w

/-- What was done to the entry of a salt and a source. -/
def actsOn (events : List CacheEvent) (salt source : Text) : List CacheAct :=
  (events.filter (fun ev => ev.cache.salt = salt && ev.source = source)).map CacheEvent.act

/-- Whether texts from outside are no entries. -/
def Foreign (ev : CacheEvent) : Prop :=
  ∀ t, ev.act = .overwrite t → ∃ e, CacheEntry.decoder.decode t = .error e

theorem actsOn_concat (events : List CacheEvent) (ev : CacheEvent) (salt source : Text) :
    actsOn (events ++ [ev]) salt source
      = actsOn events salt source
        ++ if ev.cache.salt = salt ∧ ev.source = source then [ev.act] else [] := by
  unfold actsOn
  rw [List.filter_append, List.map_append]
  congr 1
  split
  next h => rw [List.filter_cons_of_pos (by simp [h])]; rfl
  next h => rw [List.filter_cons_of_neg (by simpa using h)]; rfl

/-- What is in a file that was spoiled is no entry. -/
theorem malformed_of_spoiled (hforeign : ∀ ev ∈ events, ev.Foreign) {t : Text}
    (h : Slot.after (actsOn events salt source) = .spoiled t) :
    ∃ e, CacheEntry.decoder.decode t = .error e := by
  have hlast := List.mem_of_getLast? (Slot.after_eq_spoiled_iff.mp h)
  obtain ⟨ev, hev, hact⟩ := List.mem_map.mp hlast
  exact hforeign ev (List.mem_filter.mp hev).1 t hact

theorem mayHoldFile_of_slot {key : Text} {l : Location} (h : w.files.get? l = slot.content? key) :
    w.files.MayHoldFile l := by
  intro e he
  rw [h] at he
  cases slot with
  | absent => exact absurd he (by simp [Slot.content?])
  | stored r => exact ⟨_, (Option.some.inj he).symm⟩
  | spoiled t => exact ⟨_, (Option.some.inj he).symm⟩

/-- **What is done to the file of a source makes its slot the next one,** and touches no other
location, as long as nothing is wrong with writes. -/
theorem get?_next (ev : CacheEvent) (hdir : w.files.find .read ev.cache.dir = .ok (.entry d .dir))
    (hfits : Text.byteSize (ev.cache.entryPath (ev.cache.key ev.source)) < Files.pathLimit)
    (hslot : w.files.get? (d ++ [ev.cache.fileName ev.source])
      = slot.content? (ev.cache.key ev.source))
    (hmalformed : ∀ t, slot = .spoiled t → ∃ e, CacheEntry.decoder.decode t = .error e)
    (hfaultless : w.Faultless) :
    (∀ m, m ≠ d ++ [ev.cache.fileName ev.source] → (ev.next w).files.get? m = w.files.get? m) ∧
      (ev.next w).files.get? (d ++ [ev.cache.fileName ev.source])
        = (slot.next ev.act).content? (ev.cache.key ev.source) ∧
      (ev.next w).Faultless := by
  have hfile := mayHoldFile_of_slot hslot
  unfold next run
  cases hact : ev.act with
  | get =>
    dsimp only
    rw [Effect.runIn_bind]
    cases slot with
    | absent =>
      rw [ScriptCache.runIn_get?_of_none hdir hfits hslot]
      exact ⟨fun _ _ => rfl, hslot, hfaultless⟩
    | stored r =>
      rw [ScriptCache.runIn_get?_of_entry hdir hfits hslot]
      exact ⟨fun _ _ => rfl, hslot, hfaultless⟩
    | spoiled t =>
      obtain ⟨e, he⟩ := hmalformed t rfl
      rw [ScriptCache.runIn_get?_of_malformed hdir hfits hslot he]
      exact ⟨fun _ hm => Files.get?_erase_of_ne _ hm, Files.get?_erase_self _ _, hfaultless⟩
  | set r =>
    dsimp only
    rw [ScriptCache.runIn_set_of_file hdir hfits hfile hfaultless]
    exact ⟨fun _ hm => Files.get?_put_of_ne _ _ hm, Files.get?_put_self _ _ _, hfaultless.of_tail rfl⟩
  | overwrite t =>
    dsimp only
    rw [Effect.runIn_bind, ScriptCache.runIn_overwrite hdir hfits hfile]
    exact ⟨fun _ hm => Files.get?_put_of_ne _ _ hm, Files.get?_put_self _ _ _, hfaultless⟩

end CacheEvent

/-! ## §5. A shared directory. -/

/-- Whether caches and the sources that they are used for share an existing directory that can be
written to and has no entries yet, and their keys are apart. -/
structure SharedDir (uses : List (ScriptCache × Text)) (d : Location) (s : Files) : Prop where
  /-- The caches' paths lead to the directory. -/
  leads : ∀ u ∈ uses, s.find .read u.1.dir = .ok (.entry d .dir)
  /-- Their files can be written. -/
  writable : ∀ u ∈ uses, ∀ t, ∃ s', s.writeText (u.1.entryPath (u.1.key u.2)) t = .ok s'
  /-- None of them is there. -/
  vacant : ∀ u ∈ uses, s.get? (d ++ [u.1.fileName u.2]) = none
  /-- No salt has the character that ends it. -/
  unsalted : ∀ u ∈ uses, '\x00' ∉ u.1.salt
  /-- No two messages have one digest. -/
  apart : ∀ u ∈ uses, ∀ v ∈ uses,
    Sha256.hex (u.1.message u.2) = Sha256.hex (v.1.message v.2) → u.1.message u.2 = v.1.message v.2

namespace SharedDir

variable {uses : List (ScriptCache × Text)} {d : Location} {s : Files} {u v : ScriptCache × Text}

theorem fits (h : SharedDir uses d s) (hu : u ∈ uses) :
    Text.byteSize (u.1.entryPath (u.1.key u.2)) < Files.pathLimit := by
  obtain ⟨s', hwrite⟩ := h.writable u hu []
  exact Files.byteSize_lt_of_writeText hwrite

/-- **Files have one name if their salts and sources are the same,** and else different ones. -/
theorem fileName_eq_iff (h : SharedDir uses d s) (hu : u ∈ uses) (hv : v ∈ uses) :
    u.1.fileName u.2 = v.1.fileName v.2 ↔ u.1.salt = v.1.salt ∧ u.2 = v.2 := by
  constructor
  · intro hname
    have hmessage := h.apart u hu v hv (List.append_cancel_right hname)
    exact (ScriptCache.message_eq_message_iff (h.unsalted u hu) (h.unsalted v hv)).mp hmessage
  · rintro ⟨hsalt, hsource⟩
    rw [ScriptCache.fileName, ScriptCache.fileName, ScriptCache.key_eq_of_same hsalt hsource]

end SharedDir

/-- Whether the files of a shared directory are what was done to them. -/
structure Mirrors (uses : List (ScriptCache × Text)) (d : Location) (events : List CacheEvent)
    (w : World) : Prop where
  /-- The caches' paths lead to the directory. -/
  leads : ∀ u ∈ uses, w.files.find .read u.1.dir = .ok (.entry d .dir)
  /-- Every file is what was done to it. -/
  held : ∀ u ∈ uses, w.files.get? (d ++ [u.1.fileName u.2])
    = (Slot.after (CacheEvent.actsOn events u.1.salt u.2)).content? (u.1.key u.2)
  /-- Nothing is wrong with writes to come. -/
  faultless : w.Faultless

namespace Mirrors

variable {uses : List (ScriptCache × Text)} {d : Location} {s : Files} {w : World}
  {events : List CacheEvent}

theorem nil (h : SharedDir uses d w.files) (hfaultless : w.Faultless) : Mirrors uses d [] w where
  leads := h.leads
  held u hu := h.vacant u hu
  faultless := hfaultless

/-- One more event: **the files are still what was done to them.** -/
theorem next (hshared : SharedDir uses d s) (h : Mirrors uses d events w)
    (hforeign : ∀ ev ∈ events, ev.Foreign) (ev : CacheEvent) (huse : (ev.cache, ev.source) ∈ uses) :
    Mirrors uses d (events ++ [ev]) (ev.next w) := by
  have hfits := hshared.fits huse
  have hheld := h.held _ huse
  obtain ⟨helse, hthere, hfaultless⟩ := CacheEvent.get?_next ev (h.leads _ huse) hfits hheld
    (fun _ => CacheEvent.malformed_of_spoiled hforeign) h.faultless
  refine ⟨fun u hu => ?_, fun u hu => ?_, hfaultless⟩
  · exact Files.find_dir_of_elsewhere (CacheEvent.mayHoldFile_of_slot hheld) helse
      (h.leads u hu)
  · rw [CacheEvent.actsOn_concat]
    by_cases hsame : ev.cache.salt = u.1.salt ∧ ev.source = u.2
    · -- the file is the one that something is done to
      have hname := (hshared.fileName_eq_iff huse hu).mpr hsame
      have hkey := ScriptCache.key_eq_of_same hsame.1 hsame.2
      rw [if_pos hsame, Slot.after_concat, ← hname, ← hkey, ← hsame.1, ← hsame.2]
      exact hthere
    · have hname : d ++ [u.1.fileName u.2] ≠ d ++ [ev.cache.fileName ev.source] := by
        intro heq
        have hone := (List.cons.inj (List.append_cancel_left heq)).1
        exact hsame ((hshared.fileName_eq_iff huse hu).mp hone.symm)
      rw [if_neg hsame, List.append_nil, helse _ hname]
      exact h.held u hu

/-- **After any events the files are what was done to them.** -/
theorem after (hshared : SharedDir uses d w.files) (hfaultless : w.Faultless)
    (hforeign : ∀ ev ∈ events, ev.Foreign) (huses : ∀ ev ∈ events, (ev.cache, ev.source) ∈ uses) :
    Mirrors uses d events (CacheEvent.after events w) := by
  induction events using List.reverseRecOn with
  | nil => exact .nil hshared hfaultless
  | append_singleton events ev ih =>
    have hbefore : ∀ x ∈ events, x ∈ events ++ [ev] := fun x hx => List.mem_append_left _ hx
    have hforeign' : ∀ x ∈ events, x.Foreign := fun x hx => hforeign x (hbefore x hx)
    have h := ih hforeign' (fun x hx => huses x (hbefore x hx))
    rw [CacheEvent.after, List.foldl_append]
    exact h.next hshared hforeign' ev
      (huses ev (List.mem_append_right _ (List.mem_singleton_self ev)))

section Lookup

variable {c : ScriptCache} {source : Text} {slot : Slot}
  (hshared : SharedDir uses d s) (h : Mirrors uses d events w) (hu : (c, source) ∈ uses)
  (hslot : Slot.after (CacheEvent.actsOn events c.salt source) = slot)

include hshared h hu hslot

/-- A lookup leaves what is no text from outside. -/
theorem runIn_get?_of_sound (hsound : ∀ t, slot ≠ .spoiled t) :
    Effect.runIn (c.get? source) w = (slot.found?, w) := by
  have hdir := h.leads _ hu
  have hfits := hshared.fits hu
  have hheld := h.held _ hu
  dsimp only at hheld
  rw [hslot] at hheld
  cases slot with
  | absent => exact ScriptCache.runIn_get?_of_none hdir hfits hheld
  | stored r => exact ScriptCache.runIn_get?_of_entry hdir hfits hheld
  | spoiled t => exact absurd rfl (hsound t)

/-- A lookup removes what is no entry. -/
theorem runIn_get?_of_spoiled {t : Text} {e : Json.Error} (hspoiled : slot = .spoiled t)
    (hmalformed : CacheEntry.decoder.decode t = .error e) :
    w.files.get? (d ++ [c.fileName source]) = some (.file (Text.encode t)) ∧
      Effect.runIn (c.get? source) w
        = (none, { w with
            files := w.files.erase (d ++ [c.fileName source])
            warnings := w.warnings ++ [.corruptEntry (c.entryPath (c.key source)) e] }) := by
  have hdir := h.leads _ hu
  have hfits := hshared.fits hu
  have hheld := h.held _ hu
  dsimp only at hheld
  rw [hslot, hspoiled] at hheld
  exact ⟨hheld, ScriptCache.runIn_get?_of_malformed hdir hfits hheld hmalformed⟩

/-- A lookup hands out what the file is the entry of. -/
theorem answer_eq
    (hmalformed : ∀ t, slot = .spoiled t → ∃ e, CacheEntry.decoder.decode t = .error e) :
    (Effect.runIn (c.get? source) w).1 = slot.found? := by
  by_cases hspoiled : ∃ t, slot = .spoiled t
  · obtain ⟨t, ht⟩ := hspoiled
    obtain ⟨e, he⟩ := hmalformed t ht
    rw [(h.runIn_get?_of_spoiled hshared hu hslot ht he).2, ht]
    rfl
  · rw [h.runIn_get?_of_sound hshared hu hslot (fun t ht => hspoiled ⟨t, ht⟩)]

end Lookup

end Mirrors

/-! ## §6. A shared directory is a map. -/

/-- **Caches over one directory are a map from salts and sources to scripts.**  Whatever was looked
up, stored and overwritten, a lookup hands out what was stored last for its salt and source, and
nothing if that was overwritten since or nothing was stored.  If the file was overwritten, the
lookup removes it, and nothing else, and logs one warning, and the next lookup changes nothing; if
not, the lookup itself changes nothing.  What is stored is found, and what is done to another salt
or source does not matter.  The directory can be written to throughout. -/
theorem SharedDir.get?_eq_lastStored? {uses : List (ScriptCache × Text)} {d : Location} {w : World}
    (hshared : SharedDir uses d w.files) (hfaultless : w.Faultless) {events : List CacheEvent}
    (huses : ∀ ev ∈ events, (ev.cache, ev.source) ∈ uses) (hforeign : ∀ ev ∈ events, ev.Foreign)
    {c : ScriptCache} {source : Text} (hu : (c, source) ∈ uses) :
    let after := CacheEvent.after events w
    let acts := CacheEvent.actsOn events c.salt source
    (Effect.runIn (c.get? source) after).1 = CacheAct.lastStored? acts ∧
      ((∀ t, acts.getLast? ≠ some (.overwrite t)) →
        (Effect.runIn (c.get? source) after).2 = after) ∧
      (∀ t, acts.getLast? = some (.overwrite t) →
        ∃ e, CacheEntry.decoder.decode t = .error e ∧
          after.files.get? (d ++ [c.fileName source]) = some (.file (Text.encode t)) ∧
          let healed := { after with
            files := after.files.erase (d ++ [c.fileName source])
            warnings := after.warnings ++ [.corruptEntry (c.entryPath (c.key source)) e] }
          Effect.runIn (c.get? source) after = (none, healed) ∧
          ∀ c', (c', source) ∈ uses → c'.salt = c.salt →
            Effect.runIn (c'.get? source) healed = (none, healed)) ∧
      (∀ c' r, (c', source) ∈ uses → c'.salt = c.salt →
        (Effect.runIn (c.get? source) (Effect.runIn (c'.set source r) after).2).1 = some r) ∧
      (∀ ev : CacheEvent, (ev.cache, ev.source) ∈ uses →
        ¬(ev.cache.salt = c.salt ∧ ev.source = source) →
          (Effect.runIn (c.get? source) (ev.next after)).1
            = (Effect.runIn (c.get? source) after).1) := by
  intro w' acts
  have h : Mirrors uses d events w' := .after hshared hfaultless hforeign huses
  have hmalformed : ∀ t, Slot.after acts = .spoiled t →
      ∃ e, CacheEntry.decoder.decode t = .error e :=
    fun t ht => CacheEvent.malformed_of_spoiled hforeign ht
  have hanswer := h.answer_eq hshared hu rfl hmalformed
  refine ⟨?_, ?_, ?_, ?_, ?_⟩
  · rw [hanswer, CacheAct.found?_after]
  · intro hlast
    rw [h.runIn_get?_of_sound hshared hu rfl
      (fun t ht => hlast t (Slot.after_eq_spoiled_iff.mp ht))]
  · intro t hlast
    have hspoiled := Slot.after_eq_spoiled_iff.mpr hlast
    obtain ⟨e, he⟩ := hmalformed t hspoiled
    obtain ⟨hthere, hrun⟩ := h.runIn_get?_of_spoiled hshared hu rfl hspoiled he
    refine ⟨e, he, hthere, hrun, fun c' hu' hsalt => ?_⟩
    -- the lookup has made the slot absent
    have hnext := h.next hshared hforeign ⟨c, source, .get⟩ hu
    have hslot : Slot.after (CacheEvent.actsOn (events ++ [⟨c, source, .get⟩]) c'.salt source)
        = .absent := by
      rw [CacheEvent.actsOn_concat, if_pos ⟨hsalt.symm, rfl⟩, Slot.after_concat, hsalt]
      exact congrArg (Slot.next · .get) hspoiled
    have hworld : CacheEvent.next w' ⟨c, source, .get⟩ = (Effect.runIn (c.get? source) w').2 := rfl
    rw [hworld, hrun] at hnext
    exact hnext.runIn_get?_of_sound hshared hu' hslot (by simp)
  · intro c' r hu' hsalt
    have hnext := h.next hshared hforeign ⟨c', source, .set r⟩ hu'
    have hslot : Slot.after (CacheEvent.actsOn (events ++ [⟨c', source, .set r⟩]) c.salt source)
        = .stored r := by
      rw [CacheEvent.actsOn_concat, if_pos ⟨hsalt, rfl⟩, Slot.after_concat]
      rfl
    exact hnext.answer_eq hshared hu hslot (by simp)
  · intro ev huse hother
    have hnext := h.next hshared hforeign ev huse
    have hslot : Slot.after (CacheEvent.actsOn (events ++ [ev]) c.salt source)
        = Slot.after acts := by
      rw [CacheEvent.actsOn_concat, if_neg hother, List.append_nil]
    rw [hanswer, hnext.answer_eq hshared hu hslot hmalformed]

/-- A cache in the directory of the bare world. -/
def firstCache : ScriptCache := ⟨".svala/cache", "one"⟩

/-- The same with its path spelt in another way. -/
def respeltCache : ScriptCache := ⟨"./.svala//cache/", "one"⟩

/-- One with another salt. -/
def secondCache : ScriptCache := ⟨".svala/cache", "two"⟩

/-- The three and a source. -/
def threeUses : List (ScriptCache × Text) :=
  [(firstCache, "a"), (respeltCache, "a"), (secondCache, "a")]

/-- The directory of the bare world can be shared. -/
theorem sharedDir_threeUses :
    ∃ d, SharedDir threeUses d bareWorld.files := by
  have hleads : ∀ u ∈ threeUses, bareWorld.files.find .read u.1.dir
      = .ok (.entry [".svala".toList, "cache".toList] .dir) := by
    decide +kernel
  have hfits : ∀ u ∈ threeUses,
      Text.byteSize (u.1.entryPath (u.1.key u.2)) < Files.pathLimit := by
    decide +kernel
  have hvacant : ∀ u ∈ threeUses,
      bareWorld.files.get? ([".svala".toList, "cache".toList] ++ [u.1.fileName u.2]) = none := by
    decide +kernel
  have hunsalted : ∀ u ∈ threeUses, '\x00' ∉ u.1.salt := by decide
  have hapart : ∀ u ∈ threeUses, ∀ v ∈ threeUses,
      Sha256.hex (u.1.message u.2) = Sha256.hex (v.1.message v.2) →
        u.1.message u.2 = v.1.message v.2 := by
    decide +kernel
  refine ⟨_, hleads, fun u hu t => ?_, hvacant, hunsalted, hapart⟩
  have hname := u.1.isFileName_fileName u.2
  exact ⟨_, Files.writeText_join (hleads u hu) hname (hfits u hu)
    (fun e he => absurd ((hvacant u hu).symm.trans he) (by simp)) t⟩

/-- Two scripts are stored, and the file of one is overwritten. -/
def threeEvents : List CacheEvent :=
  [⟨firstCache, "a", .set ⟨"x", "m", .empty⟩⟩, ⟨secondCache, "a", .set ⟨"y", "m", .empty⟩⟩,
    ⟨respeltCache, "a", .overwrite "no entry"⟩]

theorem foreign_threeEvents : ∀ ev ∈ threeEvents, ev.Foreign := by
  have hno : (CacheEntry.decoder.decode "no entry").toBool = false := by decide +kernel
  intro ev hev t hact
  simp only [threeEvents, List.mem_cons, List.not_mem_nil, or_false] at hev
  rcases hev with rfl | rfl | rfl
  · exact absurd hact (by simp)
  · exact absurd hact (by simp)
  · obtain rfl := CacheAct.overwrite.inj hact
    exact exists_error_of_toBool hno

/-- One script is found, and the other is not, until it is stored again. -/
theorem get?_after_threeEvents :
    let after := CacheEvent.after threeEvents bareWorld
    (Effect.runIn (secondCache.get? "a") after).1 = some ⟨"y", "m", .empty⟩ ∧
      (Effect.runIn (firstCache.get? "a") after).1 = none ∧
      (Effect.runIn (firstCache.get? "a") after).2.warnings.length = after.warnings.length + 1 ∧
      (Effect.runIn (firstCache.get? "a")
          (Effect.runIn (respeltCache.set "a" ⟨"z", "m", .empty⟩) after).2).1
        = some ⟨"z", "m", .empty⟩ := by
  obtain ⟨d, hshared⟩ := sharedDir_threeUses
  have huses : ∀ ev ∈ threeEvents, (ev.cache, ev.source) ∈ threeUses := by
    intro ev hev
    simp only [threeEvents, List.mem_cons, List.not_mem_nil, or_false] at hev
    rcases hev with rfl | rfl | rfl <;> decide
  have hfirst : (firstCache, "a".toList) ∈ threeUses := by decide
  have hrespelt : (respeltCache, "a".toList) ∈ threeUses := by decide
  have hsecond : (secondCache, "a".toList) ∈ threeUses := by decide
  intro after
  have hfaultless : bareWorld.Faultless := fun _ hx => absurd hx List.not_mem_nil
  obtain ⟨htwo, -⟩ := hshared.get?_eq_lastStored? hfaultless huses foreign_threeEvents hsecond
  obtain ⟨hone, -, hspoiled, hrepaired, -⟩ :=
    hshared.get?_eq_lastStored? hfaultless huses foreign_threeEvents hfirst
  obtain ⟨e, -, -, hrun, -⟩ := hspoiled "no entry" rfl
  refine ⟨htwo, hone, ?_, hrepaired _ _ hrespelt rfl⟩
  rw [hrun]
  exact List.length_append

end ScriptWeave
