/-
  ScriptWeave.Proofs.Build.SoundCache
  ───────────────────────────────────
  **WHAT A CACHE HANDS OUT WAS STORED IN IT.**

  A file of a cache is good if it holds no entry at all, or the entry of a
  good pair of a key and an adapted script.  Whatever cache a pair is stored
  in, files stay good if the pair is, however the write ends: it may be
  refused, or break off, and then the file holds the beginning of an entry,
  which is none.  Lookups keep files good, too.  What is handed out of a good
  file is good for the key that was asked for.

      good file    →    c.get? source = some r    →    good (c.key source) r

  A cache is sound if all its files are good, for pairs of a source and an
  adapted script.  It hands out nothing that is not good for the source, as
  long as no other source has its key.
-/
import ScriptWeave.Proofs.Build.Actions
import ScriptWeave.Proofs.Build.CacheEntries
import ScriptWeave.Proofs.Files.InDirectory
import ScriptWeave.Proofs.Text.ByteSearch

namespace ScriptWeave

/-! ## §1. Bytes and keys. -/

namespace Text

theorem byteSize_eq_length {t : Text} (h : ∀ c ∈ t, c.utf8Size = 1) :
    byteSize t = t.length := by
  induction t with
  | nil => rfl
  | cons c t ih =>
    rw [byteSize_cons, h c List.mem_cons_self, ih (fun x hx => h x (List.mem_cons_of_mem _ hx)),
      List.length_cons, Nat.add_comm]

/-- Bytes that stand for a text are its bytes. -/
theorem encode_of_decode? {b : ByteArray} {t : Text} (h : decode? b = some t) : encode t = b := by
  obtain ⟨cs, hcs, rfl⟩ := Option.map_eq_some_iff.mp h
  have hencode := @ByteArray.utf8Encode_get_utf8Decode? b (by rw [hcs]; rfl)
  simp only [hcs, Option.get_some] at hencode
  exact hencode

theorem extract_encode (t : Text) (n : Nat) :
    (encode t).extract 0 n = ((utf8Bytes t).take n).toByteArray := by
  rw [encode_eq_toByteArray]
  ext1
  rw [ByteArray.data_extract, List.data_toByteArray, List.data_toByteArray]
  simp

/-- What the first bytes of a text stand for, if they are not all, is the text with its end
missing. -/
theorem isCut_of_decode? {t u : Text} {n : Nat} (hn : n < byteSize t)
    (h : decode? ((encode t).extract 0 n) = some u) : IsCut u t := by
  have hbytes : utf8Bytes u = (utf8Bytes t).take n := by
    have hencode := encode_of_decode? h
    rw [extract_encode, encode_eq_toByteArray] at hencode
    simpa using congrArg (fun b => b.data.toList) hencode
  obtain ⟨missing, rfl⟩ := utf8Bytes_prefix_iff.mp (hbytes ▸ List.take_prefix n (utf8Bytes t))
  refine ⟨missing, ?_, rfl⟩
  rintro rfl
  -- with nothing missing there would be no more than `n` bytes
  have hsize : byteSize u = (utf8Bytes u).length := by
    rw [← size_encode]
    exact List.size_toByteArray
  have hlength := congrArg List.length hbytes
  rw [List.length_take] at hlength
  rw [List.append_nil] at hn
  omega

end Text

/-- What a write with a fault leaves of a text, if it is a text at all, has its end missing. -/
theorem WriteFault.isCut_of_taken {w : World} {t u : Text} {x : WriteFault}
    (hfault : w.fault? t = some x) (h : Text.decode? (x.taken t) = some u) : u.IsCut t := by
  obtain ⟨-, hroom⟩ := Option.filter_eq_some_iff.mp hfault
  exact Text.isCut_of_decode? (of_decide_eq_true hroom) h

theorem toList_loop_eq (b : ByteArray) (i : Nat) (r : List UInt8) :
    ByteArray.toList.loop b i r = r.reverse ++ b.data.toList.drop i := by
  fun_induction ByteArray.toList.loop b i r with
  | case1 i r hlt ih =>
    have hsize : i < b.data.toList.length := hlt
    have hget : b.get! i = b.data.toList[i] := by
      simp [ByteArray.get!, getElem!_pos b.data i hlt]
    rw [ih, List.reverse_cons, hget, List.append_assoc, List.drop_eq_getElem_cons hsize]
    rfl
  | case2 i r hge =>
    have hend : b.data.toList.length ≤ i := Nat.le_of_not_lt hge
    rw [List.drop_eq_nil_of_le hend, List.append_nil]

theorem toList_eq (b : ByteArray) : b.toList = b.data.toList := by
  simp [ByteArray.toList, toList_loop_eq]

/-- Different texts have different lists of bytes. -/
theorem toList_encode_injective {t u : Text} (h : (Text.encode t).toList = (Text.encode u).toList) :
    t = u := by
  rw [toList_eq, toList_eq] at h
  exact Text.encode_injective (ByteArray.ext (Array.toList_inj.mp h))

namespace Sha256

theorem length_hex (message : List UInt8) : (hex message).length = 64 := rfl

/-- A digest is written in hexadecimal digits. -/
theorem eq_hexChar_of_mem_hex {message : List UInt8} {c : Char} (h : c ∈ hex message) :
    ∃ n < 16, c = Json.hexChar n := by
  obtain ⟨word, -, hword⟩ := List.mem_flatMap.mp h
  obtain ⟨i, -, rfl⟩ := List.mem_map.mp hword
  exact ⟨_, Nat.mod_lt _ (by decide), rfl⟩

end Sha256

namespace ScriptCache

/-- The bytes whose digest is the key of a source. -/
def message (c : ScriptCache) (source : Text) : List UInt8 :=
  (Text.encode c.salt).toList ++ 0 :: (Text.encode source).toList

/-- Different sources have different messages. -/
theorem message_injective (c : ScriptCache) {source source' : Text}
    (h : c.message source = c.message source') : source = source' :=
  toList_encode_injective (List.cons.inj (List.append_cancel_left h)).2

/-- The name of the file of a source. -/
def fileName (c : ScriptCache) (source : Text) : Text := c.key source ++ ".json".toList

/-- A source has a file with a proper name, whatever its digest. -/
theorem isFileName_fileName (c : ScriptCache) (source : Text) :
    Files.IsFileName (c.fileName source) := by
  have hdigit : ∀ n < 16, Json.hexChar n ≠ '/' ∧ Json.hexChar n ≠ '\x00'
      ∧ (Json.hexChar n).utf8Size = 1 := by
    decide
  have hends : ".json".toList.all (fun x => x ≠ '/' ∧ x ≠ '\x00' ∧ x.utf8Size = 1) = true := rfl
  have hall : ∀ x ∈ c.fileName source, x ≠ '/' ∧ x ≠ '\x00' ∧ x.utf8Size = 1 := by
    intro x hx
    rcases List.mem_append.mp hx with hkey | hend
    · obtain ⟨n, hn, rfl⟩ := Sha256.eq_hexChar_of_mem_hex hkey
      exact hdigit n hn
    · exact of_decide_eq_true (List.all_eq_true.mp hends x hend)
  have hlength : (c.fileName source).length = 69 := by
    rw [fileName, List.length_append, key, Sha256.length_hex]
    rfl
  have hne : ∀ t : Text, t.length ≠ 69 → c.fileName source ≠ t := fun t ht h => ht (h ▸ hlength)
  refine ⟨⟨hne _ (by decide), hne _ (by decide), hne _ (by decide), fun h => (hall _ h).1 rfl⟩, ?_,
    fun h => (hall _ h).2.1 rfl⟩
  rw [Text.byteSize_eq_length (fun x hx => (hall x hx).2.2), hlength]
  decide

/-! ## §2. Lookups and stores. -/

/-- What a lookup does: a file that is no entry is removed with a warning, any other is left. -/
theorem runIn_get?_eq (c : ScriptCache) (source : Text) (w : World) :
    Effect.runIn (c.get? source) w
      = match w.files.readText (c.entryPath (c.key source)) with
        | .error _ => (none, w)
        | .ok t =>
          match CacheEntry.decoder.decode t with
          | .error e =>
            (none, (Effect.runIn
              (World.change (fun s => s.removeFile (c.entryPath (c.key source))))
              { w with
                warnings := w.warnings ++ [.corruptEntry (c.entryPath (c.key source)) e] }).2)
          | .ok e => (if e.hash = c.key source then some e.adapted else none, w) := by
  have hlook : Effect.runIn (World.readText (c.entryPath (c.key source))) w
      = (w.files.readText (c.entryPath (c.key source)), w) := rfl
  unfold get?
  dsimp only
  rw [Effect.runIn_bind, hlook]
  dsimp only
  cases w.files.readText (c.entryPath (c.key source)) with
  | error _ => rfl
  | ok t =>
    dsimp only
    cases CacheEntry.decoder.decode t <;> rfl

/-- A lookup hands out what the file of the source holds if that is an entry with its key; else
it hands out nothing, and may have removed the file. -/
theorem runIn_get? (c : ScriptCache) (source : Text) (w : World) :
    (∃ t e, w.files.readText (c.entryPath (c.key source)) = .ok t
      ∧ CacheEntry.decoder.decode t = .ok e
      ∧ Effect.runIn (c.get? source) w = (if e.hash = c.key source then some e.adapted else none, w))
    ∨ (Effect.runIn (c.get? source) w).1 = none
      ∧ ((Effect.runIn (c.get? source) w).2.files = w.files
        ∨ w.files.removeFile (c.entryPath (c.key source))
          = .ok (Effect.runIn (c.get? source) w).2.files) := by
  rw [runIn_get?_eq]
  cases w.files.readText (c.entryPath (c.key source)) with
  | error _ => exact Or.inr ⟨rfl, Or.inl rfl⟩
  | ok t =>
    dsimp only
    cases hdecode : CacheEntry.decoder.decode t with
    | ok e => exact Or.inl ⟨t, e, rfl, hdecode, rfl⟩
    | error e =>
      dsimp only
      rw [Effect.runIn_change]
      cases w.files.removeFile (c.entryPath (c.key source)) with
      | error _ => exact Or.inr ⟨rfl, Or.inl rfl⟩
      | ok s => exact Or.inr ⟨rfl, Or.inr rfl⟩

/-- A lookup writes nothing. -/
theorem faults_runIn_get? (c : ScriptCache) (source : Text) (w : World) :
    (Effect.runIn (c.get? source) w).2.faults = w.faults := by
  rw [runIn_get?_eq]
  cases w.files.readText (c.entryPath (c.key source)) with
  | error _ => rfl
  | ok t =>
    dsimp only
    cases CacheEntry.decoder.decode t with
    | ok e => rfl
    | error e =>
      dsimp only
      rw [Effect.runIn_change]
      cases w.files.removeFile (c.entryPath (c.key source)) <;> rfl

/-- What a store does: the entry is written, and if that fails there is a warning. -/
theorem runIn_set_eq (c : ScriptCache) (source : Text) (r : Adapted) (w : World) :
    Effect.runIn (c.set source r) w
      = match Effect.runIn (World.write (c.entryPath (c.key source))
          (CacheEntry.toJson ⟨c.key source, r⟩).text) w with
        | (.ok (), w') => ((), w')
        | (.error e, w') =>
          ((), { w' with
            warnings := w'.warnings ++ [.cacheNotWritten (c.entryPath (c.key source)) e] }) := by
  unfold set
  dsimp only
  rw [Effect.runIn_bind]
  rcases Effect.runIn (World.write _ _) w with ⟨_ | _, w'⟩ <;> rfl

/-- A store leaves the files as the write of the entry does. -/
theorem files_runIn_set (c : ScriptCache) (source : Text) (r : Adapted) (w : World) :
    ∃ a, Effect.Written (c.entryPath (c.key source)) (CacheEntry.toJson ⟨c.key source, r⟩).text w a
      (Effect.runIn (c.set source r) w).2.files := by
  obtain ⟨a, s, hrun, hwritten⟩ := Effect.runIn_write (c.entryPath (c.key source))
    (CacheEntry.toJson ⟨c.key source, r⟩).text w
  rw [runIn_set_eq, hrun]
  cases a <;> exact ⟨_, hwritten⟩

/-- A store is one write. -/
theorem faults_runIn_set (c : ScriptCache) (source : Text) (r : Adapted) (w : World) :
    (Effect.runIn (c.set source r) w).2.faults = w.faults.tail := by
  obtain ⟨a, s, hrun, -⟩ := Effect.runIn_write (c.entryPath (c.key source))
    (CacheEntry.toJson ⟨c.key source, r⟩).text w
  rw [runIn_set_eq, hrun]
  cases a <;> rfl

/-! ## §3. One file. -/

/-- Whether a file, if it holds an entry at all, holds that of a good pair of a key and an adapted
script. -/
def EntryAt (path : Text) (good : Text → Adapted → Prop) (s : Files) : Prop :=
  ∀ t e, s.readText path = .ok t → CacheEntry.decoder.decode t = .ok e → good e.hash e.adapted

namespace EntryAt

variable {path : Text} {good : Text → Adapted → Prop} {w : World}

/-- A lookup in any cache leaves a good entry or none. -/
theorem runIn_get? (h : EntryAt path good w.files) (c : ScriptCache) (source : Text) :
    EntryAt path good (Effect.runIn (c.get? source) w).2.files := by
  rcases c.runIn_get? source w with ⟨t, e, -, -, hrun⟩ | ⟨-, hsame | hremoved⟩
  · rw [hrun]
    exact h
  · rw [hsame]
    exact h
  · exact fun t e hread => h t e (Files.readText_removeFile hremoved hread)

/-- A store of a good pair in any cache leaves a good entry or none, however it ends. -/
theorem runIn_set (h : EntryAt path good w.files) {c : ScriptCache} {source : Text} {r : Adapted}
    (hgood : good (c.key source) r) : EntryAt path good (Effect.runIn (c.set source r) w).2.files := by
  obtain ⟨a, hwritten⟩ := c.files_runIn_set source r w
  generalize (Effect.runIn (c.set source r) w).2.files = s at hwritten
  cases hwritten with
  | refused _ => exact h
  | whole _ hopened =>
    intro t e hread hdecode
    -- the file reads as the new entry or as it did
    rcases Files.readText_writeText hopened hread with rfl | hbefore
    · rw [CacheEntry.decode_toJson] at hdecode
      obtain rfl := Except.ok.inj hdecode
      exact hgood
    · exact h t e hbefore hdecode
  | cut hfault hopened =>
    intro t e hread hdecode
    -- the file reads as the beginning of the new entry, which is none, or as it did
    rcases Files.readText_writeBytes hopened hread with htaken | hbefore
    · obtain ⟨err, hrefused⟩ := CacheEntry.decode_cut (WriteFault.isCut_of_taken hfault htaken)
      exact absurd (hrefused.symm.trans hdecode) (by simp)
    · exact h t e hbefore hdecode

/-- What is handed out of a good entry is good for the key that was asked for. -/
theorem good_of_found {c : ScriptCache} {source : Text} {r : Adapted}
    (h : EntryAt (c.entryPath (c.key source)) good w.files)
    (hfound : (Effect.runIn (c.get? source) w).1 = some r) : good (c.key source) r := by
  rcases c.runIn_get? source w with ⟨t, e, hread, hdecode, hrun⟩ | ⟨hnone, -⟩
  · rw [hrun] at hfound
    dsimp only at hfound
    split at hfound
    next hkey =>
      obtain rfl := Option.some.inj hfound
      rw [← hkey]
      exact h t e hread hdecode
    next => exact absurd hfound (by simp)
  · rw [hnone] at hfound
    exact absurd hfound (by simp)

end EntryAt

/-! ## §4. Soundness. -/

/-- Whether an adapted script is good for a source with a key. -/
def GoodForKey (c : ScriptCache) (good : Text → Adapted → Prop) (key : Text) (r : Adapted) : Prop :=
  ∃ source, good source r ∧ key = c.key source

/-- A cache is sound if each of its files is a good entry or none. -/
def Sound (c : ScriptCache) (good : Text → Adapted → Prop) (s : Files) : Prop :=
  ∀ source, EntryAt (c.entryPath (c.key source)) (c.GoodForKey good) s

variable {c : ScriptCache} {good : Text → Adapted → Prop} {source : Text} {s s' : Files} {w : World}

/-- A cache is sound if none of its files can be read. -/
theorem Sound.of_empty (h : ∀ source t, s.readText (c.entryPath (c.key source)) ≠ .ok t) :
    c.Sound good s := fun source t _ hread => absurd hread (h source t)

/-- Where no file can be read that could not be read before, a cache stays sound. -/
theorem Sound.of_readText (h : c.Sound good s)
    (hkept : ∀ source t, s'.readText (c.entryPath (c.key source)) = .ok t →
      s.readText (c.entryPath (c.key source)) = .ok t) : c.Sound good s' :=
  fun source t e hread => h source t e (hkept source t hread)

/-- A lookup keeps a cache sound. -/
theorem Sound.runIn_get? (h : c.Sound good w.files) :
    c.Sound good (Effect.runIn (c.get? source) w).2.files :=
  fun source' => (h source').runIn_get? c source

/-- What a sound cache hands out is good for the source, if no other source has its key. -/
theorem Sound.good_of_found (h : c.Sound good w.files)
    (hkey : ∀ source' r, good source' r → c.key source' = c.key source → source' = source)
    {r : Adapted} (hfound : (Effect.runIn (c.get? source) w).1 = some r) : good source r := by
  obtain ⟨source', hgood, hsame⟩ := (h source).good_of_found hfound
  obtain rfl := hkey source' r hgood hsame.symm
  exact hgood

/-- Storing a good pair keeps a cache sound. -/
theorem Sound.runIn_set (h : c.Sound good w.files) {r : Adapted} (hgood : good source r) :
    c.Sound good (Effect.runIn (c.set source r) w).2.files :=
  fun source' => (h source').runIn_set ⟨source, hgood, rfl⟩

end ScriptCache

end ScriptWeave
