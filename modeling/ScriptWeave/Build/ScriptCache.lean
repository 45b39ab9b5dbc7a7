/-
  ScriptWeave.Build.ScriptCache
  ─────────────────────────────
  **THE CACHE OF ADAPTED SCRIPTS.**

  A cache is a directory with one file for each source: its name is the
  digest of the salt and the source, and it holds that digest again beside
  the adapted script.  An entry that is no such record is removed with a
  warning; one with another digest, or that is no text, is passed over.
  Storing an entry may fail, which costs a warning, and may leave the
  beginning of an entry for the next lookup to remove.
-/
import ScriptWeave.Alias.Format
import ScriptWeave.Build.World
import ScriptWeave.Digest.Sha256
import ScriptWeave.Script.Adapted

namespace ScriptWeave

/-! ## §1. Entries as JSON. -/

namespace Adapted

/-- An adapted script as JSON. -/
def toJson (r : Adapted) : Json.Value :=
  .obj [("code", .str r.code), ("map", .str r.map), ("aliases", r.aliases.toJson)]

/-- Reads an adapted script, all of whose fields must occur. -/
def decoder : Json.Decoder Adapted :=
  Json.Shape.decoder
    { name := "struct CachedRewrite"
      complete := true
      fields :=
        [.of "code" Json.string (fun t r => { r with code := t }),
          .of "map" Json.string (fun t r => { r with map := t }),
          .of "aliases" AliasTable.decoder (fun t r => { r with aliases := t })] }
    ⟨[], [], .empty⟩

end Adapted

/-- What a file of the cache holds. -/
structure CacheEntry where
  /-- The digest of the salt and the source. -/
  hash : Text
  /-- The adapted script. -/
  adapted : Adapted
  deriving Repr, DecidableEq

namespace CacheEntry

/-- An entry as JSON. -/
def toJson (e : CacheEntry) : Json.Value :=
  .obj [("hash", .str e.hash), ("rewrite", e.adapted.toJson)]

/-- Reads an entry, both of whose fields must occur. -/
def decoder : Json.Decoder CacheEntry :=
  Json.Shape.decoder
    { name := "struct CacheEntry"
      complete := true
      fields :=
        [.of "hash" Json.string (fun t e => { e with hash := t }),
          .of "rewrite" Adapted.decoder (fun r e => { e with adapted := r })] }
    ⟨[], ⟨[], [], .empty⟩⟩

end CacheEntry

/-! ## §2. The cache. -/

/-- A cache: its directory, and what salts its keys. -/
structure ScriptCache where
  /-- The directory. -/
  dir : Text
  /-- The salt; it differs whenever one source could be adapted in two ways. -/
  salt : Text
  deriving Repr, DecidableEq

namespace ScriptCache

/-- Opens a cache.  Its directory is made if there is none. -/
def «open» (dir salt : Text) : Effect ScriptCache := do
  unless ← World.existsAt dir do
    match ← World.makeDirAll dir with
    | .ok () => pure ()
    | .error e => World.warn (.noCacheDir dir e)
  return ⟨dir, salt⟩

/-- The key of a source. -/
def key (c : ScriptCache) (source : Text) : Text :=
  Sha256.hex ((Text.encode c.salt).toList ++ 0 :: (Text.encode source).toList)

/-- The file of a key. -/
def entryPath (c : ScriptCache) (key : Text) : Text := Path.join c.dir (key ++ ".json".toList)

/-- Looks a source up. -/
def get? (c : ScriptCache) (source : Text) : Effect (Option Adapted) := do
  let key := c.key source
  let path := c.entryPath key
  match ← World.readText path with
  | .error _ => return none
  | .ok t =>
    match CacheEntry.decoder.decode t with
    | .error e =>
      World.warn (.corruptEntry path e)
      let _ ← World.change (fun s => s.removeFile path)
      return none
    | .ok e => return if e.hash = key then some e.adapted else none

/-- Stores an adapted script for a source. -/
def set (c : ScriptCache) (source : Text) (r : Adapted) : Effect Unit := do
  let key := c.key source
  let path := c.entryPath key
  match ← World.write path (CacheEntry.toJson ⟨key, r⟩).text with
  | .ok () => pure ()
  | .error e => World.warn (.cacheNotWritten path e)

end ScriptCache

end ScriptWeave
