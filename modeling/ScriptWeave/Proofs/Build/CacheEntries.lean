/-
  ScriptWeave.Proofs.Build.CacheEntries
  ─────────────────────────────────────
  **CACHE ENTRIES ARE READ BACK AS THEY WERE STORED.**

  An entry is a record of records.  Each is read back because its parts are,
  whatever characters its texts contain.  So no two entries are written the
  same way.

      CacheEntry.decoder.decode e.toJson.text = ok e

  What is left of an entry whose end is missing is refused, wherever it was
  cut, so no part of an entry is taken for another one.
-/
import ScriptWeave.Build.ScriptCache
import ScriptWeave.Proofs.Json.CutTexts

namespace ScriptWeave

open Json

/-! ## §1. Whole texts. -/

theorem AliasTable.entries_reads (t : AliasTable) :
    List.Forall₂ (pair string string).Reads (t.entries.map pairValue) t.entries := by
  rw [List.forall₂_map_left_iff]
  refine List.forall₂_same.mpr ?_
  intro p _
  exact pair_reads (textAs_reads "a string" p.1) (textAs_reads "a string" p.2)

/-- An alias table is read back, with pairs that repeat a name. -/
theorem AliasTable.toJson_reads (t : AliasTable) : AliasTable.decoder.Reads t.toJson t := by
  have hnames : List.Nodup (["entries"] : List Text) := by decide
  refine Shape.decoder_reads ?_ hnames rfl
  refine .of rfl (list_reads t.entries_reads) ?_
  exact .done t

/-- An adapted script is read back. -/
theorem Adapted.toJson_reads (r : Adapted) : Adapted.decoder.Reads r.toJson r := by
  have hnames : List.Nodup (["code", "map", "aliases"] : List Text) := by decide
  refine Shape.decoder_reads ?_ hnames rfl
  refine .of rfl (textAs_reads "a string" r.code) ?_
  refine .of rfl (textAs_reads "a string" r.map) ?_
  refine .of rfl r.aliases.toJson_reads ?_
  exact .done r

namespace CacheEntry

/-- An entry is read back. -/
theorem toJson_reads (e : CacheEntry) : CacheEntry.decoder.Reads e.toJson e := by
  have hnames : List.Nodup (["hash", "rewrite"] : List Text) := by decide
  refine Shape.decoder_reads ?_ hnames rfl
  refine .of rfl (textAs_reads "a string" e.hash) ?_
  refine .of rfl e.adapted.toJson_reads ?_
  exact .done e

/-- **What is stored for an entry is read back as that entry.** -/
theorem decode_toJson (e : CacheEntry) : CacheEntry.decoder.decode e.toJson.text = .ok e :=
  e.toJson_reads.decode_text

/-- **What is cached survives being written and read**: alias tables, whatever pairs they consist
of, adapted scripts, and the entries that hold them, each field as it was.  It is the same whether
the text is read at once or from the bytes of a file.  And different data have different texts. -/
theorem decode_cached_texts :
    (∀ t : AliasTable, AliasTable.decoder.decode t.toJson.text = .ok t)
      ∧ (∀ r : Adapted, Adapted.decoder.decode r.toJson.text = .ok r)
      ∧ (∀ (hash : Text) (r : Adapted),
          CacheEntry.decoder.decode (CacheEntry.toJson ⟨hash, r⟩).text = .ok ⟨hash, r⟩)
      ∧ (∀ e : CacheEntry, (Text.decode? (Text.encode e.toJson.text)).map CacheEntry.decoder.decode
          = some (.ok e))
      ∧ (∀ t u : AliasTable, t.toJson.text = u.toJson.text ↔ t = u)
      ∧ (∀ r q : Adapted, r.toJson.text = q.toJson.text ↔ r = q)
      ∧ (∀ e f : CacheEntry, e.toJson.text = f.toJson.text ↔ e = f) := by
  have hbytes (e : CacheEntry) : (Text.decode? (Text.encode e.toJson.text)).map
      CacheEntry.decoder.decode = some (.ok e) := by
    rw [Text.decode?_encode, Option.map_some, e.decode_toJson]
  have htables (t u : AliasTable) : t.toJson.text = u.toJson.text ↔ t = u :=
    ⟨t.toJson_reads.text_injective u.toJson_reads, fun h => h ▸ rfl⟩
  have hscripts (r q : Adapted) : r.toJson.text = q.toJson.text ↔ r = q :=
    ⟨r.toJson_reads.text_injective q.toJson_reads, fun h => h ▸ rfl⟩
  have hentries (e f : CacheEntry) : e.toJson.text = f.toJson.text ↔ e = f :=
    ⟨e.toJson_reads.text_injective f.toJson_reads, fun h => h ▸ rfl⟩
  exact ⟨fun t => t.toJson_reads.decode_text, fun r => r.toJson_reads.decode_text,
    fun hash r => decode_toJson ⟨hash, r⟩, hbytes, htables, hscripts, hentries⟩

/-- A repeated name, a control character, a quote, and characters that stand for themselves. -/
example : (⟨[("$a", "\x00\""), ("$a", "\u2028𝄞")]⟩ : AliasTable).toJson.text
    = "\x7b\"entries\":[[\"$a\",\"\\u0000\\\"\"],[\"$a\",\"\u2028𝄞\"]]\x7d".toList := by decide

end CacheEntry

/-! ## §2. Cut texts. -/

theorem AliasTable.toJson_refusesCut (t : AliasTable) :
    AliasTable.decoder.RefusesCut t.toJson := by
  have hpairs : ∀ v ∈ t.entries.map pairValue, (pair string string).RefusesCut v := by
    refine List.forall_mem_map.mpr ?_
    intro p _
    exact pair_refusesCut (textAs_reads "a string" p.1) (textAs_refusesCut "a string" p.1)
      (textAs_reads "a string" p.2) (textAs_refusesCut "a string" p.2)
  refine Shape.decoder_refusesCut (.of rfl (list_reads t.entries_reads) (.done t)) ?_
  exact .of rfl (list_refusesCut t.entries_reads hpairs) .nil

theorem Adapted.toJson_refusesCut (r : Adapted) : Adapted.decoder.RefusesCut r.toJson := by
  refine Shape.decoder_refusesCut (.of rfl (textAs_reads "a string" r.code)
    (.of rfl (textAs_reads "a string" r.map) (.of rfl r.aliases.toJson_reads (.done r)))) ?_
  refine .of rfl (textAs_refusesCut "a string" r.code) ?_
  refine .of rfl (textAs_refusesCut "a string" r.map) ?_
  exact .of rfl r.aliases.toJson_refusesCut .nil

namespace CacheEntry

theorem toJson_refusesCut (e : CacheEntry) : CacheEntry.decoder.RefusesCut e.toJson := by
  refine Shape.decoder_refusesCut (.of rfl (textAs_reads "a string" e.hash)
    (.of rfl e.adapted.toJson_reads (.done e))) ?_
  refine .of rfl (textAs_refusesCut "a string" e.hash) ?_
  exact .of rfl e.adapted.toJson_refusesCut .nil

/-- **What is left of an entry whose end is missing is no entry.** -/
theorem decode_cut {e : CacheEntry} {t : Text} (h : t.IsCut e.toJson.text) :
    ∃ err, CacheEntry.decoder.decode t = .error err := e.toJson_refusesCut.decode h

end CacheEntry

end ScriptWeave
