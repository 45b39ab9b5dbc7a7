/-
  ScriptWeave.Proofs.Options.ReadBack
  ───────────────────────────────────
  **OPTIONS ARE READ BACK FROM THEIR TEXT.**

  Options are a record of fields of seven kinds, and two of these are records
  themselves.  Each kind is read back from what is written for it, whatever
  characters its texts contain, so the record is.

      Options.parse o.toJson.text = ok o       for acceptable options
-/
import ScriptWeave.Options.Format
import ScriptWeave.Proofs.Json.Layout

namespace ScriptWeave

open Json

/-- A list of texts is read back. -/
theorem strings_reads (ts : List Text) : (list string).Reads (.arr (ts.map .str)) ts := by
  refine list_reads ?_
  rw [List.forall₂_map_left_iff]
  exact List.forall₂_same.mpr (fun t _ => textAs_reads "a string" t)

/-- A truth value is read back. -/
theorem boolean_reads (b : Bool) : boolean.Reads (.bool b) b :=
  (boolean_readsText rfl).reads

/-- A path that may be missing is read, however it is written. -/
theorem optionalPath_readsText {o : Option Text} {t : Text} (h : IsNullOr IsStringOf o t) :
    (optional path).ReadsText t o := by
  refine optional_readsText h ?_
  rintro s ⟨u, hu, rfl⟩
  exact ⟨textAs_readsText "path string" ⟨u, hu, rfl⟩, by simp⟩

/-- A path is read back that may be missing. -/
theorem optionalPath_reads (o : Option Text) :
    (optional path).Reads ((o.map Value.str).getD .null) o := by
  refine (optionalPath_readsText ?_).reads
  cases o with
  | none => rfl
  | some t => exact isStringOf_text t

/-- A character is read back. -/
theorem character_reads (c : Char) : character.Reads (.str [c]) c :=
  (character_readsText (isStringOf_text [c])).reads

/-- An order is read from its name, however that is written. -/
theorem RenameOrder.decoder_readsText {o : RenameOrder} {t : Text} (h : IsStringOf o.name t) :
    RenameOrder.decoder.ReadsText t o := by
  refine oneOf_readsText h ?_
  cases o <;> decide

/-- A check is read from its name, however that is written. -/
theorem OutputCheck.decoder_readsText {c : OutputCheck} {t : Text} (h : IsStringOf c.name t) :
    OutputCheck.decoder.ReadsText t c := by
  refine oneOf_readsText h ?_
  cases c <;> decide

theorem RenameOrder.toJson_reads (o : RenameOrder) : RenameOrder.decoder.Reads o.toJson o :=
  (decoder_readsText (isStringOf_text o.name)).reads

theorem OutputCheck.name_reads (c : OutputCheck) : OutputCheck.decoder.Reads (.str c.name) c :=
  (decoder_readsText (isStringOf_text c.name)).reads

/-- A command is read back. -/
theorem CompilerCommand.toJson_reads (c : CompilerCommand) :
    CompilerCommand.decoder.Reads c.toJson c := by
  have hnames : List.Nodup (["program", "args", "workingDir"] : List Text) := by decide
  refine Shape.decoder_reads ?_ hnames rfl
  refine .of rfl (textAs_reads "a string" c.program) ?_
  refine .of rfl (strings_reads c.args) ?_
  refine .of rfl (textAs_reads "path string" c.workingDir) ?_
  exact .done c

/-- A dialect is read back. -/
theorem Dialect.toJson_reads (d : Dialect) : Dialect.decoder.Reads d.toJson d := by
  have hnames : List.Nodup (["exportPattern", "aliasSeparator", "sigil", "sigilReplacement",
    "functionScopedKeyword", "blockScopedKeyword"] : List Text) := by decide
  refine Shape.decoder_reads ?_ hnames rfl
  refine .of rfl (textAs_reads "a string" d.exportPattern) ?_
  refine .of rfl (textAs_reads "a string" d.aliasSeparator) ?_
  refine .of rfl (character_reads d.sigil) ?_
  refine .of rfl (textAs_reads "a string" d.sigilReplacement) ?_
  refine .of rfl (textAs_reads "a string" d.functionScopedKeyword) ?_
  refine .of rfl (textAs_reads "a string" d.blockScopedKeyword) ?_
  exact .done d

namespace Options

/-- Options are read back, whether they are acceptable or not. -/
theorem toJson_reads (o : Options) : decoder.Reads o.toJson o := by
  have hnames : List.Nodup (["lang", "scratchDir", "scratchStem", "scratchExtension",
    "keepScratch", "compiler", "outputJs", "outputMap", "cache", "cacheDir",
    "componentExtensions", "renameOrder", "outputCheck", "dialect"] : List Text) := by decide
  refine Shape.decoder_reads ?_ hnames rfl
  refine .of rfl (textAs_reads "a string" o.lang) ?_
  refine .of rfl (textAs_reads "path string" o.scratchDir) ?_
  refine .of rfl (textAs_reads "a string" o.scratchStem) ?_
  refine .of rfl (textAs_reads "a string" o.scratchExtension) ?_
  refine .of rfl (boolean_reads o.keepScratch) ?_
  refine .of rfl o.compiler.toJson_reads ?_
  refine .of rfl (textAs_reads "path string" o.outputJs) ?_
  refine .of rfl (optionalPath_reads o.outputMap) ?_
  refine .of rfl (boolean_reads o.cache) ?_
  refine .of rfl (textAs_reads "path string" o.cacheDir) ?_
  refine .of rfl (strings_reads o.componentExtensions) ?_
  refine .of rfl o.renameOrder.toJson_reads ?_
  refine .of rfl o.outputCheck.name_reads ?_
  refine .of rfl o.dialect.toJson_reads ?_
  exact .done o

/-- **Acceptable options are read back from their text**, whatever characters they contain. -/
theorem parse_toJson {o : Options} (h : o.validate = .ok ()) : parse o.toJson.text = .ok o := by
  rw [parse, decode, o.toJson_reads.decode_text]
  simp only [h]

/-- Options with quotes, backslashes, control characters and characters beyond U+FFFF, without
arguments, and with several extensions. -/
def unusualOptions : Options :=
  { builtin with
    lang := "s\"c\\a\u0001\nla"
    scratchStem := "a b\t\u2028"
    keepScratch := true
    compiler := ⟨"\x00sbt", [], "\x7f"⟩
    outputMap := some "𝄞/\"map\""
    componentExtensions := ["svelte", "", "\\"]
    renameOrder := .longestFirst
    outputCheck := .deny
    dialect.sigil := '𝄞'
    dialect.sigilReplacement := "\"𝄞\"" }

theorem parse_toJson_unusualOptions :
    unusualOptions.validate = .ok () ∧ parse unusualOptions.toJson.text = .ok unusualOptions :=
  have h : unusualOptions.validate = .ok () := rfl
  ⟨h, parse_toJson h⟩

end Options

end ScriptWeave
