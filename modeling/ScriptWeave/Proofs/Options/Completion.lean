/-
  ScriptWeave.Proofs.Options.Completion
  ─────────────────────────────────────
  **WHAT A CONFIGURATION LEAVES OUT HAS ITS DEFAULT.**

  A configuration may list any of the fields of options, and of the command
  and the dialect in them, in any layout.  It stands for the options that
  have these fields and the defaults elsewhere, and what is wrong with these
  options as a whole is found only then.

      t lists the fields `l` of o
        →  Options.parse t = ok (o.completed l)      if that is acceptable

  A field that is read sets one part of the options and keeps the others, so
  what was read before it only counts as the set of its fields.
-/
import ScriptWeave.Proofs.Options.ReadBack

namespace ScriptWeave

open Json

/-! ## §1. Completed options. -/

/-- Which fields are listed: of options, of the command, and of the dialect. -/
structure ListedFields where
  /-- The fields of options. -/
  options : List Text
  /-- The fields of the command. -/
  compiler : List Text
  /-- The fields of the dialect. -/
  dialect : List Text

/-- A value if a name is listed, and its default otherwise. -/
def ifListed {α : Type} (names : List Text) (name : Text) (a default : α) : α :=
  if names.contains name then a else default

/-- The command with some fields of another one, and the defaults elsewhere. -/
def CompilerCommand.completed (c : CompilerCommand) (names : List Text) : CompilerCommand where
  program := ifListed names "program" c.program builtin.program
  args := ifListed names "args" c.args builtin.args
  workingDir := ifListed names "workingDir" c.workingDir builtin.workingDir

/-- The dialect with some fields of another one, and the defaults elsewhere. -/
def Dialect.completed (d : Dialect) (names : List Text) : Dialect where
  exportPattern := ifListed names "exportPattern" d.exportPattern builtin.exportPattern
  aliasSeparator := ifListed names "aliasSeparator" d.aliasSeparator builtin.aliasSeparator
  sigil := ifListed names "sigil" d.sigil builtin.sigil
  sigilReplacement := ifListed names "sigilReplacement" d.sigilReplacement builtin.sigilReplacement
  functionScopedKeyword :=
    ifListed names "functionScopedKeyword" d.functionScopedKeyword builtin.functionScopedKeyword
  blockScopedKeyword :=
    ifListed names "blockScopedKeyword" d.blockScopedKeyword builtin.blockScopedKeyword

/-- The options with some fields of others, and the defaults elsewhere; a command or a dialect
that is listed is completed itself. -/
def Options.completed (o : Options) (l : ListedFields) : Options where
  lang := ifListed l.options "lang" o.lang builtin.lang
  scratchDir := ifListed l.options "scratchDir" o.scratchDir builtin.scratchDir
  scratchStem := ifListed l.options "scratchStem" o.scratchStem builtin.scratchStem
  scratchExtension :=
    ifListed l.options "scratchExtension" o.scratchExtension builtin.scratchExtension
  keepScratch := ifListed l.options "keepScratch" o.keepScratch builtin.keepScratch
  compiler := ifListed l.options "compiler" (o.compiler.completed l.compiler) builtin.compiler
  outputJs := ifListed l.options "outputJs" o.outputJs builtin.outputJs
  outputMap := ifListed l.options "outputMap" o.outputMap builtin.outputMap
  cache := ifListed l.options "cache" o.cache builtin.cache
  cacheDir := ifListed l.options "cacheDir" o.cacheDir builtin.cacheDir
  componentExtensions :=
    ifListed l.options "componentExtensions" o.componentExtensions builtin.componentExtensions
  renameOrder := ifListed l.options "renameOrder" o.renameOrder builtin.renameOrder
  outputCheck := ifListed l.options "outputCheck" o.outputCheck builtin.outputCheck
  dialect := ifListed l.options "dialect" (o.dialect.completed l.dialect) builtin.dialect

/-! ## §2. Texts of fields. -/

/-- What may be written for the fields of a command. -/
def CompilerCommand.fieldTexts (c : CompilerCommand) : FieldTexts :=
  [("program", IsStringOf c.program),
    ("args", IsArrayOf IsStringOf c.args),
    ("workingDir", IsStringOf c.workingDir)]

/-- What may be written for the fields of a dialect. -/
def Dialect.fieldTexts (d : Dialect) : FieldTexts :=
  [("exportPattern", IsStringOf d.exportPattern),
    ("aliasSeparator", IsStringOf d.aliasSeparator),
    ("sigil", IsStringOf [d.sigil]),
    ("sigilReplacement", IsStringOf d.sigilReplacement),
    ("functionScopedKeyword", IsStringOf d.functionScopedKeyword),
    ("blockScopedKeyword", IsStringOf d.blockScopedKeyword)]

namespace Options

/-- What may be written for the fields of options, if the command and the dialect list some of
their fields. -/
def fieldTexts (o : Options) (l : ListedFields) : FieldTexts :=
  [("lang", IsStringOf o.lang),
    ("scratchDir", IsStringOf o.scratchDir),
    ("scratchStem", IsStringOf o.scratchStem),
    ("scratchExtension", IsStringOf o.scratchExtension),
    ("keepScratch", IsBoolOf o.keepScratch),
    ("compiler", IsRecordOf o.compiler.fieldTexts l.compiler),
    ("outputJs", IsStringOf o.outputJs),
    ("outputMap", IsNullOr IsStringOf o.outputMap),
    ("cache", IsBoolOf o.cache),
    ("cacheDir", IsStringOf o.cacheDir),
    ("componentExtensions", IsArrayOf IsStringOf o.componentExtensions),
    ("renameOrder", IsStringOf o.renameOrder.name),
    ("outputCheck", IsStringOf o.outputCheck.name),
    ("dialect", IsRecordOf o.dialect.fieldTexts l.dialect)]

/-- Whether a text is a configuration that lists some fields of options, of their command and
of their dialect, each once, beside whatever else. -/
def IsListedIn (o : Options) (l : ListedFields) (t : Text) : Prop :=
  ∃ w u w', IsBlank w ∧ IsRecordOf (o.fieldTexts l) l.options u ∧ IsBlank w' ∧ t = w ++ (u ++ w')

end Options

/-! ## §3. Reading the fields. -/

section

variable {α : Type} {names names' seen : List Text} {name other : Text} {a default : α}

theorem ifListed_self : ifListed (name :: seen) name a default = a :=
  if_pos (List.contains_iff_mem.mpr List.mem_cons_self)

/-- A field is listed or not, whichever other field comes to be listed. -/
theorem ifListed_of_ne (h : name ≠ other) :
    ifListed (other :: seen) name a default = ifListed seen name a default := by
  simp [ifListed, h]

theorem ifListed_nil : ifListed [] name a default = default := rfl

/-- Only which names are listed counts. -/
theorem ifListed_congr (h : ∀ name, name ∈ names ↔ name ∈ names') :
    (@ifListed α names) = ifListed names' := by
  funext name a default
  simp only [ifListed, List.contains_iff_mem, h]

end

theorem CompilerCommand.completed_nil (c : CompilerCommand) : c.completed [] = builtin := by
  simp only [completed, ifListed_nil]

theorem Dialect.completed_nil (d : Dialect) : d.completed [] = builtin := by
  simp only [completed, ifListed_nil]

/-- A command is read from each of its layouts. -/
theorem CompilerCommand.decoder_readsText {c : CompilerCommand} {names : List Text} {t : Text}
    (h : IsRecordOf c.fieldTexts names t) : decoder.ReadsText t (c.completed names) := by
  have hstate : ∀ names', (∀ name, name ∈ names' ↔ name ∈ names) →
      c.completed names' = c.completed names := by
    intro names' hnames
    simp only [completed, ifListed_congr hnames]
  refine Shape.decoder_readsText c.completed c.completed_nil.symm hstate rfl ?_ h
  refine .cons ⟨rfl, Shape.sets_of (fun _ => textAs_readsText "a string") fun seen => ?_⟩ <|
    .cons ⟨rfl, Shape.sets_of
      (fun _ h => list_readsText h fun _ _ => textAs_readsText "a string") fun seen => ?_⟩ <|
    .cons ⟨rfl, Shape.sets_of (fun _ => textAs_readsText "path string") fun seen => ?_⟩ .nil
  all_goals simp (disch := decide) only [completed, ifListed_self, ifListed_of_ne]

/-- A dialect is read from each of its layouts. -/
theorem Dialect.decoder_readsText {d : Dialect} {names : List Text} {t : Text}
    (h : IsRecordOf d.fieldTexts names t) : decoder.ReadsText t (d.completed names) := by
  have hstate : ∀ names', (∀ name, name ∈ names' ↔ name ∈ names) →
      d.completed names' = d.completed names := by
    intro names' hnames
    simp only [completed, ifListed_congr hnames]
  refine Shape.decoder_readsText d.completed d.completed_nil.symm hstate rfl ?_ h
  refine .cons ⟨rfl, Shape.sets_of (fun _ => textAs_readsText "a string") fun seen => ?_⟩ <|
    .cons ⟨rfl, Shape.sets_of (fun _ => textAs_readsText "a string") fun seen => ?_⟩ <|
    .cons ⟨rfl, Shape.sets_of (fun _ => character_readsText) fun seen => ?_⟩ <|
    .cons ⟨rfl, Shape.sets_of (fun _ => textAs_readsText "a string") fun seen => ?_⟩ <|
    .cons ⟨rfl, Shape.sets_of (fun _ => textAs_readsText "a string") fun seen => ?_⟩ <|
    .cons ⟨rfl, Shape.sets_of (fun _ => textAs_readsText "a string") fun seen => ?_⟩ .nil
  all_goals simp (disch := decide) only [completed, ifListed_self, ifListed_of_ne]

namespace Options

/-- Options are read from each of their layouts, whether they are acceptable or not. -/
theorem decoder_readsText {o : Options} {l : ListedFields} {t : Text}
    (h : IsRecordOf (o.fieldTexts l) l.options t) : decoder.ReadsText t (o.completed l) := by
  -- The command and the dialect are the same whichever fields occurred before.
  let state (names : List Text) : Options := o.completed { l with options := names }
  have hstart : builtin = state [] := by
    simp only [state, completed, ifListed_nil]
  have hstate : ∀ names, (∀ name, name ∈ names ↔ name ∈ l.options) →
      state names = state l.options := by
    intro names hnames
    simp only [state, completed, ifListed_congr hnames]
  refine Shape.decoder_readsText state hstart hstate rfl ?_ h
  refine .cons ⟨rfl, Shape.sets_of (fun _ => textAs_readsText "a string") fun seen => ?_⟩ <|
    .cons ⟨rfl, Shape.sets_of (fun _ => textAs_readsText "path string") fun seen => ?_⟩ <|
    .cons ⟨rfl, Shape.sets_of (fun _ => textAs_readsText "a string") fun seen => ?_⟩ <|
    .cons ⟨rfl, Shape.sets_of (fun _ => textAs_readsText "a string") fun seen => ?_⟩ <|
    .cons ⟨rfl, Shape.sets_of (fun _ => boolean_readsText) fun seen => ?_⟩ <|
    .cons ⟨rfl, Shape.sets_of (fun _ => CompilerCommand.decoder_readsText) fun seen => ?_⟩ <|
    .cons ⟨rfl, Shape.sets_of (fun _ => textAs_readsText "path string") fun seen => ?_⟩ <|
    .cons ⟨rfl, Shape.sets_of (fun _ => optionalPath_readsText) fun seen => ?_⟩ <|
    .cons ⟨rfl, Shape.sets_of (fun _ => boolean_readsText) fun seen => ?_⟩ <|
    .cons ⟨rfl, Shape.sets_of (fun _ => textAs_readsText "path string") fun seen => ?_⟩ <|
    .cons ⟨rfl, Shape.sets_of
      (fun _ h => list_readsText h fun _ _ => textAs_readsText "a string") fun seen => ?_⟩ <|
    .cons ⟨rfl, Shape.sets_of (fun _ => RenameOrder.decoder_readsText) fun seen => ?_⟩ <|
    .cons ⟨rfl, Shape.sets_of (fun _ => OutputCheck.decoder_readsText) fun seen => ?_⟩ <|
    .cons ⟨rfl, Shape.sets_of (fun _ => Dialect.decoder_readsText) fun seen => ?_⟩ .nil
  all_goals simp (disch := decide) only [state, completed, ifListed_self, ifListed_of_ne]

/-! ## §4. Reading a configuration. -/

/-- **A configuration stands for the fields it lists, and the defaults elsewhere.**  Only the
completed options count for whether they are acceptable, and the first setting that is not is
the one that is reported. -/
theorem parse_of_isListedIn {o : Options} {l : ListedFields} {t : Text} (h : o.IsListedIn l t) :
    parse t =
      if (Text.trim (o.completed l).lang).isEmpty then .error (.setting .blankLang)
      else if (Text.trim (o.completed l).compiler.program).isEmpty then
        .error (.setting .blankProgram)
      else if isPlainStem (o.completed l).scratchStem then .ok (o.completed l)
      else .error (.setting (.stemNotPlain (o.completed l).scratchStem)) := by
  obtain ⟨w, u, w', hw, hu, hw', rfl⟩ := h
  have hdecode : decode (w ++ (u ++ w')) = .ok (o.completed l) := by
    rw [decode, (decoder_readsText hu).decode hw hw']
  simp only [parse, hdecode, validate]
  by_cases hlang : (Text.trim (o.completed l).lang).isEmpty
  · simp only [if_pos hlang]
  by_cases hprogram : (Text.trim (o.completed l).compiler.program).isEmpty
  · simp only [if_neg hlang, if_pos hprogram]
  by_cases hstem : isPlainStem (o.completed l).scratchStem
  · simp only [if_neg hlang, if_neg hprogram, if_pos hstem]
  · simp only [if_neg hlang, if_neg hprogram, if_neg hstem]

/-- Options with a language and a command of their own. -/
def millOptions : Options :=
  { builtin with lang := "sc", compiler := ⟨"mill", ["link"], "build"⟩ }

/-- Two fields, spelt with escapes, after a member that nothing is known of; of the command only
the program is listed, after one more such member. -/
def scatteredConfig : Text :=
  "\n\x7b\"next\": [1e999,\"\\ud800\"], \"compiler\" :".toList
    ++ "\x7b\"next\":null,\"program\":\"m\\u0069ll\"\x7d,\"l\\u0061ng\":\"sc\"\x7d".toList

theorem scatteredConfig_isListedIn :
    millOptions.IsListedIn ⟨["compiler", "lang"], ["program"], []⟩ scatteredConfig := by
  have hnone := isBlank_nil
  have hspace : IsBlank [' '] := by decide
  have hline : IsBlank ['\n'] := by decide
  have hletter (c : Char) (hc : c ≠ '"' ∧ c ≠ '\\' ∧ 0x20 ≤ c.toNat) : SpellsChar c [c] :=
    .plain hc.1 hc.2.1 hc.2.2
  have hnext := spells_escaped "next"
  have hprogram := spells_escaped "program"
  have hcompiler := spells_escaped "compiler"
  have hlang : Spells "lang" ['l', '\\', 'u', '0', '0', '6', '1', 'n', 'g'] :=
    .cons (hletter 'l' (by decide)) <|
      .cons (.number (x := 'a') ⟨by decide, by decide, by decide, by decide⟩) (spells_escaped "ng")
  have hmill : Spells "mill" ['m', '\\', 'u', '0', '0', '6', '9', 'l', 'l'] :=
    .cons (hletter 'm' (by decide)) <|
      .cons (.number (x := 'i') ⟨by decide, by decide, by decide, by decide⟩) (spells_escaped "ll")
  have hone : IsNumber ['1', 'e', '9', '9', '9'] := by
    refine ⟨[], ['1'], [], ['e', '9', '9', '9'], rfl, .inl rfl, ?_, .inl rfl, ?_⟩
    · exact .inr ⟨⟨by decide, List.all_eq_true.mp rfl⟩, by decide⟩
    · exact .inr ⟨'e', [], ['9', '9', '9'], rfl, .inl rfl, .inl rfl, by decide,
        List.all_eq_true.mp rfl⟩
  have hlone : IsStringBody ['\\', 'u', 'd', '8', '0', '0'] :=
    .number (n := 0xd800) ⟨by decide, by decide, by decide, by decide⟩ .nil
  have hvalue : IsValue "[1e999,\"\\ud800\"]" :=
    .array hnone (.item (.number hone) hnone hnone (.lastItem (.string hlone) hnone))
  have hcommand : IsRecordOf millOptions.compiler.fieldTexts ["program"]
      "\x7b\"next\":null,\"program\":\"m\\u0069ll\"\x7d" := by
    refine ⟨[("next", "null"), ("program", "\"m\\u0069ll\"")], ?_, by decide, ?_, ?_⟩
    · exact .members hnone
        (.member hnext hnone hnone hnone hnone (.last hprogram hnone hnone hnone))
    · exact fun name => Iff.rfl
    · rw [List.forall_mem_cons, List.forall_mem_singleton]
      exact ⟨.null, _, hmill, rfl⟩
  have hoptions : IsRecordOf (millOptions.fieldTexts ⟨["compiler", "lang"], ["program"], []⟩)
      ["compiler", "lang"] (scatteredConfig.drop 1) := by
    refine ⟨[("next", "[1e999,\"\\ud800\"]"),
      ("compiler", "\x7b\"next\":null,\"program\":\"m\\u0069ll\"\x7d"), ("lang", "\"sc\"")],
      ?_, by decide, ?_, ?_⟩
    · exact .members hnone (.member hnext hnone hspace hnone hspace
        (.member hcompiler hspace hnone hnone hnone (.last hlang hnone hnone hnone)))
    · exact fun name => Iff.rfl
    · rw [List.forall_mem_cons, List.forall_mem_cons, List.forall_mem_singleton]
      exact ⟨hvalue, hcommand, isStringOf_text "sc"⟩
  exact ⟨['\n'], _, [], hline, hoptions, hnone, rfl⟩

theorem parse_scatteredConfig :
    millOptions.IsListedIn ⟨["compiler", "lang"], ["program"], []⟩ scatteredConfig
      ∧ parse scatteredConfig
        = .ok { builtin with lang := "sc", compiler := ⟨"mill", ["fastOptJS"], "."⟩ } :=
  ⟨scatteredConfig_isListedIn, parse_of_isListedIn scatteredConfig_isListedIn⟩

end Options

end ScriptWeave
