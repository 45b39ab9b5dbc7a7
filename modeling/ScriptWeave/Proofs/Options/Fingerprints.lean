/-
  ScriptWeave.Proofs.Options.Fingerprints
  ───────────────────────────────────────
  **WHAT FINGERPRINTS TELL APART.**

  A fingerprint joins texts by a character that none of them has, so every
  part of it can be read off again.  One part is the command on one line, and
  a line joins by blanks, which a program and its arguments may well have: it
  determines the words between the blanks and not which of them are one
  argument.

      same fingerprint  ↔  same words, same directory, same two files
      same salt         ↔  same dialect, same order, same fingerprint

  A set-up is determined if no part of its command has a blank
  (`toolchainFingerprint_eq_iff_words`), and is not in general
  (`exists_shared_fingerprint`).  For a salt only the dialect must be free of
  the character: the fingerprint comes last, and may have any.
-/
import ScriptWeave.Options.Basic
import ScriptWeave.Proofs.Text.Cuts

namespace ScriptWeave

open Dialect (unitSeparator)

/-! ## §1. Commands on one line. -/

namespace CompilerCommand

variable {c c' : CompilerCommand}

/-- The program and its arguments. -/
def parts (c : CompilerCommand) : List Text := c.program :: c.args

/-- What stands between the blanks of a command. -/
def words (c : CompilerCommand) : List Text := c.parts.flatMap (Text.splitOn ' ')

/-- Whether no part of a command has a blank. -/
def IsBlankless (c : CompilerCommand) : Prop := ∀ t ∈ c.parts, ' ' ∉ t

instance (c : CompilerCommand) : Decidable c.IsBlankless :=
  inferInstanceAs (Decidable (∀ t ∈ c.parts, ' ' ∉ t))

theorem line_eq_line_iff : c.line = c'.line ↔ c.words = c'.words :=
  Text.join_eq_join_iff (List.cons_ne_nil _ _) (List.cons_ne_nil _ _)

theorem words_eq_parts (h : c.IsBlankless) : c.words = c.parts :=
  Text.flatMap_splitOn_eq_self h

/-- Without blanks, words and directory are all there is to a command. -/
theorem eq_of_words_eq (h : c.IsBlankless) (h' : c'.IsBlankless) (hwords : c.words = c'.words)
    (hdir : c.workingDir = c'.workingDir) : c = c' := by
  rw [words_eq_parts h, words_eq_parts h'] at hwords
  obtain ⟨hprogram, hargs⟩ := List.cons.inj hwords
  cases c
  cases c'
  subst hprogram hargs hdir
  rfl

end CompilerCommand

/-! ## §2. Texts without the separator. -/

/-- The texts of a dialect. -/
def Dialect.texts (d : Dialect) : List Text :=
  [d.exportPattern, d.aliasSeparator, [d.sigil], d.sigilReplacement, d.functionScopedKeyword,
    d.blockScopedKeyword]

theorem Dialect.eq_of_texts_eq {d d' : Dialect} (h : d.texts = d'.texts) : d = d' := by
  cases d
  cases d'
  simp only [Dialect.texts, List.cons.injEq, and_true] at h
  obtain ⟨rfl, rfl, rfl, rfl, rfl, rfl⟩ := h
  rfl

/-- Whether no text of a dialect has the separator of fingerprints. -/
def Dialect.Unseparated (d : Dialect) : Prop := ∀ t ∈ d.texts, unitSeparator ∉ t

instance (d : Dialect) : Decidable d.Unseparated :=
  inferInstanceAs (Decidable (∀ t ∈ d.texts, unitSeparator ∉ t))

/-- The texts of a dialect can be read off its fingerprint. -/
theorem Dialect.Unseparated.splitOn_fingerprint {d : Dialect} (h : d.Unseparated) :
    Text.splitOn unitSeparator d.fingerprint = d.texts :=
  Text.splitOn_join (List.cons_ne_nil _ _) h

namespace Options

variable {o o' : Options}

/-- The texts of options. -/
def texts (o : Options) : List Text :=
  [o.lang, o.scratchDir, o.scratchStem, o.scratchExtension] ++ o.compiler.parts
    ++ [o.compiler.workingDir, o.outputJs] ++ o.outputMap.toList ++ [o.cacheDir]
    ++ o.componentExtensions ++ o.dialect.texts

/-- Whether no text of some options has the separator of fingerprints. -/
def Unseparated (o : Options) : Prop := ∀ t ∈ o.texts, unitSeparator ∉ t

instance (o : Options) : Decidable o.Unseparated :=
  inferInstanceAs (Decidable (∀ t ∈ o.texts, unitSeparator ∉ t))

/-- What the fingerprint of a set-up joins. -/
def setupParts (o : Options) : List Text :=
  [o.compiler.line, o.compiler.workingDir, o.outputJs, o.outputMapPath]

theorem Unseparated.line (h : o.Unseparated) : unitSeparator ∉ o.compiler.line := by
  intro hin
  rcases Text.mem_join hin with hc | ⟨t, ht, hc⟩
  · exact absurd hc (by decide)
  · refine h t ?_ hc
    simp only [texts, List.mem_append]
    exact Or.inl (Or.inl (Or.inl (Or.inl (Or.inl (Or.inr ht)))))

theorem Unseparated.outputJs (h : o.Unseparated) : unitSeparator ∉ o.outputJs :=
  h _ (by simp [texts])

theorem Unseparated.outputMapPath (h : o.Unseparated) : unitSeparator ∉ o.outputMapPath := by
  rw [Options.outputMapPath]
  cases hmap : o.outputMap with
  | none =>
    rw [Option.getD_none, List.mem_append]
    rintro (hin | hin)
    · exact h.outputJs hin
    · exact absurd hin (by decide)
  | some t => exact h t (by simp [texts, hmap])

theorem Unseparated.setupParts (h : o.Unseparated) : ∀ t ∈ o.setupParts, unitSeparator ∉ t := by
  intro t ht
  simp only [Options.setupParts, List.mem_cons, List.not_mem_nil, or_false] at ht
  rcases ht with rfl | rfl | rfl | rfl
  · exact h.line
  · exact h _ (by simp [texts])
  · exact h.outputJs
  · exact h.outputMapPath

/-! ## §3. Fingerprints of set-ups. -/

/-- The parts of a set-up can be read off its fingerprint. -/
theorem splitOn_toolchainFingerprint (h : o.Unseparated) :
    Text.splitOn unitSeparator o.toolchainFingerprint = o.setupParts :=
  Text.splitOn_join (List.cons_ne_nil _ _) h.setupParts

/-- Fingerprints are the same if and only if their parts are. -/
theorem toolchainFingerprint_eq_iff (h : o.Unseparated) (h' : o'.Unseparated) :
    o.toolchainFingerprint = o'.toolchainFingerprint ↔ o.setupParts = o'.setupParts := by
  constructor
  · intro heq
    rw [← splitOn_toolchainFingerprint h, heq, splitOn_toolchainFingerprint h']
  · exact congrArg (Text.join [unitSeparator])

/-- **What a fingerprint determines**: the words of the command, its directory and the two
files it leaves, and the whole set-up if no part of the command has a blank. -/
theorem toolchainFingerprint_eq_iff_words (h : o.Unseparated) (h' : o'.Unseparated) :
    (o.toolchainFingerprint = o'.toolchainFingerprint ↔
      o.compiler.words = o'.compiler.words ∧ o.compiler.workingDir = o'.compiler.workingDir ∧
        o.outputJs = o'.outputJs ∧ o.outputMapPath = o'.outputMapPath) ∧
    (o.compiler.IsBlankless → o'.compiler.IsBlankless →
      (o.toolchainFingerprint = o'.toolchainFingerprint ↔
        o.compiler = o'.compiler ∧ o.outputJs = o'.outputJs ∧
          o.outputMapPath = o'.outputMapPath)) := by
  have hwords : o.toolchainFingerprint = o'.toolchainFingerprint ↔
      o.compiler.words = o'.compiler.words ∧ o.compiler.workingDir = o'.compiler.workingDir ∧
        o.outputJs = o'.outputJs ∧ o.outputMapPath = o'.outputMapPath := by
    rw [toolchainFingerprint_eq_iff h h', setupParts, setupParts]
    simp only [List.cons.injEq, and_true, CompilerCommand.line_eq_line_iff]
  refine ⟨hwords, fun hblank hblank' => ?_⟩
  rw [hwords]
  constructor
  · rintro ⟨hwords, hdir, hfiles⟩
    exact ⟨CompilerCommand.eq_of_words_eq hblank hblank' hwords hdir, hfiles⟩
  · rintro ⟨hcompiler, hfiles⟩
    rw [hcompiler]
    exact ⟨rfl, rfl, hfiles⟩

/-- The default options with the path of the source map spelt out. -/
def builtinMapSpelt : Options :=
  { builtin with outputMap := some "./target/scala-3.3.3/svala-fastopt.js.map" }

/-- Spelling out where the source map is makes no other set-up. -/
theorem toolchainFingerprint_builtinMapSpelt :
    builtin.Unseparated ∧ builtinMapSpelt.Unseparated ∧
      builtin.toolchainFingerprint = builtinMapSpelt.toolchainFingerprint :=
  have h : builtin.Unseparated := by decide
  have h' : builtinMapSpelt.Unseparated := by decide
  ⟨h, h', ((toolchainFingerprint_eq_iff_words h h').2 (by decide) (by decide)).mpr
    ⟨rfl, rfl, by decide⟩⟩

/-- The default options with a shell script for a compiler, and what the script is given. -/
def countingArgs (given : List Text) : Options :=
  { builtin with
    compiler.program := "sh"
    compiler.args :=
      ("-c" : Text) :: ("echo let a = $# > out.js; echo m > out.js.map" : Text) :: given
    outputJs := "out.js" }

/-- **Arguments with blanks are not told apart**: one argument of two words has the
fingerprint and the salt of two arguments, and the script tells how many it is given. -/
theorem exists_shared_fingerprint :
    ∃ o o' : Options, o.validate = .ok () ∧ o'.validate = .ok () ∧ o.Unseparated ∧
      o'.Unseparated ∧ o.toolchainFingerprint = o'.toolchainFingerprint ∧
      o.cacheSalt = o'.cacheSalt ∧ o.compiler.args ≠ o'.compiler.args :=
  ⟨countingArgs ["x y"], countingArgs ["x", "y"], rfl, rfl, by decide, by decide, by decide,
    by decide, by decide⟩

/-! ## §4. Salts. -/

theorem orderTag_injective {r r' : RenameOrder} (h : orderTag r = orderTag r') : r = r' := by
  cases r <;> cases r' <;> first | rfl | exact absurd h (by decide)

/-- The texts of the dialect and the order stand first in a salt, and the fingerprint of the set-up
is all that follows, whatever characters it has. -/
theorem splitOn_cacheSalt (h : o.dialect.Unseparated) :
    Text.splitOn unitSeparator o.cacheSalt
      = o.dialect.texts
        ++ orderTag o.renameOrder :: Text.splitOn unitSeparator o.toolchainFingerprint := by
  have htag : unitSeparator ∉ orderTag o.renameOrder := by
    cases o.renameOrder <;> decide
  rw [cacheSalt, Text.splitOn_join_eq_flatMap (List.cons_ne_nil _ _), List.flatMap_cons,
    List.flatMap_cons, List.flatMap_cons, List.flatMap_nil, List.append_nil,
    h.splitOn_fingerprint, Text.splitOn_of_not_mem htag, List.singleton_append]

/-- **Configurations share the keys of their entries if and only if they have the same
dialect, the same order of renames and the same fingerprint.** -/
theorem cacheSalt_eq_iff (h : o.dialect.Unseparated) (h' : o'.dialect.Unseparated) :
    o.cacheSalt = o'.cacheSalt ↔
      o.dialect = o'.dialect ∧ o.renameOrder = o'.renameOrder ∧
        o.toolchainFingerprint = o'.toolchainFingerprint := by
  constructor
  · intro heq
    -- both dialects have as many texts, so the salts fall apart at the same place
    have hparts := congrArg (Text.splitOn unitSeparator) heq
    rw [splitOn_cacheSalt h, splitOn_cacheSalt h'] at hparts
    obtain ⟨hdialect, hrest⟩ := List.append_inj hparts rfl
    obtain ⟨htag, hsetup⟩ := List.cons.inj hrest
    have hfingerprint := congrArg (Text.join [unitSeparator]) hsetup
    rw [Text.join_splitOn, Text.join_splitOn] at hfingerprint
    exact ⟨Dialect.eq_of_texts_eq hdialect, orderTag_injective htag, hfingerprint⟩
  · rintro ⟨hdialect, horder, hsetup⟩
    rw [cacheSalt, hdialect, horder, hsetup, cacheSalt]

end Options

end ScriptWeave
