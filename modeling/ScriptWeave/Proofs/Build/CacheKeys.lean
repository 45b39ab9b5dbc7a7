/-
  ScriptWeave.Proofs.Build.CacheKeys
  ──────────────────────────────────
  **WHAT THE KEY OF AN ENTRY TELLS APART.**

  The key of an entry is the digest of the salt of the cache, the character
  U+0000 and the source.  No salt has that character, so the message that is
  digested determines the salt and the source.  A salt, in turn, determines
  the dialect, the order of renames and the fingerprint of the set-up, as
  long as the dialect has no separator of fingerprints.

      same message  ↔  same salt, same source
      same salt     →  every script is adapted alike

  So an entry is never handed out to a configuration that would adapt the
  compiled script in another way.
-/
import ScriptWeave.Proofs.Build.Transparency
import ScriptWeave.Proofs.Options.Fingerprints

namespace ScriptWeave

/-! ## §1. Messages. -/

theorem Text.encode_append (t u : Text) : encode (t ++ u) = encode t ++ encode u := by
  simp [encode]

namespace ScriptCache

/-- A message is the salt and the source as one text. -/
theorem message_eq (c : ScriptCache) (source : Text) :
    c.message source = (Text.encode (c.salt ++ '\x00' :: source)).toList := by
  have hnul : (Text.encode ['\x00']).data.toList = [0] := rfl
  have htext : c.salt ++ '\x00' :: source = c.salt ++ (['\x00'] ++ source) := rfl
  rw [htext, Text.encode_append, Text.encode_append, message, toList_eq, toList_eq, toList_eq,
    ByteArray.data_append, ByteArray.data_append, Array.toList_append, Array.toList_append, hnul,
    List.singleton_append]

/-- **A message determines the salt and the source**, if no salt has the character between
them. -/
theorem message_eq_message_iff {c c' : ScriptCache} (hc : '\x00' ∉ c.salt) (hc' : '\x00' ∉ c'.salt)
    {source source' : Text} :
    c.message source = c'.message source' ↔ c.salt = c'.salt ∧ source = source' := by
  constructor
  · intro h
    rw [message_eq, message_eq] at h
    -- both texts are cut at the first such character
    have htext := toList_encode_injective h
    have hcut := congrArg (Text.splitOn '\x00') htext
    rw [Text.splitOn_append_sep hc, Text.splitOn_append_sep hc'] at hcut
    have hsalt := (List.cons.inj hcut).1
    rw [hsalt] at htext
    exact ⟨hsalt, (List.cons.inj (List.append_cancel_left htext)).2⟩
  · rintro ⟨hsalt, rfl⟩
    rw [message, message, hsalt]

end ScriptCache

/-! ## §2. Salts of preprocessors. -/

namespace Preprocessor

/-- A preprocessor is made of acceptable options, and has a cache if they ask for one. -/
theorem runIn_new_eq_ok_iff {o : Options} {compiler : Compiler} {p : Preprocessor} {w : World} :
    ((Preprocessor.new o compiler).runIn w).1 = .ok p ↔
      ∃ rules, rulesOf o = .ok rules
        ∧ p = ⟨o, rules, compiler, if o.cache then some ⟨o.cacheDir, o.cacheSalt⟩ else none⟩ := by
  rw [runIn_new]
  cases rulesOf o with
  | error e => simp only [reduceCtorEq, false_and, exists_false]
  | ok rules => simp only [Except.ok.injEq, exists_eq_left', eq_comm]

/-- The rules of acceptable options are those of their dialect. -/
theorem rulesOf_eq_rules {o : Options} {rules : DialectRules} (h : rulesOf o = .ok rules) :
    o.dialect.rules = .ok rules := by
  unfold rulesOf at h
  split at h
  next => exact absurd h (by simp)
  next => exact h

/-- **A salt tells configurations apart.**  Preprocessors with one salt have the same dialect,
the same order of renames and the same fingerprint of the set-up, and adapt every compiled script
alike. -/
theorem adapt_eq_of_salt_eq {o o' : Options} {compiler compiler' : Compiler} {p p' : Preprocessor}
    {v v' : World} {c c' : ScriptCache}
    (hp : ((Preprocessor.new o compiler).runIn v).1 = .ok p)
    (hp' : ((Preprocessor.new o' compiler').runIn v').1 = .ok p')
    (hc : p.cache = some c) (hc' : p'.cache = some c')
    (hdialect : o.dialect.Unseparated) (hdialect' : o'.dialect.Unseparated) :
    (c.salt = c'.salt ↔ o.dialect = o'.dialect ∧ o.renameOrder = o'.renameOrder
        ∧ o.toolchainFingerprint = o'.toolchainFingerprint)
      ∧ (c.salt = c'.salt → ∀ source map, adapt p.rules p.options.renameOrder source map
          = adapt p'.rules p'.options.renameOrder source map) := by
  obtain ⟨rules, hrules, rfl⟩ := runIn_new_eq_ok_iff.mp hp
  obtain ⟨rules', hrules', rfl⟩ := runIn_new_eq_ok_iff.mp hp'
  -- a preprocessor with a cache has that of its options
  obtain ⟨-, hopen⟩ := Option.ite_none_right_eq_some.mp hc
  obtain ⟨-, hopen'⟩ := Option.ite_none_right_eq_some.mp hc'
  obtain rfl := Option.some.inj hopen
  obtain rfl := Option.some.inj hopen'
  have hsalt := Options.cacheSalt_eq_iff hdialect hdialect'
  refine ⟨hsalt, ?_⟩
  intro heq source map
  obtain ⟨hsame, horder, -⟩ := hsalt.mp heq
  -- one dialect has one set of rules
  have hok := rulesOf_eq_rules hrules
  have hok' := rulesOf_eq_rules hrules'
  rw [hsame, hok'] at hok
  obtain rfl := Except.ok.inj hok
  show adapt rules' o.renameOrder source map = adapt rules' o'.renameOrder source map
  rw [horder]

/-- The default options with a directory and a path for the compiled script, and a source map. -/
def setUpIn (workingDir outputJs : Text) : Options :=
  { Options.builtin with
    compiler.workingDir := workingDir
    outputJs := outputJs
    outputMap := some "d" }

/-- Two set-ups that differ in where a separator stands have one salt. -/
theorem adapt_eq_of_setUpIn :
    ∃ p p', ((Preprocessor.new (setUpIn "a\x1fb" "c") echoCompiler).runIn bareWorld).1 = .ok p
      ∧ ((Preprocessor.new (setUpIn "a" "b\x1fc") echoCompiler).runIn bareWorld).1 = .ok p'
      ∧ ∃ c c', p.cache = some c ∧ p'.cache = some c' ∧ c.salt = c'.salt
        ∧ ∀ source map, adapt p.rules p.options.renameOrder source map
          = adapt p'.rules p'.options.renameOrder source map := by
  have hnew : ∀ dir js, ((Preprocessor.new (setUpIn dir js) echoCompiler).runIn bareWorld).1
      = .ok ⟨setUpIn dir js, .builtin, echoCompiler,
          some ⟨Options.builtin.cacheDir, (setUpIn dir js).cacheSalt⟩⟩ :=
    fun dir js => runIn_new_eq_ok_iff.mpr ⟨.builtin, Dialect.rules_builtin, rfl⟩
  have hsalt : (setUpIn "a\x1fb" "c").cacheSalt = (setUpIn "a" "b\x1fc").cacheSalt := by decide
  have hdialect : Options.builtin.dialect.Unseparated := by decide
  exact ⟨_, _, hnew _ _, hnew _ _, _, _, rfl, rfl, hsalt,
    (adapt_eq_of_salt_eq (hnew _ _) (hnew _ _) rfl rfl hdialect hdialect).2 hsalt⟩

end Preprocessor

end ScriptWeave
