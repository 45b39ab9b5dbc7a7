/-
  ScriptWeave.Dialect.Rules
  ─────────────────────────
  **A DIALECT MADE READY.**

  The patterns of a dialect are read before any script is adapted, so a
  malformed dialect is refused at once.  The export pattern comes first,
  then its groups, then the separator, then the keyword.  The keyword is no
  pattern: one is written for it, in which it stands as it is, between two
  edges of words.
-/
import ScriptWeave.Dialect.Basic
import ScriptWeave.Pattern.Parse
import ScriptWeave.Pattern.Scan
import ScriptWeave.SetupError

namespace ScriptWeave

/-! ## §1. Rules. -/

/-- What is needed of a dialect to adapt scripts. -/
structure DialectRules where
  /-- The export statement. -/
  exportStatement : Pattern
  /-- What stands between the names of an entry. -/
  aliasSeparator : Pattern
  /-- The keyword of function-scoped declarations as a whole word. -/
  declaration : Pattern
  /-- The character that must not remain. -/
  sigil : Char
  /-- What stands for it. -/
  sigilReplacement : Text
  /-- What stands for the keyword. -/
  blockScopedKeyword : Text
  /-- The fingerprint of the dialect. -/
  fingerprint : Text
  deriving Repr, DecidableEq

/-- A text as a whole word: both of its ends are edges of words. -/
def Pattern.wholeWord (t : Text) : Pattern :=
  { node := .ofList (.anchor .wordEdge :: (Node.chars t ++ [.anchor .wordEdge])) }

/-- What is written for a text as a whole word. -/
def Pattern.wholeWordText (t : Text) : Text :=
  '\\' :: 'b' :: (Pattern.escape t ++ ['\\', 'b'])

namespace Dialect

/-- Reads a pattern of a dialect. -/
def readPattern (field : PatternField) (t : Text) : Except SetupError Pattern :=
  match Pattern.parse t with
  | .ok p => .ok p
  | .error e => .error (.pattern field e)

/-- The rules of a dialect. -/
def rules (d : Dialect) : Except SetupError DialectRules := do
  let exportStatement ← readPattern .exportPattern d.exportPattern
  if exportStatement.groups = 0 then throw (.setting .noListGroup)
  let aliasSeparator ← readPattern .aliasSeparator d.aliasSeparator
  if (Text.trim d.functionScopedKeyword).isEmpty then throw (.setting .blankKeyword)
  let declaration ←
    readPattern .functionScopedKeyword (Pattern.wholeWordText d.functionScopedKeyword)
  return {
    exportStatement, aliasSeparator, declaration
    sigil := d.sigil
    sigilReplacement := d.sigilReplacement
    blockScopedKeyword := d.blockScopedKeyword
    fingerprint := d.fingerprint }

/-- **When a dialect is accepted**, and what its rules are then. -/
theorem rules_eq_ok_iff {d : Dialect} {rules : DialectRules} :
    d.rules = .ok rules ↔
      ∃ e s k, readPattern .exportPattern d.exportPattern = .ok e ∧ e.groups ≠ 0
        ∧ readPattern .aliasSeparator d.aliasSeparator = .ok s
        ∧ (Text.trim d.functionScopedKeyword).isEmpty = false
        ∧ readPattern .functionScopedKeyword (Pattern.wholeWordText d.functionScopedKeyword) = .ok k
        ∧ rules = ⟨e, s, k, d.sigil, d.sigilReplacement, d.blockScopedKeyword, d.fingerprint⟩ := by
  unfold Dialect.rules
  cases readPattern .exportPattern d.exportPattern with
  | error e => simp [bind, Except.bind]
  | ok e =>
    by_cases he : e.groups = 0
    · simp [bind, Except.bind, he, throw, throwThe, MonadExceptOf.throw]
    cases readPattern .aliasSeparator d.aliasSeparator with
    | error e' => simp [bind, Except.bind, he]
    | ok s =>
      -- both patterns are read, so the keyword decides
      by_cases hk : (Text.trim d.functionScopedKeyword).isEmpty = true
      · simp [bind, Except.bind, he, hk, throw, throwThe, MonadExceptOf.throw]
      cases readPattern .functionScopedKeyword (Pattern.wholeWordText d.functionScopedKeyword) with
      | error e' => simp [bind, Except.bind, he, hk]
      | ok k =>
        simp [bind, Except.bind, he, hk, pure, Except.pure]
        exact eq_comm

end Dialect

/-! ## §2. The rules of the built-in dialect. -/

/-- The rules of the built-in dialect: the word `export`, a list in braces and a semicolon;
the word `as` behind white space, before white space or the end; the word `var`. -/
def DialectRules.builtin : DialectRules where
  exportStatement :=
    { node := .ofList
        (Pattern.Node.chars "export"
          ++ [.many .blank, .char (.single '{'),
            .group 1 (.many1 (.compl (.single '}'))),
            .char (.single '}'), .many .blank, .char (.single ';')]) }
  aliasSeparator :=
    { node := .ofList
        (.many1 .blank :: Pattern.Node.chars "as" ++ [.alt (.many1 .blank) (.anchor .textEnd)]) }
  declaration := Pattern.wholeWord "var"
  sigil := '$'
  sigilReplacement := "scala_"
  blockScopedKeyword := "let"
  fingerprint := Dialect.builtin.fingerprint

/-- The built-in dialect is well formed. -/
theorem Dialect.rules_builtin : Dialect.builtin.rules = .ok .builtin := by
  rfl

end ScriptWeave
