/-
  ScriptWeave.Script.Words
  ────────────────────────
  **SIGILS AND DECLARATIONS.**

  The sigil of a dialect is replaced wherever it stands, and the keyword of
  function-scoped declarations wherever it stands as a whole word.  Neither
  looks at what the text means, so strings and comments change too, and what
  is put in stays as it is.
-/
import ScriptWeave.Dialect.Rules

namespace ScriptWeave

/-- Replaces the sigil. -/
def sanitize (rules : DialectRules) (source : Text) : Text :=
  if source.contains rules.sigil then Text.replace [rules.sigil] rules.sigilReplacement source
  else source

/-- Replaces the keyword of function-scoped declarations. -/
def downgrade (rules : DialectRules) (source : Text) : Text :=
  rules.declaration.replaceAll (fun _ => rules.blockScopedKeyword) source

end ScriptWeave
