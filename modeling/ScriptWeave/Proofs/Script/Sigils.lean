/-
  ScriptWeave.Proofs.Script.Sigils
  ────────────────────────────────
  **SIGILS ARE REPLACED ONE BY ONE.**

  A text is searched for the sigil, a character of one to four bytes, only if
  the sigil is in it.  Whatever the sigil is and whatever stands for it, each
  character becomes what it would become alone:

      sanitize t         =  every sigil replaced, every other character kept
      sanitize (t ++ u)  =  sanitize t ++ sanitize u

  What is put in is not looked at again, so a replacement may contain the
  sigil.  If it does not, no sigil is left, and doing it once more changes
  nothing.
-/
import ScriptWeave.Proofs.Script.Words
import ScriptWeave.Proofs.Text.ByteSearch

namespace ScriptWeave

open Text (utf8Bytes replaceBytes)

/-! ## §1. Character by character. -/

section

variable {rules : DialectRules}

/-- A text is searched with the same result whether the sigil is in it or not. -/
theorem sanitize_eq_replace (rules : DialectRules) (t : Text) :
    sanitize rules t = Text.replace [rules.sigil] rules.sigilReplacement t := by
  rw [sanitize_eq_flatMap, Text.replace_singleton]
  rfl

/-- A text without the sigil is not sanitized. -/
theorem sanitize_eq_self {t : Text} (h : rules.sigil ∉ t) : sanitize rules t = t := by
  rw [sanitize, if_neg (by simpa using h)]

/-- Texts are sanitized apart from each other. -/
theorem sanitize_append (rules : DialectRules) (t u : Text) :
    sanitize rules (t ++ u) = sanitize rules t ++ sanitize rules u := by
  rw [sanitize_eq_flatMap, sanitize_eq_flatMap, sanitize_eq_flatMap, List.flatMap_append]

/-- What is put in stays as it is. -/
theorem sanitize_sigil_cons (rules : DialectRules) (t : Text) :
    sanitize rules (rules.sigil :: t) = rules.sigilReplacement ++ sanitize rules t := by
  rw [sanitize_eq_flatMap, sanitize_eq_flatMap, List.flatMap_cons, sanitizeChar, if_pos rfl]

/-- No sigil is left when the sigil is replaced by something without it. -/
theorem sigil_not_mem_sanitize (hr : rules.sigil ∉ rules.sigilReplacement) (t : Text) :
    rules.sigil ∉ sanitize rules t := by
  rw [sanitize_eq_flatMap, List.mem_flatMap]
  rintro ⟨c, -, hc⟩
  unfold sanitizeChar at hc
  split at hc
  next => exact hr hc
  next hne => exact hne (List.mem_singleton.mp hc).symm

/-- Then a sanitized text is not changed. -/
theorem sanitize_sanitize (hr : rules.sigil ∉ rules.sigilReplacement) (t : Text) :
    sanitize rules (sanitize rules t) = sanitize rules t :=
  sanitize_eq_self (sigil_not_mem_sanitize hr t)

/-! ## §2. Byte by byte. -/

/-- The bytes of a sanitized text are those of the text, with the bytes of the replacement for
those of the sigil. -/
theorem encode_sanitize (rules : DialectRules) (t : Text) :
    Text.encode (sanitize rules t)
      = (replaceBytes (utf8Bytes [rules.sigil]) (utf8Bytes rules.sigilReplacement)
          (utf8Bytes t)).toByteArray := by
  rw [Text.encode_eq_toByteArray, sanitize_eq_replace,
    Text.utf8Bytes_replace (List.cons_ne_nil rules.sigil [])]

end

/-! ## §3. Accepted dialects. -/

/-- The rules of an accepted dialect have its sigil and what stands for it. -/
theorem Dialect.sigil_eq_of_rules {d : Dialect} {rules : DialectRules} (h : d.rules = .ok rules) :
    rules.sigil = d.sigil ∧ rules.sigilReplacement = d.sigilReplacement := by
  obtain ⟨e, s, k, -, -, -, -, -, rfl⟩ := Dialect.rules_eq_ok_iff.mp h
  exact ⟨rfl, rfl⟩

/-- **The sigil of an accepted dialect is replaced character by character**, whatever stands for
it.  Texts are sanitized apart from each other, and what is put in is not looked at again.  A text
without the sigil is not searched, and a search would leave it as it is.  To search the bytes of
the text for those of the sigil comes to the same.  If the replacement has no sigil, none is left,
and sanitizing again changes nothing. -/
theorem sanitize_of_accepted {d : Dialect} {rules : DialectRules} (h : d.rules = .ok rules) :
    (∀ t, sanitize rules t = t.flatMap (fun c => if c = d.sigil then d.sigilReplacement else [c]))
    ∧ (∀ t u, sanitize rules (t ++ u) = sanitize rules t ++ sanitize rules u)
    ∧ (∀ t u, sanitize rules (t ++ d.sigil :: u)
        = sanitize rules t ++ (d.sigilReplacement ++ sanitize rules u))
    ∧ (∀ t, d.sigil ∉ t →
        sanitize rules t = t ∧ Text.replace [d.sigil] d.sigilReplacement t = t)
    ∧ (∀ t, (d.sigil ∈ t ↔ utf8Bytes [d.sigil] <:+: utf8Bytes t)
        ∧ Text.encode (sanitize rules t)
          = (replaceBytes (utf8Bytes [d.sigil]) (utf8Bytes d.sigilReplacement)
              (utf8Bytes t)).toByteArray)
    ∧ (d.sigil ∉ d.sigilReplacement → ∀ t,
        d.sigil ∉ sanitize rules t ∧ sanitize rules (sanitize rules t) = sanitize rules t) := by
  obtain ⟨hsigil, hreplacement⟩ := Dialect.sigil_eq_of_rules h
  rw [← hsigil, ← hreplacement]
  refine ⟨sanitize_eq_flatMap rules, sanitize_append rules, ?_, ?_, ?_, ?_⟩
  · intro t u
    rw [sanitize_append, sanitize_sigil_cons]
  · intro t ht
    have hkept : sanitize rules t = t := sanitize_eq_self ht
    exact ⟨hkept, (sanitize_eq_replace rules t).symm.trans hkept⟩
  · intro t
    exact ⟨Text.utf8Bytes_singleton_infix_iff.symm, encode_sanitize rules t⟩
  · intro hr t
    exact ⟨sigil_not_mem_sanitize hr t, sanitize_sanitize hr t⟩

/-- A dialect whose sigil is a clef, a character of four bytes. -/
def clefDialect : Dialect :=
  { Dialect.builtin with sigil := '𝄞', sigilReplacement := "g_" }

/-- The rules of that dialect. -/
def clefRules : DialectRules :=
  { DialectRules.builtin with
    sigil := '𝄞', sigilReplacement := "g_", fingerprint := clefDialect.fingerprint }

/-- A character that differs from the sigil in its last byte, and two sigils next to each other. -/
theorem sanitize_clefDialect :
    clefDialect.rules = .ok clefRules
      ∧ clefDialect.sigil ∉ ['a', '𝄟']
      ∧ sanitize clefRules "a𝄟" = "a𝄟".toList
      ∧ sanitize clefRules "a𝄞𝄞𝄟" = "ag_g_𝄟".toList
      ∧ clefDialect.sigil ∉ clefDialect.sigilReplacement
      ∧ sanitize clefRules (sanitize clefRules "a𝄞𝄞𝄟") = "ag_g_𝄟".toList := by
  have hrules : clefDialect.rules = .ok clefRules := by rfl
  have habsent : clefDialect.sigil ∉ ['a', '𝄟'] := by decide
  have hreplacement : clefDialect.sigil ∉ clefDialect.sigilReplacement := by decide
  obtain ⟨hall, -, -, hkept, -, hagain⟩ := sanitize_of_accepted hrules
  have honce : sanitize clefRules "a𝄞𝄞𝄟" = "ag_g_𝄟".toList := (hall _).trans (by decide)
  exact ⟨hrules, habsent, (hkept _ habsent).1, honce, hreplacement,
    (hagain hreplacement _).2.trans honce⟩

/-- A replacement that contains the sigil is put in once for each sigil. -/
example : sanitize { DialectRules.builtin with sigilReplacement := "$$" } "$a$"
    = "$$a$$".toList := by decide

end ScriptWeave
