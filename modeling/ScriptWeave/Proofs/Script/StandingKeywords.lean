/-
  ScriptWeave.Proofs.Script.StandingKeywords
  ──────────────────────────────────────────
  **THE KEYWORD IS FOUND AS IT IS WRITTEN.**

  The keyword of a dialect may be any text that is not blank: signs that mean
  something in a pattern, white space and line breaks stand for themselves, and
  so does everything in what replaces it.

      keyword  v.r      v.r var     becomes   let var
      keyword  $x       a$x $x      becomes   alet $x

  An occurrence counts if exactly one of the two neighbours at each of its
  ends is a word character.  For a keyword that begins with a sign this asks
  for a word character in front of it, not for a gap.

  A dialect whose patterns are accepted is refused for its keyword only if that
  is blank or larger than the limit of patterns.
-/
import ScriptWeave.Proofs.Script.Words

namespace ScriptWeave

open Pattern (isEdge lastOr wholeWord wholeWordLimit)

/-! ## §1. Occurrences that stand alone. -/

/-- Whether a text, in front of which `prev` stands, begins with `k` between two edges of words. -/
def standsAlone (k : Text) (prev : Option Char) (t : Text) : Bool :=
  k.isPrefixOf t && isEdge prev t.head? && isEdge (lastOr prev k) (t.drop k.length).head?

/-- The text with `b` for every occurrence of `k` that stands alone.  They are found from left to
right: behind one of them the next is looked for, and what is not replaced is left as it is. -/
def replaceAlone (k b : Text) : (prev : Option Char) → Text → Text
  | _, [] => []
  | prev, c :: t =>
    if standsAlone k prev (c :: t) then
      b ++ replaceAlone k b (lastOr prev k) (t.drop (k.length - 1))
    else c :: replaceAlone k b (some c) t
termination_by _ t => t.length
decreasing_by
  · simp only [List.length_drop, List.length_cons]
    omega
  · simp

namespace Pattern

variable {k b t : Text} {prev : Option Char}

/-- A whole word matches where it stands alone. -/
theorem matchAt_wholeWord_eq (prev : Option Char) (k t : Text) :
    (wholeWord k).matchAt ⟨prev, t⟩
      = if standsAlone k prev t = true then some ⟨⟨t, t.drop k.length⟩, []⟩ else none := by
  have hiff : (isEdge prev t.head? = true ∧ k <+: t
      ∧ isEdge (lastOr prev k) (t.drop k.length).head? = true) ↔ standsAlone k prev t = true := by
    rw [standsAlone, Bool.and_eq_true, Bool.and_eq_true, List.isPrefixOf_iff_prefix]
    constructor
    · rintro ⟨hstart, hpre, hend⟩
      exact ⟨⟨hpre, hstart⟩, hend⟩
    · rintro ⟨⟨hpre, hstart⟩, hend⟩
      exact ⟨hstart, hpre, hend⟩
  rw [matchAt_wholeWord]
  simp only [hiff]

/-- The scan from any position, in front of any text. -/
theorem flatMap_piecesFrom_wholeWord (hk : k ≠ []) (b t : Text) (prev : Option Char) :
    (piecesFrom (wholeWord k) prev t).flatMap (Piece.replaced (fun _ => b))
      = replaceAlone k b prev t := by
  fun_induction replaceAlone k b prev t with
  | case1 prev =>
    have hnone : (wholeWord k).matchAt ⟨prev, []⟩ = none := by
      rw [matchAt_wholeWord_eq, if_neg]
      intro h
      rw [standsAlone, Bool.and_eq_true, Bool.and_eq_true, List.isPrefixOf_iff_prefix] at h
      exact hk (List.prefix_nil.mp h.1.1)
    rw [piecesFrom_nil hnone]
    rfl
  | case2 prev c t h ih =>
    have hpre : k <+: c :: t := by
      rw [standsAlone, Bool.and_eq_true, Bool.and_eq_true, List.isPrefixOf_iff_prefix] at h
      exact h.1.1
    obtain ⟨v, hv⟩ := hpre
    have hrest : t.drop (k.length - 1) = v := by
      obtain ⟨x, u, rfl⟩ := List.exists_cons_of_ne_nil hk
      obtain ⟨rfl, rfl⟩ := List.cons.inj hv
      simp
    have hmatch : (wholeWord k).matchAt ⟨prev, k ++ v⟩ = some ⟨⟨k ++ v, v⟩, []⟩ := by
      rw [matchAt_wholeWord_eq, hv, if_pos h, ← hv, List.drop_left]
    rw [hrest] at ih
    rw [← hv, piecesFrom_match (advances_wholeWord hk) hmatch (by simp [Span.length]),
      List.flatMap_cons, ih, hrest]
    rfl
  | case3 prev c t h ih =>
    have hnone : (wholeWord k).matchAt ⟨prev, c :: t⟩ = none := by
      rw [matchAt_wholeWord_eq, if_neg h]
    rw [piecesFrom_cons hnone, List.flatMap_cons, ih]
    rfl

end Pattern

/-! ## §2. Keywords of dialects. -/

/-- Declarations are replaced where the keyword stands alone. -/
theorem downgrade_eq_replaceAlone {rules : DialectRules} {k : Text}
    (hd : rules.declaration = wholeWord k) (hk : k ≠ []) (t : Text) :
    downgrade rules t = replaceAlone k rules.blockScopedKeyword none t := by
  rw [downgrade, hd, Pattern.replaceAll_eq rfl]
  exact Pattern.flatMap_piecesFrom_wholeWord hk rules.blockScopedKeyword t none

theorem ne_nil_of_trim_ne_nil {k : Text} (h : Text.trim k ≠ []) : k ≠ [] := by
  rintro rfl
  exact h rfl

/-- **Every keyword that is not blank is matched as it is written.**  A dialect whose patterns are
accepted is accepted with it, unless it is too large, and then declarations are replaced where the
keyword stands alone. -/
theorem downgrade_of_nonblank_keyword {d : Dialect} {e s : Pattern}
    (he : Dialect.readPattern .exportPattern d.exportPattern = .ok e) (hgroups : e.groups ≠ 0)
    (hs : Dialect.readPattern .aliasSeparator d.aliasSeparator = .ok s)
    (hk : Text.trim d.functionScopedKeyword ≠ []) :
    (Text.byteSize d.functionScopedKeyword ≤ wholeWordLimit →
        ∃ rules, d.rules = .ok rules
          ∧ ∀ t, downgrade rules t
              = replaceAlone d.functionScopedKeyword d.blockScopedKeyword none t)
      ∧ (wholeWordLimit < Text.byteSize d.functionScopedKeyword →
        d.rules = .error (.pattern .functionScopedKeyword .tooLarge)) := by
  have hblank : (Text.trim d.functionScopedKeyword).isEmpty = false :=
    List.isEmpty_eq_false_iff.mpr hk
  have hread := Dialect.readPattern_wholeWordText .functionScopedKeyword d.functionScopedKeyword
  constructor
  · intro hsize
    rw [if_neg (by omega)] at hread
    refine ⟨_, Dialect.rules_eq_ok_iff.mpr ⟨e, s, _, he, hgroups, hs, hblank, hread, rfl⟩, ?_⟩
    intro t
    exact downgrade_eq_replaceAlone rfl (ne_nil_of_trim_ne_nil hk) t
  · intro hsize
    rw [if_pos hsize] at hread
    simp [Dialect.rules, he, hgroups, hs, hblank, hread, bind, Except.bind]

/-- A dialect whose keyword begins and ends with signs, and whose replacement looks like a
reference to a group. -/
def signDialect : Dialect :=
  { Dialect.builtin with functionScopedKeyword := "$x(", blockScopedKeyword := "$0\\" }

/-- An occurrence between word characters, one behind white space, and one in front of some. -/
theorem downgrade_signDialect :
    ∃ rules, signDialect.rules = .ok rules
      ∧ Text.trim signDialect.functionScopedKeyword ≠ []
      ∧ Text.byteSize signDialect.functionScopedKeyword ≤ wholeWordLimit
      ∧ downgrade rules "a$x(b $x(b a$x( b" = "a$0\\b $x(b a$x( b".toList := by
  have hexport : Dialect.readPattern .exportPattern signDialect.exportPattern
      = .ok DialectRules.builtin.exportStatement := by rfl
  have hseparator : Dialect.readPattern .aliasSeparator signDialect.aliasSeparator
      = .ok DialectRules.builtin.aliasSeparator := by rfl
  have hblank : Text.trim signDialect.functionScopedKeyword ≠ [] := by decide
  have hsize : Text.byteSize signDialect.functionScopedKeyword ≤ wholeWordLimit := by decide
  obtain ⟨hrules, -⟩ := downgrade_of_nonblank_keyword hexport (by decide) hseparator hblank
  obtain ⟨rules, hok, hdowngrade⟩ := hrules hsize
  refine ⟨rules, hok, hblank, hsize, ?_⟩
  rw [hdowngrade]
  decide +kernel

end ScriptWeave
