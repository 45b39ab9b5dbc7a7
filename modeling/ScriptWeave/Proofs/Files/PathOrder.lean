/-
  ScriptWeave.Proofs.Files.PathOrder
  ──────────────────────────────────
  **THE ORDER OF PATHS.**

  Texts are ordered character by character, and paths name by name.  Both
  orders are total and transitive, so component files are listed in order:

      (componentFiles extensions items).Pairwise (Path.le · ·)

  Paths that are written in two ways can have the same names, so two paths
  may each come before the other; two texts may not.
-/
import ScriptWeave.Build.ComponentFiles
import ScriptWeave.Proofs.Sorted

namespace ScriptWeave

/-! ## §1. Texts. -/

namespace Json

theorem textLe_cons_iff {c d : Char} {t u : Text} : textLe (c :: t) (d :: u) = true ↔
    c.toNat < d.toNat ∨ (c = d ∧ textLe t u = true) := by
  rw [textLe]
  split
  next hlt => exact iff_of_true rfl (Or.inl hlt)
  next hge =>
    split
    next hgt =>
      refine iff_of_false (by simp) ?_
      rintro (hlt | ⟨rfl, -⟩)
      · exact hge hlt
      · exact hge hgt
    next hle =>
      have hsame : c = d := Char.toNat_inj.mp (by omega)
      simp [hsame]

theorem textLe_total (t u : Text) : textLe t u = true ∨ textLe u t = true := by
  induction t generalizing u with
  | nil => exact Or.inl rfl
  | cons c t ih =>
    cases u with
    | nil => exact Or.inr rfl
    | cons d u =>
      rw [textLe_cons_iff, textLe_cons_iff]
      rcases Nat.lt_trichotomy c.toNat d.toNat with hlt | heq | hgt
      · exact Or.inl (Or.inl hlt)
      · have hsame := Char.toNat_inj.mp heq
        exact (ih u).imp (fun h => Or.inr ⟨hsame, h⟩) (fun h => Or.inr ⟨hsame.symm, h⟩)
      · exact Or.inr (Or.inl hgt)

theorem textLe_trans {t u v : Text} (htu : textLe t u = true) (huv : textLe u v = true) :
    textLe t v = true := by
  induction t generalizing u v with
  | nil => rfl
  | cons c t ih =>
    cases u with
    | nil => exact absurd htu (by simp [textLe])
    | cons d u =>
      cases v with
      | nil => exact absurd huv (by simp [textLe])
      | cons e v =>
        rw [textLe_cons_iff] at htu huv ⊢
        rcases htu with hlt | ⟨rfl, htu⟩ <;> rcases huv with hlt' | ⟨rfl, huv⟩
        · exact Or.inl (Nat.lt_trans hlt hlt')
        · exact Or.inl hlt
        · exact Or.inl hlt'
        · exact Or.inr ⟨rfl, ih htu huv⟩

theorem textLe_antisymm {t u : Text} (htu : textLe t u = true) (hut : textLe u t = true) :
    t = u := by
  induction t generalizing u with
  | nil =>
    cases u with
    | nil => rfl
    | cons d u => exact absurd hut (by simp [textLe])
  | cons c t ih =>
    cases u with
    | nil => exact absurd htu (by simp [textLe])
    | cons d u =>
      rw [textLe_cons_iff] at htu hut
      rcases htu with hlt | ⟨rfl, htu⟩
      · rcases hut with hgt | ⟨rfl, -⟩ <;> omega
      · rcases hut with hgt | ⟨-, hut⟩
        · omega
        · rw [ih htu hut]

end Json

/-! ## §2. Paths. -/

namespace Path

theorem namesLe_cons_iff {a b : Text} {as bs : List Text} : namesLe (a :: as) (b :: bs) = true ↔
    (a = b ∧ namesLe as bs = true) ∨ (a ≠ b ∧ Json.textLe a b = true) := by
  rw [namesLe]
  split
  next h => simp [h]
  next h => simp [h]

theorem namesLe_total (as bs : List Text) : namesLe as bs = true ∨ namesLe bs as = true := by
  induction as generalizing bs with
  | nil => exact Or.inl rfl
  | cons a as ih =>
    cases bs with
    | nil => exact Or.inr rfl
    | cons b bs =>
      rw [namesLe_cons_iff, namesLe_cons_iff]
      by_cases hab : a = b
      · exact (ih bs).imp (fun h => Or.inl ⟨hab, h⟩) (fun h => Or.inl ⟨hab.symm, h⟩)
      · exact (Json.textLe_total a b).imp (fun h => Or.inr ⟨hab, h⟩)
          (fun h => Or.inr ⟨Ne.symm hab, h⟩)

theorem namesLe_trans {as bs cs : List Text} (hab : namesLe as bs = true)
    (hbc : namesLe bs cs = true) : namesLe as cs = true := by
  induction as generalizing bs cs with
  | nil => rfl
  | cons a as ih =>
    cases bs with
    | nil => exact absurd hab (by simp [namesLe])
    | cons b bs =>
      cases cs with
      | nil => exact absurd hbc (by simp [namesLe])
      | cons c cs =>
        rw [namesLe_cons_iff] at hab hbc ⊢
        rcases hab with ⟨rfl, hab⟩ | ⟨hne, hab⟩ <;> rcases hbc with ⟨rfl, hbc⟩ | ⟨hne', hbc⟩
        · exact Or.inl ⟨rfl, ih hab hbc⟩
        · exact Or.inr ⟨hne', hbc⟩
        · exact Or.inr ⟨hne, hab⟩
        · -- a name is not before another and behind it
          refine Or.inr ⟨?_, Json.textLe_trans hab hbc⟩
          rintro rfl
          exact hne (Json.textLe_antisymm hab hbc)

theorem le_total (p q : Text) : le p q = true ∨ le q p = true := namesLe_total _ _

theorem le_trans (p q r : Text) (hpq : le p q = true) (hqr : le q r = true) : le p r = true :=
  namesLe_trans hpq hqr

end Path

/-- **Component files are listed in the order of paths.** -/
theorem Files.pairwise_componentFiles (extensions : List Text) (items : List WalkItem) :
    (Files.componentFiles extensions items).Pairwise (fun p q => Path.le p q = true) :=
  Sorted.pairwise_sort Path.le_total Path.le_trans _

end ScriptWeave
