/-
  ScriptWeave.Proofs.Component.Splicing
  ─────────────────────────────────────
  **PUTTING TEXTS IN THE PLACE OF CONTENTS.**

  Replacements are made from the last to the first, each by its bytes.  Where
  their stretches ascend without overlap, this is one replacement behind the
  other, and the bytes of each are still those of the original text:

      splice source (r :: rs) = Replacement.apply (splice source rs) r

  In which order they are listed does not matter, if they start at different
  bytes.  So any choice of blocks can be given new contents, and all gaps and
  the contents of the other blocks stay.
-/
import ScriptWeave.Proofs.Component.Layout
import ScriptWeave.Proofs.Sorted

namespace ScriptWeave

open Text

/-! ## §1. Ascending replacements. -/

/-- Replacements that ascend are turned around before they are made. -/
theorem sort_of_ascending {rs : List Replacement}
    (h : rs.Pairwise (fun a b => a.start < b.start)) :
    Sorted.sort (fun a b => decide (b.start ≤ a.start)) rs = rs.reverse := by
  apply Sorted.sort_eq_reverse
  refine h.imp ?_
  intro a b hab
  rw [decide_eq_false_iff_not]
  omega

/-- Ascending replacements are made one behind the other, the first one last. -/
theorem splice_cons {source : Text} {r : Replacement} {rs : List Replacement}
    (h : (r :: rs).Pairwise (fun a b => a.start < b.start)) :
    splice source (r :: rs) = Replacement.apply (splice source rs) r := by
  rw [splice, splice, sort_of_ascending h, sort_of_ascending (List.pairwise_cons.mp h).2,
    List.reverse_cons, List.foldl_append]
  rfl

theorem eq_of_start_eq {rs : List Replacement} (h : rs.Pairwise (fun a b => a.start ≠ b.start))
    {a b : Replacement} (ha : a ∈ rs) (hb : b ∈ rs) (heq : a.start = b.start) : a = b := by
  induction h with
  | nil => exact absurd ha List.not_mem_nil
  | cons hfirst _ ih =>
    rcases List.mem_cons.mp ha with rfl | hina <;> rcases List.mem_cons.mp hb with rfl | hinb
    · rfl
    · exact absurd heq (hfirst b hinb)
    · exact absurd heq.symm (hfirst a hina)
    · exact ih hina hinb

theorem sort_eq_of_starts {rs rs' : List Replacement} (h : rs.Perm rs')
    (hstarts : rs.Pairwise (fun a b => a.start ≠ b.start)) :
    Sorted.sort (fun a b => decide (b.start ≤ a.start)) rs
      = Sorted.sort (fun a b => decide (b.start ≤ a.start)) rs' := by
  refine Sorted.sort_eq_of_perm ?_ ?_ ?_ h
  · intro a b
    rw [decide_eq_true_eq, decide_eq_true_eq]
    omega
  · intro a b c hab hbc
    rw [decide_eq_true_eq] at hab hbc ⊢
    omega
  · intro a ha b hb hab hba
    rw [decide_eq_true_eq] at hab hba
    exact eq_of_start_eq hstarts ha hb (by omega)

/-- **Replacements that start at different bytes can be listed in any order.** -/
theorem splice_eq_of_perm (source : Text) {rs rs' : List Replacement} (h : rs.Perm rs')
    (hstarts : rs.Pairwise (fun a b => a.start ≠ b.start)) : splice source rs = splice source rs' := by
  rw [splice, splice, sort_eq_of_starts h hstarts]

/-- A replacement made in a text whose parts it fits. -/
theorem apply_append (before old behind : Text) {r : Replacement}
    (hstart : r.start = byteSize before) (hstop : r.stop = byteSize (before ++ old)) :
    Replacement.apply (before ++ (old ++ behind)) r = before ++ (r.text ++ behind) := by
  have htake : takeBytes r.start (before ++ (old ++ behind)) = before := by
    rw [hstart]
    exact takeBytes_byteSize_append before (old ++ behind)
  have hdrop : dropBytes r.stop (before ++ (old ++ behind)) = behind := by
    rw [hstop, ← List.append_assoc]
    exact dropBytes_byteSize_append (before ++ old) behind
  rw [Replacement.apply, htake, hdrop, List.append_assoc]

/-! ## §2. Some blocks of a component. -/

/-- The replacements for the blocks that a text is chosen for. -/
def chosen : List ScriptBlock → List (Option Text) → List Replacement
  | b :: bs, some t :: os => ⟨b.start, b.stop, t⟩ :: chosen bs os
  | _ :: bs, none :: os => chosen bs os
  | _, _ => []

/-- The contents of the blocks when the chosen texts have been put in. -/
def settled (bs : List ScriptBlock) (os : List (Option Text)) : List Text :=
  List.zipWith (fun b o => o.getD b.content) bs os

theorem mem_chosen {bs : List ScriptBlock} {os : List (Option Text)} {r : Replacement}
    (h : r ∈ chosen bs os) : ∃ b ∈ bs, r.start = b.start := by
  fun_induction chosen bs os with
  | case1 b bs t os ih =>
    rcases List.mem_cons.mp h with rfl | h
    · exact ⟨b, List.mem_cons_self, rfl⟩
    · obtain ⟨c, hc, hr⟩ := ih h
      exact ⟨c, List.mem_cons_of_mem b hc, hr⟩
  | case2 b bs os ih =>
    obtain ⟨c, hc, hr⟩ := ih h
    exact ⟨c, List.mem_cons_of_mem b hc, hr⟩
  | case3 => exact absurd h List.not_mem_nil

theorem pairwise_chosen {bs : List ScriptBlock} (h : bs.Pairwise (fun a b => a.start < b.start))
    (os : List (Option Text)) : (chosen bs os).Pairwise (fun a b => a.start < b.start) := by
  fun_induction chosen bs os with
  | case1 b bs t os ih =>
    obtain ⟨hb, hbs⟩ := List.pairwise_cons.mp h
    refine List.pairwise_cons.mpr ⟨?_, ih hbs⟩
    intro r hr
    obtain ⟨c, hc, hstart⟩ := mem_chosen hr
    rw [hstart]
    exact hb c hc
  | case2 b bs os ih => exact ih (List.pairwise_cons.mp h).2
  | case3 => exact List.Pairwise.nil

/-- Putting texts in the place of some contents behind a text that has been passed. -/
theorem splice_laidOut {offset : Nat} {gaps : List Text} {bs : List ScriptBlock}
    {os : List (Option Text)} (last before : Text) (h : LaidOut offset gaps bs)
    (hpair : bs.Pairwise (fun a b => a.start < b.start)) (hlen : os.length = bs.length)
    (hbefore : byteSize before = offset) :
    splice (before ++ interleave gaps (bs.map (·.content)) last) (chosen bs os)
      = before ++ interleave gaps (settled bs os) last := by
  induction bs generalizing offset gaps os before with
  | nil =>
    obtain rfl := List.length_eq_zero_iff.mp hlen
    rfl
  | cons b bs ih =>
    cases gaps with
    | nil => exact absurd h (by simp [LaidOut])
    | cons g gaps =>
      obtain ⟨o, os, rfl⟩ := List.exists_cons_of_length_eq_add_one hlen
      obtain ⟨hstart, hstop, hrest⟩ := h
      have hlen' : os.length = bs.length := Nat.succ.inj hlen
      have hpair' := (List.pairwise_cons.mp hpair).2
      have hsize : byteSize (before ++ g ++ b.content) = b.stop := by
        rw [hstop, hstart, byteSize_append, byteSize_append, hbefore]
      -- the blocks behind this one, with its own content still in place
      have hbehind := ih _ hrest hpair' hlen' hsize
      simp only [List.append_assoc] at hbehind
      have hsettled : settled (b :: bs) (o :: os) = o.getD b.content :: settled bs os := rfl
      rw [List.map_cons, interleave, hsettled, interleave]
      cases o with
      | none => exact hbehind
      | some t =>
        have hascend : (⟨b.start, b.stop, t⟩ :: chosen bs os).Pairwise
            (fun a b => a.start < b.start) := pairwise_chosen hpair (some t :: os)
        have happly := apply_append (before ++ g) b.content
          (interleave gaps (settled bs os) last) (r := ⟨b.start, b.stop, t⟩)
          (by rw [hstart, byteSize_append, hbefore]) hsize.symm
        simp only [List.append_assoc] at happly
        rw [chosen, splice_cons hascend, hbehind]
        exact happly

/-- Contents that do not touch begin in ascending order, even empty ones. -/
theorem pairwise_start_findBlocks (source : Text) :
    (findBlocks source).Pairwise (fun a b => a.start < b.start) := by
  obtain ⟨gaps, last, -, hlaid, -⟩ := findBlocks_laidOut source
  have hsize : ∀ b ∈ findBlocks source, b.start ≤ b.stop := by
    intro b hb
    obtain ⟨before, behind, -, hstart, hstop⟩ := hlaid.standsIn last [] rfl hb
    rw [hstart, hstop, byteSize_append]
    omega
  refine (pairwise_findBlocks source).imp_of_mem ?_
  intro a b ha _ hab
  have := hsize a ha
  omega

/-- **Some contents of a component are replaced, and nothing else.** -/
theorem splice_chosen {source : Text} {gaps : List Text} {last : Text} {os : List (Option Text)}
    (hsource : source = interleave gaps ((findBlocks source).map (·.content)) last)
    (hlaid : LaidOut 0 gaps (findBlocks source)) (hlen : os.length = (findBlocks source).length) :
    splice source (chosen (findBlocks source) os)
      = interleave gaps (settled (findBlocks source) os) last := by
  have hsplice := splice_laidOut last [] hlaid (pairwise_start_findBlocks source) hlen rfl
  rw [List.nil_append, List.nil_append, ← hsource] at hsplice
  exact hsplice

end ScriptWeave
