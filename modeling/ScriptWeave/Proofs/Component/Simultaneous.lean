/-
  ScriptWeave.Proofs.Component.Simultaneous
  ─────────────────────────────────────────
  **REPLACEMENTS MADE ONE BY ONE ARE MADE AT ONCE.**

  Every replacement may change the length of the text, while the bytes of
  those still to come are counted in the original one.  Made from the last
  to the first they still come out right: what stands before a stretch is
  the original text, as long as no replacement has been made there.

      splice source rs = takeBytes offset source ++ replacedFrom source offset rs
                                    for ascending rs from byte `offset` on

  With this on every step no check fails, and the pieces that no stretch
  covers are found between the new texts, in whatever order the replacements
  are listed.
-/
import ScriptWeave.Proofs.Component.Splicing

namespace ScriptWeave

open Text

/-! ## §1. Cuts between characters. -/

namespace Text

/-- The bytes of a text from one to another. -/
def slice (t : Text) (start stop : Nat) : Text := takeBytes (stop - start) (dropBytes start t)

/-- A boundary is where a text can be cut. -/
theorem isBoundary_iff {n : Nat} {t : Text} :
    isBoundary n t = true ↔ ∃ u v, t = u ++ v ∧ n = byteSize u := by
  rw [isBoundary, beq_iff_eq]
  constructor
  · intro h
    exact ⟨takeBytes n t, dropBytes n t, (takeBytes_append_dropBytes n t).symm, h.symm⟩
  · rintro ⟨u, v, rfl, rfl⟩
    rw [takeBytes_byteSize_append]

theorem eq_nil_of_byteSize_eq_zero {t : Text} (h : byteSize t = 0) : t = [] := by
  cases t with
  | nil => rfl
  | cons c t =>
    have hpos := c.utf8Size_pos
    rw [byteSize_cons] at h
    omega

/-- At two boundaries a text is cut into three. -/
theorem exists_cuts {m n : Nat} {t : Text} (hm : isBoundary m t = true) (hn : isBoundary n t = true)
    (hle : m ≤ n) : ∃ u w v, t = u ++ (w ++ v) ∧ m = byteSize u ∧ n = byteSize (u ++ w) := by
  obtain ⟨u, v, rfl, rfl⟩ := isBoundary_iff.mp hm
  obtain ⟨u', v', hcut, rfl⟩ := isBoundary_iff.mp hn
  rcases List.append_eq_append_iff.mp hcut with ⟨w, rfl, rfl⟩ | ⟨w, rfl, rfl⟩
  · exact ⟨u, w, v', rfl, rfl, rfl⟩
  · -- the second cut is not before the first
    have hw : w = [] := by
      apply eq_nil_of_byteSize_eq_zero
      rw [byteSize_append] at hle
      omega
    subst hw
    exact ⟨u', [], v, by simp, by simp, by simp⟩

/-- The bytes up to a boundary and those from there to another one. -/
theorem takeBytes_append_slice {m n : Nat} {t : Text} (hm : isBoundary m t = true)
    (hn : isBoundary n t = true) (hle : m ≤ n) :
    takeBytes m t ++ slice t m n = takeBytes n t := by
  obtain ⟨u, w, v, rfl, rfl, rfl⟩ := exists_cuts hm hn hle
  have hsize : byteSize (u ++ w) - byteSize u = byteSize w := by
    rw [byteSize_append]
    omega
  rw [slice, hsize, takeBytes_byteSize_append, dropBytes_byteSize_append, takeBytes_byteSize_append,
    ← List.append_assoc, takeBytes_byteSize_append]

end Text

/-- A stretch lies in a text that is cut where it starts and where it stops. -/
theorem Replacement.fits_iff {r : Replacement} {source : Text} :
    r.fits source = true ↔ ∃ before old behind, source = before ++ (old ++ behind)
      ∧ r.start = byteSize before ∧ r.stop = byteSize (before ++ old) := by
  rw [fits, Bool.and_eq_true, Bool.and_eq_true, decide_eq_true_eq]
  constructor
  · rintro ⟨⟨hle, hstart⟩, hstop⟩
    exact exists_cuts hstart hstop hle
  · rintro ⟨before, old, behind, rfl, hstart, hstop⟩
    refine ⟨⟨?_, isBoundary_iff.mpr ⟨before, _, rfl, hstart⟩⟩, isBoundary_iff.mpr ⟨_, behind, ?_, hstop⟩⟩
    · rw [hstart, hstop, byteSize_append]
      omega
    · rw [List.append_assoc]

/-! ## §2. Replacements at once. -/

/-- The text from a byte on with all stretches replaced at once: what stands between two of them
is read off the text as it was. -/
def replacedFrom (source : Text) : (offset : Nat) → List Replacement → Text
  | offset, [] => dropBytes offset source
  | offset, r :: rs => slice source offset r.start ++ (r.text ++ replacedFrom source r.stop rs)

variable {source : Text} {r : Replacement} {rs rs' : List Replacement} {offset : Nat}

/-- Whether replacements ascend and each starts where the one before has ended, or behind that. -/
def Ascending (rs : List Replacement) : Prop :=
  rs.Pairwise (fun a b => a.start < b.start ∧ a.stop ≤ b.start)

theorem Ascending.starts (h : Ascending rs) : rs.Pairwise (fun a b => a.start < b.start) :=
  h.imp (fun hab => hab.1)

/-- **Ascending replacements leave the text before the first one as it was**, and make of the rest
what they make of it at once. -/
theorem splice_eq_append (hoffset : isBoundary offset source = true)
    (hfits : ∀ r ∈ rs, r.fits source = true) (hasc : Ascending rs)
    (hfrom : ∀ r ∈ rs, offset ≤ r.start) :
    splice source rs = takeBytes offset source ++ replacedFrom source offset rs := by
  induction rs generalizing offset with
  | nil => exact (takeBytes_append_dropBytes offset source).symm
  | cons r rs ih =>
    obtain ⟨hlater, hrest⟩ := List.pairwise_cons.mp hasc
    have hr := hfits r List.mem_cons_self
    obtain ⟨before, old, behind, hcut, hstart, hstop⟩ := Replacement.fits_iff.mp hr
    have hboundary : isBoundary r.start source = true := isBoundary_iff.mpr ⟨before, _, hcut, hstart⟩
    have hbehind : isBoundary r.stop source = true :=
      isBoundary_iff.mpr ⟨before ++ old, behind, by rw [hcut, List.append_assoc], hstop⟩
    -- those behind have left this stretch and all before it alone
    have hthere : splice source rs = before ++ (old ++ replacedFrom source r.stop rs) := by
      rw [ih hbehind (fun x hx => hfits x (List.mem_cons_of_mem r hx)) hrest
        (fun x hx => (hlater x hx).2), hcut, hstop, ← List.append_assoc before old behind,
        takeBytes_byteSize_append, List.append_assoc]
    have hbefore : takeBytes r.start source = before := by
      rw [hcut, hstart, takeBytes_byteSize_append]
    calc splice source (r :: rs)
        = Replacement.apply (before ++ (old ++ replacedFrom source r.stop rs)) r := by
          rw [splice_cons hasc.starts, hthere]
      _ = before ++ (r.text ++ replacedFrom source r.stop rs) := apply_append before old _ hstart hstop
      _ = takeBytes offset source ++ replacedFrom source offset (r :: rs) := by
          rw [replacedFrom, ← List.append_assoc (takeBytes offset source),
            takeBytes_append_slice hoffset hboundary (hfrom r List.mem_cons_self), hbefore]

/-- The stretch of a replacement lies in the text in which all those behind it have been made. -/
theorem fits_splice (hfits : ∀ x ∈ r :: rs, x.fits source = true) (hasc : Ascending (r :: rs)) :
    r.fits (splice source rs) = true := by
  obtain ⟨hlater, hrest⟩ := List.pairwise_cons.mp hasc
  obtain ⟨before, old, behind, hcut, hstart, hstop⟩ :=
    Replacement.fits_iff.mp (hfits r List.mem_cons_self)
  have hcut' : source = before ++ old ++ behind := by rw [hcut, List.append_assoc]
  have hbehind : isBoundary r.stop source = true := isBoundary_iff.mpr ⟨_, behind, hcut', hstop⟩
  refine Replacement.fits_iff.mpr ⟨before, old, replacedFrom source r.stop rs, ?_, hstart, hstop⟩
  rw [splice_eq_append hbehind (fun x hx => hfits x (List.mem_cons_of_mem r hx)) hrest
    (fun x hx => (hlater x hx).2), hstop, hcut', takeBytes_byteSize_append, List.append_assoc]

/-! ## §3. Checks. -/

theorem neighboursApart_of_pairwise (h : rs.Pairwise (fun a b => b.stop ≤ a.start)) :
    neighboursApart rs = true := by
  fun_induction neighboursApart rs with
  | case1 a b rs ih =>
    obtain ⟨ha, hrest⟩ := List.pairwise_cons.mp h
    rw [Bool.and_eq_true, decide_eq_true_eq]
    exact ⟨ha b List.mem_cons_self, ih hrest⟩
  | case2 => rfl

/-- Ascending replacements, made from the last to the first, pass every check. -/
theorem foldlM_apply? (hfits : ∀ r ∈ rs, r.fits source = true) (hasc : Ascending rs) :
    rs.reverse.foldlM Replacement.apply? source = some (splice source rs) := by
  rw [List.foldlM_reverse]
  induction rs with
  | nil => rfl
  | cons r rs ih =>
    have hrest := ih (fun x hx => hfits x (List.mem_cons_of_mem r hx)) (List.pairwise_cons.mp hasc).2
    rw [List.foldrM_cons, hrest, Option.bind_eq_bind, Option.bind_some, Replacement.apply?,
      if_pos (fits_splice hfits hasc), splice_cons hasc.starts]

/-! ## §4. Replacements in any order. -/

/-- Replacements that do not overlap ascend when they are put in order. -/
theorem ascending_sort (hstarts : rs.Pairwise (fun a b => a.start ≠ b.start))
    (hapart : ∀ a ∈ rs, ∀ b ∈ rs, a.start < b.start → a.stop ≤ b.start) :
    Ascending (Sorted.sort (fun a b => decide (a.start ≤ b.start)) rs) := by
  have hperm := Sorted.sort_perm (fun a b : Replacement => decide (a.start ≤ b.start)) rs
  have hle : (Sorted.sort (fun a b : Replacement => decide (a.start ≤ b.start)) rs).Pairwise
      (fun a b => decide (a.start ≤ b.start) = true) := by
    apply Sorted.pairwise_sort
    · intro a b
      rw [decide_eq_true_eq, decide_eq_true_eq]
      omega
    · intro a b c hab hbc
      rw [decide_eq_true_eq] at hab hbc ⊢
      omega
  have hne := (hperm.pairwise_iff (fun {_ _} h => Ne.symm h)).mpr hstarts
  refine (hle.and hne).imp_of_mem ?_
  intro a b ha hb hab
  have hlt : a.start < b.start := by
    have hle := of_decide_eq_true hab.1
    omega
  exact ⟨hlt, hapart a (hperm.mem_iff.mp ha) b (hperm.mem_iff.mp hb) hlt⟩

/-- **Replacements that do not overlap are made at once**, in whatever order they are listed.
The pieces of the text that no stretch covers and the new texts stand one behind the other in
the order of the stretches, and no check fails on the way. -/
theorem splice_eq_replacedFrom (hfits : ∀ r ∈ rs, r.fits source = true)
    (hstarts : rs.Pairwise (fun a b => a.start ≠ b.start))
    (hapart : ∀ a ∈ rs, ∀ b ∈ rs, a.start < b.start → a.stop ≤ b.start) (hperm : rs'.Perm rs) :
    splice? source rs' = some (splice source rs')
      ∧ splice source rs'
        = replacedFrom source 0 (Sorted.sort (fun a b => decide (a.start ≤ b.start)) rs) := by
  have hasc := ascending_sort hstarts hapart
  have hsorted : (Sorted.sort (fun a b : Replacement => decide (a.start ≤ b.start)) rs).Perm rs' :=
    (Sorted.sort_perm _ rs).trans hperm.symm
  have hne := hasc.starts.imp (fun hab => Nat.ne_of_lt hab)
  have hfits' : ∀ r ∈ Sorted.sort (fun a b : Replacement => decide (a.start ≤ b.start)) rs,
      r.fits source = true := fun r hr => hfits r (Sorted.mem_sort.mp hr)
  rw [← splice_eq_of_perm source hsorted hne]
  constructor
  · -- the replacements are made in the opposite order
    rw [splice?, ← sort_eq_of_starts hsorted hne, sort_of_ascending hasc.starts]
    rw [if_pos (neighboursApart_of_pairwise (List.pairwise_reverse.mpr (hasc.imp (fun hab => hab.2)))),
      foldlM_apply? hfits' hasc]
  · have hzero : isBoundary 0 source = true := isBoundary_iff.mpr ⟨[], source, rfl, rfl⟩
    have hnone : takeBytes 0 source = [] := takeBytes_byteSize_append [] source
    rw [splice_eq_append hzero hfits' hasc (fun r _ => Nat.zero_le r.start), hnone, List.nil_append]

/-- A stretch of two-byte characters, an empty stretch at its end, and one up to the end of the
text, listed out of order. -/
def umlautReplacements : List Replacement := [⟨5, 5, "!"⟩, ⟨7, 11, ""⟩, ⟨1, 5, "oe"⟩]

/-- They are made at once, and in the opposite order, too. -/
theorem splice_umlautReplacements :
    (∀ r ∈ umlautReplacements, r.fits "aöößüé" = true)
      ∧ umlautReplacements.Pairwise (fun a b => a.start ≠ b.start)
      ∧ (∀ a ∈ umlautReplacements, ∀ b ∈ umlautReplacements, a.start < b.start → a.stop ≤ b.start)
      ∧ splice? "aöößüé" umlautReplacements.reverse = some "aoe!ß" := by
  have hfits : ∀ r ∈ umlautReplacements, r.fits "aöößüé" = true := by decide
  have hstarts : umlautReplacements.Pairwise (fun a b => a.start ≠ b.start) := by decide
  have hapart : ∀ a ∈ umlautReplacements, ∀ b ∈ umlautReplacements,
      a.start < b.start → a.stop ≤ b.start := by decide
  obtain ⟨hchecked, hpieces⟩ :=
    splice_eq_replacedFrom hfits hstarts hapart (List.reverse_perm umlautReplacements)
  refine ⟨hfits, hstarts, hapart, ?_⟩
  rw [hchecked, hpieces]
  decide

end ScriptWeave
