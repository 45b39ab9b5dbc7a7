/-
  ScriptWeave.Proofs.Component.Layout
  ───────────────────────────────────
  **A COMPONENT AS GAPS AND CONTENTS.**

  The scanner cuts a component at its elements.  The contents of the blocks
  stand one behind the other, with gaps before, between and behind them.  A
  gap between two contents holds at least a closing tag, so contents never
  touch.

      CutAtElements source cuts last
      source = interleave gaps (contents of the blocks) last
      LaidOut 0 gaps blocks        (every block knows its bytes)

  Putting other texts in the place of some contents keeps the gaps.
-/
import ScriptWeave.Component.Splice
import ScriptWeave.Proofs.Component.Scanner

namespace ScriptWeave

open Pattern Text

/-! ## §1. Gaps and texts. -/

/-- Gaps and texts in turn, and what follows the last text. -/
def interleave : (gaps texts : List Text) → (last : Text) → Text
  | g :: gaps, t :: texts, last => g ++ (t ++ interleave gaps texts last)
  | _, _, last => last

/-- Whether the bytes of blocks are those of their contents behind the gaps, from byte `offset`
on. -/
def LaidOut : (offset : Nat) → (gaps : List Text) → List ScriptBlock → Prop
  | offset, g :: gaps, b :: bs =>
    b.start = offset + byteSize g ∧ b.stop = b.start + byteSize b.content ∧ LaidOut b.stop gaps bs
  | _, [], [] => True
  | _, _, _ => False

/-- Where a block stands in a component: its content is found between its bytes, both of which
are boundaries between characters. -/
def ScriptBlock.StandsIn (b : ScriptBlock) (source : Text) : Prop :=
  ∃ before behind, source = before ++ b.content ++ behind
    ∧ b.start = byteSize before ∧ b.stop = byteSize (before ++ b.content)

variable {offset : Nat} {gaps : List Text} {bs : List ScriptBlock}

/-- Blocks that are laid out stand where they say. -/
theorem LaidOut.standsIn (h : LaidOut offset gaps bs) (last before : Text)
    (hb : byteSize before = offset) {b : ScriptBlock} (hmem : b ∈ bs) :
    b.StandsIn (before ++ interleave gaps (bs.map (·.content)) last) := by
  induction bs generalizing offset gaps before with
  | nil => exact absurd hmem List.not_mem_nil
  | cons c bs ih =>
    cases gaps with
    | nil => exact absurd h (by simp [LaidOut])
    | cons g gaps =>
      obtain ⟨hstart, hstop, hrest⟩ := h
      rw [List.map_cons, interleave]
      rcases List.mem_cons.mp hmem with rfl | hmem
      · refine ⟨before ++ g, interleave gaps (bs.map (·.content)) last, ?_, ?_, ?_⟩
        · rw [List.append_assoc, List.append_assoc]
        · rw [hstart, byteSize_append, hb]
        · rw [hstop, hstart, byteSize_append, byteSize_append, hb]
      · -- a later block stands behind this one's gap and content
        have hsize : byteSize (before ++ g ++ c.content) = c.stop := by
          rw [hstop, hstart, byteSize_append, byteSize_append, hb]
        have hstands := ih hrest _ hsize hmem
        rwa [List.append_assoc, List.append_assoc] at hstands

/-- Contents with gaps between them do not touch. -/
theorem LaidOut.pairwise (h : LaidOut offset gaps bs) (hgaps : ∀ g ∈ gaps, g ≠ []) :
    (∀ b ∈ bs, offset < b.start) ∧ bs.Pairwise (fun a b => a.stop < b.start) := by
  induction bs generalizing offset gaps with
  | nil => exact ⟨fun b hb => absurd hb List.not_mem_nil, List.Pairwise.nil⟩
  | cons c bs ih =>
    cases gaps with
    | nil => exact absurd h (by simp [LaidOut])
    | cons g gaps =>
      obtain ⟨hstart, hstop, hrest⟩ := h
      obtain ⟨hlater, hpair⟩ := ih hrest (fun g' hg' => hgaps g' (List.mem_cons_of_mem g hg'))
      -- the gap holds a character, and a character has a byte
      have hpos : 0 < byteSize g := by
        obtain ⟨x, u, rfl⟩ := List.exists_cons_of_ne_nil (hgaps g List.mem_cons_self)
        have := x.utf8Size_pos
        rw [byteSize_cons]
        omega
      refine ⟨?_, List.pairwise_cons.mpr ⟨hlater, hpair⟩⟩
      intro b hb
      rcases List.mem_cons.mp hb with rfl | hb
      · omega
      · have := hlater b hb
        omega

/-! ## §2. Where a component is cut. -/

/-- The elements that the scanner finds in a text, each with the text before it, and what
follows the last one. -/
inductive CutAtElements : Text → List (Text × ScriptElement) → Text → Prop where
  /-- No element is left. -/
  | done {t : Text} (hnone : nextElement? t = none) : CutAtElements t [] t
  /-- An element, and those behind it. -/
  | next {t gap rest last : Text} {e : ScriptElement} {cuts : List (Text × ScriptElement)}
      (hnext : nextElement? t = some (gap, e, rest)) (hrest : CutAtElements rest cuts last) :
      CutAtElements t ((gap, e) :: cuts) last

/-- **Every text can be cut at its elements.** -/
theorem exists_cutAtElements (t : Text) : ∃ cuts last, CutAtElements t cuts last := by
  cases hnext : nextElement? t with
  | none => exact ⟨[], t, .done hnext⟩
  | some s =>
    obtain ⟨gap, e, rest⟩ := s
    have hlt := nextElement?_length_lt hnext
    obtain ⟨cuts, last, hcut⟩ := exists_cutAtElements rest
    exact ⟨(gap, e) :: cuts, last, .next hnext hcut⟩
termination_by t.length

/-- A cut put together again. -/
def cutText (cuts : List (Text × ScriptElement)) (last : Text) : Text :=
  cuts.flatMap (fun c => c.1 ++ c.2.text) ++ last

theorem cutText_cons (gap : Text) (e : ScriptElement) (cuts : List (Text × ScriptElement))
    (last : Text) : cutText ((gap, e) :: cuts) last = gap ++ e.text ++ cutText cuts last := by
  rw [cutText, List.flatMap_cons, List.append_assoc, cutText]

/-- The elements of a cut with other contents. -/
def refill (cuts : List (Text × ScriptElement)) (us : List Text) : List (Text × ScriptElement) :=
  List.zipWith (fun c u => (c.1, { c.2 with content := u })) cuts us

theorem refill_contents (cuts : List (Text × ScriptElement)) :
    refill cuts (cuts.map (·.2.content)) = cuts := by
  induction cuts with
  | nil => rfl
  | cons c cuts ih => exact congrArg (c :: ·) ih

/-- The gaps between contents, behind a text that has been passed.  The closing tag of an element
counts as passed for what comes behind it, so each gap ends with an opening tag and all but the
first begin with a closing one. -/
def gapsBehind : (passed : Text) → List (Text × ScriptElement) → List Text
  | _, [] => []
  | passed, (gap, e) :: cuts => (passed ++ gap ++ e.openTag) :: gapsBehind e.closing cuts

/-- What follows the last content. -/
def lastBehind : (passed : Text) → List (Text × ScriptElement) → Text → Text
  | passed, [], last => passed ++ last
  | _, (_, e) :: cuts, last => lastBehind e.closing cuts last

theorem ne_nil_of_mem_gapsBehind {passed g : Text} {cuts : List (Text × ScriptElement)}
    (h : g ∈ gapsBehind passed cuts) : g ≠ [] := by
  fun_induction gapsBehind passed cuts with
  | case1 => exact absurd h List.not_mem_nil
  | case2 passed gap e cuts ih =>
    rcases List.mem_cons.mp h with rfl | h
    · simp [ScriptElement.openTag]
    · exact ih h

/-- **Gaps with texts between them are the elements with these contents.** -/
theorem interleave_gapsBehind (passed last : Text) {cuts : List (Text × ScriptElement)}
    {us : List Text} (hlen : us.length = cuts.length) :
    interleave (gapsBehind passed cuts) us (lastBehind passed cuts last)
      = passed ++ cutText (refill cuts us) last := by
  fun_induction gapsBehind passed cuts generalizing us with
  | case1 passed =>
    obtain rfl := List.length_eq_zero_iff.mp hlen
    rfl
  | case2 passed gap e cuts ih =>
    obtain ⟨u, us, rfl⟩ := List.exists_cons_of_length_eq_add_one hlen
    have hrefill : refill ((gap, e) :: cuts) (u :: us)
        = (gap, { e with content := u }) :: refill cuts us := rfl
    rw [interleave, lastBehind, ih (Nat.succ.inj hlen), hrefill, cutText_cons]
    simp [ScriptElement.text, ScriptElement.openTag]

namespace CutAtElements

variable {t last : Text} {cuts : List (Text × ScriptElement)}

theorem eq_cutText (h : CutAtElements t cuts last) : t = cutText cuts last := by
  induction h with
  | done hnone => rfl
  | next hnext hrest ih => rw [cutText_cons, ← ih, nextElement?_eq_append hnext]

/-- Blocks lie behind the gaps. -/
theorem laidOut (h : CutAtElements t cuts last) (index offset : Nat) (passed : Text) :
    LaidOut offset (gapsBehind passed cuts) (scanBlocks index (offset + byteSize passed) t) := by
  induction h generalizing index offset passed with
  | done hnone =>
    rw [scanBlocks_of_none _ _ hnone]
    trivial
  | next hnext hrest ih =>
    rw [scanBlocks_of_some _ _ hnext]
    refine ⟨?_, rfl, ih _ _ _⟩
    simp only [byteSize_append]
    omega

/-- The contents of the blocks are those of the elements. -/
theorem map_content_scanBlocks (h : CutAtElements t cuts last) (index offset : Nat) :
    (scanBlocks index offset t).map (·.content) = cuts.map (·.2.content) := by
  induction h generalizing index offset with
  | done hnone =>
    rw [scanBlocks_of_none _ _ hnone]
    rfl
  | next hnext hrest ih => rw [scanBlocks_of_some _ _ hnext, List.map_cons, ih, List.map_cons]

end CutAtElements

/-! ## §3. The blocks of a component. -/

namespace CutAtElements

variable {source last : Text} {cuts : List (Text × ScriptElement)}

theorem map_content_findBlocks (h : CutAtElements source cuts last) :
    (findBlocks source).map (·.content) = cuts.map (·.2.content) := by
  rw [findBlocks_eq_scanBlocks, h.map_content_scanBlocks]

theorem laidOut_findBlocks (h : CutAtElements source cuts last) :
    LaidOut 0 (gapsBehind [] cuts) (findBlocks source) := by
  rw [findBlocks_eq_scanBlocks]
  exact h.laidOut 0 0 []

theorem eq_interleave_findBlocks (h : CutAtElements source cuts last) :
    source = interleave (gapsBehind [] cuts) ((findBlocks source).map (·.content))
      (lastBehind [] cuts last) := by
  rw [h.map_content_findBlocks, interleave_gapsBehind _ _ (List.length_map _), refill_contents]
  exact h.eq_cutText

end CutAtElements

/-- **A component is its gaps and the contents of its blocks in turn.** -/
theorem findBlocks_laidOut (source : Text) :
    ∃ gaps last, source = interleave gaps ((findBlocks source).map (·.content)) last
      ∧ LaidOut 0 gaps (findBlocks source) ∧ ∀ g ∈ gaps, g ≠ [] := by
  obtain ⟨cuts, last, hcut⟩ := exists_cutAtElements source
  exact ⟨gapsBehind [] cuts, lastBehind [] cuts last, hcut.eq_interleave_findBlocks,
    hcut.laidOut_findBlocks, fun g hg => ne_nil_of_mem_gapsBehind hg⟩

theorem pairwise_findBlocks (source : Text) :
    (findBlocks source).Pairwise (fun a b => a.stop < b.start) := by
  obtain ⟨gaps, last, -, hlaid, hne⟩ := findBlocks_laidOut source
  exact (hlaid.pairwise hne).2

theorem index_scanBlocks (index offset : Nat) (t : Text) {i : Nat} {b : ScriptBlock}
    (h : (scanBlocks index offset t)[i]? = some b) : b.index = index + i := by
  fun_induction scanBlocks index offset t generalizing i with
  | case1 => exact absurd h (by simp)
  | case2 index offset t gap e rest hnext start stop =>
    rename_i ih
    cases i with
    | zero =>
      obtain rfl := Option.some.inj h
      rfl
    | succ i =>
      rw [List.getElem?_cons_succ] at h
      have := ih h
      omega

/-- **What is found in a component.**  The blocks are those of the scanner.  Each knows its place
among them and stands where it says, and no two touch. -/
theorem findBlocks_spec (source : Text) :
    findBlocks source = scanBlocks 0 0 source
      ∧ (∀ (i : Nat) (b : ScriptBlock), (findBlocks source)[i]? = some b →
          b.index = i ∧ b.StandsIn source)
      ∧ (findBlocks source).Pairwise (fun a b => a.stop < b.start) := by
  refine ⟨findBlocks_eq_scanBlocks source, ?_, pairwise_findBlocks source⟩
  intro i b hb
  constructor
  · rw [findBlocks_eq_scanBlocks] at hb
    rw [index_scanBlocks 0 0 source hb, Nat.zero_add]
  · obtain ⟨gaps, last, hsource, hlaid, -⟩ := findBlocks_laidOut source
    have hstands := hlaid.standsIn last [] rfl (List.mem_of_getElem? hb)
    rwa [List.nil_append, ← hsource] at hstands

end ScriptWeave
