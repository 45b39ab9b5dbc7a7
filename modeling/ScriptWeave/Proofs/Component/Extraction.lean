/-
  ScriptWeave.Proofs.Component.Extraction
  ───────────────────────────────────────
  **WHAT IS PUT IN IS FOUND AGAIN.**

  What an element is can be said of its parts, each by itself: a text reads
  as gap, element and rest if and only if the parts are of the right kind.

      nextElement? t = some (gap, e, rest)
        ↔  t = gap ++ e.text ++ rest, e is an element, no tag opens in gap

  The content is asked for one thing only, that no closing tag is in it.  So
  another content without a closing tag makes an element in the same place,
  whatever follows, and the blocks of a component with such contents are the
  blocks that were there (`findBlocks_splice`).
-/
import ScriptWeave.Proofs.Component.Splicing

namespace ScriptWeave

open Text

/-! ## §1. Tags at the beginning and tags inside. -/

variable {t gap rest u v : Text} {e : ScriptElement}

/-- Whether a text opens a block is decided by the word and one more character. -/
theorem opensBlock_append (h : openWord.length < u.length) (v : Text) :
    opensBlock (u ++ v) = opensBlock u := by
  have hne : u.drop openWord.length ≠ [] := by
    rw [Ne, List.drop_eq_nil_iff]
    omega
  obtain ⟨x, w, hw⟩ := List.exists_cons_of_ne_nil hne
  rw [opensBlock, opensBlock, beginsFold_append_of_length_le (by omega),
    List.drop_append_of_le_length (by omega), hw]
  rfl

/-- Whether a text closes a block is decided by as many characters as a closing tag has. -/
theorem closesBlock_append (h : closeTag.length ≤ u.length) (v : Text) :
    closesBlock (u ++ v) = closesBlock u :=
  beginsFold_append_of_length_le h v

/-- Whether a closing tag, in any case of letters, is in a text. -/
def HasClosing (t : Text) : Prop := closeTag.map foldCase <:+: t.map foldCase

theorem hasClosing_iff : HasClosing t ↔ ∃ v, v <:+ t ∧ closesBlock v = true := by
  constructor
  · intro h
    obtain ⟨w, hpre, hsuf⟩ := List.infix_iff_prefix_suffix.mp h
    obtain ⟨v, hv, rfl⟩ := List.suffix_map_iff.mp hsuf
    exact ⟨v, hv, beginsFold_iff.mpr hpre⟩
  · rintro ⟨v, hsuf, hcloses⟩
    exact (beginsFold_iff.mp hcloses).isInfix.trans (hsuf.map foldCase).isInfix

instance (t : Text) : Decidable (HasClosing t) :=
  decidable_of_iff ((firstSplit closesBlock t).isSome = true) (by
    rw [hasClosing_iff]
    cases hsplit : firstSplit closesBlock t with
    | none =>
      have hnone := firstSplit_eq_none_iff.mp hsplit
      simp only [Option.isSome_none, Bool.false_eq_true, false_iff, not_exists, not_and]
      exact fun v hv => Bool.eq_false_iff.mp (hnone v hv)
    | some s =>
      obtain ⟨htext, hcloses⟩ := firstSplit_eq_append hsplit
      exact iff_of_true rfl ⟨s.2, ⟨s.1, htext.symm⟩, hcloses⟩)

/-- No character of a closing tag is its first again. -/
theorem closeTag_no_border : foldCase '<' ∉ (closeTag.map foldCase).drop 1 := by
  decide

/-- **No closing tag begins in a text and ends in a closing tag behind it.** -/
theorem closesBlock_seam (hclosing : closesBlock v = true) (hne : u ≠ [])
    (hlt : u.length < closeTag.length) : closesBlock (u ++ v) = false := by
  rw [Bool.eq_false_iff]
  intro hcloses
  have hpos : 0 < u.length := List.length_pos_iff.mpr hne
  have hlen : (closeTag.map foldCase).length = closeTag.length := List.length_map _
  obtain ⟨w, hw⟩ := beginsFold_iff.mp hclosing
  obtain ⟨w', hw'⟩ := beginsFold_iff.mp hcloses
  -- the text behind begins with the whole tag and with what is left of the tag
  have hdrop : (closeTag.map foldCase).drop u.length ++ w' = v.map foldCase := by
    have hcut := congrArg (List.drop u.length) hw'
    rwa [List.map_append, List.drop_append_of_le_length (by omega),
      List.drop_left' (List.length_map _)] at hcut
  obtain ⟨c, r, hc⟩ := List.exists_cons_of_ne_nil (l := (closeTag.map foldCase).drop u.length)
    (by rw [Ne, List.drop_eq_nil_iff]; omega)
  rw [hc] at hdrop
  have hfirst : c = foldCase '<' := (List.cons.inj (hdrop.trans hw.symm)).1
  have hin : c ∈ (closeTag.map foldCase).drop 1 :=
    List.drop_subset_drop_left _ hpos (hc ▸ List.mem_cons_self)
  exact closeTag_no_border (hfirst ▸ hin)

/-! ## §2. What an element is. -/

/-- Whether parts make up an element: an opening tag up to its first `>`, a content without a
closing tag, and a closing tag. -/
structure ScriptElement.IsElement (e : ScriptElement) : Prop where
  opens : opensBlock e.openTag = true
  length_opening : e.opening.length = openWord.length
  no_end : '>' ∉ e.attributes
  no_closing : ¬ HasClosing e.content
  closes : closesBlock e.closing = true
  length_closing : e.closing.length = closeTag.length

/-- Whether no opening tag begins in a text before a tag. -/
def OpensNowhere (gap tag : Text) : Prop :=
  ∀ a x b, gap = a ++ x :: b → opensBlock (x :: b ++ tag) = false

/-- Other contents without a closing tag make elements, too. -/
theorem ScriptElement.IsElement.refill (h : e.IsElement) (hu : ¬ HasClosing u) :
    ScriptElement.IsElement { e with content := u } :=
  { h with no_closing := hu }

theorem ScriptElement.length_openTag (h : e.opening.length = openWord.length) :
    openWord.length < e.openTag.length := by
  simp only [openTag, List.length_append, List.length_singleton]
  omega

/-- Whether a tag opens somewhere before or at an element is decided by its own opening tag. -/
theorem ScriptElement.opensBlock_append_text (h : e.opening.length = openWord.length)
    (u rest : Text) : opensBlock (u ++ (e.text ++ rest)) = opensBlock (u ++ e.openTag) := by
  have hsplit : u ++ (e.text ++ rest)
      = u ++ e.openTag ++ (e.content ++ (e.closing ++ rest)) := by
    simp [text]
  have := e.length_openTag h
  rw [hsplit, opensBlock_append]
  rw [List.length_append]
  omega

/-- The content of an element ends at the closing tag, whatever follows. -/
theorem ScriptElement.IsElement.firstSplit_content (h : e.IsElement) (rest : Text) :
    firstSplit closesBlock (e.content ++ (e.closing ++ rest))
      = some (e.content, e.closing ++ rest) := by
  have hcloses : closesBlock (e.closing ++ rest) = true := by
    rw [closesBlock_append (Nat.le_of_eq h.length_closing.symm), h.closes]
  refine firstSplit_append hcloses ?_
  intro a x b hab
  by_cases hlen : closeTag.length ≤ (x :: b).length
  · -- a tag that ends within the content would be in it
    rw [closesBlock_append hlen, Bool.eq_false_iff]
    intro hyes
    exact h.no_closing (hasClosing_iff.mpr ⟨x :: b, ⟨a, hab.symm⟩, hyes⟩)
  · exact closesBlock_seam hcloses (List.cons_ne_nil x b) (by omega)

/-- **An element is read from its text, whatever follows.** -/
theorem ScriptElement.IsElement.elementAt?_text (h : e.IsElement) (rest : Text) :
    elementAt? (e.text ++ rest) = some (e, rest) := by
  have htext : e.text ++ rest
      = e.opening ++ (e.attributes ++ '>' :: (e.content ++ (e.closing ++ rest))) := by
    simp [ScriptElement.text, ScriptElement.openTag]
  have hend : firstSplit (beginsWith '>')
      (e.attributes ++ '>' :: (e.content ++ (e.closing ++ rest)))
      = some (e.attributes, '>' :: (e.content ++ (e.closing ++ rest))) := by
    refine firstSplit_append (beginsWith_eq_true_iff.mpr ⟨_, rfl⟩) ?_
    intro a x b hab
    rw [Bool.eq_false_iff]
    intro hbegins
    obtain ⟨w, hw⟩ := beginsWith_eq_true_iff.mp hbegins
    obtain ⟨rfl, -⟩ := List.cons.inj hw
    exact h.no_end (hab ▸ List.mem_append_right a List.mem_cons_self)
  rw [htext, elementAt?, List.drop_left' h.length_opening, hend, Option.bind_some, List.drop_one,
    List.tail_cons, h.firstSplit_content, Option.map_some, List.take_left' h.length_opening,
    List.take_left' h.length_closing, List.drop_left' h.length_closing]

/-- The first closing tag of a text is not in the text before it. -/
theorem not_hasClosing_of_firstSplit (h : firstSplit closesBlock t = some (u, v)) :
    ¬ HasClosing u := by
  intro hin
  obtain ⟨w, ⟨a, hw⟩, hcloses⟩ := hasClosing_iff.mp hin
  cases w with
  | nil => exact absurd hcloses (by decide)
  | cons x b =>
    have hnot := not_holds_before h hw.symm
    rw [closesBlock_append (length_le_of_beginsFold hcloses)] at hnot
    exact Bool.eq_false_iff.mp hnot hcloses

/-- A closing tag is as long as it is written, in whatever letters. -/
theorem closesBlock_take (h : closesBlock t = true) :
    (t.take closeTag.length).length = closeTag.length
      ∧ closesBlock (t.take closeTag.length) = true := by
  have hlen : (t.take closeTag.length).length = closeTag.length := by
    rw [List.length_take]
    exact Nat.min_eq_left (length_le_of_beginsFold h)
  refine ⟨hlen, ?_⟩
  rw [← closesBlock_append (Nat.le_of_eq hlen.symm) (t.drop closeTag.length),
    List.take_append_drop, h]

/-- What is read at an opening tag is an element. -/
theorem isElement_of_elementAt? (hopen : opensBlock t = true)
    (h : elementAt? t = some (e, rest)) : e.IsElement := by
  have htext := elementAt?_eq_append h
  obtain ⟨tag, htag, hrest⟩ := Option.bind_eq_some_iff.mp h
  obtain ⟨body, hbody, heq⟩ := Option.map_eq_some_iff.mp hrest
  obtain ⟨he, -⟩ := Prod.mk.inj heq
  have hword : openWord.length ≤ t.length :=
    length_le_of_beginsFold (Bool.and_eq_true_iff.mp hopen).1
  obtain ⟨hlength, hcloses⟩ := closesBlock_take (firstSplit_eq_append hbody).2
  have hopening : e.opening.length = openWord.length := by
    rw [← he, List.length_take]
    exact Nat.min_eq_left hword
  have hopens : opensBlock e.openTag = true := by
    rw [htext] at hopen
    exact (e.opensBlock_append_text hopening [] rest).symm.trans hopen
  rw [← he] at hopening hopens ⊢
  exact ⟨hopens, hopening, not_mem_of_firstSplit_beginsWith htag,
    not_hasClosing_of_firstSplit hbody, hcloses, hlength⟩

/-- **Gap, element and rest are read from a text if and only if it is made up of them.** -/
theorem nextElement?_eq_some_iff : nextElement? t = some (gap, e, rest) ↔
    t = gap ++ e.text ++ rest ∧ e.IsElement ∧ OpensNowhere gap e.openTag := by
  constructor
  · intro h
    obtain ⟨s, hs, he⟩ := Option.bind_eq_some_iff.mp h
    obtain ⟨⟨e', rest'⟩, hat, heq⟩ := Option.map_eq_some_iff.mp he
    obtain ⟨rfl, rfl, rfl⟩ : s.1 = gap ∧ e' = e ∧ rest' = rest := by simpa using heq
    have helement := isElement_of_elementAt? (firstSplit_eq_append hs).2 hat
    refine ⟨nextElement?_eq_append h, helement, ?_⟩
    intro a x b hab
    have hnot := not_holds_before hs hab
    rwa [elementAt?_eq_append hat,
      ScriptElement.opensBlock_append_text helement.length_opening] at hnot
  · rintro ⟨rfl, helement, hgap⟩
    have hfirst : firstSplit opensBlock (gap ++ (e.text ++ rest)) = some (gap, e.text ++ rest) := by
      refine firstSplit_append ?_ ?_
      · exact (e.opensBlock_append_text helement.length_opening [] rest).trans helement.opens
      · intro a x b hab
        rw [e.opensBlock_append_text helement.length_opening, hgap a x b hab]
    rw [List.append_assoc, nextElement?, hfirst, Option.bind_some, helement.elementAt?_text,
      Option.map_some]

/-! ## §3. Other contents. -/

/-- An element with another content is read where the element was, whatever follows. -/
theorem nextElement?_refill (h : nextElement? t = some (gap, e, rest)) (hu : ¬ HasClosing u)
    (rest' : Text) :
    nextElement? (gap ++ ScriptElement.text { e with content := u } ++ rest')
      = some (gap, { e with content := u }, rest') := by
  obtain ⟨-, helement, hgap⟩ := nextElement?_eq_some_iff.mp h
  exact nextElement?_eq_some_iff.mpr ⟨rfl, helement.refill hu, hgap⟩

namespace CutAtElements

variable {last : Text} {cuts : List (Text × ScriptElement)} {us : List Text}

theorem no_closing (h : CutAtElements t cuts last) : ∀ c ∈ cuts, ¬ HasClosing c.2.content := by
  induction h with
  | done => exact fun c hc => absurd hc List.not_mem_nil
  | next hnext _ ih =>
    intro c hc
    rcases List.mem_cons.mp hc with rfl | hc
    · exact (nextElement?_eq_some_iff.mp hnext).2.1.no_closing
    · exact ih c hc

/-- **Elements with other contents are read with these contents**, in the places and with the
attributes that they had. -/
theorem scanBlocks_refill (h : CutAtElements t cuts last) (hlen : us.length = cuts.length)
    (hus : ∀ u ∈ us, ¬ HasClosing u) (index offset offset' : Nat) :
    (scanBlocks index offset' (cutText (refill cuts us) last)).map (·.index)
        = (scanBlocks index offset t).map (·.index)
      ∧ (scanBlocks index offset' (cutText (refill cuts us) last)).map (·.attributes)
        = (scanBlocks index offset t).map (·.attributes)
      ∧ (scanBlocks index offset' (cutText (refill cuts us) last)).map (·.content) = us := by
  induction h generalizing us index offset offset' with
  | done hnone =>
    obtain rfl := List.length_eq_zero_iff.mp hlen
    have hsame : ∀ t, cutText (refill [] []) t = t := fun _ => rfl
    rw [hsame, scanBlocks_of_none _ _ hnone, scanBlocks_of_none _ _ hnone]
    exact ⟨rfl, rfl, rfl⟩
  | @next t gap rest last e cuts hnext hrest ih =>
    obtain ⟨u, us, rfl⟩ := List.exists_cons_of_length_eq_add_one hlen
    have hrefill : refill ((gap, e) :: cuts) (u :: us)
        = (gap, { e with content := u }) :: refill cuts us := rfl
    have hnext' := nextElement?_refill hnext (hus u List.mem_cons_self)
      (cutText (refill cuts us) last)
    rw [hrefill, cutText_cons, scanBlocks_of_some _ _ hnext', scanBlocks_of_some _ _ hnext]
    obtain ⟨hindex, hattributes, hcontent⟩ := ih (Nat.succ.inj hlen)
      (fun v hv => hus v (List.mem_cons_of_mem u hv)) (index + 1) _ _
    exact ⟨congrArg (index :: ·) hindex, congrArg (parseAttributes e.attributes :: ·) hattributes,
      congrArg (u :: ·) hcontent⟩

end CutAtElements

/-! ## §4. Splicing and finding. -/

theorem mem_settled {bs : List ScriptBlock} {os : List (Option Text)} {u : Text}
    (h : u ∈ settled bs os) : some u ∈ os ∨ u ∈ bs.map (·.content) := by
  induction bs generalizing os with
  | nil => exact absurd h List.not_mem_nil
  | cons b bs ih =>
    cases os with
    | nil => exact absurd h List.not_mem_nil
    | cons o os =>
      rcases List.mem_cons.mp h with rfl | h
      · cases o with
        | none => exact Or.inr List.mem_cons_self
        | some t => exact Or.inl List.mem_cons_self
      · exact (ih h).imp (List.mem_cons_of_mem o) (List.mem_cons_of_mem b.content)

/-- **What is spliced in is found again.**  Replace the contents of any blocks of a component, in
any order, by texts without a closing tag: the blocks are found in their places, with their
attributes, with the new contents and where none was chosen with the old. -/
theorem findBlocks_splice {source : Text} {os : List (Option Text)} {rs : List Replacement}
    (hlen : os.length = (findBlocks source).length) (hos : ∀ u, some u ∈ os → ¬ HasClosing u)
    (hrs : rs.Perm (chosen (findBlocks source) os)) :
    (findBlocks (splice source rs)).map (·.index) = (findBlocks source).map (·.index)
      ∧ (findBlocks (splice source rs)).map (·.attributes)
        = (findBlocks source).map (·.attributes)
      ∧ (findBlocks (splice source rs)).map (·.content) = settled (findBlocks source) os := by
  obtain ⟨cuts, last, hcut⟩ := exists_cutAtElements source
  have hcontents := hcut.map_content_findBlocks
  have hcuts : (settled (findBlocks source) os).length = cuts.length := by
    have hblocks := congrArg List.length hcontents
    rw [List.length_map, List.length_map] at hblocks
    rw [settled, List.length_zipWith]
    omega
  have hclosing : ∀ u ∈ settled (findBlocks source) os, ¬ HasClosing u := by
    intro u hu
    rcases mem_settled hu with hnew | hold
    · exact hos u hnew
    · rw [hcontents] at hold
      obtain ⟨c, hc, rfl⟩ := List.mem_map.mp hold
      exact hcut.no_closing c hc
  have htext : splice source rs
      = cutText (refill cuts (settled (findBlocks source) os)) last := by
    have hstarts : (chosen (findBlocks source) os).Pairwise (fun a b => a.start ≠ b.start) :=
      (pairwise_chosen (pairwise_start_findBlocks source) os).imp Nat.ne_of_lt
    rw [← splice_eq_of_perm source hrs.symm hstarts,
      splice_chosen hcut.eq_interleave_findBlocks hcut.laidOut_findBlocks hlen,
      interleave_gapsBehind _ _ hcuts, List.nil_append]
  rw [htext, findBlocks_eq_scanBlocks source, findBlocks_eq_scanBlocks]
  rw [findBlocks_eq_scanBlocks source] at hcuts hclosing
  exact hcut.scanBlocks_refill hcuts hclosing 0 0 0

/-- A component with two blocks. -/
def twoScripts : Text := "<script>a</script><p><script lang=x>b</script>"

theorem findBlocks_twoScripts : findBlocks twoScripts =
    [⟨0, parseAttributes [], "a", 8, 9⟩, ⟨1, parseAttributes " lang=x", "b", 36, 37⟩] := by
  have hfirst : nextElement? twoScripts = some (([] : Text),
      (⟨"<script", [], "a", "</script>"⟩ : ScriptElement),
      ("<p><script lang=x>b</script>" : Text)) := by
    decide +kernel
  have hsecond : nextElement? "<p><script lang=x>b</script>" = some (("<p>" : Text),
      (⟨"<script", " lang=x", "b", "</script>"⟩ : ScriptElement), ([] : Text)) := by
    decide +kernel
  have hthird : nextElement? [] = none := by
    decide +kernel
  rw [findBlocks_eq_scanBlocks, scanBlocks_of_some _ _ hfirst, scanBlocks_of_some _ _ hsecond,
    scanBlocks_of_none _ _ hthird]
  rfl

/-- An opening tag and all but the end of a closing one in the place of the first content. -/
def firstRefilled : List (Option Text) := [some "<script></script", none]

/-- The opening tag and the beginning of a closing one are found again as content. -/
theorem findBlocks_splice_twoScripts :
    (findBlocks (splice twoScripts [⟨8, 9, "<script></script"⟩])).map (·.index) = [0, 1]
      ∧ (findBlocks (splice twoScripts [⟨8, 9, "<script></script"⟩])).map (·.attributes)
        = [parseAttributes [], parseAttributes " lang=x"]
      ∧ (findBlocks (splice twoScripts [⟨8, 9, "<script></script"⟩])).map (·.content)
        = [("<script></script" : Text), ("b" : Text)] := by
  have hos : ∀ u, some u ∈ firstRefilled → ¬ HasClosing u := by
    intro u hu
    rcases List.mem_cons.mp hu with hu | hu
    · rw [Option.some.inj hu]
      decide +kernel
    · exact absurd (List.mem_singleton.mp hu) (Option.some_ne_none u)
  have hlen : firstRefilled.length = (findBlocks twoScripts).length := by
    rw [findBlocks_twoScripts]
    rfl
  have hrs : List.Perm [⟨8, 9, "<script></script"⟩]
      (chosen (findBlocks twoScripts) firstRefilled) := by
    rw [findBlocks_twoScripts]
    exact List.Perm.refl _
  have hfound := findBlocks_splice hlen hos hrs
  rw [findBlocks_twoScripts] at hfound
  simp only [List.map_cons, List.map_nil] at hfound
  exact hfound

end ScriptWeave
