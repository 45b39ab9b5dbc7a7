/-
  ScriptWeave.Proofs.Component.Scanner
  ────────────────────────────────────
  **THE SCANNER BEHIND THE BLOCK PATTERN.**

  Script blocks are found by a pattern with a greedy loop, a lazy one and an
  anchor.  What it finds is what a scanner without any choice finds:

      the leftmost `<script`, in any case, before no word character;
      the first `>` behind it;
      the first `</script>`, in any case, behind that;
      and so on behind the closing tag.

  Where the scanner stops, no match begins further on either: a `>` or a
  closing tag behind a later position is one behind an earlier position.
-/
import ScriptWeave.Component.Block
import ScriptWeave.Proofs.Pattern.CaseFold
import ScriptWeave.Proofs.Pattern.Progress

namespace ScriptWeave

open Pattern Text

/-! ## §1. The scanner. -/

/-- What an opening tag begins with. -/
def openWord : Text := "<script"

/-- A closing tag. -/
def closeTag : Text := "</script>"

/-- Whether a text begins with an opening tag: with its word, and then no word character. -/
def opensBlock (t : Text) : Bool :=
  beginsFold openWord t && (t.drop openWord.length).head?.any (fun c => !isWordChar c)

/-- Whether a text begins with a closing tag. -/
def closesBlock (t : Text) : Bool := beginsFold closeTag t

/-- A script element, from its opening to its closing tag. -/
structure ScriptElement where
  /-- The beginning of the opening tag. -/
  opening : Text
  /-- The rest of the opening tag, without the `>` that ends it. -/
  attributes : Text
  /-- What stands between the tags. -/
  content : Text
  /-- The closing tag. -/
  closing : Text
  deriving Repr, DecidableEq

namespace ScriptElement

/-- The opening tag. -/
def openTag (e : ScriptElement) : Text := e.opening ++ e.attributes ++ ['>']

/-- The element as text. -/
def text (e : ScriptElement) : Text := e.openTag ++ e.content ++ e.closing

end ScriptElement

/-- The element whose opening tag a text begins with, and what follows it. -/
def elementAt? (t : Text) : Option (ScriptElement × Text) :=
  (firstSplit (beginsWith '>') (t.drop openWord.length)).bind (fun tag =>
    (firstSplit closesBlock (tag.2.drop 1)).map (fun body =>
      (⟨t.take openWord.length, tag.1, body.1, body.2.take closeTag.length⟩,
        body.2.drop closeTag.length)))

/-- The text before the next element, the element, and what follows it. -/
def nextElement? (t : Text) : Option (Text × ScriptElement × Text) :=
  (firstSplit opensBlock t).bind (fun s => (elementAt? s.2).map (fun e => (s.1, e)))

variable {t gap rest : Text} {e : ScriptElement}

/-- The parts of an element make up the text. -/
theorem elementAt?_eq_append (h : elementAt? t = some (e, rest)) : t = e.text ++ rest := by
  obtain ⟨tag, htag, hrest⟩ := Option.bind_eq_some_iff.mp h
  obtain ⟨body, hbody, heq⟩ := Option.map_eq_some_iff.mp hrest
  obtain ⟨hcut, hgt⟩ := firstSplit_eq_append htag
  obtain ⟨v, hv⟩ := beginsWith_eq_true_iff.mp hgt
  have hcontent : v = body.1 ++ body.2 := by
    rw [← (firstSplit_eq_append hbody).1, hv, List.drop_one, List.tail_cons]
  obtain ⟨rfl, rfl⟩ := Prod.mk.inj heq
  calc
    t = t.take openWord.length ++ t.drop openWord.length := (List.take_append_drop _ t).symm
    _ = t.take openWord.length ++ (tag.1 ++ '>' :: (body.1 ++ body.2)) := by
      rw [hcut, hv, hcontent]
    _ = _ := by
      simp [ScriptElement.text, ScriptElement.openTag]

theorem nextElement?_eq_append (h : nextElement? t = some (gap, e, rest)) :
    t = gap ++ e.text ++ rest := by
  obtain ⟨s, hs, he⟩ := Option.bind_eq_some_iff.mp h
  obtain ⟨⟨e', rest'⟩, hat, heq⟩ := Option.map_eq_some_iff.mp he
  obtain ⟨rfl, rfl, rfl⟩ : s.1 = gap ∧ e' = e ∧ rest' = rest := by simpa using heq
  rw [(firstSplit_eq_append hs).1, elementAt?_eq_append hat, List.append_assoc]

theorem nextElement?_length_lt (h : nextElement? t = some (gap, e, rest)) :
    rest.length < t.length := by
  rw [nextElement?_eq_append h]
  simp only [ScriptElement.text, ScriptElement.openTag, List.length_append, List.length_cons]
  omega

/-- The blocks of the elements of a text, the first of which is in place `index` and which begins
at byte `offset`. -/
def scanBlocks (index offset : Nat) (t : Text) : List ScriptBlock :=
  match _ : nextElement? t with
  | none => []
  | some (gap, e, rest) =>
    let start := offset + byteSize gap + byteSize e.openTag
    let stop := start + byteSize e.content
    ⟨index, parseAttributes e.attributes, e.content, start, stop⟩
      :: scanBlocks (index + 1) (stop + byteSize e.closing) rest
termination_by t.length
decreasing_by exact nextElement?_length_lt ‹_›

theorem scanBlocks_of_none (index offset : Nat) (h : nextElement? t = none) :
    scanBlocks index offset t = [] := by
  rw [scanBlocks]
  split
  next => rfl
  next hsome =>
    rw [h] at hsome
    exact absurd hsome (by simp)

theorem scanBlocks_of_some (index offset : Nat) (h : nextElement? t = some (gap, e, rest)) :
    scanBlocks index offset t
      = ⟨index, parseAttributes e.attributes, e.content, offset + byteSize gap + byteSize e.openTag,
          offset + byteSize gap + byteSize e.openTag + byteSize e.content⟩
        :: scanBlocks (index + 1)
          (offset + byteSize gap + byteSize e.openTag + byteSize e.content + byteSize e.closing)
          rest := by
  rw [scanBlocks]
  split
  next hnone =>
    rw [h] at hnone
    exact absurd hnone (by simp)
  next hsome =>
    rw [h] at hsome
    obtain ⟨rfl, rfl, rfl⟩ : gap = _ ∧ e = _ ∧ rest = _ := by simpa using hsome
    rfl

/-! ## §2. Where the pattern matches. -/

theorem plain_openWord : ∀ c ∈ openWord, IsPlain c := by
  have hall : openWord.all (fun c => decide (IsPlain c)) = true := by decide
  exact fun c hc => of_decide_eq_true (List.all_eq_true.mp hall c hc)

theorem plain_closeTag : ∀ c ∈ closeTag, IsPlain c := by
  have hall : closeTag.all (fun c => decide (IsPlain c)) = true := by decide
  exact fun c hc => of_decide_eq_true (List.all_eq_true.mp hall c hc)

/-- The word of an opening tag ends with a word character. -/
theorem isWordAt_openWord (prev : Option Char) (h : beginsFold openWord t = true) :
    isWordAt (lastOr prev (t.take openWord.length)) = true := by
  obtain ⟨v, x, w, rfl, hlen, hx⟩ := beginsFold_snoc (u := ['<', 's', 'c', 'r', 'i', 'p']) h
  have htake : ((v ++ [x]) ++ w).take openWord.length = v ++ [x] :=
    List.take_left' (by rw [List.length_append, hlen]; rfl)
  rw [htake, lastOr_append]
  exact isWordChar_of_sameFold (by decide) hx

/-- A closing tag is passed if the rest begins with one. -/
theorem run_closeTag (prev : Option Char) (t : Text) (g : Groups) :
    (Node.ofList (Node.charsAnyCase closeTag)).run ⟨prev, t⟩ g (fun c g => some (c, g))
      = if closesBlock t = true then
          some (⟨lastOr prev (t.take closeTag.length), t.drop closeTag.length⟩, g)
        else none := by
  have hrun := run_charsAnyCase (c := ⟨prev, t⟩) (g := g) (k := fun c g => some (c, g))
    plain_closeTag []
  rw [List.append_nil] at hrun
  rw [hrun]
  rfl

/-- The part of the pattern behind the opening tag. -/
theorem run_body (prev : Option Char) (r : Text) (g : Groups) :
    (Node.ofList (.group 2 (.few (.compl .none)) :: Node.charsAnyCase closeTag)).run ⟨prev, r⟩ g
        (fun c g => some (c, g))
      = (firstSplit closesBlock r).map (fun s =>
          (⟨lastOr (lastOr prev s.1) (s.2.take closeTag.length), s.2.drop closeTag.length⟩,
            (2, ⟨r, s.2⟩) :: g)) := by
  -- whether the closing tag is passed depends on the rest alone, so the lazy loop stops at it
  have hsome : ∀ prev t, ((Node.ofList (Node.charsAnyCase closeTag)).run ⟨prev, t⟩
      ((2, ⟨r, t⟩) :: g) (fun c g => some (c, g))).isSome = closesBlock t := by
    intro prev t
    rw [run_closeTag]
    cases closesBlock t <;> rfl
  rw [run_group_few (fun _ => rfl) hsome]
  cases hs : firstSplit closesBlock r with
  | none => rfl
  | some s =>
    rw [Option.bind_some, run_closeTag, if_pos (firstSplit_eq_append hs).2, Option.map_some]

/-- The match of an element: group 1 is the text of its attributes, group 2 its content. -/
def elementMatch (e : ScriptElement) (rest : Text) : Match where
  whole := ⟨e.text ++ rest, rest⟩
  groups :=
    [(2, ⟨e.content ++ (e.closing ++ rest), e.closing ++ rest⟩),
      (1, ⟨e.attributes ++ '>' :: (e.content ++ (e.closing ++ rest)),
        '>' :: (e.content ++ (e.closing ++ rest))⟩)]

/-- The spans of an element are those between the positions that were found. -/
theorem map_elementMatch (t : Text) :
    (elementAt? t).map (fun s => elementMatch s.1 s.2)
      = (firstSplit (beginsWith '>') (t.drop openWord.length)).bind (fun tag =>
          (firstSplit closesBlock (tag.2.drop 1)).map (fun body =>
            ⟨⟨t, body.2.drop closeTag.length⟩,
              [(2, ⟨tag.2.drop 1, body.2⟩), (1, ⟨t.drop openWord.length, tag.2⟩)]⟩)) := by
  cases htag : firstSplit (beginsWith '>') (t.drop openWord.length) with
  | none => rw [elementAt?, htag, Option.bind_none, Option.bind_none, Option.map_none]
  | some tag =>
    cases hbody : firstSplit closesBlock (tag.2.drop 1) with
    | none => rw [elementAt?, htag, Option.bind_some, Option.bind_some, hbody]; rfl
    | some body =>
      have helem : elementAt? t = some (⟨t.take openWord.length, tag.1, body.1,
          body.2.take closeTag.length⟩, body.2.drop closeTag.length) := by
        rw [elementAt?, htag, Option.bind_some, hbody, Option.map_some]
      -- the spans are ends of the text, and so are the parts of the element put together
      have htext := elementAt?_eq_append helem
      obtain ⟨w, hw⟩ := beginsWith_eq_true_iff.mp (firstSplit_eq_append htag).2
      have hcut : t.drop openWord.length = tag.1 ++ '>' :: w := by
        rw [(firstSplit_eq_append htag).1, hw]
      have hcontent : tag.2.drop 1 = w := by rw [hw, List.drop_one, List.tail_cons]
      have hw' : w = body.1 ++ body.2 := by rw [← hcontent, (firstSplit_eq_append hbody).1]
      rw [helem, Option.map_some, Option.bind_some, hbody, Option.map_some]
      simp only [elementMatch, ← htext, List.take_append_drop, hcut, hw, hw', List.drop_one,
        List.tail_cons]

/-- The part of the pattern behind the word of the opening tag matches where an element is. -/
theorem run_tail (prev : Option Char) (t : Text) :
    ((Node.ofList (.group 1 (.many (.compl (.single '>'))) :: .char (.single '>')
        :: .group 2 (.few (.compl .none)) :: Node.charsAnyCase closeTag)).run
          ⟨prev, t.drop openWord.length⟩ [] (fun c g => some (c, g))).map
        (fun r => (⟨⟨t, r.1.rest⟩, r.2⟩ : Match))
      = (elementAt? t).map (fun s => elementMatch s.1 s.2) := by
  rw [run_group_many_single, map_elementMatch]
  cases firstSplit (beginsWith '>') (t.drop openWord.length) with
  | none => rfl
  | some tag =>
    rw [Option.bind_some, Option.bind_some, run_body, Option.map_map]
    rfl

/-- Behind the word at the end of a text there is no `>`. -/
theorem elementAt?_eq_none_of_end (h : t.drop openWord.length = []) : elementAt? t = none := by
  rw [elementAt?, h]
  rfl

/-- A word that neither the end of the text nor a word character follows opens a block. -/
theorem opensBlock_or_end (hopen : beginsFold openWord t = true)
    (hnext : ¬ isWordAt (t.drop openWord.length).head? = true) :
    opensBlock t = true ∨ t.drop openWord.length = [] := by
  cases hv : t.drop openWord.length with
  | nil => exact Or.inr rfl
  | cons x v =>
    rw [hv] at hnext
    have hx : isWordChar x = false := Bool.eq_false_iff.mpr hnext
    exact Or.inl (by simp [opensBlock, hopen, hv, hx])

theorem not_opensBlock_of_word (hnext : isWordAt (t.drop openWord.length).head? = true) :
    ¬ opensBlock t = true := by
  cases hv : t.drop openWord.length with
  | nil => simp [opensBlock, hv]
  | cons x v =>
    rw [hv] at hnext
    have hx : isWordChar x = true := hnext
    simp [opensBlock, hv, hx]

/-- **A match begins where an element does**, and nowhere else. -/
theorem matchAt_blockPattern (prev : Option Char) (t : Text) :
    blockPattern.matchAt ⟨prev, t⟩
      = if opensBlock t = true then (elementAt? t).map (fun s => elementMatch s.1 s.2)
        else none := by
  have hnode : blockPattern.node = Node.ofList (Node.charsAnyCase openWord
      ++ (.anchor .wordEdge :: .group 1 (.many (.compl (.single '>'))) :: .char (.single '>')
        :: .group 2 (.few (.compl .none)) :: Node.charsAnyCase closeTag)) := rfl
  rw [matchAt, hnode, run_charsAnyCase plain_openWord]
  by_cases hopen : beginsFold openWord t = true
  · rw [if_pos hopen, run_ofList_cons, run_anchor, Anchor.holds, isWordAt_openWord prev hopen]
    by_cases hnext : isWordAt (t.drop openWord.length).head? = true
    · rw [if_neg (not_opensBlock_of_word hnext), hnext]
      rfl
    · -- the anchor holds at the end of the text too, but then there is no `>` either
      rw [Bool.eq_false_iff.mpr hnext]
      refine (run_tail _ t).trans ?_
      rcases opensBlock_or_end hopen hnext with hyes | hend
      · rw [if_pos hyes]
      · rw [elementAt?_eq_none_of_end hend, Option.map_none, ite_self]
  · have hno : ¬ opensBlock t = true := by simp [opensBlock, hopen]
    rw [if_neg hopen, if_neg hno, Option.map_none]

/-! ## §3. Where no element is left. -/

/-- Further on in a text there is an element only if there is one further back. -/
theorem elementAt?_eq_none_of_suffix (h : elementAt? t = none) {s : Text} (hs : s <:+ t) :
    elementAt? s = none := by
  have hdrop := suffix_drop hs openWord.length
  cases hs' : firstSplit (beginsWith '>') (s.drop openWord.length) with
  | none => rw [elementAt?, hs', Option.bind_none]
  | some tag' =>
    cases ht : firstSplit (beginsWith '>') (t.drop openWord.length) with
    | none =>
      rw [firstSplit_eq_none_of_suffix ht hdrop] at hs'
      exact absurd hs' (by simp)
    | some tag =>
      -- the later `>` is not before the earlier one, so neither is the closing tag behind it
      have hbody : firstSplit closesBlock (tag.2.drop 1) = none := by
        rw [elementAt?, ht, Option.bind_some, Option.map_eq_none_iff] at h
        exact h
      have hbody' := firstSplit_eq_none_of_suffix hbody (suffix_drop (firstSplit_mono ht hdrop hs') 1)
      rw [elementAt?, hs', Option.bind_some, hbody', Option.map_none]

/-- Where the scanner finds nothing, no match begins. -/
theorem matchAt_eq_none_of_nextElement? (h : nextElement? t = none) {s : Text} (hs : s <:+ t)
    (prev : Option Char) : blockPattern.matchAt ⟨prev, s⟩ = none := by
  rw [matchAt_blockPattern]
  by_cases hopen : opensBlock s = true
  · rw [if_pos hopen]
    cases hfirst : firstSplit opensBlock t with
    | none =>
      rw [firstSplit_eq_none_iff.mp hfirst s hs] at hopen
      exact absurd hopen (by decide)
    | some c =>
      rw [nextElement?, hfirst, Option.bind_some, Option.map_eq_none_iff] at h
      rw [elementAt?_eq_none_of_suffix h (suffix_of_holds hfirst hs hopen), Option.map_none]
  · rw [if_neg hopen]

/-! ## §4. All blocks. -/

theorem advances_blockPattern : Advances blockPattern := advances_of_not_nullable rfl

theorem piecesFrom_of_none (h : nextElement? t = none) (prev : Option Char) :
    piecesFrom blockPattern prev t = t.map .plain := by
  have hpass := @piecesFrom_append blockPattern prev t []
    (fun a x b hab => matchAt_eq_none_of_nextElement? h
      (by rw [List.append_nil, hab]; exact List.suffix_append a (x :: b)) _)
  rw [piecesFrom_nil (matchAt_eq_none_of_nextElement? h (List.nil_suffix) _), List.append_nil,
    List.append_nil] at hpass
  exact hpass

theorem piecesFrom_of_some (h : nextElement? t = some (gap, e, rest)) (prev : Option Char) :
    piecesFrom blockPattern prev t
      = gap.map .plain ++ .hit (elementMatch e rest)
        :: piecesFrom blockPattern (lastOr (lastOr prev gap) e.text) rest := by
  obtain ⟨s, hs, hmap⟩ := Option.bind_eq_some_iff.mp h
  obtain ⟨⟨e', rest'⟩, hat, heq⟩ := Option.map_eq_some_iff.mp hmap
  obtain ⟨rfl, rfl, rfl⟩ : s.1 = gap ∧ e' = e ∧ rest' = rest := by simpa using heq
  obtain ⟨hsplit, hopen⟩ := firstSplit_eq_append hs
  have htext := elementAt?_eq_append hat
  have hmatch : blockPattern.matchAt ⟨lastOr prev s.1, e'.text ++ rest'⟩
      = some (elementMatch e' rest') := by
    rw [← htext, matchAt_blockPattern, if_pos hopen, hat, Option.map_some]
  have hlen : (elementMatch e' rest').whole.length = e'.text.length := by
    simp [elementMatch, Span.length]
  -- the scanner passed these positions because no opening tag is there
  have hbefore : ∀ a x b, s.1 = a ++ x :: b →
      blockPattern.matchAt ⟨lastOr prev a, x :: b ++ s.2⟩ = none := by
    intro a x b hab
    rw [matchAt_blockPattern, not_holds_before hs hab, if_neg (by decide)]
  rw [hsplit, piecesFrom_append hbefore, htext,
    piecesFrom_match advances_blockPattern hmatch hlen]

/-- What a match of an element says about a text of `total` bytes. -/
theorem blockOf_elementMatch (total index : Nat) (e : ScriptElement) (rest : Text) :
    blockOf total index (elementMatch e rest)
      = ⟨index, parseAttributes e.attributes, e.content,
          total - byteSize (e.content ++ (e.closing ++ rest)),
          total - byteSize (e.closing ++ rest)⟩ := by
  simp [blockOf, elementMatch, Match.groupText, Match.group?, List.lookup_cons, Span.text,
    Span.length]

/-- The matches from a position on are the blocks that the scanner finds from there. -/
theorem blocks_piecesFrom (index offset total : Nat) (t : Text) (prev : Option Char)
    (h : offset + byteSize t = total) :
    ((piecesFrom blockPattern prev t).filterMap Piece.match?).mapIdx
        (fun i m => blockOf total (i + index) m)
      = scanBlocks index offset t := by
  fun_induction scanBlocks index offset t generalizing prev with
  | case1 index offset t hnone =>
    rw [piecesFrom_of_none hnone, filterMap_match?_plain]
    rfl
  | case2 index offset t gap e rest hsome start stop ih =>
    have hsize : byteSize t = byteSize gap + (byteSize e.openTag + byteSize e.content
        + byteSize e.closing) + byteSize rest := by
      rw [nextElement?_eq_append hsome, byteSize_append, byteSize_append, ScriptElement.text,
        byteSize_append, byteSize_append]
    -- the next element begins where this one ended, in bytes as in characters
    have hrest := @ih (lastOr (lastOr prev gap) e.text) (by omega)
    have hhit : ∀ ps, (Piece.hit (elementMatch e rest) :: ps).filterMap Piece.match?
        = elementMatch e rest :: ps.filterMap Piece.match? := fun _ => rfl
    have hshift : ∀ ms : List Match, ms.mapIdx (fun i m => blockOf total (i + 1 + index) m)
        = ms.mapIdx (fun i m => blockOf total (i + (index + 1)) m) := by
      intro ms
      simp only [Nat.add_assoc, Nat.add_comm 1]
    rw [piecesFrom_of_some hsome, List.filterMap_append, filterMap_match?_plain, List.nil_append,
      hhit, List.mapIdx_cons, hshift, hrest, blockOf_elementMatch]
    simp only [byteSize_append]
    congr 2 <;> omega

/-- **The blocks of a component are those that the scanner finds.** -/
theorem findBlocks_eq_scanBlocks (source : Text) : findBlocks source = scanBlocks 0 0 source := by
  rw [findBlocks, matchesIn_eq rfl]
  exact blocks_piecesFrom 0 0 (byteSize source) source none (Nat.zero_add _)

end ScriptWeave
