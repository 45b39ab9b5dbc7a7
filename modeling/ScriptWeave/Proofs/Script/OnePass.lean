/-
  ScriptWeave.Proofs.Script.OnePass
  ─────────────────────────────────
  **RENAMING IN ONE PASS.**

  The entries of a table are applied one after the other, each to what its
  predecessors made of the text.  If every internal name is led by a sigil
  that no public name has, nothing that is put in is replaced again, and the
  result is that of one pass from left to right which replaces, where a
  sigil stands, the longest internal name that begins there:

      applyRenames table order t = table.renameLongest sigil t

  A sigil with the name characters behind it is a token.  The entries act on
  a token and on what follows it apart from each other (`Leading.foldl_token`):
  the first one that the token begins with is applied, and then no sigil is
  left in it.  Longest first, or in any order in which no name comes before
  one that it begins, that entry is the longest.
-/
import Mathlib.Data.List.Chain
import Mathlib.Data.List.MinMax
import ScriptWeave.Proofs.Alias.Order
import ScriptWeave.Proofs.Text.Replace
import ScriptWeave.Script.Renames

namespace ScriptWeave

open Text (IsRun StartsOutside replace run_induction startsOutside_cons startsOutside_nil)

/-! ## §1. The pass. -/

/-- One pass from left to right.  Where a sigil stands, `pick` may choose an entry for what the
text goes on with, and its internal name is replaced; all else is copied.  `skip` counts the
characters of the last internal name still to be passed. -/
def renameOnce (sigil : Char) (pick : Text → Option (Text × Text)) : (skip : Nat) → Text → Text
  | _, [] => []
  | skip + 1, _ :: t => renameOnce sigil pick skip t
  | 0, c :: t =>
    if c = sigil then
      match pick (c :: t) with
      | some e => e.2 ++ renameOnce sigil pick (e.1.length - 1) t
      | none => c :: renameOnce sigil pick 0 t
    else c :: renameOnce sigil pick 0 t

/-- The entry with the longest internal name that a text begins with. -/
def AliasTable.longestStart? (table : AliasTable) (t : Text) : Option (Text × Text) :=
  (table.entries.filter (fun e => e.1.isPrefixOf t)).argmax (fun e => e.1.length)

/-- Replaces, from left to right, the longest internal name that begins at each sigil. -/
def AliasTable.renameLongest (table : AliasTable) (sigil : Char) (source : Text) : Text :=
  renameOnce sigil table.longestStart? 0 source

/-- The first entry whose internal name a text begins with. -/
def firstStart? (es : List (Text × Text)) (t : Text) : Option (Text × Text) :=
  es.find? (fun e => e.1.isPrefixOf t)

/-- What becomes of a token: the internal name that it begins with is replaced. -/
def renameToken (es : List (Text × Text)) (r : Text) : Text :=
  match firstStart? es r with
  | some e => e.2 ++ r.drop e.1.length
  | none => r

section

variable {sigil : Char} {W : Char → Bool} {a b r t u v : Text} {e : Text × Text}
  {es : List (Text × Text)} {pick : Text → Option (Text × Text)}

theorem renameOnce_skip (n : Nat) (t : Text) :
    renameOnce sigil pick n t = renameOnce sigil pick 0 (t.drop n) := by
  induction t generalizing n with
  | nil => cases n <;> rfl
  | cons c t ih =>
    cases n with
    | zero => rfl
    | succ n => exact ih n

/-- A text without sigils is copied. -/
theorem renameOnce_append (h : sigil ∉ v) (u : Text) :
    renameOnce sigil pick 0 (v ++ u) = v ++ renameOnce sigil pick 0 u := by
  induction v with
  | nil => rfl
  | cons c v ih =>
    have hc : c ≠ sigil := fun hc => h (hc ▸ List.mem_cons_self)
    rw [List.cons_append, renameOnce, if_neg hc, ih (fun hv => h (List.mem_cons_of_mem c hv)),
      List.cons_append]

/-! ## §2. Tokens. -/

/-- The characters of a token. -/
def isLedChar (sigil : Char) (W : Char → Bool) (c : Char) : Bool := c == sigil || W c

/-- Whether a text is a sigil with characters of a class behind it. -/
def IsLed (sigil : Char) (W : Char → Bool) (a : Text) : Prop :=
  ∃ w, a = sigil :: w ∧ ∀ c ∈ w, W c = true

theorem IsLed.mem (h : IsLed sigil W a) : ∀ c ∈ a, isLedChar sigil W c = true := by
  obtain ⟨w, rfl, hw⟩ := h
  intro c hc
  unfold isLedChar
  rcases List.mem_cons.mp hc with rfl | hc
  · simp
  · simp [hw c hc]

theorem IsLed.sigil_mem (h : IsLed sigil W a) : sigil ∈ a := by
  obtain ⟨w, rfl, -⟩ := h
  exact List.mem_cons_self

theorem IsLed.ne_nil (h : IsLed sigil W a) : a ≠ [] := by
  obtain ⟨w, rfl, -⟩ := h
  exact List.cons_ne_nil sigil w

/-- No led name begins where another character stands. -/
theorem IsLed.not_prefix_cons (h : IsLed sigil W a) {c : Char} (hc : c ≠ sigil) :
    ¬ a <+: c :: t := by
  obtain ⟨w, rfl, -⟩ := h
  rw [List.cons_prefix_cons]
  exact fun hpre => hc hpre.1.symm

/-- A text without sigils is passed when a led name is replaced. -/
theorem IsLed.replace_append (h : IsLed sigil W a) (hv : sigil ∉ v) (u : Text) :
    replace a b (v ++ u) = v ++ replace a b u := by
  induction v with
  | nil => rfl
  | cons c v ih =>
    have hc : c ≠ sigil := fun hc => hv (hc ▸ List.mem_cons_self)
    rw [List.cons_append, Text.replace_cons_of_not_start (h.not_prefix_cons hc),
      ih (fun hin => hv (List.mem_cons_of_mem c hin)), List.cons_append]

/-- Where a text goes on outside a token, it still does when a led name is replaced. -/
theorem IsLed.startsOutside_replace (h : IsLed sigil W a)
    (hu : StartsOutside (isLedChar sigil W) u) :
    StartsOutside (isLedChar sigil W) (replace a b u) := by
  cases u with
  | nil =>
    rw [Text.replace_nil h.ne_nil]
    exact startsOutside_nil
  | cons c u =>
    have hc := startsOutside_cons.mp hu
    have hne : c ≠ sigil := by
      rintro rfl
      simp [isLedChar] at hc
    rw [Text.replace_cons_of_not_start (h.not_prefix_cons hne)]
    exact startsOutside_cons.mpr hc

/-- Whether a text is a token: it begins with the only sigil that it has. -/
def IsToken (sigil : Char) (r : Text) : Prop := ∃ w, r = sigil :: w ∧ sigil ∉ w

/-- Behind a name that a token begins with there is no sigil. -/
theorem IsToken.sigil_not_mem (hr : IsToken sigil (a ++ v)) (ha : a ≠ []) : sigil ∉ v := by
  obtain ⟨w, hw, hfree⟩ := hr
  obtain ⟨c, a, rfl⟩ := List.exists_cons_of_ne_nil ha
  rw [List.cons_append] at hw
  rw [← (List.cons.inj hw).2] at hfree
  exact fun hin => hfree (List.mem_append_right a hin)

/-- A led name is contained in a token only where the token begins. -/
theorem IsLed.prefix_of_infix_token (h : IsLed sigil W a) (hr : IsToken sigil r) (hin : a <:+: r) :
    a <+: r := by
  obtain ⟨w, rfl, hfree⟩ := hr
  rcases List.infix_cons_iff.mp hin with hpre | hinside
  · exact hpre
  · exact absurd (hinside.subset h.sigil_mem) hfree

/-- A name begins a text that begins with a token if and only if it begins the token. -/
theorem isPrefixOf_token (ha : IsLed sigil W a) (hu : StartsOutside (isLedChar sigil W) u) :
    a.isPrefixOf (r ++ u) = a.isPrefixOf r := by
  rw [Bool.eq_iff_iff, List.isPrefixOf_iff_prefix, List.isPrefixOf_iff_prefix]
  exact ⟨Text.prefix_of_prefix_run_append ha.mem hu, fun h => h.trans (List.prefix_append r u)⟩

/-- What follows a token does not matter for the entries that it begins with. -/
theorem firstStart?_token (hes : ∀ e ∈ es, IsLed sigil W e.1)
    (hu : StartsOutside (isLedChar sigil W) u) : firstStart? es (r ++ u) = firstStart? es r := by
  induction es with
  | nil => rfl
  | cons e es ih =>
    have hrest := ih (fun f hf => hes f (List.mem_cons_of_mem e hf))
    unfold firstStart? at hrest ⊢
    rw [List.find?_cons, List.find?_cons, isPrefixOf_token (hes e List.mem_cons_self) hu, hrest]

theorem firstStart?_eq_some (h : firstStart? es t = some e) : e ∈ es ∧ e.1 <+: t := by
  obtain ⟨hpre, as, bs, rfl, -⟩ := List.find?_eq_some_iff_append.mp h
  exact ⟨List.mem_append_right as List.mem_cons_self, List.isPrefixOf_iff_prefix.mp hpre⟩

/-- The pass replaces in a token what the first entry that it begins with says. -/
theorem renameOnce_token (hes : ∀ e ∈ es, IsLed sigil W e.1) (hr : IsToken sigil r)
    (hu : StartsOutside (isLedChar sigil W) u) :
    renameOnce sigil (firstStart? es) 0 (r ++ u)
      = renameToken es r ++ renameOnce sigil (firstStart? es) 0 u := by
  have hpick : firstStart? es (r ++ u) = firstStart? es r := firstStart?_token hes hu
  have htoken := hr
  obtain ⟨w, rfl, hfree⟩ := hr
  rw [List.cons_append] at hpick ⊢
  rw [renameOnce, if_pos rfl, hpick, renameToken]
  cases hfirst : firstStart? es (sigil :: w) with
  | none =>
    dsimp only
    rw [renameOnce_append hfree, List.cons_append]
  | some e =>
    obtain ⟨hmem, v, hv⟩ := firstStart?_eq_some hfirst
    obtain ⟨w', hw', -⟩ := hes e hmem
    -- the name is passed, and what hangs on to it is copied
    have hbehind : sigil ∉ v := by
      rw [← hv] at htoken
      exact htoken.sigil_not_mem (hes e hmem).ne_nil
    have hdrop : (w ++ u).drop (e.1.length - 1) = v ++ u := by
      rw [hw', List.cons_append] at hv
      rw [hw', ← (List.cons.inj hv).2, List.length_cons, Nat.add_sub_cancel, List.append_assoc,
        List.drop_left]
    dsimp only
    rw [renameOnce_skip, hdrop, renameOnce_append hbehind, ← hv, List.drop_left,
      List.append_assoc]

/-! ## §3. One entry after the other. -/

/-- Entries of names led by a sigil, exported under names without it. -/
structure Leading (sigil : Char) (W : Char → Bool) (es : List (Text × Text)) : Prop where
  /-- Internal names are led by the sigil. -/
  internal_led : ∀ e ∈ es, IsLed sigil W e.1
  /-- Public names do not have it. -/
  shown_free : ∀ e ∈ es, sigil ∉ e.2

theorem Leading.tail (h : Leading sigil W (e :: es)) : Leading sigil W es where
  internal_led f hf := h.internal_led f (List.mem_cons_of_mem e hf)
  shown_free f hf := h.shown_free f (List.mem_cons_of_mem e hf)

theorem Leading.head (h : Leading sigil W (e :: es)) : IsLed sigil W e.1 :=
  h.internal_led e List.mem_cons_self

theorem Leading.shown_head (h : Leading sigil W (e :: es)) : sigil ∉ e.2 :=
  h.shown_free e List.mem_cons_self

/-- Such an entry is never one of a name that is exported under itself. -/
theorem Leading.applyRename_eq (h : Leading sigil W (e :: es)) (t : Text) :
    applyRename t e = replace e.1 e.2 t := by
  have hne : e.1 ≠ e.2 := by
    intro heq
    exact h.shown_head (heq ▸ h.head.sigil_mem)
  rw [applyRename, if_neg hne]

/-- The entries pass a text without sigils. -/
theorem Leading.foldl_append (h : Leading sigil W es) (hv : sigil ∉ v) (u : Text) :
    es.foldl applyRename (v ++ u) = v ++ es.foldl applyRename u := by
  induction es generalizing u with
  | nil => rfl
  | cons e es ih =>
    rw [List.foldl_cons, List.foldl_cons, h.applyRename_eq, h.applyRename_eq,
      h.head.replace_append hv, ih h.tail]

/-- **The entries act on a token and on what follows it apart from each other**, and on the token
as the first one does that it begins with. -/
theorem Leading.foldl_token (h : Leading sigil W es) (hr : IsToken sigil r)
    (hu : StartsOutside (isLedChar sigil W) u) :
    es.foldl applyRename (r ++ u) = renameToken es r ++ es.foldl applyRename u := by
  induction es generalizing u with
  | nil => rfl
  | cons e es ih =>
    rw [List.foldl_cons, List.foldl_cons, h.applyRename_eq, h.applyRename_eq]
    by_cases hpre : e.1 <+: r
    · -- the name is replaced, and no sigil is left for the other entries
      obtain ⟨v, rfl⟩ := hpre
      have hfirst : firstStart? (e :: es) (e.1 ++ v) = some e := by
        rw [firstStart?, List.find?_cons_of_pos]
        exact List.isPrefixOf_iff_prefix.mpr (List.prefix_append e.1 v)
      have hv : sigil ∉ v := hr.sigil_not_mem h.head.ne_nil
      rw [List.append_assoc, Text.replace_prefix_append h.head.ne_nil, h.head.replace_append hv,
        h.tail.foldl_append h.shown_head, h.tail.foldl_append hv, renameToken, hfirst]
      dsimp only
      rw [List.drop_left, List.append_assoc]
    · -- the token stays for the other entries
      have hfirst : renameToken (e :: es) r = renameToken es r := by
        rw [renameToken, firstStart?, List.find?_cons_of_neg, ← firstStart?, ← renameToken]
        rwa [List.isPrefixOf_iff_prefix]
      have hnot : ¬ e.1 <:+: r := fun hin => hpre (h.head.prefix_of_infix_token hr hin)
      rw [Text.replace_append_of_not_contained h.head.mem hu hnot,
        ih h.tail (h.head.startsOutside_replace hu), hfirst]

theorem Leading.foldl_nil (h : Leading sigil W es) : es.foldl applyRename [] = [] := by
  induction es with
  | nil => rfl
  | cons e es ih =>
    rw [List.foldl_cons, h.applyRename_eq, Text.replace_nil h.head.ne_nil, ih h.tail]

/-- In a run of a text in which every sigil stands behind a character outside the class, only the
first character can be a sigil. -/
theorem sigil_not_mem_tail {p : Char → Bool} {c : Char} (hr : IsRun p (c :: r))
    (ht : (c :: r ++ u).IsChain (fun x y => y = sigil → p x = false)) : sigil ∉ r := by
  intro hin
  obtain ⟨x, y, rfl⟩ := List.append_of_mem hin
  -- the character before the sigil belongs to the run
  have hsplit : c :: (x ++ sigil :: y) ++ u = (c :: x) ++ sigil :: (y ++ u) := by
    simp only [List.cons_append, List.append_assoc]
  rw [hsplit] at ht
  have hlast := List.getLast?_eq_getLast_of_ne_nil (List.cons_ne_nil c x)
  have hout := (List.isChain_append.mp ht).2.2 _ hlast sigil rfl rfl
  have hmem : (c :: x).getLast (List.cons_ne_nil c x) ∈ c :: (x ++ sigil :: y) :=
    List.mem_append_left (sigil :: y) (List.getLast_mem (List.cons_ne_nil c x))
  rw [hr.2 _ hmem] at hout
  exact absurd hout (by decide)

/-- **One entry after the other is one pass**, over a text in which every sigil begins a token. -/
theorem Leading.foldl_eq_renameOnce (h : Leading sigil W es)
    (ht : t.IsChain (fun c d => d = sigil → isLedChar sigil W c = false)) :
    es.foldl applyRename t = renameOnce sigil (firstStart? es) 0 t := by
  induction t using run_induction (isLedChar sigil W) with
  | nil => exact h.foldl_nil
  | outside c t hc ih =>
    have hfree : sigil ∉ [c] := by
      rw [List.mem_singleton]
      rintro rfl
      simp [isLedChar] at hc
    rw [← List.singleton_append] at ht ⊢
    rw [h.foldl_append hfree, renameOnce_append hfree, ih ht.right_of_append]
  | run r u hr hu ih =>
    have hrest := ih ht.right_of_append
    obtain ⟨c, w, rfl⟩ := List.exists_cons_of_ne_nil hr.1
    have hfree : sigil ∉ w := sigil_not_mem_tail hr ht
    by_cases hc : c = sigil
    · have htoken : IsToken sigil (c :: w) := ⟨w, hc ▸ rfl, hfree⟩
      rw [h.foldl_token htoken hu, renameOnce_token h.internal_led htoken hu, hrest]
    · have hplain : sigil ∉ c :: w := by
        rw [List.mem_cons]
        rintro (rfl | hin)
        · exact hc rfl
        · exact hfree hin
      rw [h.foldl_append hplain, renameOnce_append hplain, hrest]

/-! ## §4. The longest name. -/

/-- **The first entry that a text begins with is the longest**, if no internal name comes before
one that it begins. -/
theorem AliasTable.firstStart?_eq_longestStart? {table : AliasTable} (hdistinct : table.Distinct)
    (hperm : es.Perm table.entries) (horder : es.Pairwise (fun a b => ¬ a.1 <+: b.1)) (t : Text) :
    firstStart? es t = table.longestStart? t := by
  have hmem : ∀ {f : Text × Text},
      f ∈ table.entries.filter (fun e => e.1.isPrefixOf t) ↔ f ∈ es ∧ f.1 <+: t := by
    intro f
    rw [List.mem_filter, List.isPrefixOf_iff_prefix, hperm.mem_iff]
  unfold AliasTable.longestStart?
  cases hfirst : firstStart? es t with
  | none =>
    have hnone : table.entries.filter (fun e => e.1.isPrefixOf t) = [] := by
      rw [List.eq_nil_iff_forall_not_mem]
      intro f hf
      obtain ⟨hin, hpre⟩ := hmem.mp hf
      exact List.find?_eq_none.mp hfirst f hin (List.isPrefixOf_iff_prefix.mpr hpre)
    rw [hnone, List.argmax_nil]
  | some m =>
    obtain ⟨hm, hpre⟩ := firstStart?_eq_some hfirst
    -- whatever else the text begins with comes later, and begins the first one
    have hle : ∀ f ∈ es, f.1 <+: t → f.1.length ≤ m.1.length := by
      obtain ⟨-, as, bs, rfl, has⟩ := List.find?_eq_some_iff_append.mp hfirst
      intro f hf hfpre
      rcases List.mem_append.mp hf with hf | hf
      · have hnot := has f hf
        rw [List.isPrefixOf_iff_prefix.mpr hfpre] at hnot
        exact absurd hnot (by decide)
      rcases List.mem_cons.mp hf with rfl | hf
      · exact Nat.le_refl _
      have hlater : ¬ m.1 <+: f.1 :=
        (List.pairwise_cons.mp (List.pairwise_append.mp horder).2.1).1 f hf
      exact ((List.prefix_or_prefix_of_prefix hpre hfpre).resolve_left hlater).length_le
    symm
    rw [List.argmax_eq_some_iff]
    refine ⟨hmem.mpr ⟨hm, hpre⟩, fun f hf => hle f (hmem.mp hf).1 (hmem.mp hf).2, ?_⟩
    -- an internal name of the same length is the same, and is in the table once
    intro f hf hge
    obtain ⟨hin, hfpre⟩ := hmem.mp hf
    have hlen : f.1.length = m.1.length := Nat.le_antisymm (hle f hin hfpre) hge
    have hname : f.1 = m.1 := by
      rcases List.prefix_or_prefix_of_prefix hfpre hpre with h | h
      · exact h.eq_of_length hlen
      · exact (h.eq_of_length hlen.symm).symm
    have hsame : f.2 = m.2 := by
      have hf' := (lookup_eq_some_iff_mem hdistinct).mpr (hperm.mem_iff.mp hin)
      have hm' := (lookup_eq_some_iff_mem hdistinct).mpr (hperm.mem_iff.mp hm)
      rw [hname, hm'] at hf'
      exact (Option.some.inj hf').symm
    rw [Prod.ext hname hsame]

/-- **Renaming one entry after the other is renaming in one pass**, if all internal names are led
by a sigil that no public name has, and every sigil of the text begins a token. -/
theorem applyRenames_eq_renameLongest {table : AliasTable} {order : RenameOrder} {source : Text}
    (hdistinct : table.Distinct)
    (hinternal : ∀ e ∈ table.entries, ∃ w, e.1 = sigil :: w ∧ ∀ c ∈ w, W c = true)
    (hshown : ∀ e ∈ table.entries, sigil ∉ e.2)
    (hsource : source.IsChain (fun c d => d = sigil → c ≠ sigil ∧ W c = false))
    (horder : order = .discovery →
      table.entries.Pairwise (fun a b => a.1 <+: b.1 → a.1 = b.1)) :
    applyRenames table order source = table.renameLongest sigil source := by
  have hperm := table.ordered_perm order
  have hleading : Leading sigil W (table.ordered order) :=
    ⟨fun e he => hinternal e (hperm.mem_iff.mp he), fun e he => hshown e (hperm.mem_iff.mp he)⟩
  have hchain : source.IsChain (fun c d => d = sigil → isLedChar sigil W c = false) := by
    refine hsource.imp ?_
    intro c d h hd
    obtain ⟨hne, hout⟩ := h hd
    simp [isLedChar, hne, hout]
  -- in either order no name comes before one that it begins
  have hapart : (table.ordered order).Pairwise (fun a b => ¬ a.1 <+: b.1) := by
    cases order with
    | longestFirst => exact hdistinct.longestFirst_apart.imp (fun h hpre => h hpre.isInfix)
    | discovery =>
      refine ((hdistinct.ordered .discovery).and (horder rfl)).imp ?_
      rintro a b ⟨hne, hsame⟩ hpre
      exact hne (hsame hpre)
  have hpick : firstStart? (table.ordered order) = table.longestStart? :=
    funext (table.firstStart?_eq_longestStart? hdistinct hperm hapart)
  rw [applyRenames, hleading.foldl_eq_renameOnce hchain, hpick, AliasTable.renameLongest]

end

/-- A table in which one name begins another, and is exported as the other's characters. -/
def overlappingNames : AliasTable := ⟨[("$a", "ab"), ("$ab", "a"), ("$", "b")]⟩

/-- The longer names go first, and no public name is taken for an internal one. -/
theorem applyRenames_overlappingNames :
    applyRenames overlappingNames .longestFirst "$abc+$a;$" = "ac+ab;b".toList
      ∧ overlappingNames.renameLongest '$' "$abc+$a;$" = "ac+ab;b".toList := by
  have hpass : overlappingNames.renameLongest '$' "$abc+$a;$" = "ac+ab;b".toList := by decide
  have hinternal : ∀ e ∈ overlappingNames.entries,
      ∃ w, e.1 = '$' :: w ∧ ∀ c ∈ w, Char.isAlpha c = true := by
    intro e he
    simp only [overlappingNames, List.mem_cons, List.not_mem_nil, or_false] at he
    rcases he with rfl | rfl | rfl
    · exact ⟨['a'], rfl, List.all_eq_true.mp rfl⟩
    · exact ⟨['a', 'b'], rfl, List.all_eq_true.mp rfl⟩
    · exact ⟨[], rfl, List.all_eq_true.mp rfl⟩
  have hdistinct : overlappingNames.entries.Pairwise (fun a b => a.1 ≠ b.1) := by decide
  have hsource : ("$abc+$a;$" : String).toList.IsChain
      (fun c d => d = '$' → c ≠ '$' ∧ Char.isAlpha c = false) := by decide
  have hshown : ∀ e ∈ overlappingNames.entries, '$' ∉ e.2 := by decide
  refine ⟨?_, hpass⟩
  rw [applyRenames_eq_renameLongest hdistinct hinternal hshown hsource (by decide), hpass]

end ScriptWeave
