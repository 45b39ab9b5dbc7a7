/-
  ScriptWeave.Proofs.Pattern.Escaped
  ──────────────────────────────────
  **THE PATTERN OF A TEXT IS THE TEXT.**

  A backslash stands before every character that could mean something else,
  so the reader takes an escaped text character by character, whatever its
  characters are, and none of them can become a repetition, a group, a class
  or the name of an anchor:

      read (\b escape t \b)   =  edge, the characters of t, edge
      parse (\b escape t \b)  =  wholeWord t        up to the limit of size

  What can go wrong with a pattern cannot go wrong with this one, but for its
  size: a character takes 32 bytes of the automaton for each byte in UTF-8.
-/
import ScriptWeave.Dialect.Rules

namespace ScriptWeave

namespace Pattern

variable {b : Body} {fuel groups : Nat} {names : List (Text × Stretch)} {c : Char} {t v : Text}

/-! ## §1. Reading. -/

theorem isMeta_iff : isMeta c = true ↔ c ∈ "\\.+*?()|[]\x7b\x7d^$#&-~".toList := by
  rw [isMeta, List.contains_iff_mem]

/-- A character that means nothing stands for itself. -/
theorem readBody_plain (hc : isMeta c = false) :
    readBody (fuel + 1) b ⟨c :: t, false, groups, names⟩
      = readBody fuel (b.add (c :: t) (.literal ⟨c, false, ⟨c :: t, t⟩⟩))
          ⟨t, false, groups, names⟩ := by
  have hne : c ∉ "\\.+*?()|[]\x7b\x7d^$#&-~".toList := by
    rw [← isMeta_iff, hc]
    decide
  simp at hne
  rw [readBody]
  simp only [skipSpaced, Bool.false_eq_true, if_false]
  split <;> simp_all

theorem readEscape_meta (hc : isMeta c = true) :
    readEscape false ('\\' :: c :: t)
      = .ok (.char ⟨c, false, ⟨'\\' :: c :: t, t⟩⟩, t) := by
  have hmem := isMeta_iff.mp hc
  simp at hmem
  rcases hmem with rfl | rfl | rfl | rfl | rfl | rfl | rfl | rfl | rfl | rfl | rfl | rfl | rfl | rfl
    | rfl | rfl | rfl | rfl <;> rfl

/-- A character that means something stands for itself behind a backslash. -/
theorem readBody_meta (hc : isMeta c = true) :
    readBody (fuel + 1) b ⟨'\\' :: c :: t, false, groups, names⟩
      = readBody fuel (b.add ('\\' :: c :: t) (.literal ⟨c, false, ⟨'\\' :: c :: t, t⟩⟩))
          ⟨t, false, groups, names⟩ := by
  rw [readBody]
  simp only [skipSpaced, Bool.false_eq_true, if_false, readEscape_meta hc, bind, Except.bind]

/-- An edge of a word is read as such if no brace follows it. -/
theorem readBody_edge (ht : ∀ u, t ≠ '\x7b' :: u) :
    readBody (fuel + 1) b ⟨'\\' :: 'b' :: t, false, groups, names⟩
      = readBody fuel (b.add ('\\' :: 'b' :: t) (.anchor .wordEdge)) ⟨t, false, groups, names⟩ := by
  have hescape : readEscape false ('\\' :: 'b' :: t) = .ok (.anchor .wordEdge, t) := by
    cases t with
    | nil => rfl
    | cons x u =>
      have hx : x ≠ '\x7b' := fun h => ht u (by rw [h])
      simp [readEscape]
  rw [readBody]
  simp only [skipSpaced, Bool.false_eq_true, if_false, hescape, bind, Except.bind]

/-- A pattern ends with its text. -/
theorem readBody_end (hb : b.opening = none) :
    readBody (fuel + 1) b ⟨[], false, groups, names⟩
      = .ok (b.close [], ⟨[], false, groups, names⟩) := by
  rw [readBody]
  simp only [skipSpaced, Bool.false_eq_true, if_false, hb]

theorem escape_cons (c : Char) (t : Text) :
    escape (c :: t) = (if isMeta c then ['\\', c] else [c]) ++ escape t := by
  rw [escape, List.flatMap_cons]
  rfl

/-- The items of an escaped text in front of another one, each from its start on. -/
def literalItems : (t v : Text) → List (Text × Syntax)
  | [], _ => []
  | c :: t, v =>
    (escape (c :: t) ++ v, .literal ⟨c, false, ⟨escape (c :: t) ++ v, escape t ++ v⟩⟩)
      :: literalItems t v

/-- **An escaped text is read character by character.** -/
theorem readBody_escape (t v : Text) (b : Body) :
    readBody (fuel + t.length) b ⟨escape t ++ v, false, groups, names⟩
      = readBody fuel { b with items := (literalItems t v).reverse ++ b.items }
          ⟨v, false, groups, names⟩ := by
  induction t generalizing b with
  | nil => rfl
  | cons c t ih =>
    have hfuel : fuel + (c :: t).length = fuel + t.length + 1 := rfl
    have hstep : readBody (fuel + t.length + 1) b ⟨escape (c :: t) ++ v, false, groups, names⟩
        = readBody (fuel + t.length) (b.add (escape (c :: t) ++ v)
            (.literal ⟨c, false, ⟨escape (c :: t) ++ v, escape t ++ v⟩⟩))
          ⟨escape t ++ v, false, groups, names⟩ := by
      rw [escape_cons]
      cases hc : isMeta c with
      | true => exact readBody_meta hc
      | false => exact readBody_plain hc
    rw [hfuel, hstep, ih, literalItems, List.reverse_cons, List.append_assoc]
    rfl

/-! ## §2. Items one after the other. -/

/-- Items one after the other. -/
def Syntax.ofList : List Syntax → Syntax
  | [] => .empty
  | [s] => s
  | s :: rest => .cat s (Syntax.ofList rest)

theorem Syntax.ofList_cons {s : Syntax} {ss : List Syntax} (h : ss ≠ []) :
    Syntax.ofList (s :: ss) = .cat s (Syntax.ofList ss) := by
  obtain ⟨x, ss, rfl⟩ := List.exists_cons_of_ne_nil h
  rfl

theorem Node.ofList_cons {n : Node} {ns : List Node} (h : ns ≠ []) :
    Node.ofList (n :: ns) = .cat n (Node.ofList ns) := by
  obtain ⟨x, ns, rfl⟩ := List.exists_cons_of_ne_nil h
  rfl

/-- The items of an alternative are collected last first. -/
theorem foldl_items (items : List (Text × Syntax)) (last : Syntax) :
    items.reverse.foldl (fun later i => .cat i.2 later) last
      = Syntax.ofList (items.map Prod.snd ++ [last]) := by
  rw [List.foldl_reverse]
  induction items with
  | nil => rfl
  | cons i items ih =>
    rw [List.foldr_cons, ih, List.map_cons, List.cons_append, Syntax.ofList_cons (by simp)]

/-- A body of one alternative with two items or more. -/
theorem Body.close_items (first last : Text × Syntax) (mid : List (Text × Syntax)) {stop : Text}
    (hb : b.before = []) (hitems : b.items = last :: (mid.reverse ++ [first])) :
    b.close stop
      = .sequence (.cat first.2 (Syntax.ofList (mid.map Prod.snd ++ [last.2]))) ⟨b.here, stop⟩ := by
  have hfold := foldl_items (first :: mid) last.2
  rw [List.reverse_cons, List.map_cons, List.cons_append, Syntax.ofList_cons (by simp)] at hfold
  obtain ⟨y, ys, hys⟩ := List.exists_cons_of_ne_nil (List.append_ne_nil_of_right_ne_nil mid.reverse
    (List.cons_ne_nil first []))
  rw [hys] at hitems hfold
  rw [Body.close, hb]
  show b.alternative stop = _
  rw [Body.alternative, hitems, ← hfold]

theorem Syntax.tooDeep_ofList {ss : List Syntax} {depth : Nat}
    (h : ∀ s ∈ ss, s.tooDeep depth = none) : (Syntax.ofList ss).tooDeep depth = none := by
  induction ss with
  | nil => rfl
  | cons s ss ih =>
    have hs := h s List.mem_cons_self
    have hrest := ih (fun x hx => h x (List.mem_cons_of_mem s hx))
    cases ss with
    | nil => exact hs
    | cons x ss => rw [Syntax.ofList_cons (List.cons_ne_nil x ss), Syntax.tooDeep, hs, hrest]; rfl

theorem Node.steady_ofList {ns : List Node} (h : ∀ n ∈ ns, ∀ follow, n.steady follow = true)
    (follow : Ranges) : (Node.ofList ns).steady follow = true := by
  induction ns with
  | nil => rfl
  | cons n ns ih =>
    have hrest := ih (fun x hx => h x (List.mem_cons_of_mem n hx))
    cases ns with
    | nil => exact h n List.mem_cons_self follow
    | cons x ns =>
      rw [Node.ofList_cons (List.cons_ne_nil x ns), Node.steady, hrest, h n List.mem_cons_self]
      rfl

/-! ## §3. The meaning and the size of a whole word. -/

/-- What is written for a text as a whole word, behind the first edge. -/
def literalsEdge (t v : Text) : List Syntax :=
  (literalItems t v).map Prod.snd ++ [.anchor .wordEdge]

theorem literalsEdge_cons (c : Char) (t v : Text) :
    ∃ stretch, literalsEdge (c :: t) v = .literal ⟨c, false, stretch⟩ :: literalsEdge t v :=
  ⟨_, rfl⟩

theorem literalsEdge_ne_nil : literalsEdge t v ≠ [] := by simp [literalsEdge]

/-- Two parts that leave a trace mean one after the other. -/
theorem Syntax.meaning_cat {a d : Syntax} {m n : Node} {f : Flags} (ha : a.meaning f = .ok (m, f))
    (hd : d.meaning f = .ok (n, f)) (hm : m ≠ .empty) (hn : n ≠ .empty) :
    (Syntax.cat a d).meaning f = .ok (.cat m n, f) := by
  rw [Syntax.meaning, ha]
  simp only [bind, Except.bind, hd, pure, Except.pure]
  rw [Node.andThen.eq_3 m n hm hn]

theorem ofList_chars_edge_ne_empty (t : Text) :
    Node.ofList (Node.chars t ++ [.anchor .wordEdge]) ≠ .empty := by
  cases t with
  | nil => decide
  | cons x t => simp [Node.chars, Node.ofList_cons]

theorem meaning_literalsEdge (t v : Text) :
    (Syntax.ofList (literalsEdge t v)).meaning {}
      = .ok (Node.ofList (Node.chars t ++ [.anchor .wordEdge]), {}) := by
  induction t with
  | nil => rfl
  | cons c t ih =>
    obtain ⟨stretch, hcons⟩ := literalsEdge_cons c t v
    rw [hcons, Syntax.ofList_cons literalsEdge_ne_nil, Node.chars, List.map_cons, List.cons_append,
      Node.ofList_cons (by simp)]
    exact Syntax.meaning_cat rfl ih (by simp) (ofList_chars_edge_ne_empty t)

theorem tooDeep_literalsEdge (t v : Text) (depth : Nat) :
    ∀ s ∈ literalsEdge t v, s.tooDeep depth = none := by
  induction t with
  | nil =>
    intro s hs
    obtain rfl := List.mem_singleton.mp hs
    rfl
  | cons c t ih =>
    obtain ⟨stretch, hcons⟩ := literalsEdge_cons c t v
    intro s hs
    rw [hcons] at hs
    rcases List.mem_cons.mp hs with rfl | hs
    · rfl
    · exact ih s hs

/-- An escaped text does not begin with a brace, nor does the edge behind it. -/
theorem escape_append_ne_brace (t u : Text) : escape t ++ ['\\', 'b'] ≠ '\x7b' :: u := by
  cases t with
  | nil => simp [escape]
  | cons c t =>
    rw [escape_cons]
    by_cases hc : isMeta c = true
    · simp [hc]
    · rw [if_neg hc]
      intro h
      obtain ⟨rfl, -⟩ := List.cons.inj h
      exact hc (by decide)

theorem length_le_length_escape (t : Text) : t.length ≤ (escape t).length := by
  induction t with
  | nil => exact Nat.le_refl 0
  | cons c t ih =>
    rw [escape_cons, List.length_cons, List.length_append]
    split <;> simp only [List.length_cons, List.length_nil] <;> omega

/-- What is written for a whole word is read as edges and characters. -/
theorem read_wholeWordText (t : Text) :
    read (wholeWordText t)
      = .ok (.sequence (.cat (.anchor .wordEdge) (Syntax.ofList (literalsEdge t ['\\', 'b'])))
          ⟨wholeWordText t, []⟩) := by
  -- one step for each edge and each character, and one for the end
  obtain ⟨n, hn⟩ := Nat.exists_eq_add_of_le (length_le_length_escape t)
  have hfuel : (wholeWordText t).length + 1 = (n + 2 + 2) + t.length + 1 := by
    simp only [wholeWordText, List.length_cons, List.length_append, List.length_nil]
    omega
  rw [read, hfuel, wholeWordText, readBody_edge (escape_append_ne_brace t), readBody_escape,
    readBody_edge (by simp), readBody_end rfl]
  have hclose := @Body.close_items ((Body.mk none (wholeWordText t) [] (wholeWordText t)
      ((literalItems t ['\\', 'b']).reverse ++ [(wholeWordText t, .anchor .wordEdge)])).add
        ['\\', 'b'] (.anchor .wordEdge))
    (wholeWordText t, .anchor .wordEdge) (['\\', 'b'], .anchor .wordEdge)
    (literalItems t ['\\', 'b']) [] rfl rfl
  exact congrArg Except.ok hclose

/-- Nothing is wrong with what is written for a whole word. -/
theorem parseNode_wholeWordText (t : Text) :
    parseNode (wholeWordText t) = .ok (wholeWord t).node := by
  have hdeep : (Syntax.sequence (.cat (.anchor .wordEdge)
      (Syntax.ofList (literalsEdge t ['\\', 'b']))) ⟨wholeWordText t, []⟩).tooDeep 0 = none := by
    rw [Syntax.tooDeep, if_neg (by decide), Syntax.tooDeep,
      Syntax.tooDeep_ofList (tooDeep_literalsEdge t _ _)]
    rfl
  have hmeaning : (Syntax.sequence (.cat (.anchor .wordEdge)
      (Syntax.ofList (literalsEdge t ['\\', 'b']))) ⟨wholeWordText t, []⟩).meaning {}
        = .ok ((wholeWord t).node, {}) := by
    rw [wholeWord, Node.ofList_cons (by simp)]
    exact Syntax.meaning_cat rfl (meaning_literalsEdge t _) (by simp)
      (ofList_chars_edge_ne_empty t)
  rw [parseNode, read_wholeWordText]
  simp only [bind, Except.bind, hdeep, hmeaning, pure, Except.pure]

/-! ## §4. Size. -/

theorem steady_wholeWord (t : Text) (follow : Ranges) :
    (wholeWord t).node.steady follow = true := by
  apply Node.steady_ofList
  intro n hn f
  rcases List.mem_cons.mp hn with rfl | hn
  · rfl
  rcases List.mem_append.mp hn with hn | hn
  · obtain ⟨c, -, rfl⟩ := List.mem_map.mp hn
    rfl
  · obtain rfl := List.mem_singleton.mp hn
    rfl

theorem length_utf8Bytes (c : Char) : (Size.utf8Bytes c.toNat).length = c.utf8Size := by
  have h1 : c.val ≤ UInt32.ofNatLT 0x7f (by decide) ↔ c.toNat < 0x80 := by
    rw [UInt32.le_iff_toNat_le]
    exact Nat.lt_succ_iff.symm
  have h2 : c.val ≤ UInt32.ofNatLT 0x7ff (by decide) ↔ c.toNat < 0x800 := by
    rw [UInt32.le_iff_toNat_le]
    exact Nat.lt_succ_iff.symm
  have h3 : c.val ≤ UInt32.ofNatLT 0xffff (by decide) ↔ c.toNat < 0x10000 := by
    rw [UInt32.le_iff_toNat_le]
    exact Nat.lt_succ_iff.symm
  unfold Size.utf8Bytes Char.utf8Size
  simp only [h1, h2, h3]
  split
  · rfl
  split
  · rfl
  split <;> rfl

theorem size_char (c : Char) (backward : Bool) :
    (Node.char (.single c)).size backward = 32 * c.utf8Size := by
  show (CharSet.single c).size backward = _
  simp only [CharSet.size, CharSet.toRanges, if_true, length_utf8Bytes]

/-- A whole word takes the room of its bytes and of its two edges. -/
theorem size_wholeWord (t : Text) (backward : Bool) :
    (wholeWord t).node.size backward = 32 * Text.byteSize t + 64 := by
  -- the characters with the edge behind them
  have hends : (Node.ofList (Node.chars t ++ [.anchor .wordEdge])).size backward
      = 32 * Text.byteSize t + 32 := by
    induction t with
    | nil => rfl
    | cons c t ih =>
      rw [Node.chars] at ih
      rw [Node.chars, List.map_cons, List.cons_append, Node.ofList_cons (by simp), Node.size,
        size_char, Text.byteSize_cons, ih]
      omega
  rw [wholeWord, Node.ofList_cons (by simp), Node.size, hends]
  show 32 + (32 * Text.byteSize t + 32) = _
  omega

/-- The number of bytes that a text may have for its pattern to be accepted. -/
def wholeWordLimit : Nat := 327672

theorem tooLarge_wholeWord_iff (t : Text) :
    (wholeWord t).node.tooLarge = true ↔ wholeWordLimit < Text.byteSize t := by
  rw [Node.tooLarge, size_wholeWord, size_wholeWord, Bool.or_eq_true, decide_eq_true_eq,
    decide_eq_true_eq, wholeWordLimit, sizeLimit]
  omega

/-- **What is written for a text as a whole word is read as that**, whatever its characters are,
unless it is too large. -/
theorem parse_wholeWordText (t : Text) :
    parse (wholeWordText t)
      = if wholeWordLimit < Text.byteSize t then .error .tooLarge else .ok (wholeWord t) := by
  rw [parse, parseNode_wholeWordText]
  simp only [tooLarge_wholeWord_iff, steady_wholeWord]
  rfl

end Pattern

/-- The pattern for a keyword is refused for its size or not at all. -/
theorem Dialect.readPattern_wholeWordText (field : PatternField) (t : Text) :
    readPattern field (Pattern.wholeWordText t)
      = if Pattern.wholeWordLimit < Text.byteSize t then .error (.pattern field .tooLarge)
        else .ok (Pattern.wholeWord t) := by
  rw [readPattern, Pattern.parse_wholeWordText]
  by_cases h : Pattern.wholeWordLimit < Text.byteSize t
  · rw [if_pos h, if_pos h]
  · rw [if_neg h, if_neg h]

/-- A keyword is accepted as the whole word that it is. -/
theorem Dialect.eq_wholeWord_of_readPattern {field : PatternField} {t : Text} {k : Pattern}
    (h : readPattern field (Pattern.wholeWordText t) = .ok k) : k = Pattern.wholeWord t := by
  rw [readPattern_wholeWordText] at h
  split at h
  next => exact absurd h (by simp)
  next => exact (Except.ok.inj h).symm

end ScriptWeave
