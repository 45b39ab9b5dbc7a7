/-
  ScriptWeave.Proofs.Script.EntryWords
  ────────────────────────────────────
  **HOW AN EXPORT ENTRY IS READ, WELL FORMED OR NOT.**

  An entry is a row of words with white space between them.  The first `as`
  behind another word separates; the white space around it belongs to it, so
  the word after it cannot separate, even if it is `as` again.

      a b as c d as ...    internal  a b     public  c d     and a note
      as as as             internal  as      public  as
      a as                 internal  a       public  a       and a note

  A separator has its word and the white space in front of it for certain, and
  the walk through its pattern has one way (`run_separator`).  So the scan
  passes the words that are no `as`, and the gaps between its matches are the
  parts of the entry.
-/
import ScriptWeave.Proofs.Alias.FirstNames
import ScriptWeave.Proofs.Script.WrittenExports
import ScriptWeave.Proofs.Text.Replace

namespace ScriptWeave

open Pattern Text

/-! ## §1. Words and the white space between them. -/

/-- Whether a character is not white space. -/
def isInk (c : Char) : Bool := !isBlank c

/-- Words as text, each of them but the first with the white space in front of it. -/
def joined : List (Text × Text) → Text
  | [] => []
  | x :: xs => x.2 ++ xs.flatMap (fun y => y.1 ++ y.2)

/-- Whether a word has white space in front of it. -/
def IsSpaced (y : Text × Text) : Prop := IsRun isBlank y.1 ∧ IsRun isInk y.2

instance (y : Text × Text) : Decidable (IsSpaced y) :=
  inferInstanceAs (Decidable (IsRun isBlank y.1 ∧ IsRun isInk y.2))

/-- A text as words with white space between them. -/
structure SpacedText where
  /-- The first word. -/
  first : Text
  /-- The other words, each with the white space in front of it. -/
  more : List (Text × Text)
  first_run : IsRun isInk first
  more_spaced : ∀ y ∈ more, IsSpaced y

namespace SpacedText

variable (e : SpacedText)

/-- All words with what stands in front of them. -/
def all : List (Text × Text) := ([], e.first) :: e.more

/-- The words. -/
def words : List Text := e.all.map Prod.snd

/-- The text. -/
def text : Text := joined e.all

/-- The text from the start of word `i` to the end of the word before word `j`. -/
def part (i j : Nat) : Text := joined ((e.all.take j).drop i)

/-- The place of the first word `as` from word `n` on. -/
def asFrom? (n : Nat) : Option Nat := ((e.words.drop n).findIdx? (· = asWord)).map (n + ·)

/-- **What an entry of these words records.**  The first `as` behind another word separates the
names, and so does the next one that is not right behind it, if there is one; what follows that
is ignored, with a note.  Without a public name the internal one stands for it, with a note;
without a separator the whole entry is both names. -/
def read (l : AliasLog) : AliasLog :=
  match e.asFrom? 1 with
  | none => l.insert e.text e.text
  | some k =>
    if k + 1 = e.words.length then
      (l.note (.noPublicName e.text)).insert (e.part 0 k) (e.part 0 k)
    else
      match e.asFrom? (k + 2) with
      | none => l.insert (e.part 0 k) (e.part (k + 1) e.words.length)
      | some j => (l.note (.extraParts e.text)).insert (e.part 0 k) (e.part (k + 1) j)

end SpacedText

section

variable {x y : Text × Text} {more pre post : List (Text × Text)} {t u v w : Text}

theorem joined_cons_cons (x y : Text × Text) (more : List (Text × Text)) :
    joined (x :: y :: more) = x.2 ++ (y.1 ++ joined (y :: more)) := by
  simp [joined]

theorem joined_append (x : Text × Text) (pre post : List (Text × Text)) :
    joined (x :: (pre ++ post)) = joined (x :: pre) ++ post.flatMap (fun y => y.1 ++ y.2) := by
  simp [joined]

theorem isBlank_eq_false_of_isRun (h : IsRun isInk w) : ∀ c ∈ w, isBlank c = false := by
  intro c hc
  simpa [isInk] using h.2 c hc

/-- Where white space begins there is no word. -/
theorem startsOutside_gap {g : Text} (hg : IsRun isBlank g) (u : Text) :
    StartsOutside isInk (g ++ u) := by
  rw [startsOutside_append hg.1]
  intro c hc
  simp [isInk, hg.2 c (List.mem_of_mem_head? hc)]

/-- Where a word begins there is no white space. -/
theorem startsOutside_word (hw : IsRun isInk w) (u : Text) : StartsOutside isBlank (w ++ u) :=
  (startsOutside_append hw.1).mpr
    (fun c hc => isBlank_eq_false_of_isRun hw c (List.mem_of_mem_head? hc))

/-- Behind a word there is white space, or what follows all words. -/
theorem startsOutside_behind (hmore : ∀ y ∈ more, IsSpaced y) (hu : StartsOutside isInk u) :
    StartsOutside isInk (more.flatMap (fun y => y.1 ++ y.2) ++ u) := by
  cases more with
  | nil => exact hu
  | cons y more =>
    rw [List.flatMap_cons, List.append_assoc, List.append_assoc]
    exact startsOutside_gap (hmore y List.mem_cons_self).1 _

theorem joined_ne_nil (hx : IsRun isInk x.2) (more : List (Text × Text)) :
    joined (x :: more) ≠ [] :=
  fun h => hx.1 (List.append_eq_nil_iff.mp h).1

/-- Words neither begin nor end with white space. -/
theorem isTrimmed_joined (hx : IsRun isInk x.2) (hmore : ∀ y ∈ more, IsSpaced y) :
    IsTrimmed (joined (x :: more)) := by
  have hword : ∀ {w}, IsRun isInk w → IsTrimmed w :=
    fun hw => isTrimmed_of_no_blank (isBlank_eq_false_of_isRun hw)
  induction more generalizing x with
  | nil =>
    have hone : joined [x] = x.2 := List.append_nil x.2
    rw [hone]
    exact hword hx
  | cons y more ih =>
    have hy := (hmore y List.mem_cons_self).2
    have hrest := ih hy (fun z hz => hmore z (List.mem_cons_of_mem y hz))
    rw [joined_cons_cons, ← List.append_assoc]
    exact isTrimmed_append_append (hword hx) hrest hx.1 (joined_ne_nil hy more) y.1

theorem trim_joined (hx : IsRun isInk x.2) (hmore : ∀ y ∈ more, IsSpaced y) :
    trim (joined (x :: more)) = joined (x :: more) :=
  trim_eq_self (isTrimmed_joined hx hmore) (joined_ne_nil hx more)

/-- The words are the runs of the text. -/
theorem runs_joined (hx : IsRun isInk x.2) (hmore : ∀ y ∈ more, IsSpaced y) :
    runs isInk (joined (x :: more)) = (x :: more).map Prod.snd := by
  induction more generalizing x with
  | nil =>
    have hone : joined [x] = x.2 ++ [] := rfl
    rw [hone, runs_append hx startsOutside_nil, runs_nil]
    rfl
  | cons y more ih =>
    obtain ⟨hgap, hy⟩ := hmore y List.mem_cons_self
    have hrest := ih hy (fun z hz => hmore z (List.mem_cons_of_mem y hz))
    -- white space in front of the rest adds no runs
    have hpass : ∀ {w : Text}, (∀ c ∈ w, isBlank c = true) →
        runs isInk (w ++ joined (y :: more)) = runs isInk (joined (y :: more)) := by
      intro w hw
      induction w with
      | nil => rfl
      | cons c w ihw =>
        have hc : isInk c = false := by simp [isInk, hw c List.mem_cons_self]
        rw [List.cons_append, runs_cons_of_outside hc,
          ihw (fun d hd => hw d (List.mem_cons_of_mem c hd))]
    rw [joined_cons_cons, runs_append hx (startsOutside_gap hgap _), hpass hgap.2, hrest]
    rfl

/-- A text has white space only, or consists of words with white space between them and at the
ends. -/
theorem blanks_or_exists_spacedText (t : Text) :
    IsBlanks t ∨ ∃ (e : SpacedText) (g b : Text),
      IsBlanks g ∧ IsBlanks b ∧ t = g ++ e.text ++ b := by
  have hnil : IsBlanks [] := fun c hc => absurd hc List.not_mem_nil
  induction t using run_induction isInk with
  | nil => exact Or.inl hnil
  | outside c t hc ih =>
    have hblank : isBlank c = true := by simpa [isInk] using hc
    have hcons : ∀ {g}, IsBlanks g → IsBlanks (c :: g) := by
      intro g hg d hd
      rcases List.mem_cons.mp hd with rfl | hd
      · exact hblank
      · exact hg d hd
    rcases ih with hall | ⟨e, g, b, hg, hb, rfl⟩
    · exact Or.inl (hcons hall)
    · exact Or.inr ⟨e, c :: g, b, hcons hg, hb, rfl⟩
  | run r u hr hu ih =>
    right
    rcases ih with hall | ⟨e, g, b, hg, hb, rfl⟩
    · exact ⟨⟨r, [], hr, by simp⟩, [], u, hnil, hall, by simp [SpacedText.text, SpacedText.all, joined]⟩
    · -- the run ends in front of white space, so there is some before the next word
      have hgap : IsRun isBlank g := by
        refine ⟨?_, hg⟩
        rintro rfl
        obtain ⟨c, w, hw⟩ := List.exists_cons_of_ne_nil e.first_run.1
        have hin : isInk c = true := e.first_run.2 c (by rw [hw]; exact List.mem_cons_self)
        have hout : isInk c = false := by
          apply hu
          rw [List.nil_append, SpacedText.text, SpacedText.all, joined]
          simp [hw]
        rw [hin] at hout
        exact absurd hout (by decide)
      have hmore : ∀ y ∈ (g, e.first) :: e.more, IsSpaced y := by
        intro y hy
        rcases List.mem_cons.mp hy with rfl | hy
        · exact ⟨hgap, e.first_run⟩
        · exact e.more_spaced y hy
      refine ⟨⟨r, (g, e.first) :: e.more, hr, hmore⟩, [], b, hnil, hb, ?_⟩
      simp [SpacedText.text, SpacedText.all, joined]

/-- **What is left of an entry that is trimmed consists of words.** -/
theorem exists_spacedText (hne : trim t ≠ []) : ∃ e : SpacedText, e.text = trim t := by
  rcases blanks_or_exists_spacedText t with hall | ⟨e, g, b, hg, hb, rfl⟩
  · exact absurd (trim_blanks hall) hne
  · have htrimmed : IsTrimmed e.text := isTrimmed_joined e.first_run e.more_spaced
    exact ⟨e, (trim_append hg hb htrimmed (joined_ne_nil e.first_run e.more)).symm⟩

/-! ## §2. Where an entry is separated. -/

/-- White space in front of another word than `as` is no separator. -/
theorem matchAt_separator_of_word {prev : Option Char} (hw : IsRun isBlank w) (hv : IsRun isInk v)
    (hne : v ≠ asWord) (hu : StartsOutside isInk u) :
    DialectRules.builtin.aliasSeparator.matchAt ⟨prev, w ++ (v ++ u)⟩ = none := by
  rw [matchAt, run_separator hw (startsOutside_word hv u), behindBlanks, run_chars_append]
  split
  next hword =>
    -- the word goes on behind `as`, so neither white space nor the end follows
    have hink : IsRun isInk asWord := by decide
    have hin : asWord <+: v := prefix_of_prefix_run_append hink.2 hu hword
    obtain ⟨v', rfl⟩ := hin
    cases v' with
    | nil => exact absurd (List.append_nil asWord) hne
    | cons c v' =>
      have hc : CharSet.blank.contains c = false :=
        isBlank_eq_false_of_isRun hv c (by simp)
      rw [List.append_assoc, List.drop_left, List.cons_append]
      show ((Option.or ((Node.many1 .blank).run _ _ _) _).map _) = _
      rw [run_many1, run_char_cons, if_neg (by simp [hc])]
      rfl
  next => rfl

/-- The scan passes words that are no `as`. -/
theorem piecesFrom_joined {prev : Option Char} (hx : IsRun isInk x.2)
    (hmore : ∀ y ∈ more, IsSpaced y) (hno : ∀ y ∈ more, y.2 ≠ asWord)
    (hu : StartsOutside isInk u) :
    piecesFrom DialectRules.builtin.aliasSeparator prev (joined (x :: more) ++ u)
      = (joined (x :: more)).map .plain
        ++ piecesFrom DialectRules.builtin.aliasSeparator (lastOr prev (joined (x :: more))) u := by
  induction more generalizing x prev with
  | nil =>
    have hone : joined [x] = x.2 := List.append_nil x.2
    rw [hone]
    exact piecesFrom_separator (isBlank_eq_false_of_isRun hx) prev u
  | cons y more ih =>
    obtain ⟨hgap, hy⟩ := hmore y List.mem_cons_self
    have hrest : ∀ z ∈ more, IsSpaced z := fun z hz => hmore z (List.mem_cons_of_mem y hz)
    have hgapPass : ∀ a c b, y.1 = a ++ c :: b →
        DialectRules.builtin.aliasSeparator.matchAt
          ⟨lastOr (lastOr prev x.2) a, c :: b ++ (joined (y :: more) ++ u)⟩ = none := by
      intro a c b hab
      have hwhole : joined (y :: more) ++ u
          = y.2 ++ (more.flatMap (fun y => y.1 ++ y.2) ++ u) := by simp [joined]
      have hblank : IsRun isBlank (c :: b) :=
        ⟨List.cons_ne_nil c b, fun d hd => hgap.2 d (by rw [hab]; exact List.mem_append_right a hd)⟩
      rw [hwhole]
      exact matchAt_separator_of_word hblank hy (hno y List.mem_cons_self)
        (startsOutside_behind hrest hu)
    rw [joined_cons_cons, List.append_assoc, List.append_assoc,
      piecesFrom_separator (isBlank_eq_false_of_isRun hx), piecesFrom_append hgapPass,
      ih hy hrest (fun z hz => hno z (List.mem_cons_of_mem y hz)), lastOr_append, lastOr_append,
      List.map_append, List.map_append, List.append_assoc, List.append_assoc]

/-- Words without `as` are one part. -/
theorem gaps_joined {prev : Option Char} (hx : IsRun isInk x.2)
    (hmore : ∀ y ∈ more, IsSpaced y) (hno : ∀ y ∈ more, y.2 ≠ asWord) :
    gaps (piecesFrom DialectRules.builtin.aliasSeparator prev (joined (x :: more)))
      = [joined (x :: more)] := by
  have hpieces : piecesFrom _ prev (joined (x :: more) ++ []) = _ :=
    piecesFrom_joined hx hmore hno startsOutside_nil
  rw [piecesFrom_separator_nil, List.append_nil, List.append_nil] at hpieces
  rw [hpieces, gaps_plain]

/-- **The first `as` ends the first part**, and the scan goes on at the word behind it. -/
theorem gaps_separated {prev : Option Char} {g : Text} (hx : IsRun isInk x.2)
    (hpre : ∀ y ∈ pre, IsSpaced y) (hno : ∀ y ∈ pre, y.2 ≠ asWord) (hg : IsRun isBlank g)
    (hpost : ∀ y ∈ post, IsSpaced y) :
    ∃ prev', gaps (piecesFrom DialectRules.builtin.aliasSeparator prev
        (joined (x :: (pre ++ (g, asWord) :: post))))
      = joined (x :: pre)
        :: gaps (piecesFrom DialectRules.builtin.aliasSeparator prev' (joined post)) := by
  -- the separator with the white space behind it, if another word follows
  obtain ⟨s, hs, htext, hmatch⟩ : ∃ s, StartsOutside isInk (s ++ joined post)
      ∧ joined (x :: (pre ++ (g, asWord) :: post)) = joined (x :: pre) ++ (s ++ joined post)
      ∧ ∀ prev, ∃ m, DialectRules.builtin.aliasSeparator.matchAt ⟨prev, s ++ joined post⟩ = some m
        ∧ m.whole.length = s.length := by
    cases post with
    | nil =>
      refine ⟨g ++ asWord, ?_, ?_, ?_⟩
      · rw [List.append_assoc]
        exact startsOutside_gap hg _
      · rw [joined_append]
        simp [joined]
      · intro prev
        have hend : g ++ asWord ++ joined [] = g ++ asWord := List.append_nil _
        rw [hend]
        exact matchAt_separator_end hg prev
    | cons y post =>
      obtain ⟨hgap, hy⟩ := hpost y List.mem_cons_self
      refine ⟨g ++ asWord ++ y.1, ?_, ?_, ?_⟩
      · rw [List.append_assoc, List.append_assoc]
        exact startsOutside_gap hg _
      · rw [joined_append]
        simp [joined]
      · exact matchAt_separator hg hgap (startsOutside_word hy _)
  obtain ⟨m, hm, hlen⟩ := hmatch (lastOr prev (joined (x :: pre)))
  refine ⟨lastOr (lastOr prev (joined (x :: pre))) s, ?_⟩
  rw [htext, piecesFrom_joined hx hpre hno hs, piecesFrom_match advances_separator hm hlen,
    gaps_plain_append_hit]

end

/-! ## §3. Reading. -/

namespace SpacedText

variable {e : SpacedText} {us vs ws : List (Text × Text)} {i j k n : Nat}

theorem part_eq (h : e.all = us ++ (vs ++ ws)) (hi : i = us.length)
    (hj : j = us.length + vs.length) : e.part i j = joined vs := by
  subst hi hj
  have htake : (us ++ (vs ++ ws)).take (us.length + vs.length) = us ++ vs := by
    rw [← List.append_assoc, ← List.length_append, List.take_left]
  rw [part, h, htake, List.drop_left]

@[simp] theorem length_words (e : SpacedText) : e.words.length = e.all.length :=
  List.length_map _

theorem text_eq_part (e : SpacedText) : e.text = e.part 0 e.words.length := by
  rw [part, length_words, List.take_length, List.drop_zero, text]

/-- A part of a text has a first word, and white space in front of the others. -/
theorem exists_words (hij : i < j) (hj : j ≤ e.words.length) :
    ∃ x more, (e.all.take j).drop i = x :: more ∧ IsRun isInk x.2 ∧ ∀ y ∈ more, IsSpaced y := by
  obtain ⟨j, rfl⟩ := Nat.exists_eq_succ_of_ne_zero (Nat.ne_zero_of_lt hij)
  have htake : ∀ y ∈ e.more.take j, IsSpaced y :=
    fun y hy => e.more_spaced y (List.mem_of_mem_take hy)
  cases i with
  | zero => exact ⟨_, _, rfl, e.first_run, htake⟩
  | succ i =>
    have hsame : (e.all.take (j + 1)).drop (i + 1) = (e.more.take j).drop i := rfl
    cases hdrop : (e.more.take j).drop i with
    | nil =>
      -- word `i + 1` is one of the others
      have hlen := congrArg List.length hdrop
      simp only [length_words, all, List.length_cons, List.length_drop, List.length_take,
        List.length_nil] at hlen hj
      omega
    | cons x more =>
      have hspaced : ∀ y ∈ x :: more, IsSpaced y :=
        fun y hy => htake y (List.mem_of_mem_drop (hdrop ▸ hy))
      exact ⟨x, more, hsame.trans hdrop, (hspaced x List.mem_cons_self).2,
        fun y hy => hspaced y (List.mem_cons_of_mem x hy)⟩

theorem part_ne_nil (hij : i < j) (hj : j ≤ e.words.length) : e.part i j ≠ [] := by
  obtain ⟨x, more, hpart, hx, -⟩ := exists_words hij hj
  rw [part, hpart]
  exact joined_ne_nil hx more

theorem trim_part (hij : i < j) (hj : j ≤ e.words.length) : trim (e.part i j) = e.part i j := by
  obtain ⟨x, more, hpart, hx, hmore⟩ := exists_words hij hj
  rw [part, hpart]
  exact trim_joined hx hmore

/-- No word from word `n` on is `as`. -/
theorem asFrom?_eq_none_iff : e.asFrom? n = none ↔ ∀ y ∈ e.all.drop n, y.2 ≠ asWord := by
  rw [asFrom?, Option.map_eq_none_iff, words, ← List.map_drop, List.findIdx?_map,
    List.findIdx?_eq_none_iff]
  simp

/-- The first word `as` from word `n` on, with the words on both sides of it. -/
theorem asFrom?_eq_some (h : e.asFrom? n = some k) :
    ∃ pre g post, e.all.drop n = pre ++ (g, asWord) :: post ∧ (∀ y ∈ pre, y.2 ≠ asWord)
      ∧ k = n + pre.length := by
  obtain ⟨i, hfound, rfl⟩ := Option.map_eq_some_iff.mp h
  rw [words, ← List.map_drop, List.findIdx?_map] at hfound
  obtain ⟨hlt, hat, hbefore⟩ := List.findIdx?_eq_some_iff_getElem.mp hfound
  generalize e.all.drop n = xs at hlt hat hbefore
  have hword : xs[i].2 = asWord := by simpa using hat
  refine ⟨xs.take i, xs[i].1, xs.drop (i + 1), ?_, ?_, ?_⟩
  · rw [← hword, ← List.drop_eq_getElem_cons hlt, List.take_append_drop]
  · intro y hy
    obtain ⟨m, hm, rfl⟩ := List.getElem_of_mem hy
    rw [List.length_take] at hm
    rw [List.getElem_take]
    simpa using hbefore m (by omega)
  · rw [List.length_take, Nat.min_eq_left (Nat.le_of_lt hlt)]

theorem lt_of_asFrom? (h : e.asFrom? n = some k) : n ≤ k ∧ k < e.words.length := by
  obtain ⟨pre, g, post, hdrop, -, rfl⟩ := asFrom?_eq_some h
  have hlen := congrArg List.length hdrop
  simp only [List.length_drop, List.length_append, List.length_cons] at hlen
  rw [length_words]
  omega

/-- From a word behind which there is no `as`, an entry is one part. -/
theorem gaps_part (hi : i < e.words.length) (h : e.asFrom? (i + 1) = none) (prev : Option Char) :
    gaps (piecesFrom DialectRules.builtin.aliasSeparator prev (e.part i e.words.length))
      = [e.part i e.words.length] := by
  obtain ⟨x, more, hdrop, hx, hmore⟩ := exists_words hi (Nat.le_refl _)
  rw [length_words, List.take_length] at hdrop
  have hno := asFrom?_eq_none_iff.mp h
  rw [← List.tail_drop, hdrop] at hno
  rw [part, length_words, List.take_length, hdrop]
  exact gaps_joined hx hmore hno

/-- **The next `as` ends a part**, and the word behind it begins another. -/
theorem gaps_part_of_as (hi : i < e.words.length) (h : e.asFrom? (i + 1) = some k)
    (prev : Option Char) :
    ∃ prev', gaps (piecesFrom DialectRules.builtin.aliasSeparator prev
        (e.part i e.words.length))
      = e.part i k :: gaps (piecesFrom DialectRules.builtin.aliasSeparator prev'
          (e.part (k + 1) e.words.length)) := by
  obtain ⟨x, more, hdrop, hx, hmore⟩ := exists_words hi (Nat.le_refl _)
  rw [length_words, List.take_length] at hdrop
  obtain ⟨pre, g, post, hmoreEq, hno, rfl⟩ := asFrom?_eq_some h
  rw [← List.tail_drop, hdrop, List.tail_cons] at hmoreEq
  subst hmoreEq
  have hall : e.all = e.all.take i ++ ((x :: pre) ++ (g, asWord) :: post) := by
    rw [List.cons_append, ← hdrop, List.take_append_drop]
  have hlen : i = (e.all.take i).length := by
    rw [length_words] at hi
    rw [List.length_take, Nat.min_eq_left (Nat.le_of_lt hi)]
  have hwhole : e.part i e.words.length = joined (x :: (pre ++ (g, asWord) :: post)) := by
    rw [part, length_words, List.take_length, hdrop]
  have hbefore : e.part i (i + 1 + pre.length) = joined (x :: pre) :=
    part_eq hall hlen (by rw [← hlen, List.length_cons]; omega)
  have hbehind : e.part (i + 1 + pre.length + 1) e.words.length = joined post := by
    have hall' : e.all = (e.all.take i ++ (x :: pre ++ [(g, asWord)])) ++ (post ++ []) := by
      simpa using hall
    have hcount : (e.all.take i ++ (x :: pre ++ [(g, asWord)])).length = i + 1 + pre.length + 1 := by
      rw [List.length_append, ← hlen]
      simp
      omega
    refine part_eq hall' hcount.symm ?_
    rw [length_words, ← List.length_append, ← List.append_nil post, ← hall']
  rw [hwhole, hbefore, hbehind]
  exact gaps_separated hx (fun y hy => hmore y (List.mem_append_left _ hy)) hno
    (hmore (g, asWord) (by simp)).1
    (fun y hy => hmore y (List.mem_append_right _ (List.mem_cons_of_mem _ hy)))

end SpacedText

namespace AliasLog

variable {l : AliasLog} {entry a b c : Text} {ds : List Text}

theorem recordParts_one (ha : a ≠ []) : l.recordParts entry [a] = l.insert a a :=
  WrittenEntry.recordNames_eq_insert l ha ha

theorem recordParts_two (ha : a ≠ []) (hb : b ≠ []) :
    l.recordParts entry [a, b] = l.insert a b :=
  WrittenEntry.recordNames_eq_insert l ha hb

theorem recordParts_two_nil (ha : a ≠ []) :
    l.recordParts entry [a, []] = (l.note (.noPublicName entry)).insert a a := by
  rw [recordParts, recordParts.recordNames, if_neg (by simpa using ha)]
  rfl

theorem recordParts_more (ha : a ≠ []) (hb : b ≠ []) :
    l.recordParts entry (a :: b :: c :: ds) = (l.note (.extraParts entry)).insert a b :=
  WrittenEntry.recordNames_eq_insert _ ha hb

end AliasLog

theorem gaps_ne_nil (ps : List Piece) : gaps ps ≠ [] := by
  fun_cases gaps ps <;> exact List.cons_ne_nil _ _

/-- **An entry records what its words say.** -/
theorem recordEntry_eq_read (l : AliasLog) {entry : Text} {e : SpacedText}
    (he : e.text = trim entry) : l.recordEntry .builtin entry = e.read l := by
  have hpos : 0 < e.words.length := by simp [SpacedText.all]
  have hsplit : l.recordEntry .builtin entry = l.recordParts e.text
      ((gaps (piecesFrom DialectRules.builtin.aliasSeparator none
        (e.part 0 e.words.length))).map trim) := by
    have hne : e.text ≠ [] := joined_ne_nil e.first_run e.more
    unfold AliasLog.recordEntry
    dsimp only
    rw [← he, if_neg (by simpa using hne), split_eq rfl, ← e.text_eq_part]
  rw [hsplit]
  unfold SpacedText.read
  cases hk : e.asFrom? 1 with
  | none =>
    have htext := e.text_eq_part
    rw [SpacedText.gaps_part hpos hk, List.map_singleton,
      SpacedText.trim_part hpos (Nat.le_refl _), ← htext]
    exact AliasLog.recordParts_one (htext ▸ SpacedText.part_ne_nil hpos (Nat.le_refl _))
  | some k =>
    obtain ⟨hk₀, hk₁⟩ := SpacedText.lt_of_asFrom? hk
    obtain ⟨prev, hgaps⟩ := SpacedText.gaps_part_of_as hpos hk none
    have hne := SpacedText.part_ne_nil hk₀ (Nat.le_of_lt hk₁)
    rw [hgaps, List.map_cons, SpacedText.trim_part hk₀ (Nat.le_of_lt hk₁)]
    dsimp only
    by_cases hlast : k + 1 = e.words.length
    · -- nothing follows the separator
      have hnil : e.part (k + 1) e.words.length = [] := by
        rw [hlast, SpacedText.part, e.length_words, List.take_length, List.drop_length, joined]
      rw [if_pos hlast, hnil, piecesFrom_separator_nil]
      exact AliasLog.recordParts_two_nil hne
    rw [if_neg hlast]
    have hbehind : k + 1 < e.words.length := by omega
    cases hj : e.asFrom? (k + 2) with
    | none =>
      rw [SpacedText.gaps_part hbehind hj, List.map_singleton,
        SpacedText.trim_part hbehind (Nat.le_refl _)]
      exact AliasLog.recordParts_two hne (SpacedText.part_ne_nil hbehind (Nat.le_refl _))
    | some j =>
      obtain ⟨hj₀, hj₁⟩ := SpacedText.lt_of_asFrom? hj
      obtain ⟨prev', hgaps'⟩ := SpacedText.gaps_part_of_as hbehind hj prev
      obtain ⟨third, others, hthird⟩ := List.exists_cons_of_ne_nil
        (gaps_ne_nil (piecesFrom DialectRules.builtin.aliasSeparator prev'
          (e.part (j + 1) e.words.length)))
      rw [hgaps', List.map_cons, SpacedText.trim_part hj₀ (Nat.le_of_lt hj₁), hthird, List.map_cons]
      exact AliasLog.recordParts_more hne (SpacedText.part_ne_nil hj₀ (Nat.le_of_lt hj₁))

namespace SpacedText

/-- What an entry of words records, no note says that the internal name is missing. -/
theorem noInternalName_mem_read {e : SpacedText} {l : AliasLog} {n : Text}
    (h : .noInternalName n ∈ (e.read l).notes) : .noInternalName n ∈ l.notes := by
  have hinsert : ∀ {l : AliasLog} {a b : Text},
      .noInternalName n ∈ (l.insert a b).notes → .noInternalName n ∈ l.notes := by
    intro l a b hn
    rw [AliasLog.notes_insert, List.mem_append, Option.mem_toList] at hn
    refine hn.resolve_right (fun hbind => ?_)
    obtain ⟨kept, -, hkept⟩ := Option.bind_eq_some_iff.mp hbind
    split at hkept <;> exact absurd hkept (by simp)
  have hnote : ∀ {l : AliasLog} {note : AliasNote}, note ≠ .noInternalName n →
      .noInternalName n ∈ (l.note note).notes → .noInternalName n ∈ l.notes := by
    intro l note hne hn
    rcases List.mem_append.mp hn with hn | hn
    · exact hn
    · exact absurd (List.mem_singleton.mp hn).symm hne
  unfold read at h
  split at h
  next => exact hinsert h
  next k =>
    split at h
    next => exact hnote (by simp) (hinsert h)
    next =>
      split at h
      next => exact hinsert h
      next => exact hnote (by simp) (hinsert h)

end SpacedText

/-- **How an entry is read.**  What is left of it when it is trimmed are words with white space
between them, and these say what it records.  That its internal name is missing is never
noted. -/
theorem recordEntry_of_words {entry : Text} (hne : trim entry ≠ []) (l : AliasLog) :
    (∃ e : SpacedText, e.text = trim entry)
      ∧ ∀ e : SpacedText, e.text = trim entry →
        e.words = runs isInk (trim entry)
          ∧ l.recordEntry .builtin entry = e.read l
          ∧ ∀ n, .noInternalName n ∈ (l.recordEntry .builtin entry).notes →
              .noInternalName n ∈ l.notes := by
  refine ⟨exists_spacedText hne, fun e he => ?_⟩
  have hread := recordEntry_eq_read l he
  refine ⟨?_, hread, fun n hn => SpacedText.noInternalName_mem_read (hread ▸ hn)⟩
  rw [← he]
  exact (runs_joined (x := ([], e.first)) e.first_run e.more_spaced).symm

/-- The first `as` separates, the one right behind it is the public name, and the next one ends
it. -/
def asInARow : SpacedText where
  first := "a"
  more := [(" ", "b"), ("\t", "as"), (" ", "as"), ("  ", "as"), (" ", "c"), (" ", "as")]
  first_run := by decide
  more_spaced := by decide

theorem recordEntry_of_words_asInARow :
    AliasLog.empty.recordEntry .builtin " a b\tas as  as c as\n"
      = ⟨⟨[("a b", "as")]⟩, [.extraParts "a b\tas as  as c as"]⟩ := by
  have htext : asInARow.text = trim (" a b\tas as  as c as\n" : String).toList := by decide
  have hne : trim (" a b\tas as  as c as\n" : String).toList ≠ [] := by decide
  obtain ⟨-, hread⟩ := recordEntry_of_words hne .empty
  obtain ⟨-, hrecord, -⟩ := hread asInARow htext
  exact hrecord.trans (by decide)

end ScriptWeave
