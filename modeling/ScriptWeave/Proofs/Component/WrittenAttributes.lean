/-
  ScriptWeave.Proofs.Component.WrittenAttributes
  ──────────────────────────────────────────────
  **ATTRIBUTES ARE READ BACK AS THEY WERE WRITTEN.**

  An attribute is a bare name, or a name with a value in double quotes, in
  single quotes or in none.  White space may stand around `=` and at both ends
  of a tag, and must stand between two attributes.

      lang='Scala'  defer TYPE = module          lang  Scala
                                                 defer true
                                                 type  module

  The pattern has one group for the name and an optional part for the value,
  with three alternatives.  Behind a written name the walk has one way: the
  loop over the name ends where the name does, a bare name is followed by no
  `=`, and the first character of a value decides between the alternatives.
  So the scan takes one attribute per match, whatever its value contains.
-/
import Mathlib.Data.List.Induction
import ScriptWeave.Component.Attributes
import ScriptWeave.Proofs.Pattern.CaseFold
import ScriptWeave.Proofs.Pattern.Progress

namespace ScriptWeave

open Pattern Text

/-! ## §1. The map. -/

namespace Attributes

variable {as : Attributes} {name value k : Text}

/-- The last value that a name is given counts, and no other name is touched. -/
theorem get?_set : (as.set name value).get? k = if k = name then some value else as.get? k := by
  rw [get?, set, List.lookup_cons]
  by_cases hk : k = name
  · rw [if_pos hk, beq_iff_eq.mpr hk]
  · rw [if_neg hk, beq_false_of_ne hk]
    show (as.filter (fun a => a.1 != name)).lookup k = as.lookup k
    induction as with
    | nil => rfl
    | cons a as ih =>
      obtain ⟨n, v⟩ := a
      by_cases hn : n = name
      · -- the pair that goes is one of the other name
        subst hn
        rw [List.filter_cons_of_neg (by simp), ih, List.lookup_cons, beq_false_of_ne hk]
      · rw [List.filter_cons_of_pos (by simpa using hn), List.lookup_cons, List.lookup_cons, ih]

/-- No name stands in the map twice. -/
theorem nodup_set (h : (as.map Prod.fst).Nodup) : ((as.set name value).map Prod.fst).Nodup := by
  rw [set, List.map_cons, List.nodup_cons]
  constructor
  · intro hin
    obtain ⟨a, ha, hname⟩ := List.mem_map.mp hin
    have hne := (List.mem_filter.mp ha).2
    rw [bne_iff_ne] at hne
    exact hne hname
  · exact h.sublist (List.filter_sublist.map Prod.fst)

end Attributes

/-! ## §2. Written attributes. -/

/-- Whether a character can stand in the name of an attribute. -/
def isAttributeChar (c : Char) : Bool :=
  c.isAlphanum || c == ':' || c == '_' || c == '-'

/-- A value as it is written. -/
inductive WrittenValue where
  /-- Between double quotes. -/
  | doubleQuoted (value : Text)
  /-- Between single quotes. -/
  | singleQuoted (value : Text)
  /-- As it stands. -/
  | unquoted (value : Text)
  deriving Repr, DecidableEq

namespace WrittenValue

/-- The value itself. -/
def value : WrittenValue → Text
  | doubleQuoted v => v
  | singleQuoted v => v
  | unquoted v => v

/-- The value with its quotes. -/
def text : WrittenValue → Text
  | doubleQuoted v => '"' :: (v ++ ['"'])
  | singleQuoted v => '\x27' :: (v ++ ['\x27'])
  | unquoted v => v

/-- Whether a value ends where it is meant to end: a quoted one has no such quote, and an unquoted
one has something in it, but no white space, no `>` and no quote in front. -/
def IsClosed : WrittenValue → Prop
  | doubleQuoted v => '"' ∉ v
  | singleQuoted v => '\x27' ∉ v
  | unquoted v => v ≠ [] ∧ (∀ c ∈ v, isBlank c = false ∧ c ≠ '>')
      ∧ (∀ c ∈ v.head?, c ≠ '"' ∧ c ≠ '\x27')

instance : (x : WrittenValue) → Decidable x.IsClosed
  | doubleQuoted v => inferInstanceAs (Decidable ('"' ∉ v))
  | singleQuoted v => inferInstanceAs (Decidable ('\x27' ∉ v))
  | unquoted [] => .isFalse (fun h => h.1 rfl)
  | unquoted (c :: v) => decidable_of_iff
      ((c :: v).all (fun x => !isBlank x && x != '>') = true ∧ c ≠ '"' ∧ c ≠ '\x27')
      (by simp [IsClosed])

end WrittenValue

/-- What stands behind the name of an attribute with a value. -/
structure WrittenPart where
  /-- The white space in front of `=`. -/
  before : Text
  /-- The white space behind `=`. -/
  behind : Text
  /-- The value. -/
  written : WrittenValue
  before_blank : IsBlanks before
  behind_blank : IsBlanks behind
  written_closed : written.IsClosed

/-- The part as text. -/
def WrittenPart.text (p : WrittenPart) : Text := p.before ++ '=' :: (p.behind ++ p.written.text)

/-- An attribute as it is written: a name, alone or with a value. -/
structure WrittenAttribute where
  /-- The name, in any case. -/
  name : Text
  /-- What gives it a value. -/
  part? : Option WrittenPart
  name_run : IsRun isAttributeChar name

namespace WrittenAttribute

variable (a : WrittenAttribute)

/-- What stands behind the name. -/
def behindName : Text := (a.part?.map WrittenPart.text).getD []

/-- The attribute as text. -/
def text : Text := a.name ++ a.behindName

/-- The name that counts. -/
def key : Text := a.name.map Char.toLower

/-- The value that counts. -/
def value : Text := (a.part?.map (fun p => p.written.value)).getD "true"

end WrittenAttribute

/-- Whether a text is empty or begins with white space. -/
def OpensBlank (t : Text) : Prop := ∀ c ∈ t.head?, isBlank c = true

instance : (t : Text) → Decidable (OpensBlank t)
  | [] => .isTrue (by simp [OpensBlank])
  | c :: _ => decidable_of_iff (isBlank c = true) (by simp [OpensBlank])

/-- **Attributes as text**: white space may stand in front of each and at the end, and what
follows an attribute begins with some. -/
inductive IsWritten : List WrittenAttribute → Text → Prop
  | nil {w : Text} (hw : IsBlanks w) : IsWritten [] w
  | cons {a : WrittenAttribute} {as : List WrittenAttribute} {w t : Text} (hw : IsBlanks w)
      (ht : IsWritten as t) (hopen : OpensBlank t) : IsWritten (a :: as) (w ++ (a.text ++ t))

/-! ## §3. Classes of characters. -/

section

variable {c : Char} {t u v w : Text} {prev : Option Char} {g : Groups} {k : Next}

theorem lt_of_isAttributeChar (h : isAttributeChar c = true) : c.toNat < 0x80 := by
  have hupTo : ∀ d : Char, d.toNat < 0x80 → c.val ≤ d.val → c.toNat < 0x80 :=
    fun d hd hle => Nat.lt_of_le_of_lt (UInt32.le_iff_toNat_le.mp hle) hd
  have hdigit : c.isDigit = true → c.toNat < 0x80 := fun h =>
    hupTo '9' (by decide) (of_decide_eq_true (Bool.and_eq_true_iff.mp h).2)
  have hlower : c.isLower = true → c.toNat < 0x80 := fun h =>
    hupTo 'z' (by decide) (of_decide_eq_true (Bool.and_eq_true_iff.mp h).2)
  have hupper : c.isUpper = true → c.toNat < 0x80 := fun h =>
    hupTo 'Z' (by decide) (of_decide_eq_true h).2
  have halpha : c.isAlpha = true → c.toNat < 0x80 := fun h =>
    (Bool.or_eq_true_iff.mp h).elim hupper hlower
  simp only [isAttributeChar, Bool.or_eq_true, beq_iff_eq] at h
  rcases h with ((h | rfl) | rfl) | rfl
  · exact (Bool.or_eq_true_iff.mp h).elim halpha hdigit
  all_goals decide

/-- What a name is written with is in the class of the pattern, and is lowered as in ASCII. -/
theorem contains_nameChars (h : isAttributeChar c = true) :
    nameChars.contains c = true ∧ lowerChar c = c.toLower := by
  have hlt := lt_of_isAttributeChar h
  have hall := of_ascii (P := fun c => !isAttributeChar c || (nameChars.contains c
    && lowerChar c == c.toLower)) (by decide) hlt
  simpa [h] using hall

/-- No name has white space in it. -/
theorem nameChars_of_isBlank (h : isBlank c = true) : nameChars.contains c = false := by
  have hall : ∀ n ∈ blankPoints, nameChars.contains (Char.ofNat n) = false := by decide +kernel
  rw [← Char.ofNat_toNat c]
  exact hall _ (toNat_mem_blankPoints h)

/-- No attribute begins where white space or nothing stands. -/
theorem matchAt_attributePattern_of_blank (h : OpensBlank t) :
    attributePattern.matchAt ⟨prev, t⟩ = none := by
  cases t with
  | nil => rfl
  | cons x t =>
    have hx : nameChars.contains x = false := nameChars_of_isBlank (h x rfl)
    rw [matchAt, attributePattern, run_cat, run_group, run_many1, run_char_cons,
      if_neg (by simp [hx])]
    rfl

/-! ## §4. The walk through an attribute. -/

/-- A value in one of its three forms. -/
def valueForms : Node :=
  .alt (quotedValue 2 '"')
    (.alt (quotedValue 3 '\x27') (.group 4 (.many1 (.compl (.union (.single '>') .blank)))))

/-- What gives a name a value. -/
def valuePart : Node :=
  .ofList [.many .blank, .char (.single '='), .many .blank, valueForms]

theorem attributePattern_node : attributePattern.node
    = .cat (.group 1 (.many1 nameChars)) (.rep valuePart 0 (some 1) true) := rfl

/-- What may be left out is left out only if the walk through it fails. -/
theorem run_valuePart_optional {c : Cursor} :
    (Node.rep valuePart 0 (some 1) true).run c g k = (valuePart.run c g k).or (k c g) := rfl

/-- A value in quotes ends at the next quote. -/
theorem run_quotedValue {q : Char} {i : Nat} (hv : q ∉ v) :
    (quotedValue i q).run ⟨prev, q :: (v ++ q :: t)⟩ g k
      = k ⟨some q, t⟩ ((i, ⟨v ++ q :: t, q :: t⟩) :: g) := by
  have hsplit : firstSplit (beginsWith q) (v ++ q :: t) = some (v, q :: t) := by
    apply firstSplit_append (beginsWith_eq_true_iff.mpr ⟨t, rfl⟩)
    rintro a x b rfl
    rw [Bool.eq_false_iff]
    intro hx
    obtain ⟨w, hw⟩ := beginsWith_eq_true_iff.mp hx
    obtain ⟨rfl, -⟩ := List.cons.inj hw
    exact hv (by simp)
  rw [quotedValue, run_single, run_group_many_single, hsplit]
  rfl

/-- A value in quotes begins with the quote. -/
theorem run_quotedValue_of_ne {q x : Char} {i : Nat} (hx : x ≠ q) :
    (quotedValue i q).run ⟨prev, x :: t⟩ g k = none :=
  run_single_of_ne hx _

/-- The group for a value in the form that it is written in. -/
def WrittenValue.group : WrittenValue → Nat
  | doubleQuoted _ => 2
  | singleQuoted _ => 3
  | unquoted _ => 4

/-- **The first character of a value decides on its form**, and the walk gets through that one
where the value ends. -/
theorem run_valueForms {x : WrittenValue} (hx : x.IsClosed) (ht : OpensBlank t)
    (prev : Option Char) :
    ∃ prev' stop, valueForms.run ⟨prev, x.text ++ t⟩ g (fun c g => some (c, g))
      = some (⟨prev', t⟩, (x.group, ⟨x.value ++ stop, stop⟩) :: g) := by
  cases x with
  | doubleQuoted v =>
    refine ⟨some '"', '"' :: t, ?_⟩
    have htext : (WrittenValue.doubleQuoted v).text ++ t = '"' :: (v ++ '"' :: t) := by
      simp [WrittenValue.text]
    rw [htext, valueForms, run_alt, run_quotedValue hx, Option.some_or]
    rfl
  | singleQuoted v =>
    refine ⟨some '\x27', '\x27' :: t, ?_⟩
    have htext : (WrittenValue.singleQuoted v).text ++ t = '\x27' :: (v ++ '\x27' :: t) := by
      simp [WrittenValue.text]
    rw [htext, valueForms, run_alt, run_quotedValue_of_ne (by decide), Option.none_or, run_alt,
      run_quotedValue hx, Option.some_or]
    rfl
  | unquoted v =>
    obtain ⟨hne, hall, hfirst⟩ := hx
    refine ⟨lastOr prev v, t, ?_⟩
    have hrun : IsRun (CharSet.compl (.union (.single '>') .blank)).contains v := by
      refine ⟨hne, ?_⟩
      intro c hc
      obtain ⟨hblank, hgt⟩ := hall c hc
      simp [CharSet.contains, hblank, hgt.symm]
    have hout : StartsOutside (CharSet.compl (.union (.single '>') .blank)).contains t := by
      intro c hc
      simp [CharSet.contains, ht c hc]
    have hgroup : (Node.group 4 (.many1 (.compl (.union (.single '>') .blank)))).run ⟨prev, v ++ t⟩ g
        (fun c g => some (c, g)) = some (⟨lastOr prev v, t⟩, (4, ⟨v ++ t, t⟩) :: g) :=
      run_group_many1_eq_some hrun hout rfl
    -- neither kind of quote is in front
    obtain ⟨x, v, rfl⟩ := List.exists_cons_of_ne_nil hne
    obtain ⟨hdouble, hsingle⟩ := hfirst x rfl
    show valueForms.run ⟨prev, x :: (v ++ t)⟩ g (fun c g => some (c, g)) = _
    rw [valueForms, run_alt, run_quotedValue_of_ne hdouble, Option.none_or, run_alt,
      run_quotedValue_of_ne hsingle, Option.none_or]
    exact hgroup

/-- A value does not begin with white space. -/
theorem WrittenValue.startsOutside_text {x : WrittenValue} (hx : x.IsClosed) (t : Text) :
    StartsOutside isBlank (x.text ++ t) := by
  cases x with
  | doubleQuoted v => exact startsOutside_cons.mpr (by decide)
  | singleQuoted v => exact startsOutside_cons.mpr (by decide)
  | unquoted v =>
    refine (startsOutside_append hx.1).mpr ?_
    intro c hc
    exact (hx.2.1 c (List.mem_of_mem_head? hc)).1

/-- The walk gets through `=`, the white space around it and the value. -/
theorem run_valuePart (p : WrittenPart) (ht : OpensBlank t) (prev : Option Char) (g : Groups) :
    ∃ prev' stop, valuePart.run ⟨prev, p.text ++ t⟩ g (fun c g => some (c, g))
      = some (⟨prev', t⟩, (p.written.group, ⟨p.written.value ++ stop, stop⟩) :: g) := by
  obtain ⟨prev', stop, hforms⟩ :=
    run_valueForms (g := g) p.written_closed ht (lastOr (some '=') p.behind)
  refine ⟨prev', stop, ?_⟩
  have htext : p.text ++ t = p.before ++ '=' :: (p.behind ++ (p.written.text ++ t)) := by
    simp [WrittenPart.text]
  have hvalue := WrittenValue.startsOutside_text p.written_closed t
  rw [htext, valuePart, run_many_single (s := .blank) p.before_blank (by decide), run_ofList_cons,
    run_many]
  apply most_eq_some
  have htake := takeWhile_run_append (p := isBlank) p.behind_blank hvalue
  have hdrop := dropWhile_run_append (p := isBlank) p.behind_blank hvalue
  show (Node.ofList [valueForms]).run ⟨lastOr (some '=') (List.takeWhile isBlank _),
    List.dropWhile isBlank _⟩ g _ = _
  rw [htake, hdrop]
  exact hforms

/-- Where no `=` follows, at most behind white space, there is no value. -/
theorem run_valuePart_of_no_equals (h : ∀ w v, IsBlanks w → t ≠ w ++ '=' :: v) :
    valuePart.run ⟨prev, t⟩ g k = none := by
  rw [Option.eq_none_iff_forall_ne_some]
  intro r hr
  obtain ⟨w, v, hw, ht, -⟩ := run_many_single_eq_some (s := .blank) (by decide) hr
  exact h w v hw ht

/-! ## §5. The match of an attribute. -/

theorem isRun_nameChars (a : WrittenAttribute) : IsRun nameChars.contains a.name :=
  ⟨a.name_run.1, fun c hc => (contains_nameChars (a.name_run.2 c hc)).1⟩

theorem map_lowerChar_name (a : WrittenAttribute) : a.name.map lowerChar = a.key :=
  List.map_congr_left (fun c hc => (contains_nameChars (a.name_run.2 c hc)).2)

/-- A name ends where white space, the end or `=` stands. -/
theorem startsOutside_behindName (a : WrittenAttribute) (ht : OpensBlank t) :
    StartsOutside nameChars.contains (a.behindName ++ t) := by
  obtain ⟨name, _ | p, hname⟩ := a
  · intro c hc
    exact nameChars_of_isBlank (ht c hc)
  · show StartsOutside nameChars.contains (p.text ++ t)
    rw [WrittenPart.text, List.append_assoc]
    cases hb : p.before with
    | nil => exact startsOutside_cons.mpr (by decide)
    | cons x w =>
      have hx := p.before_blank x (by rw [hb]; exact List.mem_cons_self)
      exact startsOutside_cons.mpr (nameChars_of_isBlank hx)

/-- The walk behind a name gets through what is written there, and the value is read from the
groups. -/
theorem run_behindName (a : WrittenAttribute) (ht : OpensBlank t)
    (hbare : ∀ w v, IsBlanks w → t ≠ w ++ '=' :: v) (prev : Option Char) (g : Groups) :
    ∃ prev' g', (Node.rep valuePart 0 (some 1) true).run ⟨prev, a.behindName ++ t⟩ g
          (fun c g => some (c, g)) = some (⟨prev', t⟩, g' ++ g)
      ∧ ∀ whole s, attributeOf ⟨whole, g' ++ [(1, s)]⟩ = (s.text.map lowerChar, a.value) := by
  rw [run_valuePart_optional]
  cases hp : a.part? with
  | none =>
    -- no `=` follows, so the part for the value is left out
    have hbehind : a.behindName = [] := by rw [WrittenAttribute.behindName, hp]; rfl
    refine ⟨prev, [], ?_, ?_⟩
    · rw [hbehind, List.nil_append, run_valuePart_of_no_equals hbare, Option.none_or,
        List.nil_append]
    · intro whole s
      rw [WrittenAttribute.value, hp]
      rfl
  | some p =>
    have hbehind : a.behindName = p.text := by rw [WrittenAttribute.behindName, hp]; rfl
    obtain ⟨prev', stop, hpart⟩ := run_valuePart p ht prev g
    refine ⟨prev', [(p.written.group, ⟨p.written.value ++ stop, stop⟩)], ?_, ?_⟩
    · rw [hbehind, hpart, Option.some_or]
      rfl
    · intro whole s
      rw [WrittenAttribute.value, hp]
      show _ = (s.text.map lowerChar, p.written.value)
      generalize p.written = x
      cases x <;>
        simp [attributeOf, Match.groupText, Match.group?, List.lookup_cons, Span.text_append,
          WrittenValue.group, WrittenValue.value]

/-- **An attribute is one match**, from which its name and its value are read. -/
theorem matchAt_attribute (a : WrittenAttribute) (ht : OpensBlank t)
    (hbare : ∀ w v, IsBlanks w → t ≠ w ++ '=' :: v) (prev : Option Char) :
    ∃ m, attributePattern.matchAt ⟨prev, a.text ++ t⟩ = some m
      ∧ m.whole.length = a.text.length ∧ attributeOf m = (a.key, a.value) := by
  obtain ⟨prev', g', hbehind, hread⟩ := run_behindName a ht hbare (lastOr prev a.name)
    [(1, ⟨a.name ++ (a.behindName ++ t), a.behindName ++ t⟩)]
  have hwalk := run_group_many1_eq_some (i := 1) (g := [])
    (k := fun c g => (Node.rep valuePart 0 (some 1) true).run c g (fun c g => some (c, g)))
    (isRun_nameChars a) (startsOutside_behindName a ht) hbehind
  have hmatch : attributePattern.matchAt ⟨prev, a.text ++ t⟩ = some ⟨⟨a.text ++ t, t⟩,
      g' ++ [(1, ⟨a.name ++ (a.behindName ++ t), a.behindName ++ t⟩)]⟩ := by
    rw [matchAt, attributePattern_node, run_cat, WrittenAttribute.text, List.append_assoc, hwalk]
    rfl
  refine ⟨_, hmatch, ?_, ?_⟩
  · simp [Span.length]
  · rw [hread, Span.text_append, map_lowerChar_name]

/-! ## §6. All attributes. -/

/-- The attributes that are left do not begin with `=`. -/
theorem IsWritten.ne_equals {as : List WrittenAttribute} (h : IsWritten as t) :
    ∀ w v, IsBlanks w → t ≠ w ++ '=' :: v := by
  intro w v hw heq
  have hequals : StartsOutside isBlank ('=' :: v) := startsOutside_cons.mpr (by decide)
  cases h with
  | nil ht =>
    have hin : '=' ∈ t := by
      rw [heq]
      simp
    exact absurd (ht '=' hin) (by decide)
  | @cons a as w' t hw' ht hopen =>
    obtain ⟨x, name, hname⟩ := List.exists_cons_of_ne_nil a.name_run.1
    have hx : isAttributeChar x = true := a.name_run.2 x (by rw [hname]; exact List.mem_cons_self)
    have hout : StartsOutside isBlank (a.text ++ t) := by
      rw [WrittenAttribute.text, hname]
      apply startsOutside_cons.mpr
      rw [Bool.eq_false_iff]
      intro hblank
      have hnone := nameChars_of_isBlank hblank
      rw [(contains_nameChars hx).1] at hnone
      exact absurd hnone (by decide)
    -- without the white space both sides begin with what is no white space
    have hdrop := congrArg (List.dropWhile isBlank) heq
    rw [dropWhile_run_append hw' hout, dropWhile_run_append hw hequals, WrittenAttribute.text,
      hname] at hdrop
    obtain ⟨rfl, -⟩ := List.cons.inj hdrop
    exact absurd hx (by decide)

theorem advances_attributePattern : Advances attributePattern := advances_of_not_nullable rfl

/-- White space is passed. -/
theorem piecesFrom_blanks (hw : IsBlanks w) (t : Text) (prev : Option Char) :
    piecesFrom attributePattern prev (w ++ t)
      = w.map .plain ++ piecesFrom attributePattern (lastOr prev w) t := by
  apply piecesFrom_append
  rintro a x b rfl
  apply matchAt_attributePattern_of_blank
  intro c hc
  obtain rfl : x = c := by simpa using hc
  exact hw x (by simp)

/-- The matches in written attributes are the attributes. -/
theorem map_attributeOf_pieces {as : List WrittenAttribute} (h : IsWritten as t)
    (prev : Option Char) :
    ((piecesFrom attributePattern prev t).filterMap Piece.match?).map attributeOf
      = as.map (fun a => (a.key, a.value)) := by
  induction h generalizing prev with
  | @nil w hw =>
    have hpass := piecesFrom_blanks hw [] prev
    rw [List.append_nil] at hpass
    rw [hpass, piecesFrom_nil (matchAt_attributePattern_of_blank (fun c hc => by simp at hc)),
      List.append_nil, filterMap_match?_plain]
    rfl
  | @cons a as w t hw ht hopen ih =>
    obtain ⟨m, hm, hlen, hread⟩ := matchAt_attribute a hopen ht.ne_equals (lastOr prev w)
    have hhit : ∀ ps, (Piece.hit m :: ps).filterMap Piece.match?
        = m :: ps.filterMap Piece.match? := fun _ => rfl
    rw [piecesFrom_blanks hw, piecesFrom_match advances_attributePattern hm hlen,
      List.filterMap_append, filterMap_match?_plain, List.nil_append, hhit, List.map_cons, ih,
      hread, List.map_cons]

/-- What is read is what the attributes set, one after the other. -/
theorem parseAttributes_eq_foldl {as : List WrittenAttribute} (h : IsWritten as t) :
    parseAttributes t
      = as.foldl (fun (m : Attributes) a => m.set a.key a.value) [] := by
  have hread := map_attributeOf_pieces h none
  have hmaps : ∀ ms : List Match, ms.foldl (fun (as : Attributes) m =>
        let a := attributeOf m; as.set a.1 a.2) []
      = (ms.map attributeOf).foldl (fun (as : Attributes) a => as.set a.1 a.2) [] := by
    intro ms
    rw [List.foldl_map]
  rw [parseAttributes, matchesIn_eq rfl, hmaps, hread, List.foldl_map]

/-- **Written attributes are read back**: under every name the map has the value of the last
attribute with that name, up to case, and it has no name twice. -/
theorem parseAttributes_written {as : List WrittenAttribute} (h : IsWritten as t) :
    (∀ k, (parseAttributes t).get? k
        = ((as.filter (fun a => a.key = k)).getLast?).map WrittenAttribute.value)
      ∧ ((parseAttributes t).map Prod.fst).Nodup := by
  rw [parseAttributes_eq_foldl h]
  clear h
  -- one attribute more overrides those before it
  induction as using List.reverseRecOn with
  | nil => exact ⟨fun k => rfl, List.nodup_nil⟩
  | append_singleton as a ih =>
    rw [List.foldl_append, List.foldl_cons, List.foldl_nil]
    refine ⟨?_, Attributes.nodup_set ih.2⟩
    intro k
    rw [Attributes.get?_set, ih.1 k, List.filter_append]
    by_cases hk : k = a.key
    · subst hk
      simp
    · have hnot : [a].filter (fun a => a.key = k) = [] := by
        rw [List.filter_cons_of_neg (by simpa using Ne.symm hk), List.filter_nil]
      rw [if_neg hk, hnot, List.append_nil]

end

/-- A name given two values, the first of which looks like an attribute, a bare name, and an
unquoted value with `=` in it. -/
def mixedAttributes : List WrittenAttribute :=
  [⟨"lang", some ⟨"", "", .singleQuoted "a=\"b\" c", by decide, by decide, by decide⟩, by decide⟩,
    ⟨"defer", none, by decide⟩,
    ⟨"Data-X", some ⟨"\t\t", "  ", .unquoted "p=q", by decide, by decide, by decide⟩, by decide⟩,
    ⟨"LANG", some ⟨"", "", .doubleQuoted "", by decide, by decide, by decide⟩, by decide⟩]

/-- A tag with these attributes. -/
def mixedTag : Text := " lang='a=\"b\" c'  defer Data-X\t\t=  p=q\nLANG=\"\""

/-- They are read back, and the later value counts. -/
theorem parseAttributes_mixedTag :
    IsWritten mixedAttributes mixedTag
      ∧ (parseAttributes mixedTag).get? "lang" = some ""
      ∧ (parseAttributes mixedTag).get? "defer" = some "true"
      ∧ (parseAttributes mixedTag).get? "data-x" = some "p=q"
      ∧ (parseAttributes mixedTag).get? "c" = none := by
  have hwritten : IsWritten mixedAttributes mixedTag :=
    .cons (w := " ") (by decide)
      (.cons (w := "  ") (by decide)
        (.cons (w := " ") (by decide)
          (.cons (w := "\n") (by decide) (.nil (w := "") (by decide)) (by decide))
          (by decide))
        (by decide))
      (by decide)
  obtain ⟨hget, -⟩ := parseAttributes_written hwritten
  refine ⟨hwritten, ?_, ?_, ?_, ?_⟩
  all_goals
    rw [hget]
    decide

end ScriptWeave
