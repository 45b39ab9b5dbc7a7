/-
  ScriptWeave.Proofs.Json.Layout
  ──────────────────────────────
  **RECORDS ARE READ HOWEVER THEY ARE LAID OUT.**

  An object that stands for a record may leave out fields, list the others in
  any order, and have members that the record knows nothing of, with values
  of any kind; white space may stand between all of its parts.  What is read
  depends on which fields are listed, and on what their values say.

      t lists the fields `names` of a record, each once
        →  decoder.read (t ++ rest) = ok (the record with these fields, rest)

  Read one by one, the members fill in the record: one that is known sets its
  field, and one that is not is passed.
-/
import ScriptWeave.Proofs.Json.Skipping

namespace ScriptWeave.Json

/-! ## §1. Values as they may be written. -/

/-- Whether a text is a string that spells a text. -/
def IsStringOf (s t : Text) : Prop := ∃ u, Spells s u ∧ t = '"' :: (u ++ ['"'])

/-- Whether a text is a truth value. -/
def IsBoolOf (b : Bool) (t : Text) : Prop := t = (Value.bool b).text

/-- Whether a text is `null` for what is absent, and what is written for it if it is there. -/
def IsNullOr {α : Type} (writes : α → Text → Prop) : Option α → Text → Prop
  | none, t => t = Value.null.text
  | some a, t => writes a t

/-- The items of an array, from the first one on. -/
inductive HasItems {α : Type} (writes : α → Text → Prop) : List α → Text → Prop where
  /-- The last item. -/
  | last {a : α} {v w : Text} (hv : writes a v) (hw : IsBlank w) : HasItems writes [a] (v ++ w)
  /-- An item before others. -/
  | item {a : α} {as : List α} {v w₁ w₂ t : Text} (hv : writes a v) (hw₁ : IsBlank w₁)
      (hw₂ : IsBlank w₂) (h : HasItems writes as t) :
      HasItems writes (a :: as) (v ++ (w₁ ++ ',' :: (w₂ ++ t)))

/-- Whether a text is an array of items. -/
inductive IsArrayOf {α : Type} (writes : α → Text → Prop) : List α → Text → Prop where
  /-- Without items. -/
  | empty {w : Text} (hw : IsBlank w) : IsArrayOf writes [] ('[' :: (w ++ [']']))
  /-- With items. -/
  | items {as : List α} {w t : Text} (hw : IsBlank w) (h : HasItems writes as t) :
      IsArrayOf writes as ('[' :: (w ++ (t ++ [']'])))

/-- The members of an object, from the first one on: their names, however they are spelt, and
the texts of their values. -/
inductive HasMembers : List (Text × Text) → Text → Prop where
  /-- The last member. -/
  | last {name u w₁ w₂ v w₃ : Text} (hname : Spells name u) (hw₁ : IsBlank w₁) (hw₂ : IsBlank w₂)
      (hw₃ : IsBlank w₃) :
      HasMembers [(name, v)] ('"' :: (u ++ '"' :: (w₁ ++ ':' :: (w₂ ++ (v ++ w₃)))))
  /-- A member before others. -/
  | member {name u w₁ w₂ v w₃ w₄ t : Text} {ms : List (Text × Text)} (hname : Spells name u)
      (hw₁ : IsBlank w₁) (hw₂ : IsBlank w₂) (hw₃ : IsBlank w₃) (hw₄ : IsBlank w₄)
      (h : HasMembers ms t) :
      HasMembers ((name, v) :: ms)
        ('"' :: (u ++ '"' :: (w₁ ++ ':' :: (w₂ ++ (v ++ (w₃ ++ ',' :: (w₄ ++ t)))))))

/-- Whether a text is an object with members. -/
inductive IsObjectOf : List (Text × Text) → Text → Prop where
  /-- Without members. -/
  | empty {w : Text} (hw : IsBlank w) : IsObjectOf [] ('{' :: (w ++ ['}']))
  /-- With members. -/
  | members {ms : List (Text × Text)} {w t : Text} (hw : IsBlank w) (h : HasMembers ms t) :
      IsObjectOf ms ('{' :: (w ++ (t ++ ['}'])))

/-- The fields of a record: their names, and which texts may be written for their values. -/
abbrev FieldTexts := List (Text × (Text → Prop))

/-- The names of members that are fields. -/
def FieldTexts.listed (fields : FieldTexts) (ms : List (Text × Text)) : List Text :=
  (ms.map Prod.fst).filter (fun name => (fields.lookup name).isSome)

/-- Whether a member is one of a field, with a text for the value of the field, or one of
another name, with any value. -/
def FieldTexts.Admits (fields : FieldTexts) (m : Text × Text) : Prop :=
  match fields.lookup m.1 with
  | some writes => writes m.2
  | none => IsValue m.2

/-- Whether a text is an object that lists some fields of a record, each of them once and in
any order, beside any members with other names. -/
def IsRecordOf (fields : FieldTexts) (chosen : List Text) (t : Text) : Prop :=
  ∃ ms, IsObjectOf ms t ∧ (fields.listed ms).Nodup
    ∧ (∀ name, name ∈ fields.listed ms ↔ name ∈ chosen) ∧ ∀ m ∈ ms, fields.Admits m

/-! ## §2. Reading a text. -/

/-- A decoder reads data off a text, whatever white space stands before it and whatever
follows. -/
structure Decoder.ReadsText {α : Type} (d : Decoder α) (t : Text) (a : α) : Prop where
  /-- The text begins a value. -/
  begins : BeginsValue t
  /-- What is read, and what is left. -/
  read_append : ∀ w rest, IsBlank w → d.read (w ++ (t ++ rest)) = .ok (a, rest)

variable {α σ : Type} {d : Decoder α} {a : α} {s t v w rest : Text}

/-- Data that is read off the compact text of a value is read from the value. -/
theorem Decoder.ReadsText.reads {v : Value} (h : d.ReadsText v.text a) : d.Reads v a where
  begins := h.begins
  read_append rest := h.read_append [] rest isBlank_nil

/-- **Data is read from a whole text**, with white space on both sides. -/
theorem Decoder.ReadsText.decode {w' : Text} (h : d.ReadsText t a) (hw : IsBlank w)
    (hw' : IsBlank w') : d.decode (w ++ (t ++ w')) = .ok a := by
  have hend : skipSpace w' = [] := by
    have happend := skipSpace_append hw' []
    rwa [List.append_nil] at happend
  rw [Decoder.decode, h.read_append w w' hw]
  simp only [hend]

theorem isStringOf_text (s : Text) : IsStringOf s (Value.str s).text :=
  ⟨s.flatMap escapeChar, spells_escaped s, by rw [Value.text, stringText]⟩

theorem textAs_readsText (expected : String) (h : IsStringOf s t) :
    (textAs expected).ReadsText t s := by
  obtain ⟨u, hu, rfl⟩ := h
  refine ⟨⟨'"', u ++ ['"'], rfl, by decide, by decide, by decide⟩, ?_⟩
  intro w rest hw
  have hbody := hu.stringBody rest
  have hquote := skipSpace_append_cons hw (c := '"') (by decide) (u ++ '"' :: rest)
  simp only [List.cons_append, List.append_assoc, List.nil_append]
  simp only [textAs, hquote, hbody]

theorem character_readsText {c : Char} (h : IsStringOf [c] t) : character.ReadsText t c := by
  have htext := textAs_readsText "a character" h
  refine ⟨htext.begins, ?_⟩
  intro w rest hw
  simp only [character, htext.read_append w rest hw]

theorem boolean_readsText {b : Bool} (h : IsBoolOf b t) : boolean.ReadsText t b := by
  obtain rfl := h
  cases b with
  | false =>
    refine ⟨⟨'f', ['a', 'l', 's', 'e'], rfl, by decide, by decide, by decide⟩, ?_⟩
    intro w rest hw
    have hword := skipSpace_append_cons hw (c := 'f') (by decide) ('a' :: 'l' :: 's' :: 'e' :: rest)
    simp only [Value.text, List.cons_append, List.nil_append, boolean, hword]
    rfl
  | true =>
    refine ⟨⟨'t', ['r', 'u', 'e'], rfl, by decide, by decide, by decide⟩, ?_⟩
    intro w rest hw
    have hword := skipSpace_append_cons hw (c := 't') (by decide) ('r' :: 'u' :: 'e' :: rest)
    simp only [Value.text, List.cons_append, List.nil_append, boolean, hword]
    rfl

/-- What may be absent is read as `null` or as what the decoder reads. -/
theorem optional_readsText {writes : α → Text → Prop} {o : Option α} (h : IsNullOr writes o t)
    (hsome : ∀ a, writes a t → d.ReadsText t a ∧ t.head? ≠ some 'n') :
    (optional d).ReadsText t o := by
  cases o with
  | none =>
    obtain rfl := h
    refine ⟨⟨'n', ['u', 'l', 'l'], rfl, by decide, by decide, by decide⟩, ?_⟩
    intro w rest hw
    have hword := skipSpace_append_cons hw (c := 'n') (by decide) ('u' :: 'l' :: 'l' :: rest)
    simp only [Value.text, List.cons_append, List.nil_append, optional, hword]
    rfl
  | some a =>
    obtain ⟨hread, hhead⟩ := hsome a h
    refine ⟨hread.begins, ?_⟩
    intro w rest hw
    have hskip : skipSpace (w ++ (t ++ rest)) = t ++ rest := by
      rw [skipSpace_append hw, (hread.begins.append rest).skipSpace_eq]
    have hvalue : d.read (t ++ rest) = .ok (a, rest) := hread.read_append [] rest isBlank_nil
    simp only [optional, hskip]
    split
    next heq =>
      obtain ⟨c, u, rfl, -⟩ := hread.begins
      exact absurd (congrArg List.head? heq) hhead
    next => rw [hvalue]; rfl

/-- One of several names is read. -/
theorem oneOf_readsText {known : List (Text × α)} (h : IsStringOf s t)
    (hknown : known.lookup s = some a) : (oneOf known).ReadsText t a := by
  obtain ⟨u, hu, rfl⟩ := h
  refine ⟨⟨'"', u ++ ['"'], rfl, by decide, by decide, by decide⟩, ?_⟩
  intro w rest hw
  have hbody := hu.stringBody rest
  have hquote := skipSpace_append_cons hw (c := '"') (by decide) (u ++ '"' :: rest)
  simp only [List.cons_append, List.append_assoc, List.nil_append]
  simp only [oneOf, hquote, hbody]
  show oneOf.named known s rest = _
  simp only [oneOf.named, oneOf.pick, hknown]

/-! ## §3. Arrays. -/

theorem nextItem_append (hw : IsBlank w) (first : Bool) (t : Text) :
    nextItem first (w ++ t) = nextItem first t := by
  rw [nextItem, nextItem, skipSpace_append hw]

theorem nextItem_comma_append (hw : IsBlank w) (t : Text) :
    nextItem false (',' :: (w ++ t)) = nextItem false (',' :: t) := by
  simp only [nextItem, skipSpace_cons (show isSpace ',' = false by decide), skipSpace_append hw]
  rfl

/-- Items are read one by one, each up to what follows it. -/
theorem HasItems.readItems {writes : α → Text → Prop} {as : List α} (h : HasItems writes as t)
    (hreads : ∀ a v, writes a v → d.ReadsText v a) (fuel : Nat) (hfuel : as.length < fuel)
    {first : Bool} {u rest : Text} (hnext : nextItem first u = .ok (true, t ++ ']' :: rest)) :
    readItems d fuel first u = .ok (as, rest) := by
  induction h generalizing fuel first u with
  | @last a v w hv hw =>
    obtain ⟨fuel, rfl⟩ := Nat.exists_eq_add_of_le (show 2 ≤ fuel from hfuel)
    rw [Nat.add_comm]
    have hitem := (hreads a v hv).read_append [] (w ++ ']' :: rest) isBlank_nil
    have hend : nextItem false (w ++ ']' :: rest) = .ok (false, rest) := nextItem_append hw false _
    rw [List.append_assoc] at hnext
    simp only [Json.readItems, hnext, List.nil_append] at hitem ⊢
    simp only [hitem, hend]
  | @item a as v w₁ w₂ t hv hw₁ hw₂ htail ih =>
    obtain ⟨fuel, rfl⟩ := Nat.exists_eq_succ_of_ne_zero (Nat.ne_of_gt (Nat.zero_lt_of_lt hfuel))
    have hitem := (hreads a v hv).read_append [] (w₁ ++ ',' :: (w₂ ++ (t ++ ']' :: rest)))
      isBlank_nil
    have hbegins : BeginsValue t := by
      cases htail with
      | last hv' => exact (hreads _ _ hv').begins.append _
      | item hv' => exact (hreads _ _ hv').begins.append _
    have hmore : nextItem false (w₁ ++ ',' :: (w₂ ++ (t ++ ']' :: rest)))
        = .ok (true, t ++ ']' :: rest) := by
      rw [nextItem_append hw₁, nextItem_comma_append hw₂, nextItem_comma (hbegins.append _)]
    have hrest := ih fuel (Nat.lt_of_succ_lt_succ hfuel) hmore
    simp only [List.append_assoc, List.cons_append] at hnext
    simp only [Json.readItems, hnext, List.nil_append] at hitem ⊢
    simp only [hitem, hrest]

theorem HasItems.length_le {writes : α → Text → Prop} {as : List α} (h : HasItems writes as t)
    (hne : ∀ a v, writes a v → v ≠ []) : as.length ≤ t.length := by
  induction h with
  | last hv _ =>
    have hpos := List.length_pos_iff.mpr (hne _ _ hv)
    rw [List.length_append]
    exact Nat.le_trans hpos (Nat.le_add_right _ _)
  | item hv _ _ _ ih =>
    simp only [List.length_append, List.length_cons]
    omega

/-- **An array is read if its items are.** -/
theorem list_readsText {writes : α → Text → Prop} {as : List α} (h : IsArrayOf writes as t)
    (hreads : ∀ a v, writes a v → d.ReadsText v a) : (list d).ReadsText t as := by
  cases h with
  | @empty w₁ hw₁ =>
    refine ⟨⟨'[', _, rfl, by decide, by decide, by decide⟩, ?_⟩
    intro w rest hw
    have hopen := skipSpace_append_cons hw (c := '[') (by decide) (w₁ ++ ']' :: rest)
    have hend : nextItem true (w₁ ++ ']' :: rest) = .ok (false, rest) := nextItem_append hw₁ true _
    simp only [List.cons_append, List.append_assoc, List.nil_append, list, hopen]
    simp only [readItems, hend]
  | @items _ w₁ u hw₁ hu =>
    refine ⟨⟨'[', _, rfl, by decide, by decide, by decide⟩, ?_⟩
    intro w rest hw
    have hopen := skipSpace_append_cons hw (c := '[') (by decide) (w₁ ++ (u ++ ']' :: rest))
    have hbegins : BeginsValue u := by
      cases hu with
      | last hv => exact (hreads _ _ hv).begins.append _
      | item hv => exact (hreads _ _ hv).begins.append _
    have hfirst : nextItem true (w₁ ++ (u ++ ']' :: rest)) = .ok (true, u ++ ']' :: rest) := by
      rw [nextItem_append hw₁, nextItem_first (hbegins.append _)]
    have hlen : as.length ≤ u.length := by
      refine hu.length_le (fun a v hv => ?_)
      obtain ⟨c, v', rfl, -⟩ := (hreads a v hv).begins
      exact List.cons_ne_nil c v'
    have hitems := hu.readItems hreads ((w₁ ++ (u ++ ']' :: rest)).length + 1)
      (by simp only [List.length_append]; omega) hfirst
    simp only [List.cons_append, List.append_assoc, List.nil_append, list, hopen]
    exact hitems

/-! ## §4. Records. -/

namespace Shape

variable {r : Shape σ} {fields : FieldTexts} {state : List Text → σ}

/-- A field sets its part of a record: `state` tells the record from the names of the fields
that occurred. -/
def Sets (f : Field σ) (writes : Text → Prop) (state : List Text → σ) : Prop :=
  ∀ v, writes v → ∃ g, f.change.ReadsText v g ∧ ∀ seen, g (state seen) = state (f.name :: seen)

/-- A field that a decoder reads and a setter stores. -/
theorem sets_of {name : Text} {set : α → σ → σ} {writes : Text → Prop}
    (hreads : ∀ v, writes v → d.ReadsText v a)
    (hset : ∀ seen, set a (state seen) = state (name :: seen)) :
    Sets (Field.of name d set) writes state := by
  intro v hv
  refine ⟨set a, ⟨(hreads v hv).begins, fun w rest hw => ?_⟩, hset⟩
  show (d.read (w ++ (v ++ rest))).map _ = _
  rw [(hreads v hv).read_append w rest hw]
  rfl

/-- The fields of a record, as they are read and as they are written. -/
def Follows (r : Shape σ) (fields : FieldTexts) (state : List Text → σ) : Prop :=
  List.Forall₂ (fun f x => f.name = x.1 ∧ Sets f x.2 state) r.fields fields

theorem find?_of_forall₂ {fs : List (Field σ)}
    (h : List.Forall₂ (fun f x => f.name = x.1 ∧ Sets f x.2 state) fs fields) (name : Text) :
    match fields.lookup name with
    | none => fs.find? (·.name == name) = none
    | some writes => ∃ f, fs.find? (·.name == name) = some f ∧ f.name = name
        ∧ Sets f writes state := by
  induction h with
  | nil => rfl
  | @cons f x fs fields hf _ ih =>
    obtain ⟨known, writes⟩ := x
    obtain ⟨rfl, hsets⟩ := hf
    rw [List.lookup_cons, List.find?_cons]
    by_cases hname : f.name = name
    · subst hname
      rw [beq_self_eq_true]
      exact ⟨f, rfl, rfl, hsets⟩
    · rw [beq_false_of_ne hname, beq_false_of_ne (Ne.symm hname)]
      exact ih

theorem colon_append (hw : IsBlank w) (t : Text) : colon (w ++ ':' :: t) = .ok t := by
  have hcolon := skipSpace_append_cons hw (c := ':') (by decide) t
  simp only [colon, hcolon]

theorem nextMember_first (hw : IsBlank w) (t : Text) :
    nextMember true (w ++ '"' :: t) = .ok (true, t) := by
  have hquote := skipSpace_append_cons hw (c := '"') (by decide) t
  simp only [nextMember, hquote, if_pos]

theorem nextMember_comma {w' : Text} (hw : IsBlank w) (hw' : IsBlank w') (t : Text) :
    nextMember false (w ++ ',' :: (w' ++ '"' :: t)) = .ok (true, t) := by
  have hcomma := skipSpace_append_cons hw (c := ',') (by decide) (w' ++ '"' :: t)
  have hquote := skipSpace_append_cons hw' (c := '"') (by decide) t
  simp only [nextMember, hcomma, hquote, Bool.false_eq_true, if_false]

theorem nextMember_close (hw : IsBlank w) (first : Bool) (t : Text) :
    nextMember first (w ++ '}' :: t) = .ok (false, t) := by
  have hclose := skipSpace_append_cons hw (c := '}') (by decide) t
  simp only [nextMember, hclose]

/-- One member, from behind the quote of its name on to what follows its value: it sets its
field, or is passed. -/
theorem Follows.readMembers_member (hr : r.Follows fields state) {first : Bool} {seen : List Text}
    {name u w₁ w₂ v tail x : Text} (fuel : Nat) (hadmits : fields.Admits (name, v))
    (hname : Spells name u) (hw₁ : IsBlank w₁) (hw₂ : IsBlank w₂) (htail : EndsValue tail)
    (hnew : ∀ n ∈ fields.listed [(name, v)], n ∉ seen)
    (hnext : nextMember first x = .ok (true, u ++ '"' :: (w₁ ++ ':' :: (w₂ ++ (v ++ tail))))) :
    readMembers r (fuel + 1) first seen (state seen) x
      = readMembers r fuel false (fields.listed [(name, v)] ++ seen)
          (state (fields.listed [(name, v)] ++ seen)) tail := by
  have hbody := hname.stringBody (w₁ ++ ':' :: (w₂ ++ (v ++ tail)))
  have hcolon := colon_append hw₁ (w₂ ++ (v ++ tail))
  have hfield := find?_of_forall₂ hr name
  unfold FieldTexts.Admits at hadmits
  cases hlookup : fields.lookup name with
  | none =>
    rw [hlookup] at hfield hadmits
    have hlisted : fields.listed [(name, v)] = [] := by simp [FieldTexts.listed, hlookup]
    have hunknown : r.field? name = none := hfield
    have hskip := skipValue_append hw₂ hadmits htail
    conv => lhs; unfold readMembers
    simp only [hnext, hbody, hunknown, hcolon, hskip, hlisted, List.nil_append]
  | some writes =>
    rw [hlookup] at hfield hadmits
    obtain ⟨f, hknown, rfl, hsets⟩ := hfield
    obtain ⟨g, hreads, hset⟩ := hsets v hadmits
    have hlisted : fields.listed [(f.name, v)] = [f.name] := by simp [FieldTexts.listed, hlookup]
    have hknown : r.field? f.name = some f := hknown
    have hseen : ¬ seen.contains f.name = true := by
      rw [hlisted] at hnew
      simpa using hnew
    conv => lhs; unfold readMembers
    simp only [hnext, hbody, hknown, if_neg hseen, hcolon, hreads.read_append w₂ tail hw₂, hset,
      hlisted, List.singleton_append]

theorem listed_cons (m : Text × Text) (ms : List (Text × Text)) :
    fields.listed (m :: ms) = fields.listed [m] ++ fields.listed ms := by
  simp only [FieldTexts.listed, List.map_cons, List.map_nil, List.filter_cons, List.filter_nil]
  split <;> rfl

/-- What a member lists comes before what those behind it list, if what came last is first. -/
theorem reverse_listed_cons (m : Text × Text) (ms : List (Text × Text)) (seen : List Text) :
    (fields.listed (m :: ms)).reverse ++ seen
      = (fields.listed ms).reverse ++ (fields.listed [m] ++ seen) := by
  have hone : (fields.listed [m]).reverse = fields.listed [m] := by
    simp only [FieldTexts.listed, List.map_cons, List.map_nil, List.filter_cons, List.filter_nil]
    split <;> rfl
  rw [listed_cons, List.reverse_append, List.append_assoc, hone]

/-- **Members are read one by one into a record**, and what is known of them at the end is
which fields they listed. -/
theorem Follows.readMembers (hr : r.Follows fields state) (hcomplete : r.complete = false)
    {ms : List (Text × Text)} (h : HasMembers ms t) (hadmits : ∀ m ∈ ms, fields.Admits m)
    (fuel : Nat) (hfuel : ms.length < fuel) {first : Bool} {seen : List Text} {x y rest : Text}
    (hnodup : ((fields.listed ms).reverse ++ seen).Nodup)
    (hquote : t ++ '}' :: rest = '"' :: y) (hnext : nextMember first x = .ok (true, y)) :
    r.readMembers fuel first seen (state seen) x
      = .ok (state ((fields.listed ms).reverse ++ seen), rest) := by
  have hmissing : ∀ seen, r.missing? seen = none := by
    intro seen
    rw [missing?, hcomplete]
    rfl
  have hnew : ∀ {m ms seen}, ((fields.listed (m :: ms)).reverse ++ seen).Nodup →
      ∀ n ∈ fields.listed [m], n ∉ seen := by
    intro m ms seen hnodup n hn hseen
    rw [reverse_listed_cons] at hnodup
    exact (List.nodup_append.mp (List.nodup_append.mp hnodup).2.1).2.2 n hn n hseen rfl
  induction h generalizing fuel first seen x y with
  | @last name u w₁ w₂ v w₃ hname hw₁ hw₂ hw₃ =>
    obtain ⟨fuel, rfl⟩ := Nat.exists_eq_add_of_le (show 2 ≤ fuel from hfuel)
    rw [Nat.add_comm 2 fuel]
    simp only [List.cons_append, List.append_assoc, List.cons.injEq, true_and] at hquote
    obtain rfl := hquote
    have hend : EndsValue (w₃ ++ '}' :: rest) :=
      endsValue_append_cons hw₃ (Or.inr (Or.inr rfl)) rest
    have hclose := nextMember_close hw₃ false rest
    rw [hr.readMembers_member (fuel + 1) (hadmits _ List.mem_cons_self) hname hw₁ hw₂ hend
      (hnew hnodup) hnext, reverse_listed_cons, Shape.readMembers]
    simp only [hclose, hmissing]
    rfl
  | @member name u w₁ w₂ v w₃ w₄ t ms hname hw₁ hw₂ hw₃ hw₄ hrest ih =>
    obtain ⟨fuel, rfl⟩ := Nat.exists_eq_succ_of_ne_zero (Nat.ne_of_gt (Nat.zero_lt_of_lt hfuel))
    simp only [List.cons_append, List.append_assoc, List.cons.injEq, true_and] at hquote
    obtain rfl := hquote
    have hend : EndsValue (w₃ ++ ',' :: (w₄ ++ (t ++ '}' :: rest))) :=
      endsValue_append_cons hw₃ (Or.inl rfl) _
    obtain ⟨z, hz⟩ : ∃ z, t ++ '}' :: rest = '"' :: z := by
      cases hrest with
      | last => exact ⟨_, rfl⟩
      | member => exact ⟨_, rfl⟩
    have hcomma : nextMember false (w₃ ++ ',' :: (w₄ ++ (t ++ '}' :: rest))) = .ok (true, z) := by
      rw [hz, nextMember_comma hw₃ hw₄]
    rw [hr.readMembers_member fuel (hadmits _ List.mem_cons_self) hname hw₁ hw₂ hend
      (hnew hnodup) hnext]
    rw [reverse_listed_cons] at hnodup ⊢
    exact ih (fun m hm => hadmits m (List.mem_cons_of_mem _ hm)) fuel
      (Nat.lt_of_succ_lt_succ hfuel) hnodup hz hcomma

theorem length_le_of_hasMembers {ms : List (Text × Text)} (h : HasMembers ms t) :
    ms.length ≤ t.length := by
  induction h with
  | last => exact Nat.succ_le_succ (Nat.zero_le _)
  | member _ _ _ _ _ _ ih =>
    simp only [List.length_append, List.length_cons]
    omega

/-- **A record is read from each of its layouts**, as the record with the fields that are
listed. -/
theorem decoder_readsText {r : Shape σ} (state : List Text → σ) {start : σ} {chosen : List Text}
    (hstart : start = state [])
    (hstate : ∀ names, (∀ name, name ∈ names ↔ name ∈ chosen) → state names = state chosen)
    (hcomplete : r.complete = false) (hr : r.Follows fields state)
    (h : IsRecordOf fields chosen t) : (r.decoder start).ReadsText t (state chosen) := by
  subst hstart
  obtain ⟨ms, hobject, hnodup, hchosen, hadmits⟩ := h
  rw [← List.nodup_reverse, ← List.append_nil (List.reverse _)] at hnodup
  have hlisted : state ((fields.listed ms).reverse ++ []) = state chosen := by
    refine hstate _ (fun name => ?_)
    rw [List.append_nil, List.mem_reverse]
    exact hchosen name
  cases hobject with
  | @empty w₁ hw₁ =>
    refine ⟨⟨'{', _, rfl, by decide, by decide, by decide⟩, ?_⟩
    intro w rest hw
    have hopen := skipSpace_append_cons hw (c := '{') (by decide) (w₁ ++ '}' :: rest)
    have hclose := nextMember_close hw₁ true rest
    have hmissing : r.missing? [] = none := by
      rw [missing?, hcomplete]
      rfl
    simp only [List.cons_append, List.append_assoc, List.nil_append, decoder, hopen]
    simp only [Shape.readMembers, hclose, hmissing]
    rw [← hlisted]
    rfl
  | @members _ w₁ u hw₁ hu =>
    refine ⟨⟨'{', _, rfl, by decide, by decide, by decide⟩, ?_⟩
    intro w rest hw
    have hopen := skipSpace_append_cons hw (c := '{') (by decide) (w₁ ++ (u ++ '}' :: rest))
    obtain ⟨z, hz⟩ : ∃ z, u ++ '}' :: rest = '"' :: z := by
      cases hu with
      | last => exact ⟨_, rfl⟩
      | member => exact ⟨_, rfl⟩
    have hfirst : nextMember true (w₁ ++ (u ++ '}' :: rest)) = .ok (true, z) := by
      rw [hz, nextMember_first hw₁]
    have hlen := length_le_of_hasMembers hu
    have hmembers := hr.readMembers hcomplete hu hadmits
      ((w₁ ++ (u ++ '}' :: rest)).length + 1)
      (by simp only [List.length_append]; omega) hnodup hz hfirst
    simp only [List.cons_append, List.append_assoc, List.nil_append, decoder, hopen]
    rw [hmembers, hlisted]

end Shape

end ScriptWeave.Json
