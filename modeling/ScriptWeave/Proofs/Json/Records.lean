/-
  ScriptWeave.Proofs.Json.Records
  ───────────────────────────────
  **DATA IS READ BACK FROM ITS COMPACT TEXT.**

  A decoder reads data from a value if it reads it off the text of the value
  and leaves all that follows.  Decoders for parts make decoders for lists,
  pairs and records, so the law is proved once for each of these.

      d reads a from v       d.read (v.text ++ rest) = ok (a, rest)
      d.decode v.text = ok a
-/
import Mathlib.Data.List.Forall2
import Mathlib.Data.List.Nodup
import ScriptWeave.Json.Decoder
import ScriptWeave.Proofs.Json.Strings

namespace ScriptWeave.Json

/-! ## §1. Reading a value. -/

/-- A text that begins a value: with no white space, and with nothing that ends or parts items. -/
def BeginsValue (t : Text) : Prop :=
  ∃ c u, t = c :: u ∧ isSpace c = false ∧ c ≠ ']' ∧ c ≠ ','

theorem BeginsValue.append {t : Text} (h : BeginsValue t) (u : Text) : BeginsValue (t ++ u) := by
  obtain ⟨c, v, rfl, hspace, hclose, hcomma⟩ := h
  exact ⟨c, v ++ u, rfl, hspace, hclose, hcomma⟩

theorem BeginsValue.skipSpace_eq {t : Text} (h : BeginsValue t) : skipSpace t = t := by
  obtain ⟨c, u, rfl, hspace, -, -⟩ := h
  rw [skipSpace, List.dropWhile_cons_of_neg (by simp [hspace])]

/-- A decoder reads data off the text of a value, whatever follows. -/
structure Decoder.Reads {α : Type} (d : Decoder α) (v : Value) (a : α) : Prop where
  /-- The text of the value begins one. -/
  begins : BeginsValue v.text
  /-- What is read, and what is left. -/
  read_append : ∀ rest, d.read (v.text ++ rest) = .ok (a, rest)

variable {α β σ : Type} {d : Decoder α} {e : Decoder β} {v w : Value} {a : α} {b : β}

/-- **Data is read back from a whole text.** -/
theorem Decoder.Reads.decode_text (h : d.Reads v a) : d.decode v.text = .ok a := by
  have hread := h.read_append []
  rw [List.append_nil] at hread
  rw [Decoder.decode, hread]
  rfl

/-- Values with different data have different texts. -/
theorem Decoder.Reads.text_injective {a' : α} (h : d.Reads v a) (h' : d.Reads w a')
    (htext : v.text = w.text) : a = a' := by
  have hdecode := h.decode_text
  rw [htext, h'.decode_text] at hdecode
  exact (Except.ok.inj hdecode).symm

/-- A text is read back. -/
theorem textAs_reads (expected : String) (t : Text) : (textAs expected).Reads (.str t) t where
  begins := ⟨'"', t.flatMap escapeChar ++ ['"'], rfl, by decide, by decide, by decide⟩
  read_append rest := by
    have hbody := stringBody_escaped t rest
    simp only [Value.text, stringText, List.cons_append, List.append_assoc, List.nil_append]
    exact hbody

/-! ## §2. Lists and pairs. -/

theorem nextItem_first {t : Text} (h : BeginsValue t) : nextItem true t = .ok (true, t) := by
  have hskip := h.skipSpace_eq
  obtain ⟨c, u, rfl, -, hclose, hcomma⟩ := h
  rw [nextItem, hskip]
  split
  next heq => exact absurd heq (by simp)
  next heq => exact absurd (List.cons.inj heq).1 hclose
  next heq => exact absurd (List.cons.inj heq).1 hcomma
  next => rfl

theorem nextItem_comma {t : Text} (h : BeginsValue t) : nextItem false (',' :: t) = .ok (true, t) := by
  have hskip := h.skipSpace_eq
  obtain ⟨c, u, rfl, -, hclose, -⟩ := h
  have hcomma : skipSpace (',' :: c :: u) = ',' :: c :: u := rfl
  simp only [nextItem, hcomma, Bool.false_eq_true, if_false, hskip]
  split
  next heq => exact absurd heq (by simp)
  next heq => exact absurd (List.cons.inj heq).1 hclose
  next => rfl

/-- The items behind the first one, each behind a comma. -/
def moreItems (vs : List Value) : Text := vs.flatMap (fun v => ',' :: v.text)

theorem itemsText_cons (v : Value) (vs : List Value) :
    itemsText (v :: vs) = v.text ++ moreItems vs := by
  induction vs generalizing v with
  | nil => rw [itemsText, moreItems, List.flatMap_nil, List.append_nil]
  | cons w vs ih =>
    show v.text ++ ',' :: itemsText (w :: vs) = _
    rw [ih, moreItems, moreItems, List.flatMap_cons, List.cons_append]

/-- The items behind the first one are read one by one. -/
theorem readItems_more {vs : List Value} {as : List α} (h : List.Forall₂ d.Reads vs as)
    {fuel : Nat} (hfuel : vs.length < fuel) (rest : Text) :
    readItems d fuel false (moreItems vs ++ ']' :: rest) = .ok (as, rest) := by
  -- each item uses up one unit of fuel, and the closing bracket the last one
  induction h generalizing fuel with
  | nil =>
    obtain ⟨fuel, rfl⟩ := Nat.exists_eq_succ_of_ne_zero (Nat.ne_of_gt hfuel)
    rfl
  | @cons v a vs as hv _ ih =>
    obtain ⟨fuel, rfl⟩ := Nat.exists_eq_succ_of_ne_zero (Nat.ne_of_gt (Nat.zero_lt_of_lt hfuel))
    have hrest := ih (Nat.lt_of_succ_lt_succ hfuel)
    have htext : moreItems (v :: vs) ++ ']' :: rest
        = ',' :: (v.text ++ (moreItems vs ++ ']' :: rest)) := by
      rw [moreItems, List.flatMap_cons, List.append_assoc]
      rfl
    rw [htext]
    simp only [readItems, nextItem_comma (hv.begins.append _), hv.read_append, hrest]

theorem length_le_length_moreItems (vs : List Value) : vs.length ≤ (moreItems vs).length := by
  induction vs with
  | nil => exact Nat.le_refl 0
  | cons v vs ih =>
    rw [moreItems, List.flatMap_cons, List.length_append, List.length_cons, List.length_cons]
    rw [moreItems] at ih
    omega

/-- A list is read back if its items are. -/
theorem list_reads {vs : List Value} {as : List α} (h : List.Forall₂ d.Reads vs as) :
    (list d).Reads (.arr vs) as where
  begins := ⟨'[', itemsText vs ++ [']'], rfl, by decide, by decide, by decide⟩
  read_append rest := by
    have hopen : (list d).read ((Value.arr vs).text ++ rest)
        = readItems d ((itemsText vs ++ ']' :: rest).length + 1) true
            (itemsText vs ++ ']' :: rest) := by
      simp only [Value.text, List.cons_append, List.append_assoc, List.nil_append]
      rfl
    rw [hopen]
    cases h with
    | nil => rfl
    | @cons v a vs as hv hvs =>
      have hfuel : vs.length < (v.text ++ (moreItems vs ++ ']' :: rest)).length := by
        have hlen := length_le_length_moreItems vs
        rw [List.length_append, List.length_append, List.length_cons]
        omega
      rw [itemsText_cons, List.append_assoc]
      simp only [readItems, nextItem_first (hv.begins.append _), hv.read_append,
        readItems_more hvs hfuel]

/-- A pair is read back if its parts are. -/
theorem pair_reads (hv : d.Reads v a) (hw : e.Reads w b) :
    (pair d e).Reads (.arr [v, w]) (a, b) where
  begins := ⟨'[', itemsText [v, w] ++ [']'], rfl, by decide, by decide, by decide⟩
  read_append rest := by
    have htext : (Value.arr [v, w]).text ++ rest
        = '[' :: (v.text ++ ',' :: (w.text ++ ']' :: rest)) := by
      simp [Value.text, itemsText]
    have hopen : skipSpace ('[' :: (v.text ++ ',' :: (w.text ++ ']' :: rest)))
        = '[' :: (v.text ++ ',' :: (w.text ++ ']' :: rest)) := rfl
    have hclose : closeArray (']' :: rest) = .ok rest := rfl
    rw [htext]
    simp only [pair, hopen, nextItem_first (hv.begins.append _), hv.read_append,
      nextItem_comma (hw.begins.append _), hw.read_append, hclose]
    rfl

/-! ## §3. Records. -/

namespace Shape

variable {s : Shape σ} {x y : σ}

/-- Members are read into a record, one after the other. -/
inductive Fills (s : Shape σ) : List (Text × Value) → σ → σ → Prop where
  /-- No member is left. -/
  | done (x : σ) : Fills s [] x x
  /-- A member changes the record as its field says. -/
  | field {name : Text} {v : Value} {ms : List (Text × Value)} {f : Field σ} {g : σ → σ} {x y : σ}
      (known : s.field? name = some f) (reads : f.change.Reads v g) (rest : Fills s ms (g x) y) :
      Fills s ((name, v) :: ms) x y

theorem field_reads (name : Text) (set : α → σ → σ) (h : d.Reads v a) :
    (Field.of name d set).change.Reads v (set a) where
  begins := h.begins
  read_append rest := by
    show (d.read (v.text ++ rest)).map _ = _
    rw [h.read_append]
    rfl

/-- A member of a field that a decoder reads and a setter stores. -/
theorem Fills.of {name : Text} {set : α → σ → σ} {ms : List (Text × Value)}
    (known : s.field? name = some (Field.of name d set)) (reads : d.Reads v a)
    (rest : Fills s ms (set a x) y) : Fills s ((name, v) :: ms) x y :=
  .field known (field_reads name set reads) rest

/-- One member, from its name on. -/
theorem readMembers_member {first : Bool} {seen : List Text} {name tail t : Text} {f : Field σ}
    {g : σ → σ} (fuel : Nat)
    (hnext : nextMember first t
      = .ok (true, name.flatMap escapeChar ++ '"' :: ':' :: (v.text ++ tail)))
    (hfield : s.field? name = some f) (hreads : f.change.Reads v g) (hnew : name ∉ seen) :
    readMembers s (fuel + 1) first seen x t = readMembers s fuel false (name :: seen) (g x) tail := by
  have hname := stringBody_escaped name (':' :: (v.text ++ tail))
  have hcolon : colon (':' :: (v.text ++ tail)) = .ok (v.text ++ tail) := rfl
  have hseen : ¬ seen.contains name = true := by simpa using hnew
  conv => lhs; unfold readMembers
  simp only [hnext, hname, hfield, if_neg hseen, hcolon, hreads.read_append]

/-- The members behind the first one, each behind a comma. -/
def moreMembers (ms : List (Text × Value)) : Text :=
  ms.flatMap (fun m => ',' :: (stringText m.1 ++ ':' :: m.2.text))

theorem membersText_cons (m : Text × Value) (ms : List (Text × Value)) :
    membersText (m :: ms) = stringText m.1 ++ ':' :: (m.2.text ++ moreMembers ms) := by
  induction ms generalizing m with
  | nil => simp [membersText, moreMembers]
  | cons n ms ih =>
    have hstep : membersText (m :: n :: ms)
        = stringText m.1 ++ ':' :: m.2.text ++ ',' :: membersText (n :: ms) := rfl
    rw [hstep, ih]
    simp [moreMembers]

theorem length_le_length_moreMembers (ms : List (Text × Value)) :
    ms.length ≤ (moreMembers ms).length := by
  induction ms with
  | nil => exact Nat.le_refl 0
  | cons m ms ih =>
    rw [moreMembers, List.flatMap_cons, List.length_append, List.length_cons, List.length_cons]
    rw [moreMembers] at ih
    omega

/-- The members behind the first one are read one by one. -/
theorem readMembers_more {ms : List (Text × Value)} (h : Fills s ms x y) {fuel : Nat}
    {seen : List Text} (hfuel : ms.length < fuel)
    (hnodup : ((ms.map Prod.fst).reverse ++ seen).Nodup)
    (hall : s.missing? ((ms.map Prod.fst).reverse ++ seen) = none) (rest : Text) :
    readMembers s fuel false seen x (moreMembers ms ++ '}' :: rest) = .ok (y, rest) := by
  induction h generalizing fuel seen with
  | done x =>
    obtain ⟨fuel, rfl⟩ := Nat.exists_eq_succ_of_ne_zero (Nat.ne_of_gt hfuel)
    have hmissing : s.missing? seen = none := hall
    have hend : nextMember false (moreMembers [] ++ '}' :: rest) = .ok (false, rest) := rfl
    simp only [readMembers, hend, hmissing]
  | @field name v ms f g x y hfield hreads _ ih =>
    obtain ⟨fuel, rfl⟩ := Nat.exists_eq_succ_of_ne_zero (Nat.ne_of_gt (Nat.zero_lt_of_lt hfuel))
    -- the name of this member joins those that were seen
    rw [List.map_cons, List.reverse_cons, List.append_assoc] at hnodup hall
    have hnew : name ∉ seen :=
      (List.nodup_cons.mp (List.nodup_append.mp hnodup).2.1).1
    have hnext : nextMember false (moreMembers ((name, v) :: ms) ++ '}' :: rest)
        = .ok (true, name.flatMap escapeChar
            ++ '"' :: ':' :: (v.text ++ (moreMembers ms ++ '}' :: rest))) := by
      rw [moreMembers, List.flatMap_cons, ← moreMembers]
      simp only [stringText, List.cons_append, List.append_assoc, List.nil_append]
      rfl
    rw [readMembers_member fuel hnext hfield hreads hnew]
    exact ih (Nat.lt_of_succ_lt_succ hfuel) hnodup hall

/-- **A record is read back if its members fill it and all that must occur do.** -/
theorem decoder_reads {ms : List (Text × Value)} (h : Fills s ms x y)
    (hnodup : (ms.map Prod.fst).Nodup)
    (hall : s.missing? (ms.map Prod.fst).reverse = none) : (s.decoder x).Reads (.obj ms) y where
  begins := ⟨'{', membersText ms ++ ['}'], rfl, by decide, by decide, by decide⟩
  read_append rest := by
    have hopen : (s.decoder x).read ((Value.obj ms).text ++ rest)
        = readMembers s ((membersText ms ++ '}' :: rest).length + 1) true [] x
            (membersText ms ++ '}' :: rest) := by
      simp only [Value.text, List.cons_append, List.append_assoc, List.nil_append]
      rfl
    rw [hopen]
    rw [← List.nodup_reverse] at hnodup
    cases h with
    | done x =>
      have hmissing : s.missing? [] = none := hall
      have hend : nextMember true (membersText [] ++ '}' :: rest) = .ok (false, rest) := rfl
      simp only [readMembers, hend, hmissing]
    | @field name v ms f g x y hfield hreads hrest =>
      rw [List.map_cons, List.reverse_cons] at hnodup hall
      have hnext : nextMember true (membersText ((name, v) :: ms) ++ '}' :: rest)
          = .ok (true, name.flatMap escapeChar
              ++ '"' :: ':' :: (v.text ++ (moreMembers ms ++ '}' :: rest))) := by
        rw [membersText_cons]
        simp only [stringText, List.cons_append, List.append_assoc, List.nil_append]
        rfl
      have hfuel : ms.length < (membersText ((name, v) :: ms) ++ '}' :: rest).length := by
        have hlen := length_le_length_moreMembers ms
        rw [membersText_cons]
        simp only [List.length_append, List.length_cons]
        omega
      rw [readMembers_member _ hnext hfield hreads List.not_mem_nil]
      exact readMembers_more hrest hfuel hnodup hall rest

end Shape

end ScriptWeave.Json
