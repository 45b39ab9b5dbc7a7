/-
  ScriptWeave.Proofs.Json.CutTexts
  ────────────────────────────────
  **A TEXT WHOSE END IS MISSING IS REFUSED.**

  A file that was not written to its end holds the beginning of a text.  The
  texts that data is written as end where their value ends, at a quote, a
  bracket or a brace, and the reader notices if that does not come.

      v.text = t ++ u,  u ≠ []    →    d.read t = error …

  As with what is read back, decoders for parts make decoders for lists,
  pairs and records: either a part is cut, and refused, or the text is cut
  behind parts that are read, and what is left of the others is refused.
-/
import ScriptWeave.Proofs.Json.Records

namespace ScriptWeave

/-! ## §1. Cut texts. -/

/-- Whether a text is another one whose end is missing. -/
def Text.IsCut (t u : Text) : Prop := ∃ missing, missing ≠ [] ∧ u = t ++ missing

namespace Text

variable {c : Char} {t u v : Text}

/-- A text is cut at its start or behind its first character. -/
theorem IsCut.of_cons (h : IsCut t (c :: u)) : t = [] ∨ ∃ t', t = c :: t' ∧ IsCut t' u := by
  obtain ⟨missing, hne, heq⟩ := h
  cases t with
  | nil => exact Or.inl rfl
  | cons d t' =>
    obtain ⟨rfl, heq'⟩ := List.cons.inj heq
    exact Or.inr ⟨t', rfl, missing, hne, heq'⟩

/-- A text of one character is cut at its start. -/
theorem IsCut.of_single (h : IsCut t [c]) : t = [] := by
  rcases h.of_cons with rfl | ⟨t', rfl, missing, hne, heq⟩
  · rfl
  · exact absurd (List.append_eq_nil_iff.mp heq.symm).2 hne

/-- A text of two parts is cut in the first or behind it. -/
theorem IsCut.of_append (h : IsCut t (u ++ v)) : IsCut t u ∨ ∃ t', t = u ++ t' ∧ IsCut t' v := by
  obtain ⟨missing, hne, heq⟩ := h
  rcases List.append_eq_append_iff.mp heq with ⟨t', rfl, hv⟩ | ⟨missing', hu, hmissing⟩
  · exact Or.inr ⟨t', rfl, missing, hne, hv⟩
  · by_cases hend : missing' = []
    · subst hend
      rw [List.append_nil] at hu
      exact Or.inr ⟨[], by rw [hu, List.append_nil], missing, hne, hmissing.symm⟩
    · exact Or.inl ⟨missing', hend, hu⟩

end Text

namespace Json

open Text

/-! ## §2. Strings. -/

theorem readFour_of_short {t : Text} (h : t.length < 4) : ∃ e, readFour t = .error e := by
  unfold readFour
  split
  next => exact absurd h (by simp)
  next =>
    split
    next => exact ⟨_, rfl⟩
    next => exact ⟨_, rfl⟩

/-- What is left when an escape is cut, or the text before it. -/
theorem cut_escapeChar {c : Char} {t : Text} (h : IsCut t (escapeChar c)) :
    t = [] ∨ t = ['\\'] ∨ ∃ u, t = '\\' :: 'u' :: u ∧ u.length < 4 := by
  have hshort : ∀ {x : Char}, IsCut t ['\\', x] → t = [] ∨ t = ['\\'] := by
    intro x h
    rcases h.of_cons with rfl | ⟨t', rfl, h'⟩
    · exact Or.inl rfl
    · rw [h'.of_single]
      exact Or.inr rfl
  unfold escapeChar at h
  -- one case for each short escape, then the long ones, then the character itself
  split at h
  next => exact (hshort h).imp_right Or.inl
  split at h
  next => exact (hshort h).imp_right Or.inl
  split at h
  next => exact (hshort h).imp_right Or.inl
  split at h
  next => exact (hshort h).imp_right Or.inl
  split at h
  next => exact (hshort h).imp_right Or.inl
  split at h
  next => exact (hshort h).imp_right Or.inl
  split at h
  next => exact (hshort h).imp_right Or.inl
  split at h
  next =>
    rcases h.of_cons with rfl | ⟨t', rfl, h'⟩
    · exact Or.inl rfl
    rcases h'.of_cons with rfl | ⟨u, rfl, missing, hne, heq⟩
    · exact Or.inr (Or.inl rfl)
    have hlength := congrArg List.length heq
    have hmissing := List.length_pos_iff.mpr hne
    rw [List.length_append] at hlength
    simp only [List.length_cons, List.length_nil] at hlength
    exact Or.inr (Or.inr ⟨u, rfl, by omega⟩)
  next => exact Or.inl h.of_single

/-- A string is refused if an escape in it is cut. -/
theorem readString_of_cutEscape (fuel : Nat) {c : Char} {t : Text} (h : IsCut t (escapeChar c)) :
    ∃ e, readString fuel t = .error e := by
  cases fuel with
  | zero => exact ⟨_, rfl⟩
  | succ fuel =>
    rcases cut_escapeChar h with rfl | rfl | ⟨u, rfl, hu⟩
    · exact ⟨_, rfl⟩
    · exact ⟨_, rfl⟩
    · obtain ⟨e, he⟩ := readFour_of_short hu
      have hunicode : readUnicode u = .error e := by rw [readUnicode, he]
      refine ⟨e, ?_⟩
      have hquote : ¬ '\\' = '"' := by decide
      simp only [readString, if_neg hquote, if_pos, hunicode]

/-- A string is refused wherever it is cut. -/
theorem readString_of_cut (fuel : Nat) {s t : Text} (h : IsCut t (s.flatMap escapeChar ++ ['"'])) :
    ∃ e, readString fuel t = .error e := by
  induction s generalizing fuel t with
  | nil =>
    rw [h.of_single]
    cases fuel <;> exact ⟨_, rfl⟩
  | cons c s ih =>
    rw [List.flatMap_cons, List.append_assoc] at h
    rcases h.of_append with hhere | ⟨t', rfl, hlater⟩
    · exact readString_of_cutEscape fuel hhere
    · cases fuel with
      | zero => exact ⟨_, rfl⟩
      | succ fuel =>
        obtain ⟨e, he⟩ := ih fuel hlater
        exact ⟨e, by rw [readString_escapeChar, he, readString.push]⟩

/-! ## §3. Decoders. -/

variable {α β σ : Type} {d : Decoder α} {e : Decoder β} {v w : Value} {a : α} {b : β}

/-- A decoder refuses the text of a value wherever it is cut. -/
def Decoder.RefusesCut (d : Decoder α) (v : Value) : Prop :=
  ∀ t, IsCut t v.text → ∃ e, d.read t = .error e

/-- **A whole text is refused if its end is missing.** -/
theorem Decoder.RefusesCut.decode (h : d.RefusesCut v) {t : Text} (ht : IsCut t v.text) :
    ∃ e, d.decode t = .error e := by
  obtain ⟨e, he⟩ := h t ht
  exact ⟨_, by rw [Decoder.decode, he]⟩

/-- A beginning of the text of a value is empty, or begins a value. -/
theorem BeginsValue.of_cut {t u : Text} (h : BeginsValue u) (ht : IsCut t u) :
    t = [] ∨ BeginsValue t := by
  obtain ⟨c, u', rfl, hspace, hclose, hcomma⟩ := h
  exact ht.of_cons.imp_right (fun ⟨t', ht', _⟩ => ⟨c, t', ht', hspace, hclose, hcomma⟩)

theorem textAs_refusesCut (expected : String) (t : Text) :
    (textAs expected).RefusesCut (.str t) := by
  intro u hu
  rcases hu.of_cons with rfl | ⟨u', rfl, hcut⟩
  · exact ⟨_, rfl⟩
  · exact readString_of_cut _ hcut

/-- The text of a value in front of others is refused if it is cut; else it is read, and the
others are cut. -/
theorem Decoder.RefusesCut.read_append (hcut : d.RefusesCut v) (hv : d.Reads v a) {t rest : Text}
    (ht : IsCut t (v.text ++ rest)) :
    (∃ e, d.read t = .error e) ∨ ∃ t', d.read t = .ok (a, t') ∧ IsCut t' rest := by
  rcases ht.of_append with hhere | ⟨t', rfl, hlater⟩
  · exact Or.inl (hcut t hhere)
  · exact Or.inr ⟨t', hv.read_append t', hlater⟩

/-! ## §4. Lists and pairs. -/

theorem nextItem_first_of_cut {t u : Text} (hu : BeginsValue u) (ht : IsCut t u) :
    (∃ e, nextItem true t = .error e) ∨ nextItem true t = .ok (true, t) := by
  rcases hu.of_cut ht with rfl | hbegins
  · exact Or.inl ⟨_, rfl⟩
  · exact Or.inr (nextItem_first hbegins)

theorem nextItem_comma_of_cut {t u : Text} (hu : BeginsValue u) (ht : IsCut t (',' :: u)) :
    (∃ e, nextItem false t = .error e) ∨ ∃ t', nextItem false t = .ok (true, t') ∧ IsCut t' u := by
  rcases ht.of_cons with rfl | ⟨t', rfl, ht'⟩
  · exact Or.inl ⟨_, rfl⟩
  rcases hu.of_cut ht' with rfl | hbegins
  · exact Or.inl ⟨_, rfl⟩
  · exact Or.inr ⟨t', nextItem_comma hbegins, ht'⟩

/-- The items behind the first one are refused wherever they are cut. -/
theorem readItems_of_cut {vs : List Value} {as : List α} (h : List.Forall₂ d.Reads vs as)
    (hcut : ∀ v ∈ vs, d.RefusesCut v) (fuel : Nat) {t : Text}
    (ht : IsCut t (moreItems vs ++ [']'])) : ∃ e, readItems d fuel false t = .error e := by
  induction h generalizing fuel t with
  | nil =>
    rw [ht.of_single]
    cases fuel <;> exact ⟨_, rfl⟩
  | @cons v a vs as hv _ ih =>
    obtain ⟨hcutv, hcutvs⟩ := List.forall_mem_cons.mp hcut
    cases fuel with
    | zero => exact ⟨_, rfl⟩
    | succ fuel =>
      rw [moreItems, List.flatMap_cons, ← moreItems, List.cons_append, List.cons_append,
        List.append_assoc] at ht
      rcases nextItem_comma_of_cut (hv.begins.append _) ht with ⟨e, he⟩ | ⟨t', hnext, ht'⟩
      · exact ⟨e, by simp only [readItems, he]⟩
      rcases hcutv.read_append hv ht' with ⟨e, he⟩ | ⟨t'', hread, ht''⟩
      · exact ⟨e, by simp only [readItems, hnext, he]⟩
      · obtain ⟨e, he⟩ := ih hcutvs fuel ht''
        exact ⟨e, by simp only [readItems, hnext, hread, he]⟩

/-- A list is refused wherever it is cut, if its items are. -/
theorem list_refusesCut {vs : List Value} {as : List α} (h : List.Forall₂ d.Reads vs as)
    (hcut : ∀ v ∈ vs, d.RefusesCut v) : (list d).RefusesCut (.arr vs) := by
  intro t ht
  rcases ht.of_cons with rfl | ⟨t', rfl, ht'⟩
  · exact ⟨_, rfl⟩
  show ∃ e, readItems d (t'.length + 1) true t' = .error e
  cases h with
  | nil =>
    rw [ht'.of_single]
    exact ⟨_, rfl⟩
  | @cons v a vs as hv hvs =>
    obtain ⟨hcutv, hcutvs⟩ := List.forall_mem_cons.mp hcut
    rw [itemsText_cons, List.append_assoc] at ht'
    rcases nextItem_first_of_cut (hv.begins.append _) ht' with ⟨e, he⟩ | hnext
    · exact ⟨e, by simp only [readItems, he]⟩
    rcases hcutv.read_append hv ht' with ⟨e, he⟩ | ⟨t'', hread, ht''⟩
    · exact ⟨e, by simp only [readItems, hnext, he]⟩
    · obtain ⟨e, he⟩ := readItems_of_cut hvs hcutvs t'.length ht''
      exact ⟨e, by simp only [readItems, hnext, hread, he]⟩

/-- A pair is refused wherever it is cut, if its parts are. -/
theorem pair_refusesCut (hv : d.Reads v a) (hcutv : d.RefusesCut v) (hw : e.Reads w b)
    (hcutw : e.RefusesCut w) : (pair d e).RefusesCut (.arr [v, w]) := by
  intro t ht
  have htext : (Value.arr [v, w]).text = '[' :: (v.text ++ ',' :: (w.text ++ [']'])) := by
    simp [Value.text, itemsText]
  rw [htext] at ht
  rcases ht.of_cons with rfl | ⟨t₁, rfl, ht₁⟩
  · exact ⟨_, rfl⟩
  have hopen : skipSpace ('[' :: t₁) = '[' :: t₁ := rfl
  rcases nextItem_first_of_cut (hv.begins.append _) ht₁ with ⟨e, he⟩ | hfirst
  · exact ⟨e, by simp only [pair, hopen, he]⟩
  rcases hcutv.read_append hv ht₁ with ⟨e, he⟩ | ⟨t₂, hreadv, ht₂⟩
  · exact ⟨e, by simp only [pair, hopen, hfirst, he]⟩
  rcases nextItem_comma_of_cut (hw.begins.append _) ht₂ with ⟨e, he⟩ | ⟨t₃, hcomma, ht₃⟩
  · exact ⟨e, by simp only [pair, hopen, hfirst, hreadv, he]⟩
  rcases hcutw.read_append hw ht₃ with ⟨e, he⟩ | ⟨t₄, hreadw, ht₄⟩
  · exact ⟨e, by simp only [pair, hopen, hfirst, hreadv, hcomma, he]⟩
  · rw [ht₄.of_single] at hreadw
    have hclose : closeArray [] = .error (.next .eofList []) := rfl
    refine ⟨.next .eofList [], ?_⟩
    simp only [pair, hopen, hfirst, hreadv, hcomma, hreadw, hclose]
    rfl

/-! ## §5. Records. -/

namespace Shape

variable {s : Shape σ} {x y : σ} {f : Field σ} {g : σ → σ} {name : Text}

theorem field_refusesCut (name : Text) (set : α → σ → σ) (h : d.RefusesCut v) :
    (Field.of name d set).change.RefusesCut v := by
  intro t ht
  obtain ⟨e, he⟩ := h t ht
  refine ⟨e, ?_⟩
  show (d.read t).map _ = _
  rw [he, Except.map]

/-- A member is refused if it is cut, from its name on, and what follows it as it says. -/
theorem readMembers_of_cutMember {first : Bool} {seen : List Text} {t u tail : Text} (fuel : Nat)
    (hnext : nextMember first t = .ok (true, u))
    (hu : IsCut u (name.flatMap escapeChar ++ '"' :: ':' :: (v.text ++ tail)))
    (hfield : s.field? name = some f) (hreads : f.change.Reads v g)
    (hcut : f.change.RefusesCut v)
    (hrest : ∀ u, IsCut u tail → ∃ e, readMembers s fuel false (name :: seen) (g x) u = .error e) :
    ∃ e, readMembers s (fuel + 1) first seen x t = .error e := by
  unfold readMembers
  rw [List.append_cons] at hu
  rcases hu.of_append with hname | ⟨u₁, rfl, hu₁⟩
  · obtain ⟨e, he⟩ := readString_of_cut (u.length + 1) hname
    exact ⟨e, by simp only [hnext, stringBody, he]⟩
  have hname := stringBody_escaped name u₁
  rw [List.append_cons] at hname
  by_cases hseen : seen.contains name = true
  · exact ⟨.behind (.duplicateField name) (settle u₁),
      by simp only [hnext, hname, hfield, if_pos hseen]⟩
  rcases hu₁.of_cons with rfl | ⟨u₂, rfl, hu₂⟩
  · have hcolon : colon [] = .error (.next .eofObject []) := rfl
    exact ⟨.next .eofObject [], by simp only [hnext, hname, hfield, if_neg hseen, hcolon]⟩
  have hcolon : colon (':' :: u₂) = .ok u₂ := rfl
  rcases hcut.read_append hreads hu₂ with ⟨e, he⟩ | ⟨u₃, hread, hu₃⟩
  · exact ⟨e, by simp only [hnext, hname, hfield, if_neg hseen, hcolon, he]⟩
  · obtain ⟨e, he⟩ := hrest u₃ hu₃
    exact ⟨e, by simp only [hnext, hname, hfield, if_neg hseen, hcolon, hread, he]⟩

/-- Whether members are refused wherever their values are cut. -/
def MembersRefuseCut (s : Shape σ) (ms : List (Text × Value)) : Prop :=
  ∀ m ∈ ms, ∀ f, s.field? m.1 = some f → f.change.RefusesCut m.2

theorem MembersRefuseCut.nil : s.MembersRefuseCut [] := fun _ hm => absurd hm List.not_mem_nil

/-- A member of a field that a decoder reads and a setter stores. -/
theorem MembersRefuseCut.of {set : α → σ → σ} {ms : List (Text × Value)}
    (known : s.field? name = some (Field.of name d set)) (cut : d.RefusesCut v)
    (rest : s.MembersRefuseCut ms) : s.MembersRefuseCut ((name, v) :: ms) := by
  refine List.forall_mem_cons.mpr ⟨fun f hf => ?_, rest⟩
  obtain rfl := Option.some.inj (known.symm.trans hf)
  exact field_refusesCut name set cut

/-- The members behind the first one are refused wherever they are cut. -/
theorem readMembers_of_cut {ms : List (Text × Value)} (h : Fills s ms x y)
    (hcut : s.MembersRefuseCut ms) (fuel : Nat) {seen : List Text} {t : Text}
    (ht : IsCut t (moreMembers ms ++ ['}'])) :
    ∃ e, readMembers s fuel false seen x t = .error e := by
  induction h generalizing fuel seen t with
  | done x =>
    rw [ht.of_single]
    cases fuel <;> exact ⟨_, rfl⟩
  | @field name v ms f g x y hfield hreads _ ih =>
    obtain ⟨hcutv, hcutms⟩ := List.forall_mem_cons.mp hcut
    cases fuel with
    | zero => exact ⟨_, rfl⟩
    | succ fuel =>
      have htext : moreMembers ((name, v) :: ms) ++ ['}'] = ',' :: '"' :: (name.flatMap escapeChar
          ++ '"' :: ':' :: (v.text ++ (moreMembers ms ++ ['}']))) := by
        rw [moreMembers, List.flatMap_cons, ← moreMembers]
        simp only [stringText, List.cons_append, List.append_assoc, List.nil_append]
      rw [htext] at ht
      rcases ht.of_cons with rfl | ⟨t₁, rfl, ht₁⟩
      · exact ⟨_, rfl⟩
      rcases ht₁.of_cons with rfl | ⟨t₂, rfl, ht₂⟩
      · exact ⟨_, rfl⟩
      exact readMembers_of_cutMember fuel rfl ht₂ hfield hreads (hcutv f hfield)
        (fun u hu => ih hcutms fuel hu)

/-- **A record is refused wherever it is cut, if its members are.** -/
theorem decoder_refusesCut {ms : List (Text × Value)} (h : Fills s ms x y)
    (hcut : s.MembersRefuseCut ms) : (s.decoder x).RefusesCut (.obj ms) := by
  intro t ht
  rcases ht.of_cons with rfl | ⟨t₁, rfl, ht₁⟩
  · exact ⟨_, rfl⟩
  show ∃ e, readMembers s (t₁.length + 1) true [] x t₁ = .error e
  cases h with
  | done x =>
    rw [ht₁.of_single]
    exact ⟨_, rfl⟩
  | @field name v ms f g x y hfield hreads hrest =>
    obtain ⟨hcutv, hcutms⟩ := List.forall_mem_cons.mp hcut
    have htext : membersText ((name, v) :: ms) ++ ['}'] = '"' :: (name.flatMap escapeChar
        ++ '"' :: ':' :: (v.text ++ (moreMembers ms ++ ['}']))) := by
      rw [membersText_cons]
      simp only [stringText, List.cons_append, List.append_assoc, List.nil_append]
    rw [htext] at ht₁
    rcases ht₁.of_cons with rfl | ⟨t₂, rfl, ht₂⟩
    · exact ⟨_, rfl⟩
    exact readMembers_of_cutMember _ rfl ht₂ hfield hreads (hcutv f hfield)
      (fun u hu => readMembers_of_cut hrest hcutms _ hu)

end Shape

end Json

end ScriptWeave
