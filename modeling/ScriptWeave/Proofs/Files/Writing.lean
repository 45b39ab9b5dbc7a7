/-
  ScriptWeave.Proofs.Files.Writing
  ────────────────────────────────
  **WHAT IS READ AFTER A FILE WAS WRITTEN OR REMOVED.**

  Paths may lead to one file in many ways: through links, through names that
  go up again, with slashes that count for nothing.  So after a text was
  written to a path, reading another may give that text, too; but it gives
  nothing else than what it gave before.  And after a file was removed, no
  path reads as anything else than it did.

      s'.readText q = ok u    →    s.readText q = ok u  or  u = t
                                        for s.writeText p t = ok s'
      s'.readText q = ok u    →    s.readText q = ok u
                                        for s.removeFile p = ok s'

  A path that meets the location that was altered can only end there, and any
  other path is followed as before.
-/
import ScriptWeave.Files.Operations
import ScriptWeave.Proofs.Text.Cuts

namespace ScriptWeave

namespace Files

variable {s s' : Files} {purpose : Purpose} {viaLink viaLink' : Location → List Text → Except IoError Place}
  {l m : Location} {e : Entry} {b u : ByteArray} {p q : Text}

/-! ## §1. Where a path leads. -/

/-- What the store holds where a path leads to: a file is there, a link is there and may be the
end of the path, and a vacant place is vacant. -/
def Holds (s : Files) (purpose : Purpose) : Place → Prop
  | .entry l (.file b) => s.get? l = some (.file b)
  | .entry l (.link t) => s.get? l = some (.link t) ∧ (purpose = .look ∨ purpose = .change)
  | .entry _ .dir => True
  | .vacant d name _ => s.get? (d ++ [name]) = none

theorem followNames_holds
    (hvia : ∀ cur names place, viaLink cur names = .ok place → s.Holds purpose place)
    {cur : Location} {names : List Text} {place : Place}
    (h : s.followNames purpose viaLink cur names = .ok place) : s.Holds purpose place := by
  induction names generalizing cur with
  | nil =>
    obtain rfl := Except.ok.inj h
    trivial
  | cons name rest ih =>
    unfold followNames at h
    split at h
    next => exact ih h
    split at h
    next => exact ih h
    dsimp only at h
    split at h
    next => exact absurd h (by simp)
    split at h
    next => exact absurd h (by simp)
    -- now the entry under the name decides
    split at h
    next hnone =>
      split at h
      next =>
        obtain rfl := Except.ok.inj h
        exact hnone
      next => exact absurd h (by simp)
    next => exact ih h
    next b hfile =>
      split at h
      next =>
        obtain rfl := Except.ok.inj h
        exact hfile
      next => exact absurd h (by simp)
    next target hlink =>
      split at h
      next hend =>
        obtain rfl := Except.ok.inj h
        have hpurpose : purpose = .look ∨ purpose = .change := by
          rcases Bool.or_eq_true_iff.mp hend with hlook | hchange
          · exact Or.inl (of_decide_eq_true (Bool.and_eq_true_iff.mp hlook).2)
          · exact Or.inr (of_decide_eq_true (Bool.and_eq_true_iff.mp hchange).2)
        exact ⟨hlink, hpurpose⟩
      next =>
        split at h
        next => exact absurd h (by simp)
        next => exact hvia _ _ _ h

theorem followLinks_holds (links : Nat) {cur : Location} {names : List Text} {place : Place}
    (h : s.followLinks purpose links cur names = .ok place) : s.Holds purpose place := by
  induction links generalizing cur names place with
  | zero => exact followNames_holds (fun _ _ _ hvia => absurd hvia (by simp)) h
  | succ links ih => exact followNames_holds (fun _ _ _ hvia => ih hvia) h

/-- A path leads somewhere if it can be a path and its names lead there. -/
theorem find_eq_ok_iff {place : Place} :
    s.find purpose p = .ok place ↔
      p ≠ [] ∧ '\x00' ∉ p ∧ Text.byteSize p < pathLimit
        ∧ s.followLinks purpose linkLimit [] (Text.splitOn '/' p) = .ok place := by
  unfold find
  constructor
  · intro h
    split at h
    next => exact absurd h (by simp)
    next hempty =>
    split at h
    next => exact absurd h (by simp)
    next hnul =>
    split at h
    next => exact absurd h (by simp)
    next hlong =>
    rw [List.contains_iff_mem] at hnul
    exact ⟨fun hp => hempty (List.isEmpty_iff.mpr hp), hnul, Nat.lt_of_not_le hlong, h⟩
  · rintro ⟨hne, hnul, hfits, h⟩
    rw [if_neg (fun hp => hne (List.isEmpty_iff.mp hp)),
      if_neg (fun hp => hnul (List.contains_iff_mem.mp hp)), if_neg (Nat.not_le.mpr hfits)]
    exact h

theorem find_holds {place : Place} (h : s.find purpose p = .ok place) : s.Holds purpose place := by
  obtain ⟨-, -, -, hlinks⟩ := find_eq_ok_iff.mp h
  exact followLinks_holds linkLimit hlinks

/-! ## §2. Reading. -/

theorem readBytes_eq_ok_iff :
    s.readBytes q = .ok u ↔ ∃ l, s.find .read q = .ok (.entry l (.file u)) := by
  unfold readBytes entryAt
  split
  next e hentry =>
    split at hentry <;> simp_all
  next l b hentry =>
    split at hentry <;> simp_all
  next l hentry =>
    split at hentry <;> simp_all
  next l t hentry =>
    split at hentry <;> simp_all

theorem readText_eq_ok_iff {t : Text} :
    s.readText q = .ok t ↔ ∃ u, s.readBytes q = .ok u ∧ Text.decode? u = some t := by
  unfold readText
  split
  next e hread => simp [hread]
  next u hread =>
    split
    next t' hdecode => simp [hread, hdecode]
    next hdecode => simp [hread, hdecode]

/-- What is read is in the store. -/
theorem get?_of_readText {t : Text} (h : s.readText q = .ok t) : ∃ l u, s.get? l = some (.file u) := by
  obtain ⟨u, hread, -⟩ := readText_eq_ok_iff.mp h
  obtain ⟨l, hfind⟩ := readBytes_eq_ok_iff.mp hread
  exact ⟨l, u, find_holds hfind⟩

/-- Whether a text is a name in a path that leads to what it names. -/
structure IsName (t : Text) : Prop where
  ne_nil : t ≠ []
  ne_here : t ≠ ['.']
  ne_up : t ≠ ['.', '.']
  no_slash : '/' ∉ t

/-- Nothing is read where nothing is. -/
theorem readText_ne_ok_of_vacant {d name : Text} (hd : IsName d) (hname : IsName name)
    (hdir : s.get? [d] = some .dir) (hnone : s.get? [d, name] = none) (t : Text) :
    s.readText (d ++ '/' :: name) ≠ .ok t := by
  intro hread
  obtain ⟨u, hu, -⟩ := readText_eq_ok_iff.mp hread
  obtain ⟨l, hfind⟩ := readBytes_eq_ok_iff.mp hu
  obtain ⟨-, -, -, hfind⟩ := find_eq_ok_iff.mp hfind
  -- the two names are followed, and the second leads to a vacant place
  rw [Text.splitOn_append_sep hd.no_slash, Text.splitOn_of_not_mem hname.no_slash] at hfind
  simp only [linkLimit, followLinks, followNames, hd.ne_nil, hd.ne_here, hd.ne_up, hname.ne_nil,
    hname.ne_here, hname.ne_up, List.nil_append, List.cons_append, hdir, hnone, List.all_cons,
    List.all_nil, List.isEmpty_cons, List.isEmpty_nil, decide_false, Bool.or_self,
    Bool.false_eq_true, if_false, Bool.not_false, Bool.not_true, Bool.and_true, Bool.and_false,
    reduceCtorEq] at hfind
  split at hfind
  next => exact absurd hfind (by simp)
  split at hfind
  next => exact absurd hfind (by simp)
  next => exact absurd hfind (by simp)

/-! ## §3. Altering one location. -/

/-- Whether one location at most is not as it was, and what is there now, if anything, is a file
with bytes that may be there. -/
structure Alters (s s' : Files) (l : Location) (may : ByteArray → Prop) : Prop where
  elsewhere : ∀ m, m ≠ l → s'.get? m = s.get? m
  there : ∀ e, s'.get? l = some e → ∃ b, e = .file b ∧ may b

theorem alters_put (s : Files) (l : Location) (b : ByteArray) :
    s.Alters (s.put l (.file b)) l (· = b) where
  elsewhere _ h := get?_put_of_ne s _ h
  there e he := by
    rw [get?_put_self] at he
    exact ⟨b, (Option.some.inj he).symm, rfl⟩

theorem alters_erase (s : Files) (l : Location) : s.Alters (s.erase l) l (fun _ => False) where
  elsewhere _ h := get?_erase_of_ne s h
  there e he := by
    rw [get?_erase_self] at he
    exact absurd he (by simp)

namespace Alters

variable {may : ByteArray → Prop}

/-- A path that leads to an entry led there before, or leads to a file that may be there now. -/
theorem followNames (ha : s.Alters s' l may)
    (hvia : ∀ cur names m e, viaLink' cur names = .ok (.entry m e) →
      (∃ b, e = .file b ∧ may b) ∨ viaLink cur names = .ok (.entry m e))
    {cur : Location} {names : List Text}
    (h : s'.followNames .read viaLink' cur names = .ok (.entry m e)) :
    (∃ b, e = .file b ∧ may b) ∨ s.followNames .read viaLink cur names = .ok (.entry m e) := by
  -- both walks take the same turns until they meet the location that was altered
  induction names generalizing cur with
  | nil => exact Or.inr h
  | cons name rest ih =>
    unfold Files.followNames at h ⊢
    split at h
    next hdot =>
      rw [if_pos hdot]
      exact ih h
    next hdot =>
    rw [if_neg hdot]
    split at h
    next hup =>
      rw [if_pos hup]
      exact ih h
    next hup =>
    rw [if_neg hup]
    dsimp only at h ⊢
    split at h
    next => exact absurd h (by simp)
    next hslash =>
    rw [if_neg hslash]
    split at h
    next => exact absurd h (by simp)
    next hlong =>
    rw [if_neg hlong]
    by_cases hat : cur ++ [name] = l
    · -- the path meets the altered location, and can only end there
      rw [hat] at h
      cases hget : s'.get? l with
      | none =>
        rw [hget] at h
        dsimp only at h
        split at h <;> exact absurd h (by simp)
      | some there =>
        obtain ⟨b, rfl, hmay⟩ := ha.there there hget
        rw [hget] at h
        dsimp only at h
        split at h
        next => exact Or.inl ⟨b, (Place.entry.inj (Except.ok.inj h)).2.symm, hmay⟩
        next => exact absurd h (by simp)
    · rw [ha.elsewhere _ hat] at h
      cases hget : s.get? (cur ++ [name]) with
      | none =>
        rw [hget] at h
        exact Or.inr h
      | some there =>
        rw [hget] at h
        cases there with
        | file b' => exact Or.inr h
        | dir => exact ih h
        | link target =>
          -- a link may lead anywhere, the altered location included
          dsimp only at h ⊢
          split at h
          next hend => exact absurd hend (by simp)
          next hend =>
          rw [if_neg hend]
          split at h
          next => exact absurd h (by simp)
          next htarget =>
          rw [if_neg htarget]
          exact hvia _ _ _ _ h

theorem followLinks (ha : s.Alters s' l may) (links : Nat) {cur : Location} {names : List Text}
    (h : s'.followLinks .read links cur names = .ok (.entry m e)) :
    (∃ b, e = .file b ∧ may b) ∨ s.followLinks .read links cur names = .ok (.entry m e) := by
  induction links generalizing cur names m e with
  | zero => exact ha.followNames (fun _ _ _ _ hvia => absurd hvia (by simp)) h
  | succ links ih => exact ha.followNames (fun _ _ _ _ hvia => ih hvia) h

theorem find (ha : s.Alters s' l may) (h : s'.find .read q = .ok (.entry m e)) :
    (∃ b, e = .file b ∧ may b) ∨ s.find .read q = .ok (.entry m e) := by
  obtain ⟨hne, hnul, hfits, hlinks⟩ := find_eq_ok_iff.mp h
  exact (ha.followLinks linkLimit hlinks).imp_right
    (fun hbefore => find_eq_ok_iff.mpr ⟨hne, hnul, hfits, hbefore⟩)

/-- A path that leads to a directory led there before. -/
theorem find_dir (ha : s.Alters s' l may) (h : s'.find .read q = .ok (.entry m .dir)) :
    s.find .read q = .ok (.entry m .dir) := by
  rcases ha.find h with ⟨b, hfile, -⟩ | hbefore
  · exact absurd hfile (by simp)
  · exact hbefore

theorem readBytes (ha : s.Alters s' l may) (h : s'.readBytes q = .ok u) :
    may u ∨ s.readBytes q = .ok u := by
  obtain ⟨m, hfind⟩ := readBytes_eq_ok_iff.mp h
  rcases ha.find hfind with ⟨b, hfile, hmay⟩ | hbefore
  · exact Or.inl (Entry.file.inj hfile ▸ hmay)
  · exact Or.inr (readBytes_eq_ok_iff.mpr ⟨m, hbefore⟩)

/-- A path reads as before, or as bytes that may be there now. -/
theorem readText (ha : s.Alters s' l may) {v : Text} (h : s'.readText q = .ok v) :
    (∃ u, may u ∧ Text.decode? u = some v) ∨ s.readText q = .ok v := by
  obtain ⟨u, hbytes, hdecode⟩ := readText_eq_ok_iff.mp h
  rcases ha.readBytes hbytes with hu | hbefore
  · exact Or.inl ⟨u, hu, hdecode⟩
  · exact Or.inr (readText_eq_ok_iff.mpr ⟨u, hbefore, hdecode⟩)

end Alters

/-! ## §4. Writing and removing. -/

/-- A file is put somewhere. -/
theorem writeBytes_eq_ok (h : s.writeBytes p b = .ok s') : ∃ l, s' = s.put l (.file b) := by
  unfold writeBytes at h
  split at h
  next => exact absurd h (by simp)
  next => exact absurd h (by simp)
  next l e _ _ => exact ⟨l, (Except.ok.inj h).symm⟩
  next => exact absurd h (by simp)
  next d name _ => exact ⟨d ++ [name], (Except.ok.inj h).symm⟩

/-- Whether a file can be opened does not depend on what is written to it. -/
theorem writeBytes_eq_error {e : IoError} (h : s.writeBytes p b = .error e) (b' : ByteArray) :
    s.writeBytes p b' = .error e := by
  unfold writeBytes at h ⊢
  split at h
  next => exact h
  next => exact h
  next => exact absurd h (by simp)
  next => exact h
  next => exact absurd h (by simp)

/-- What is somewhere is taken away. -/
theorem removeFile_eq_ok (h : s.removeFile p = .ok s') : ∃ l, s' = s.erase l := by
  unfold removeFile at h
  split at h
  next => exact absurd h (by simp)
  next => exact absurd h (by simp)
  next => exact absurd h (by simp)
  next l _ _ _ =>
    split at h
    next => exact absurd h (by simp)
    next => exact ⟨l, (Except.ok.inj h).symm⟩

/-- **After some bytes were written, a path reads as them, or as before.** -/
theorem readText_writeBytes {v : Text} (h : s.writeBytes p b = .ok s') (hread : s'.readText q = .ok v) :
    Text.decode? b = some v ∨ s.readText q = .ok v := by
  obtain ⟨l, rfl⟩ := writeBytes_eq_ok h
  exact (alters_put s l _).readText hread |>.imp_left (fun ⟨_, hu, hdecode⟩ => hu ▸ hdecode)

/-- After a text was written, a path reads as it, or as before. -/
theorem readText_writeText {t v : Text} (h : s.writeText p t = .ok s') (hread : s'.readText q = .ok v) :
    v = t ∨ s.readText q = .ok v := by
  refine (readText_writeBytes h hread).imp_left (fun hdecode => ?_)
  rw [Text.decode?_encode] at hdecode
  exact (Option.some.inj hdecode).symm

/-- **After a file was removed, a path reads as before, if at all.** -/
theorem readText_removeFile {v : Text} (h : s.removeFile p = .ok s') (hread : s'.readText q = .ok v) :
    s.readText q = .ok v := by
  obtain ⟨l, rfl⟩ := removeFile_eq_ok h
  rcases (alters_erase s l).readText hread with ⟨u, hfalse, -⟩ | hbefore
  · exact hfalse.elim
  · exact hbefore

end Files

end ScriptWeave
