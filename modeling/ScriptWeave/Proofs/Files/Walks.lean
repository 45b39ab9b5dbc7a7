/-
  ScriptWeave.Proofs.Files.Walks
  ──────────────────────────────
  **WHERE A PATH LEADS WHEN FILES COME AND GO.**

  A path goes on through directories and links only.  So where these stay, a
  path that is followed for a change ends at the same location; what is
  there now is what it leads to.

      s.find change p  = what s has at the end
        →  s'.find change p  = what s' has at the end
                                    for directories and links of s in s'

  A file can be made at the end of a path if the path leads to a vacant
  place, or if it leads to a file or a link, whose target is then written.
  A file that removing a path takes away is what the path reads as.
-/
import ScriptWeave.Proofs.Files.InDirectory

namespace ScriptWeave

namespace Files

variable {s s' : Files} {purpose : Purpose}
  {viaLink viaLink' : Location → List Text → Except IoError Place}
  {cur d l m : Location} {name p : Text} {rest names : List Text} {place : Place} {e : Entry}

/-! ## §1. One name. -/

/-- Whether a name asks for an entry of a directory. -/
structure IsStep (name : Text) : Prop where
  ne_nil : name ≠ []
  ne_here : name ≠ ['.']
  ne_up : name ≠ ['.', '.']
  short : Text.byteSize name ≤ nameLimit

theorem name_cases (name : Text) :
    (name = [] ∨ name = ['.']) ∨ name = ['.', '.']
      ∨ (name ≠ [] ∧ name ≠ ['.'] ∧ name ≠ ['.', '.'] ∧ nameLimit < Text.byteSize name)
      ∨ IsStep name := by
  by_cases hnil : name = []
  · exact Or.inl (Or.inl hnil)
  by_cases hhere : name = ['.']
  · exact Or.inl (Or.inr hhere)
  by_cases hup : name = ['.', '.']
  · exact Or.inr (Or.inl hup)
  by_cases hlong : nameLimit < Text.byteSize name
  · exact Or.inr (Or.inr (Or.inl ⟨hnil, hhere, hup, hlong⟩))
  · exact Or.inr (Or.inr (Or.inr ⟨hnil, hhere, hup, Nat.le_of_not_lt hlong⟩))

theorem followNames_here (h : name = [] ∨ name = ['.']) :
    s.followNames purpose viaLink cur (name :: rest) = s.followNames purpose viaLink cur rest := by
  rw [followNames, if_pos (by simpa using h)]

theorem followNames_up :
    s.followNames purpose viaLink cur (['.', '.'] :: rest)
      = s.followNames purpose viaLink cur.dropLast rest := by
  rw [followNames, if_neg (by decide), if_pos rfl]

theorem followNames_long
    (h : name ≠ [] ∧ name ≠ ['.'] ∧ name ≠ ['.', '.'] ∧ nameLimit < Text.byteSize name) :
    s.followNames purpose viaLink cur (name :: rest) ≠ .ok place := by
  obtain ⟨hnil, hhere, hup, hlong⟩ := h
  rw [followNames, if_neg (by simp [hnil, hhere]), if_neg hup]
  dsimp only
  rw [if_pos hlong]
  split <;> simp

/-- What there is under a name in a directory, with a slash behind the name or not. -/
def placeIn (s : Files) (d : Location) (name : Text) (slash : Bool) : Place :=
  match s.get? (d ++ [name]) with
  | some e => .entry (d ++ [name]) e
  | none => .vacant d name slash

theorem placeIn_of_some (h : s.get? (d ++ [name]) = some e) (slash : Bool) :
    s.placeIn d name slash = .entry (d ++ [name]) e := by
  rw [placeIn, h]

theorem placeIn_of_none (h : s.get? (d ++ [name]) = none) (slash : Bool) :
    s.placeIn d name slash = .vacant d name slash := by
  rw [placeIn, h]

/-- Where a location that a name leads to holds an entry, the entry is what the name leads to. -/
theorem placeIn_eq_entry_iff {slash : Bool} :
    s.placeIn d name slash = .entry l e ↔ l = d ++ [name] ∧ s.get? l = some e := by
  cases hget : s.get? (d ++ [name]) with
  | none =>
    rw [placeIn_of_none hget]
    refine iff_of_false (by simp) ?_
    rintro ⟨rfl, he⟩
    exact absurd (hget.symm.trans he) (by simp)
  | some there =>
    rw [placeIn_of_some hget, Place.entry.injEq]
    constructor
    · rintro ⟨rfl, rfl⟩
      exact ⟨rfl, hget⟩
    · rintro ⟨rfl, he⟩
      exact ⟨rfl, Option.some.inj (hget.symm.trans he)⟩

/-- What becomes of a path at a name that asks for an entry. -/
theorem followNames_step (hname : IsStep name) :
    s.followNames purpose viaLink cur (name :: rest)
      = if rest.all (·.isEmpty) && !rest.isEmpty && purpose = .write then .error .isDirectory
        else
          match s.get? (cur ++ [name]) with
          | none =>
            if rest.all (·.isEmpty) then .ok (.vacant cur name (!rest.isEmpty))
            else .error .missing
          | some .dir => s.followNames purpose viaLink (cur ++ [name]) rest
          | some (.file b) =>
            if rest.isEmpty || (rest.all (·.isEmpty) && purpose = .change) then
              .ok (.entry (cur ++ [name]) (.file b))
            else .error .notDirectory
          | some (.link target) =>
            if (rest.isEmpty && purpose = .look) || (rest.all (·.isEmpty) && purpose = .change) then
              .ok (.entry (cur ++ [name]) (.link target))
            else if target.isEmpty then .error .missing
            else viaLink (if Path.isAbsolute target then [] else cur)
              (Text.splitOn '/' target ++ rest) := by
  rw [followNames, if_neg (by simp [hname.ne_nil, hname.ne_here]), if_neg hname.ne_up]
  exact congrArg (ite _ (Except.error IoError.isDirectory)) (if_neg (Nat.not_lt.mpr hname.short))

/-- At the last name a path that is followed for a change ends. -/
theorem followNames_change_last (hname : IsStep name) (hlast : rest.all (·.isEmpty) = true) :
    s.followNames .change viaLink cur (name :: rest) = .ok (s.placeIn cur name (!rest.isEmpty)) := by
  rw [followNames_step hname, hlast, if_neg (by simp), placeIn]
  cases s.get? (cur ++ [name]) with
  | none => rfl
  | some e =>
    cases e with
    | file b => exact if_pos (by simp)
    | link target => exact if_pos (by simp)
    | dir => exact followNames_of_all_empty (fun t ht => by simpa using List.all_eq_true.mp hlast t ht)

/-- A slash behind the last name asks for a directory. -/
theorem followNames_write_slash (hname : IsStep name) (hlast : rest.all (·.isEmpty) = true)
    (hslash : rest.isEmpty = false) :
    s.followNames .write viaLink cur (name :: rest) = .error .isDirectory := by
  rw [followNames_step hname, hlast, hslash]
  rfl

/-- If no link is under the last name, it does not matter what a path is followed for. -/
theorem followNames_last (hname : IsStep name) (hlink : s.HasNoLink (cur ++ [name])) :
    s.followNames purpose viaLink cur [name] = .ok (s.placeIn cur name false) := by
  rw [followNames_step hname, if_neg (by simp), placeIn]
  cases hget : s.get? (cur ++ [name]) with
  | none => rfl
  | some e =>
    cases e with
    | file b => rfl
    | dir => rfl
    | link target => exact absurd hget (hlink target)

/-- At a name before the last, a path goes on through a directory or a link. -/
theorem followNames_inner (hname : IsStep name) (hlast : rest.all (·.isEmpty) = false) :
    s.followNames purpose viaLink cur (name :: rest)
      = match s.get? (cur ++ [name]) with
        | none => .error .missing
        | some .dir => s.followNames purpose viaLink (cur ++ [name]) rest
        | some (.file _) => .error .notDirectory
        | some (.link target) =>
          if target.isEmpty then .error .missing
          else viaLink (if Path.isAbsolute target then [] else cur) (Text.splitOn '/' target ++ rest) := by
  have hrest : rest.isEmpty = false := by
    cases rest with
    | nil => exact Bool.noConfusion hlast
    | cons => rfl
  rw [followNames_step hname, hlast, hrest, if_neg (by simp)]
  rfl

/-- How a path that leads somewhere goes on at a name. -/
inductive Turn (s : Files) (purpose : Purpose)
    (viaLink : Location → List Text → Except IoError Place) (cur : Location) (rest : List Text)
    (place : Place) : Text → Prop where
  /-- The name stands for the directory itself. -/
  | here {name : Text} (hname : name = [] ∨ name = ['.'])
      (hrest : s.followNames purpose viaLink cur rest = .ok place) : Turn s purpose viaLink cur rest place name
  /-- The name leads up. -/
  | up (hrest : s.followNames purpose viaLink cur.dropLast rest = .ok place) :
      Turn s purpose viaLink cur rest place ['.', '.']
  /-- The name is the last one. -/
  | last {name : Text} (hname : IsStep name) (hlast : rest.all (·.isEmpty) = true) :
      Turn s purpose viaLink cur rest place name
  /-- The name leads to a directory, with names behind it. -/
  | dir {name : Text} (hname : IsStep name) (hlast : rest.all (·.isEmpty) = false)
      (hget : s.get? (cur ++ [name]) = some .dir)
      (hrest : s.followNames purpose viaLink (cur ++ [name]) rest = .ok place) :
      Turn s purpose viaLink cur rest place name
  /-- The name leads to a link, with names behind it. -/
  | link {name : Text} (hname : IsStep name) (hlast : rest.all (·.isEmpty) = false) (target : Text)
      (hget : s.get? (cur ++ [name]) = some (.link target)) (htarget : ¬target.isEmpty = true)
      (hrest : viaLink (if Path.isAbsolute target then [] else cur)
        (Text.splitOn '/' target ++ rest) = .ok place) : Turn s purpose viaLink cur rest place name

theorem followNames_turn (h : s.followNames purpose viaLink cur (name :: rest) = .ok place) :
    Turn s purpose viaLink cur rest place name := by
  obtain hhere | rfl | hlong | hname := name_cases name
  · exact .here hhere (followNames_here hhere ▸ h)
  · exact .up (followNames_up ▸ h)
  · exact absurd h (followNames_long hlong)
  cases hlast : rest.all (·.isEmpty) with
  | true => exact .last hname hlast
  | false =>
    rw [followNames_inner hname hlast] at h
    cases hget : s.get? (cur ++ [name]) with
    | none =>
      rw [hget] at h
      exact absurd h (by simp)
    | some there =>
      rw [hget] at h
      cases there with
      | file b => exact absurd h (by simp)
      | dir => exact .dir hname hlast hget h
      | link target =>
        dsimp only at h
        split at h
        next => exact absurd h (by simp)
        next htarget => exact .link hname hlast target hget htarget h

/-! ## §2. Where the ways stay. -/

/-- Whether a store has the directories and links of another. -/
def KeepsWays (s s' : Files) : Prop :=
  ∀ l e, s.get? l = some e → (∀ b, e ≠ .file b) → s'.get? l = some e

theorem KeepsWays.trans {s'' : Files} (h : s.KeepsWays s') (h' : s'.KeepsWays s'') :
    s.KeepsWays s'' :=
  fun l e hget hfile => h' l e (h l e hget hfile) hfile

/-- A path that ends at a name ends there still. -/
theorem KeepsWays.followNames (hways : s.KeepsWays s')
    (hvia : ∀ cur names place, viaLink cur names = .ok place → (∀ l, place ≠ .entry l .dir) →
      ∃ d name slash, place = s.placeIn d name slash
        ∧ viaLink' cur names = .ok (s'.placeIn d name slash))
    (h : s.followNames .change viaLink cur names = .ok place) (hend : ∀ l, place ≠ .entry l .dir) :
    ∃ d name slash, place = s.placeIn d name slash
      ∧ s'.followNames .change viaLink' cur names = .ok (s'.placeIn d name slash) := by
  induction names generalizing cur with
  | nil => exact absurd (Except.ok.inj h).symm (hend cur)
  | cons name rest ih =>
    cases followNames_turn h with
    | here hname hrest =>
      rw [followNames_here hname]
      exact ih hrest
    | up hrest =>
      rw [followNames_up]
      exact ih hrest
    | last hname hlast =>
      rw [followNames_change_last hname hlast] at h ⊢
      exact ⟨cur, name, _, (Except.ok.inj h).symm, rfl⟩
    | dir hname hlast hget hrest =>
      rw [followNames_inner hname hlast, hways _ _ hget (by simp)]
      exact ih hrest
    | link hname hlast target hget htarget hrest =>
      rw [followNames_inner hname hlast, hways _ _ hget (by simp)]
      dsimp only
      rw [if_neg htarget]
      exact hvia _ _ _ hrest hend

theorem KeepsWays.followLinks (hways : s.KeepsWays s') (links : Nat)
    (h : s.followLinks .change links cur names = .ok place) (hend : ∀ l, place ≠ .entry l .dir) :
    ∃ d name slash, place = s.placeIn d name slash
      ∧ s'.followLinks .change links cur names = .ok (s'.placeIn d name slash) := by
  induction links generalizing cur names place with
  | zero => exact hways.followNames (fun _ _ _ hvia => absurd hvia (by simp)) h hend
  | succ links ih => exact hways.followNames (fun _ _ _ hvia hend => ih hvia hend) h hend

/-- **Where directories and links stay, a path ends at the same location.** -/
theorem KeepsWays.find (hways : s.KeepsWays s') (h : s.find .change p = .ok place)
    (hend : ∀ l, place ≠ .entry l .dir) :
    ∃ d name slash, place = s.placeIn d name slash
      ∧ s'.find .change p = .ok (s'.placeIn d name slash) := by
  obtain ⟨hne, hnul, hfits, hlinks⟩ := find_eq_ok_iff.mp h
  obtain ⟨d, name, slash, hplace, hlinks'⟩ := hways.followLinks linkLimit hlinks hend
  exact ⟨d, name, slash, hplace, find_eq_ok_iff.mpr ⟨hne, hnul, hfits, hlinks'⟩⟩

/-- A path leads to an entry that is still there. -/
theorem KeepsWays.find_entry (hways : s.KeepsWays s') (h : s.find .change p = .ok (.entry l e))
    (hdir : e ≠ .dir) (hget : s'.get? l = some e) : s'.find .change p = .ok (.entry l e) := by
  obtain ⟨d, name, slash, hplace, hfind⟩ := hways.find h (fun _ h => hdir (Place.entry.inj h).2)
  obtain ⟨rfl, -⟩ := placeIn_eq_entry_iff.mp hplace.symm
  rw [hfind, placeIn_of_some hget]

/-- A path leads to nothing where its entry is gone. -/
theorem KeepsWays.find_gone (hways : s.KeepsWays s') (h : s.find .change p = .ok (.entry l e))
    (hdir : e ≠ .dir) (hget : s'.get? l = none) :
    ∃ d name slash, s'.find .change p = .ok (.vacant d name slash) := by
  obtain ⟨d, name, slash, hplace, hfind⟩ := hways.find h (fun _ h => hdir (Place.entry.inj h).2)
  obtain ⟨rfl, -⟩ := placeIn_eq_entry_iff.mp hplace.symm
  exact ⟨d, name, slash, by rw [hfind, placeIn_of_none hget]⟩

/-- A path that led to a vacant place leads to the entry that is there now. -/
theorem KeepsWays.find_new {slash : Bool} (hways : s.KeepsWays s')
    (h : s.find .change p = .ok (.vacant d name slash)) (hget : s'.get? (d ++ [name]) = some e) :
    s'.find .change p = .ok (.entry (d ++ [name]) e) := by
  obtain ⟨d', name', slash', hplace, hfind⟩ := hways.find h (by simp)
  unfold placeIn at hplace
  split at hplace
  next => exact absurd hplace (by simp)
  next =>
    obtain ⟨rfl, rfl, -⟩ := Place.vacant.inj hplace
    rw [hfind, placeIn_of_some hget]

/-- A path to a file or a link has a name. -/
theorem find_entry_ne_nil (h : s.find .change p = .ok (.entry l e)) (hdir : e ≠ .dir) : l ≠ [] := by
  have hways : s.KeepsWays s := fun _ _ hget _ => hget
  obtain ⟨d, name, slash, hplace, -⟩ := hways.find h (fun _ h => hdir (Place.entry.inj h).2)
  obtain ⟨rfl, -⟩ := placeIn_eq_entry_iff.mp hplace.symm
  simp

/-! ## §3. Where a file can be made. -/

/-- Whether a path leads to nothing or to a directory, and not to a file or a link. -/
def NoFileAt (s : Files) (p : Text) : Prop := ∀ l e, s.find .change p = .ok (.entry l e) → e = .dir

/-- Whether a path leads to a file with some bytes at a location. -/
def HasFile (s : Files) (p : Text) (b : ByteArray) (l : Location) : Prop :=
  s.find .change p = .ok (.entry l (.file b))

/-- A path that a file can be written to is a vacant place, or a file or a link is there. -/
theorem followNames_write
    (hvia : ∀ cur names place, viaLink cur names = .ok place → (∀ l, place ≠ .entry l .dir) →
      (∃ d name, place = .vacant d name false ∧ viaLink' cur names = .ok place)
        ∨ ∃ l e, viaLink' cur names = .ok (.entry l e) ∧ e ≠ .dir)
    (h : s.followNames .write viaLink cur names = .ok place) (hend : ∀ l, place ≠ .entry l .dir) :
    (∃ d name, place = .vacant d name false ∧ s.followNames .change viaLink' cur names = .ok place)
      ∨ ∃ l e, s.followNames .change viaLink' cur names = .ok (.entry l e) ∧ e ≠ .dir := by
  induction names generalizing cur with
  | nil => exact absurd (Except.ok.inj h).symm (hend cur)
  | cons name rest ih =>
    cases followNames_turn h with
    | here hname hrest =>
      rw [followNames_here hname]
      exact ih hrest
    | up hrest =>
      rw [followNames_up]
      exact ih hrest
    | last hname hlast =>
      rw [followNames_change_last hname hlast]
      cases hrest : rest.isEmpty with
      | false =>
        rw [followNames_write_slash hname hlast hrest] at h
        exact absurd h (by simp)
      | true =>
        obtain rfl := List.isEmpty_iff.mp hrest
        cases hget : s.get? (cur ++ [name]) with
        | none =>
          rw [followNames_last hname (by simp [HasNoLink, hget])] at h
          obtain rfl := Except.ok.inj h
          exact Or.inl ⟨cur, name, placeIn_of_none hget false, rfl⟩
        | some there =>
          refine Or.inr ⟨cur ++ [name], there, by rw [placeIn_of_some hget], ?_⟩
          rintro rfl
          rw [followNames_last hname (by simp [HasNoLink, hget]), placeIn_of_some hget] at h
          exact hend _ (Except.ok.inj h).symm
    | dir hname hlast hget hrest =>
      rw [followNames_inner hname hlast, hget]
      exact ih hrest
    | link hname hlast target hget htarget hrest =>
      rw [followNames_inner hname hlast, hget]
      dsimp only
      rw [if_neg htarget]
      exact hvia _ _ _ hrest hend

theorem followLinks_write (links : Nat) (h : s.followLinks .write links cur names = .ok place)
    (hend : ∀ l, place ≠ .entry l .dir) :
    (∃ d name, place = .vacant d name false ∧ s.followLinks .change links cur names = .ok place)
      ∨ ∃ l e, s.followLinks .change links cur names = .ok (.entry l e) ∧ e ≠ .dir := by
  induction links generalizing cur names place with
  | zero => exact followNames_write (fun _ _ _ hvia => absurd hvia (by simp)) h hend
  | succ links ih => exact followNames_write (fun _ _ _ hvia hend => ih hvia hend) h hend

/-- **A file that is written where there was none is new**, and the path leads to it. -/
theorem writeText_of_noFileAt {t : Text} (hno : s.NoFileAt p) (h : s.writeText p t = .ok s') :
    ∃ d name, s.find .change p = .ok (.vacant d name false)
      ∧ s' = s.put (d ++ [name]) (.file (Text.encode t)) := by
  rw [writeText, writeBytes] at h
  cases hfind : s.find .write p with
  | error e =>
    rw [hfind] at h
    exact absurd h (by simp)
  | ok place =>
    rw [hfind] at h
    have hend : ∀ l, place ≠ .entry l .dir := by
      rintro l rfl
      exact absurd h (by simp)
    obtain ⟨hne, hnul, hfits, hlinks⟩ := find_eq_ok_iff.mp hfind
    rcases followLinks_write linkLimit hlinks hend with ⟨d, name, rfl, hchange⟩ | ⟨l, e, hchange, hdir⟩
    · exact ⟨d, name, find_eq_ok_iff.mpr ⟨hne, hnul, hfits, hchange⟩, (Except.ok.inj h).symm⟩
    · exact absurd (hno l e (find_eq_ok_iff.mpr ⟨hne, hnul, hfits, hchange⟩)) hdir

/-- Names with a slash behind them do not lead to a place for a file. -/
theorem followNames_slash {slash : Bool}
    (hvia : ∀ cur names, viaLink cur (names ++ [[]]) = .ok (.vacant d name slash) → slash = true)
    (h : s.followNames .change viaLink cur (names ++ [[]]) = .ok (.vacant d name slash)) :
    slash = true := by
  induction names generalizing cur with
  | nil =>
    rw [List.nil_append, followNames_here (Or.inl rfl)] at h
    exact absurd (Except.ok.inj h) (by simp)
  | cons t rest ih =>
    rw [List.cons_append] at h
    cases followNames_turn h with
    | here ht hrest => exact ih hrest
    | up hrest => exact ih hrest
    | last ht hlast =>
      have hslash : (!(rest ++ [([] : Text)]).isEmpty) = true := by simp
      rw [followNames_change_last ht hlast, hslash, placeIn] at h
      split at h
      next => exact absurd (Except.ok.inj h) (by simp)
      next => exact (Place.vacant.inj (Except.ok.inj h)).2.2.symm
    | dir ht hlast hget hrest => exact ih hrest
    | link ht hlast target hget htarget hrest =>
      rw [← List.append_assoc] at hrest
      exact hvia _ _ hrest

theorem followLinks_slash {slash : Bool} (links : Nat)
    (h : s.followLinks .change links cur (names ++ [[]]) = .ok (.vacant d name slash)) :
    slash = true := by
  induction links generalizing cur names with
  | zero => exact followNames_slash (fun _ _ hvia => absurd hvia (by simp)) h
  | succ links ih => exact followNames_slash (fun _ _ hvia => ih hvia) h

/-- A path that leads to a place for a file does not end in a slash. -/
theorem endsInSlash_of_vacant (h : s.find .change p = .ok (.vacant d name false)) :
    endsInSlash p = false := by
  obtain ⟨-, -, -, hlinks⟩ := find_eq_ok_iff.mp h
  rw [endsInSlash, beq_eq_false_iff_ne]
  intro hends
  obtain ⟨q, rfl⟩ := List.getLast?_eq_some_iff.mp hends
  rw [Text.splitOn_append_cons_sep] at hlinks
  exact Bool.noConfusion (followLinks_slash linkLimit hlinks)

/-! ## §4. Writing and removing a file. -/

theorem get?_of_find (h : s.find .change p = .ok (.entry l e)) (hdir : e ≠ .dir) :
    s.get? l = some e := by
  have hholds := find_holds h
  cases e with
  | file b => exact hholds
  | dir => exact absurd rfl hdir
  | link t => exact hholds.1

theorem noFileAt_of_vacant {slash : Bool} (h : s.find .change p = .ok (.vacant d name slash)) :
    s.NoFileAt p := by
  intro l e he
  exact absurd (h.symm.trans he) (by simp)

/-- A file that is removed leaves the directories and links. -/
theorem keepsWays_erase {b : ByteArray} (hget : s.get? l = some (.file b)) :
    s.KeepsWays (s.erase l) := by
  intro m e hm hfile
  have hne : m ≠ l := by
    rintro rfl
    exact hfile b (Option.some.inj (hm.symm.trans hget))
  rw [get?_erase_of_ne s hne, hm]

/-- A path to a file that is removed leads to nothing. -/
theorem noFileAt_erase {b : ByteArray} (h : s.find .change p = .ok (.entry l (.file b))) :
    (s.erase l).NoFileAt p := by
  obtain ⟨d, name, slash, hgone⟩ := (keepsWays_erase (get?_of_find h (by simp))).find_gone h (by simp)
    (get?_erase_self s l)
  exact noFileAt_of_vacant hgone

/-- What a path leads to when a file is removed, it led to before. -/
theorem find_of_erase (h : (s.erase l).find .change p = .ok (.entry m e)) (hdir : e ≠ .dir) :
    m ≠ l ∧ s.find .change p = .ok (.entry m e) := by
  have hget : ∀ {m e}, (s.erase l).get? m = some e → m ≠ l ∧ s.get? m = some e := by
    intro m e hm
    have hne : m ≠ l := by
      rintro rfl
      exact absurd ((get?_erase_self s m).symm.trans hm) (by simp)
    exact ⟨hne, get?_erase_of_ne s hne ▸ hm⟩
  obtain ⟨hne, hm⟩ := hget (get?_of_find h hdir)
  have hways : (s.erase l).KeepsWays s := fun _ _ hm _ => (hget hm).2
  exact ⟨hne, hways.find_entry h hdir hm⟩

/-- What a path leads to when a file is put where there was nothing, it led to before, unless it is
that file. -/
theorem find_of_put {b : ByteArray} (h : (s.put l (.file b)).find .change p = .ok (.entry m e))
    (hdir : e ≠ .dir) (hne : m ≠ l) : s.find .change p = .ok (.entry m e) := by
  have hways : (s.put l (.file b)).KeepsWays s := by
    intro k e' hk hfile
    have hk' : k ≠ l := by
      rintro rfl
      exact hfile b (Option.some.inj (hk.symm.trans (get?_put_self s k (.file b))))
    rwa [get?_put_of_ne s _ hk'] at hk
  refine hways.find_entry h hdir ?_
  rw [← get?_put_of_ne s (.file b) hne]
  exact get?_of_find h hdir

/-- A path to a vacant place leads to the file that is put there. -/
theorem find_put {slash : Bool} (h : s.find .change p = .ok (.vacant d name slash)) (b : ByteArray) :
    (s.put (d ++ [name]) (.file b)).find .change p = .ok (.entry (d ++ [name]) (.file b)) := by
  have hnone : s.get? (d ++ [name]) = none := find_holds h
  have hways : s.KeepsWays (s.put (d ++ [name]) (.file b)) := by
    intro k e hk _
    have hne : k ≠ d ++ [name] := by
      rintro rfl
      exact absurd (hnone.symm.trans hk) (by simp)
    rw [get?_put_of_ne s _ hne, hk]
  exact hways.find_new h (get?_put_self s _ _)

theorem removeFile_of_find {b : ByteArray} (h : s.find .change p = .ok (.entry l (.file b)))
    (hslash : endsInSlash p = false) : s.removeFile p = .ok (s.erase l) := by
  rw [removeFile, h]
  dsimp only
  rw [hslash]
  rfl

/-- A file that is given another path, where no other entry is, is moved to a vacant place. -/
theorem rename_eq_ok {q : Text} {b : ByteArray} (hp : s.find .change p = .ok (.entry l (.file b)))
    (hq : ∀ m e, s.find .change q = .ok (.entry m e) → e = .dir) (h : s.rename p q = .ok s') :
    ∃ d name, s.find .change q = .ok (.vacant d name false) ∧ s' = s.moveTree l (d ++ [name]) := by
  unfold rename at h
  rw [hp] at h
  cases hfind : s.find .change q with
  | error e =>
    rw [hfind] at h
    exact absurd h (by simp)
  | ok place =>
    rw [hfind] at h
    cases place with
    | entry m e =>
      obtain rfl := hq m e hfind
      exact absurd h (by simp)
    | vacant d name slash =>
      dsimp only at h
      split at h
      next => exact absurd h (by simp)
      next hslash =>
        have hfalse : slash = false := by
          cases slash with
          | true => exact absurd (by simp) hslash
          | false => rfl
        exact ⟨d, name, by rw [hfalse], (Except.ok.inj h).symm⟩

/-! ## §5. Reading what can be removed. -/

/-- A path that leads to a file when it is followed for a change leads to that file, if anywhere,
when it is followed to read. -/
theorem followNames_read_of_change {b : ByteArray}
    (hvia : ∀ cur names place, viaLink cur names = .ok (.entry l (.file b)) →
      viaLink' cur names = .ok place → place = .entry l (.file b))
    (h : s.followNames .change viaLink cur names = .ok (.entry l (.file b)))
    (hread : s.followNames .read viaLink' cur names = .ok place) : place = .entry l (.file b) := by
  induction names generalizing cur with
  | nil => exact absurd (Except.ok.inj h) (by simp)
  | cons name rest ih =>
    cases followNames_turn h with
    | here hname hrest =>
      rw [followNames_here hname] at hread
      exact ih hrest hread
    | up hrest =>
      rw [followNames_up] at hread
      exact ih hrest hread
    | last hname hlast =>
      rw [followNames_change_last hname hlast] at h
      obtain ⟨rfl, hget⟩ := placeIn_eq_entry_iff.mp (Except.ok.inj h)
      rw [followNames_step hname, if_neg (by simp), hget] at hread
      dsimp only at hread
      split at hread
      next => exact (Except.ok.inj hread).symm
      next => exact absurd hread (by simp)
    | dir hname hlast hget hrest =>
      rw [followNames_inner hname hlast, hget] at hread
      exact ih hrest hread
    | link hname hlast target hget htarget hrest =>
      rw [followNames_inner hname hlast, hget] at hread
      dsimp only at hread
      rw [if_neg htarget] at hread
      exact hvia _ _ _ hrest hread

theorem followLinks_read_of_change {b : ByteArray} (links : Nat)
    (h : s.followLinks .change links cur names = .ok (.entry l (.file b)))
    (hread : s.followLinks .read links cur names = .ok place) : place = .entry l (.file b) := by
  induction links generalizing cur names place with
  | zero => exact followNames_read_of_change (fun _ _ _ hvia => absurd hvia (by simp)) h hread
  | succ links ih =>
    exact followNames_read_of_change (fun _ _ _ hvia hvia' => ih hvia hvia') h hread

theorem find_read_of_change {b : ByteArray} (h : s.find .change p = .ok (.entry l (.file b)))
    (hread : s.find .read p = .ok place) : place = .entry l (.file b) := by
  obtain ⟨-, -, -, hlinks⟩ := find_eq_ok_iff.mp h
  obtain ⟨-, -, -, hlinks'⟩ := find_eq_ok_iff.mp hread
  exact followLinks_read_of_change linkLimit hlinks hlinks'

/-- **What a path reads as is the file that removing it takes away**, if a file is taken away. -/
theorem decode?_of_removeFile {b : ByteArray} {t : Text} (hget : s.get? l = some (.file b))
    (hremove : s.removeFile p = .ok (s.erase l)) (hread : s.readText p = .ok t) :
    Text.decode? b = some t := by
  obtain ⟨u, hbytes, hdecode⟩ := readText_eq_ok_iff.mp hread
  obtain ⟨m, hfind⟩ := readBytes_eq_ok_iff.mp hbytes
  unfold removeFile at hremove
  split at hremove
  next => exact absurd hremove (by simp)
  next => exact absurd hremove (by simp)
  next => exact absurd hremove (by simp)
  next k e hdir hchange =>
    split at hremove
    next => exact absurd hremove (by simp)
    -- the entry that is taken away is the one at the location
    have hsame : l = k := by
      refine Decidable.byContradiction (fun hne => ?_)
      have hgone := get?_erase_of_ne s hne
      rw [Except.ok.inj hremove, get?_erase_self, hget] at hgone
      exact absurd hgone (by simp)
    subst hsame
    obtain rfl := Option.some.inj ((get?_of_find hchange hdir).symm.trans hget)
    obtain ⟨-, hfile⟩ := Place.entry.inj (find_read_of_change hchange hfind)
    exact Entry.file.inj hfile ▸ hdecode

end Files

end ScriptWeave
