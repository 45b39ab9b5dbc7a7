/-
  ScriptWeave.Proofs.Files.Tree
  ─────────────────────────────
  **DIRECTORIES ARE MADE AND FILES ARE MOVED IN A TREE.**

  In a tree every entry stands in a directory.  So nothing is below a file,
  nor below a location where nothing is: a directory that is made is empty,
  and a file that is moved takes nothing with it.

      (s.moveTree l m).get? k  =  the file    for k = m
                                  nothing     for k = l
                                  s.get? k    else

  Making a directory with those above it adds directories and changes
  nothing else, even where it fails on the way.
-/
import Mathlib.Data.List.Induction
import ScriptWeave.Proofs.Files.Walks

namespace ScriptWeave

namespace Files

variable {s s' s'' : Files} {purpose : Purpose}
  {viaLink : Location → List Text → Except IoError Place}
  {cur d k l m : Location} {name p : Text} {names : List Text} {e : Entry} {b : ByteArray}
  {slash : Bool}

/-! ## §1. Trees. -/

/-- Whether a location is the working directory or holds a directory. -/
def HasDir (s : Files) (l : Location) : Prop := l = [] ∨ s.get? l = some .dir

/-- Whether every entry stands in a directory. -/
def IsTree (s : Files) : Prop := ∀ d name, s.get? (d ++ [name]) ≠ none → s.HasDir d

/-- A store is a tree if its entries stand in directories. -/
theorem isTree_of_entries
    (h : ∀ x ∈ s.entries, x.1.dropLast = [] ∨ s.get? x.1.dropLast = some .dir) : s.IsTree := by
  intro d name hget
  obtain ⟨e, he⟩ := Option.ne_none_iff_exists'.mp hget
  obtain ⟨before, behind, hentries, -⟩ := List.lookup_eq_some_iff.mp he
  have hdir := h (d ++ [name], e) (by rw [hentries]; simp)
  rwa [List.dropLast_concat] at hdir

/-- In a tree there is nothing below a location without a directory. -/
theorem IsTree.get?_below (htree : s.IsTree) (hdir : ¬s.HasDir l) {names : List Text}
    (hne : names ≠ []) : s.get? (l ++ names) = none := by
  induction names using List.reverseRecOn with
  | nil => exact absurd rfl hne
  | append_singleton names name ih =>
    by_contra hget
    rw [← List.append_assoc] at hget
    cases htree _ _ hget with
    | inl hnil => exact hdir (Or.inl (List.append_eq_nil_iff.mp hnil).1)
    | inr hhas =>
      cases names with
      | nil =>
        rw [List.append_nil] at hhas
        exact hdir (Or.inr hhas)
      | cons n names => exact absurd (hhas.symm.trans (ih (List.cons_ne_nil _ _))) (by simp)

theorem IsTree.hasDir_dropLast (htree : s.IsTree) (h : s.HasDir l) : s.HasDir l.dropLast := by
  cases l using List.reverseRecOn with
  | nil => exact Or.inl rfl
  | append_singleton l name =>
    rw [List.dropLast_concat]
    refine htree l name ?_
    rcases h with hnil | hget
    · exact absurd hnil (by simp)
    · rw [hget]
      simp

/-- A vacant place is in a directory. -/
theorem IsTree.followNames_vacant (htree : s.IsTree)
    (hvia : ∀ cur names, s.HasDir cur → viaLink cur names = .ok (.vacant d name slash) → s.HasDir d)
    (hcur : s.HasDir cur) (h : s.followNames .change viaLink cur names = .ok (.vacant d name slash)) :
    s.HasDir d := by
  induction names generalizing cur with
  | nil => exact absurd (Except.ok.inj h) (by simp)
  | cons t rest ih =>
    cases followNames_turn h with
    | here _ hrest => exact ih hcur hrest
    | up hrest => exact ih (htree.hasDir_dropLast hcur) hrest
    | last ht hlast =>
      rw [followNames_change_last ht hlast, placeIn] at h
      split at h
      next => exact absurd (Except.ok.inj h) (by simp)
      next => exact (Place.vacant.inj (Except.ok.inj h)).1 ▸ hcur
    | dir _ _ hget hrest => exact ih (Or.inr hget) hrest
    | link _ _ target _ _ hrest =>
      refine hvia _ _ ?_ hrest
      split
      next => exact Or.inl rfl
      next => exact hcur

theorem IsTree.followLinks_vacant (htree : s.IsTree) (links : Nat) (hcur : s.HasDir cur)
    (h : s.followLinks .change links cur names = .ok (.vacant d name slash)) : s.HasDir d := by
  induction links generalizing cur names with
  | zero => exact htree.followNames_vacant (fun _ _ _ hvia => absurd hvia (by simp)) hcur h
  | succ links ih => exact htree.followNames_vacant (fun _ _ hcur hvia => ih hcur hvia) hcur h

theorem IsTree.find_vacant (htree : s.IsTree) (h : s.find .change p = .ok (.vacant d name slash)) :
    s.HasDir d := by
  obtain ⟨-, -, -, hlinks⟩ := find_eq_ok_iff.mp h
  exact htree.followLinks_vacant linkLimit (Or.inl rfl) hlinks

/-! ## §2. Making directories. -/

/-- Whether a store has what another has, and besides only more directories. -/
def AddsDirs (s s' : Files) : Prop :=
  ∀ l, s'.get? l = s.get? l ∨ (s.get? l = none ∧ s'.get? l = some .dir)

namespace AddsDirs

theorem refl (s : Files) : s.AddsDirs s := fun _ => Or.inl rfl

theorem trans (h : s.AddsDirs s') (h' : s'.AddsDirs s'') : s.AddsDirs s'' := by
  intro l
  rcases h' l with hsame' | ⟨hnone', hdir'⟩
  · rw [hsame']
    exact h l
  · rcases h l with hsame | ⟨-, hdir⟩
    · exact Or.inr ⟨hsame ▸ hnone', hdir'⟩
    · exact absurd (hnone'.symm.trans hdir) (by simp)

/-- What was there is there. -/
theorem get?_of_some (h : s.AddsDirs s') (hget : s.get? l = some e) : s'.get? l = some e := by
  rcases h l with hsame | ⟨hnone, -⟩
  · exact hsame.trans hget
  · exact absurd (hnone.symm.trans hget) (by simp)

/-- Where there is nothing, there was nothing. -/
theorem get?_of_none (h : s.AddsDirs s') (hget : s'.get? l = none) : s.get? l = none := by
  rcases h l with hsame | ⟨hnone, -⟩
  · exact hsame ▸ hget
  · exact hnone

theorem keepsWays (h : s.AddsDirs s') : s.KeepsWays s' := fun _ _ hget _ => h.get?_of_some hget

/-- A path to a file or a link leads there still. -/
theorem find_entry (h : s.AddsDirs s') (hfind : s.find .change p = .ok (.entry l e))
    (hdir : e ≠ .dir) : s'.find .change p = .ok (.entry l e) :=
  h.keepsWays.find_entry hfind hdir (h.get?_of_some (get?_of_find hfind hdir))

end AddsDirs

/-- Whether two stores differ only in what is gone, in new directories, and in what else is new,
where there was nothing. -/
def OnlyChanges (s s' : Files) (gone new : Location → Prop) : Prop :=
  ∀ l, s'.get? l = s.get? l ∨ (s.get? l = none ∧ (s'.get? l = some .dir ∨ new l))
    ∨ (gone l ∧ s'.get? l = none)

theorem AddsDirs.onlyChanges (h : s.AddsDirs s') (gone new : Location → Prop) :
    s.OnlyChanges s' gone new :=
  fun l => (h l).imp_right (fun ⟨hnone, hdir⟩ => Or.inl ⟨hnone, Or.inl hdir⟩)

theorem makeDir_eq_ok (h : s.makeDir p = .ok s') :
    ∃ d name slash, s.find .change p = .ok (.vacant d name slash) ∧ s' = s.put (d ++ [name]) .dir := by
  unfold makeDir at h
  split at h
  next => exact absurd h (by simp)
  next => exact absurd h (by simp)
  next d name slash hfind => exact ⟨d, name, slash, hfind, (Except.ok.inj h).symm⟩

theorem addsDirs_makeDir (h : s.makeDir p = .ok s') : s.AddsDirs s' := by
  obtain ⟨d, name, slash, hfind, rfl⟩ := makeDir_eq_ok h
  have hnone : s.get? (d ++ [name]) = none := find_holds hfind
  intro l
  by_cases hl : l = d ++ [name]
  · rw [hl]
    exact Or.inr ⟨hnone, get?_put_self _ _ _⟩
  · exact Or.inl (get?_put_of_ne s _ hl)

theorem IsTree.makeDir (htree : s.IsTree) (h : s.makeDir p = .ok s') : s'.IsTree := by
  have hadds := addsDirs_makeDir h
  obtain ⟨d, name, slash, hfind, rfl⟩ := makeDir_eq_ok h
  intro d' name' hget
  have hbefore : s.HasDir d' := by
    by_cases hat : d' ++ [name'] = d ++ [name]
    · obtain ⟨rfl, -⟩ := List.append_inj' hat rfl
      exact htree.find_vacant hfind
    · exact htree d' name' (get?_put_of_ne s .dir hat ▸ hget)
  exact hbefore.imp_right hadds.get?_of_some

/-- What making one directory keeps, making several keeps. -/
theorem makeDirs_keeps (inv : Files → Prop) (hstep : ∀ s s' p, inv s → s.makeDir p = .ok s' → inv s')
    (fuel : Nat) (p : Text) (h : inv s) : inv (s.makeDirs fuel p).2 := by
  induction fuel generalizing s p with
  | zero => exact h
  | succ fuel ih =>
    unfold makeDirs
    split
    next => exact h
    split
    next s' hmake => exact hstep _ _ _ h hmake
    next q hmissing _ =>
      -- the directories above come first, and then another attempt
      have habove := ih q h
      split
      next e s' hfail => exact hfail ▸ habove
      next s' hdone =>
        rw [hdone] at habove
        split
        next s'' hmake => exact hstep _ _ _ habove hmake
        next => split <;> exact habove
    next => split <;> exact h

/-- **Making a directory with those above it adds directories and nothing else.** -/
theorem addsDirs_makeDirAll (s : Files) (p : Text) : s.AddsDirs (s.makeDirAll p).2 :=
  makeDirs_keeps s.AddsDirs (fun _ _ _ h hmake => h.trans (addsDirs_makeDir hmake)) _ p
    (AddsDirs.refl s)

theorem IsTree.makeDirAll (htree : s.IsTree) (p : Text) : (s.makeDirAll p).2.IsTree :=
  makeDirs_keeps IsTree (fun _ _ _ h hmake => h.makeDir hmake) _ p htree

/-! ## §3. Moving a file. -/

theorem lookup_cons_eq (n : Location) (e : Entry) (xs : List (Location × Entry)) :
    ((n, e) :: xs).lookup k = if k = n then some e else xs.lookup k := by
  by_cases hk : k = n
  · rw [if_pos hk, hk, List.lookup_cons_self]
  · have hbeq : (k == n) = false := beq_eq_false_iff_ne.mpr hk
    rw [if_neg hk, List.lookup_cons, hbeq]

theorem lookup_map_moved (xs : List (Location × Entry)) (hm : ∀ x ∈ xs, x.1 ≠ m) (hlm : l ≠ m) :
    (xs.map (fun x => if x.1 = l then (m, x.2) else x)).lookup k
      = if k = m then xs.lookup l else if k = l then none else xs.lookup k := by
  induction xs with
  | nil => simp
  | cons x xs ih =>
    obtain ⟨n, e⟩ := x
    have hn : n ≠ m := hm (n, e) List.mem_cons_self
    have hrest := ih (fun x hx => hm x (List.mem_cons_of_mem _ hx))
    by_cases hnl : n = l
    · subst hnl
      simp only [List.map_cons, if_true, lookup_cons_eq, hrest]
      by_cases hkm : k = m <;> by_cases hkn : k = n <;> simp [hkm, hkn, hn]
    · have hln : ¬l = n := fun h => hnl h.symm
      simp only [List.map_cons, if_neg hnl, lookup_cons_eq, hrest, if_neg hln]
      by_cases hkm : k = m
      · have hmn : ¬m = n := fun h => hn h.symm
        simp [hkm, hmn]
      · by_cases hkn : k = n
        · simp [hkn, hn, hnl]
        · simp [hkm, hkn]

theorem get?_ne_none_of_mem {x : Location × Entry} (hx : x ∈ s.entries) : s.get? x.1 ≠ none := by
  intro hnone
  have hself := List.lookup_eq_none_iff.mp hnone x hx
  simp at hself

/-- In a tree a location without a directory has nothing below it but itself. -/
theorem IsTree.eq_of_prefix (htree : s.IsTree) (hdir : ¬s.HasDir l) {x : Location × Entry}
    (hx : x ∈ s.entries) (hin : l <+: x.1) : x.1 = l := by
  obtain ⟨names, hx'⟩ := hin
  cases names with
  | nil => rw [← hx', List.append_nil]
  | cons t names =>
    exact absurd (hx' ▸ htree.get?_below hdir (List.cons_ne_nil t names)) (get?_ne_none_of_mem hx)

/-- **A file that is moved in a tree to a vacant location is there, and nothing else has
changed.** -/
theorem IsTree.get?_moveTree (htree : s.IsTree) (hl : ¬s.HasDir l) (hm : s.get? m = none)
    (hne : m ≠ []) (hlm : l ≠ m) :
    (s.moveTree l m).get? k = if k = m then s.get? l else if k = l then none else s.get? k := by
  have hmdir : ¬s.HasDir m := by
    rintro (hnil | hdir)
    · exact hne hnil
    · exact absurd (hm.symm.trans hdir) (by simp)
  have hmnone : ∀ x ∈ s.entries, x.1 ≠ m := fun x hx h => get?_ne_none_of_mem hx (h ▸ hm)
  -- nothing is at the new location or below it
  have herase : s.eraseTree m = s := by
    have hkeep : s.entries.filter (fun x => !m.isPrefixOf x.1) = s.entries := by
      refine List.filter_eq_self.mpr (fun x hx => ?_)
      rw [Bool.not_eq_true', ← Bool.not_eq_true, List.isPrefixOf_iff_prefix]
      exact fun hin => hmnone x hx (htree.eq_of_prefix hmdir hx hin)
    rw [eraseTree, hkeep]
  -- and nothing is below the old one
  have hmoved : s.entries.map (fun x => if l.isPrefixOf x.1 then (m ++ x.1.drop l.length, x.2) else x)
      = s.entries.map (fun x => if x.1 = l then (m, x.2) else x) := by
    refine List.map_congr_left (fun x hx => ?_)
    by_cases hat : x.1 = l
    · rw [if_pos hat, if_pos (by rw [hat]; simp), hat, List.drop_length, List.append_nil]
    · rw [if_neg hat, if_neg]
      rw [List.isPrefixOf_iff_prefix]
      exact fun hin => hat (htree.eq_of_prefix hl hx hin)
  rw [moveTree, if_neg hlm, herase, get?]
  dsimp only
  rw [hmoved]
  exact lookup_map_moved s.entries hmnone hlm

/-- **A file that is moved to a path is there**, and no path of it leads to a file any more. -/
theorem IsTree.moveTree {q : Text} (htree : s.IsTree)
    (hp : s.find .change p = .ok (.entry l (.file b)))
    (hq : s.find .change q = .ok (.vacant d name slash)) :
    (s.moveTree l (d ++ [name])).find .change q = .ok (.entry (d ++ [name]) (.file b))
      ∧ (s.moveTree l (d ++ [name])).NoFileAt p
      ∧ (s.moveTree l (d ++ [name])).get? l = none
      ∧ ∀ k, k ≠ l → k ≠ d ++ [name] → (s.moveTree l (d ++ [name])).get? k = s.get? k := by
  have hfile : s.get? l = some (.file b) := find_holds hp
  have hnone : s.get? (d ++ [name]) = none := find_holds hq
  have hdir : ¬s.HasDir l := by
    rintro (rfl | hdir)
    · exact find_entry_ne_nil hp (by simp) rfl
    · exact absurd (hfile.symm.trans hdir) (by simp)
  have hlm : l ≠ d ++ [name] := by
    rintro rfl
    exact absurd (hnone.symm.trans hfile) (by simp)
  have hget : ∀ k, (s.moveTree l (d ++ [name])).get? k
      = if k = d ++ [name] then s.get? l else if k = l then none else s.get? k :=
    fun k => htree.get?_moveTree hdir hnone (by simp) hlm
  have hgone : (s.moveTree l (d ++ [name])).get? l = none := by
    rw [hget, if_neg hlm, if_pos rfl]
  have helse : ∀ k, k ≠ l → k ≠ d ++ [name] → (s.moveTree l (d ++ [name])).get? k = s.get? k :=
    fun k hkl hkm => by rw [hget, if_neg hkm, if_neg hkl]
  have hways : s.KeepsWays (s.moveTree l (d ++ [name])) := by
    intro k e hk hne
    have hkl : k ≠ l := by
      rintro rfl
      exact hne b (Option.some.inj (hk.symm.trans hfile))
    have hkm : k ≠ d ++ [name] := by
      rintro rfl
      exact absurd (hnone.symm.trans hk) (by simp)
    rw [helse k hkl hkm, hk]
  refine ⟨?_, ?_, hgone, helse⟩
  · refine hways.find_new hq ?_
    rw [hget, if_pos rfl, hfile]
  · obtain ⟨d', name', slash', hfind⟩ := hways.find_gone hp (by simp) hgone
    exact noFileAt_of_vacant hfind

end Files

end ScriptWeave
