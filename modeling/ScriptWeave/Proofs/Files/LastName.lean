/-
  ScriptWeave.Proofs.Files.LastName
  ─────────────────────────────────
  **THE NAME THAT A PATH ENDS IN.**

  A path that ends in a name leads to what a directory has under that name.
  Unless a link is there, it does not matter what the path is followed for:
  what is written to it is what is read from it.

      s.find change p   =  what d has under the last name of p
      s.find purpose p  =  s.find change p         if no link is there

  So a file is written, or moved, to a location that has the last name of the
  path, and paths that end in different names lead to different files.
-/
import ScriptWeave.Proofs.Files.Tree

namespace ScriptWeave

/-! ## §1. The last name. -/

namespace Text

variable {sep : Char} {u v : Text}

/-- The last piece of a text ends as the text does. -/
theorem exists_splitOn_append (h : sep ∉ v) (u : Text) :
    ∃ front pieces, splitOn sep (u ++ v) = pieces ++ [front ++ v] := by
  by_cases hin : sep ∈ u
  · -- the last separator parts the text
    obtain ⟨after, before, hcut, hafter⟩ := List.eq_append_cons_of_mem (List.mem_reverse.mpr hin)
    have hu : u = before.reverse ++ sep :: after.reverse := by
      rw [← List.reverse_reverse u, hcut]
      simp
    have hlast : sep ∉ after.reverse ++ v := by
      rw [List.mem_append, List.mem_reverse]
      exact fun hmem => hmem.elim hafter h
    refine ⟨after.reverse, splitOn sep before.reverse, ?_⟩
    rw [hu, List.append_assoc, List.cons_append, splitOn_append_cons_sep, splitOn_of_not_mem hlast]
  · have hlast : sep ∉ u ++ v := fun hmem => (List.mem_append.mp hmem).elim hin h
    exact ⟨u, [], splitOn_of_not_mem hlast⟩

end Text

namespace Files

/-- Whether a path ends in a name. -/
structure EndsIn (p base : Text) : Prop where
  ne_nil : base ≠ []
  split : ∃ names, Text.splitOn '/' p = names ++ [base]

variable {s s' : Files} {purpose : Purpose}
  {viaLink viaLink' : Location → List Text → Except IoError Place}
  {cur d l m : Location} {p q base base' : Text} {names : List Text} {place : Place} {e : Entry}
  {b : ByteArray} {t : Text}

namespace EndsIn

theorem not_endsInSlash (h : EndsIn p base) : endsInSlash p = false := by
  obtain ⟨names, hsplit⟩ := h.split
  rw [endsInSlash, beq_eq_false_iff_ne]
  intro hslash
  obtain ⟨r, rfl⟩ := List.getLast?_eq_some_iff.mp hslash
  rw [Text.splitOn_append_cons_sep] at hsplit
  obtain ⟨-, hbase⟩ := List.append_inj' hsplit rfl
  exact h.ne_nil (List.cons.inj hbase).1.symm

/-- The file name of a path is the name that it ends in. -/
theorem fileName?_eq (h : EndsIn p base) (hhere : base ≠ ['.']) (hup : base ≠ ['.', '.']) :
    Path.fileName? p = some base := by
  obtain ⟨names, hsplit⟩ := h.split
  have hkept : [(base, 0 + names.length)].filter
        (fun n => !n.1.isEmpty && (n.1 != ['.'] || n.2 == 0)) = [(base, 0 + names.length)] :=
    List.filter_cons_of_pos (by simp [h.ne_nil, hhere])
  have hparts : (Path.parts p).getLast? = some base := by
    unfold Path.parts
    dsimp only
    rw [hsplit, List.zipIdx_append, List.zipIdx_singleton, List.filter_append, hkept, List.map_append]
    exact List.getLast?_concat
  rw [Path.fileName?, hparts]
  simp [hhere, hup]

end EndsIn

/-! ## §2. Where a path leads. -/

/-- A path that ends in a name leads to what a directory has under the name, and does so whatever
it is followed for, if no link is there. -/
theorem followNames_concat (hbase : base ≠ [])
    (hvia : ∀ cur names place, viaLink cur (names ++ [base]) = .ok place →
      (∀ l, place ≠ .entry l .dir) →
      (∃ d, place = s.placeIn d base false)
        ∧ ((∀ l t, place ≠ .entry l (.link t)) → viaLink' cur (names ++ [base]) = .ok place))
    (h : s.followNames .change viaLink cur (names ++ [base]) = .ok place)
    (hend : ∀ l, place ≠ .entry l .dir) :
    (∃ d, place = s.placeIn d base false)
      ∧ ((∀ l t, place ≠ .entry l (.link t)) →
        s.followNames purpose viaLink' cur (names ++ [base]) = .ok place) := by
  induction names generalizing cur with
  | nil =>
    rw [List.nil_append] at h ⊢
    cases followNames_turn h with
    | here _ hrest => exact absurd (Except.ok.inj hrest).symm (hend cur)
    | up hrest => exact absurd (Except.ok.inj hrest).symm (hend _)
    | last hname hlast =>
      rw [followNames_change_last hname hlast] at h
      obtain rfl := Except.ok.inj h
      refine ⟨⟨cur, rfl⟩, fun hlink => ?_⟩
      refine followNames_last hname (fun t ht => hlink (cur ++ [base]) t ?_)
      exact placeIn_of_some ht _
    | dir _ hlast => exact Bool.noConfusion hlast
    | link _ hlast => exact Bool.noConfusion hlast
  | cons name rest ih =>
    rw [List.cons_append] at h ⊢
    cases followNames_turn h with
    | here hname hrest =>
      rw [followNames_here hname]
      exact ih hrest
    | up hrest =>
      rw [followNames_up]
      exact ih hrest
    | last _ hlast =>
      -- the name that the path ends in is behind this one
      exact absurd hlast (by simp [List.all_append, hbase])
    | dir hname hlast hget hrest =>
      rw [followNames_inner hname hlast, hget]
      exact ih hrest
    | link hname hlast target hget htarget hrest =>
      rw [followNames_inner hname hlast, hget]
      dsimp only
      rw [if_neg htarget, ← List.append_assoc]
      rw [← List.append_assoc] at hrest
      exact hvia _ _ _ hrest hend

theorem followLinks_concat (purpose : Purpose) (hbase : base ≠ []) (links : Nat)
    (h : s.followLinks .change links cur (names ++ [base]) = .ok place)
    (hend : ∀ l, place ≠ .entry l .dir) :
    (∃ d, place = s.placeIn d base false)
      ∧ ((∀ l t, place ≠ .entry l (.link t)) →
        s.followLinks purpose links cur (names ++ [base]) = .ok place) := by
  induction links generalizing cur names place with
  | zero => exact followNames_concat hbase (fun _ _ _ hvia => absurd hvia (by simp)) h hend
  | succ links ih => exact followNames_concat hbase (fun _ _ _ hvia hend => ih hvia hend) h hend

/-- **A path that ends in a name leads to what a directory has under it.** -/
theorem find_endsIn (hp : EndsIn p base) (h : s.find .change p = .ok place)
    (hend : ∀ l, place ≠ .entry l .dir) :
    (∃ d, place = s.placeIn d base false)
      ∧ ((∀ l t, place ≠ .entry l (.link t)) → ∀ purpose, s.find purpose p = .ok place) := by
  obtain ⟨hne, hnul, hfits, hlinks⟩ := find_eq_ok_iff.mp h
  obtain ⟨names, hsplit⟩ := hp.split
  rw [hsplit] at hlinks
  refine ⟨(followLinks_concat .change hp.ne_nil linkLimit hlinks hend).1, ?_⟩
  intro hlink purpose
  refine find_eq_ok_iff.mpr ⟨hne, hnul, hfits, ?_⟩
  rw [hsplit]
  exact (followLinks_concat purpose hp.ne_nil linkLimit hlinks hend).2 hlink

/-- A file has the name that a path to it ends in. -/
theorem HasFile.exists_eq_concat (h : s.HasFile p b l) (hp : EndsIn p base) :
    ∃ d, l = d ++ [base] := by
  obtain ⟨⟨d, hplace⟩, -⟩ := find_endsIn hp h (by simp)
  exact ⟨d, (placeIn_eq_entry_iff.mp hplace.symm).1⟩

/-- What a path leads to when it is followed for a change is read from it. -/
theorem HasFile.readText (h : s.HasFile p (Text.encode t) l) (hp : EndsIn p base) :
    s.readText p = .ok t := by
  have hread := (find_endsIn hp h (by simp)).2 (by simp) .read
  exact readText_eq_ok_iff.mpr
    ⟨_, readBytes_eq_ok_iff.mpr ⟨l, hread⟩, Text.decode?_encode t⟩

/-- A path leads to a file that stays where it is. -/
theorem HasFile.of_keepsWays (h : s.HasFile p b l) (hways : s.KeepsWays s')
    (hget : s'.get? l = s.get? l) : s'.HasFile p b l :=
  hways.find_entry h (by simp) (hget.trans (get?_of_find h (by simp)))

/-! ## §3. Writing a file. -/

/-- Where a file can be, another takes its place without changing any way. -/
theorem keepsWays_of_mayHoldFile (hfile : s.MayHoldFile l)
    (helse : ∀ k, k ≠ l → (∀ b, s.get? k ≠ some (.file b)) → s'.get? k = s.get? k) :
    s.KeepsWays s' := by
  intro k e hk hne
  have hkl : k ≠ l := by
    rintro rfl
    obtain ⟨b, rfl⟩ := hfile e hk
    exact hne b rfl
  refine (helse k hkl ?_).trans hk
  intro b hb
  exact hne b (Option.some.inj (hk.symm.trans hb))

/-- In a tree, what comes to a directory leaves a tree, if all else that is there was there. -/
theorem IsTree.of_keepsWays (htree : s.IsTree) (hways : s.KeepsWays s')
    (hnew : ∀ d name, s'.get? (d ++ [name]) ≠ none → s.get? (d ++ [name]) ≠ none ∨ s.HasDir d) :
    s'.IsTree := by
  intro d name hget
  have hdir : s.HasDir d := (hnew d name hget).elim (htree d name) id
  exact hdir.imp_right (fun hd => hways d .dir hd (by simp))

/-- A directory, and the location in it at which a file is put for a path that ends in a name. -/
structure Takes (s : Files) (p base : Text) (d : Location) : Prop where
  place : s.find .change p = .ok (s.placeIn d base false)
  mayHoldFile : s.MayHoldFile (d ++ [base])

namespace Takes

/-- In a tree the directory is one. -/
theorem hasDir (h : s.Takes p base d) (htree : s.IsTree) : s.HasDir d := by
  cases hget : s.get? (d ++ [base]) with
  | none => exact htree.find_vacant (placeIn_of_none hget false ▸ h.place)
  | some e => exact htree d base (by rw [hget]; simp)

/-- The path leads to the file that comes there. -/
theorem hasFile (h : s.Takes p base d) (hways : s.KeepsWays s')
    (hget : s'.get? (d ++ [base]) = some (.file b)) : s'.HasFile p b (d ++ [base]) := by
  have hplace := h.place
  cases hbefore : s.get? (d ++ [base]) with
  | none =>
    rw [placeIn_of_none hbefore] at hplace
    exact hways.find_new hplace hget
  | some e =>
    rw [placeIn_of_some hbefore] at hplace
    obtain ⟨u, rfl⟩ := h.mayHoldFile e hbefore
    obtain ⟨d', name, slash, hplace', hfind⟩ := hways.find hplace (by simp)
    obtain ⟨hat, -⟩ := placeIn_eq_entry_iff.mp hplace'.symm
    rw [hat] at hget ⊢
    rw [HasFile, hfind, placeIn_of_some hget]

end Takes

/-- A file is put where the path leads, unless a link is there. -/
theorem takes_of_find (hp : EndsIn p base) (h : s.find .change p = .ok place)
    (hend : ∀ l, place ≠ .entry l .dir) (hlink : ∀ l t, place ≠ .entry l (.link t)) :
    ∃ d, s.Takes p base d ∧ place = s.placeIn d base false := by
  obtain ⟨⟨d, rfl⟩, -⟩ := find_endsIn hp h hend
  refine ⟨d, ⟨h, fun e he => ?_⟩, rfl⟩
  cases e with
  | file b => exact ⟨b, rfl⟩
  | dir => exact absurd (placeIn_of_some he false) (hend _)
  | link t => exact absurd (placeIn_of_some he false) (hlink _ t)

/-- **A file is written where the path leads**, unless a link is there. -/
theorem writeBytes_endsIn (hp : EndsIn p base)
    (hlink : ∀ l u, s.find .change p ≠ .ok (.entry l (.link u))) (h : s.writeBytes p b = .ok s') :
    ∃ d, s.Takes p base d ∧ s' = s.put (d ++ [base]) (.file b) := by
  rw [writeBytes] at h
  cases hfind : s.find .write p with
  | error e =>
    rw [hfind] at h
    exact absurd h (by simp)
  | ok place =>
    rw [hfind] at h
    have hend : ∀ l, place ≠ .entry l .dir := by
      rintro l rfl
      exact absurd h (by simp)
    -- the path is followed for a change to an entry or a vacant place, and to the same for writing
    have hchange : ∃ place', s.find .change p = .ok place' ∧ ∀ l, place' ≠ .entry l .dir := by
      obtain ⟨hne, hnul, hfits, hlinks⟩ := find_eq_ok_iff.mp hfind
      rcases followLinks_write linkLimit hlinks hend with ⟨d, name, rfl, hvacant⟩ | ⟨l, e, hentry, hdir⟩
      · exact ⟨_, find_eq_ok_iff.mpr ⟨hne, hnul, hfits, hvacant⟩, by simp⟩
      · exact ⟨_, find_eq_ok_iff.mpr ⟨hne, hnul, hfits, hentry⟩,
          fun _ h => hdir (Place.entry.inj h).2⟩
    obtain ⟨place', hplace', hend'⟩ := hchange
    have hlink' : ∀ l u, place' ≠ .entry l (.link u) := fun l u h => hlink l u (h ▸ hplace')
    obtain rfl : place' = place :=
      Except.ok.inj (((find_endsIn hp hplace' hend').2 hlink' .write).symm.trans hfind)
    obtain ⟨d, htakes, rfl⟩ := takes_of_find hp hplace' hend hlink'
    refine ⟨d, htakes, ?_⟩
    cases hget : s.get? (d ++ [base]) with
    | none =>
      rw [placeIn_of_none hget] at h
      exact (Except.ok.inj h).symm
    | some e =>
      obtain ⟨u, rfl⟩ := htakes.mayHoldFile e hget
      rw [placeIn_of_some hget] at h
      exact (Except.ok.inj h).symm

/-- What a file that is put there leaves. -/
theorem Takes.put (h : s.Takes p base d) (htree : s.IsTree) (b : ByteArray) :
    s.KeepsWays (s.put (d ++ [base]) (.file b)) ∧ (s.put (d ++ [base]) (.file b)).IsTree
      ∧ (s.put (d ++ [base]) (.file b)).HasFile p b (d ++ [base]) := by
  have hways : s.KeepsWays (s.put (d ++ [base]) (.file b)) :=
    keepsWays_of_mayHoldFile h.mayHoldFile (fun k hk _ => get?_put_of_ne s _ hk)
  refine ⟨hways, htree.of_keepsWays hways ?_, h.hasFile hways (get?_put_self _ _ _)⟩
  intro d' name hget
  by_cases hat : d' ++ [name] = d ++ [base]
  · obtain ⟨rfl, -⟩ := List.append_inj' hat rfl
    exact Or.inr (h.hasDir htree)
  · exact Or.inl (get?_put_of_ne s _ hat ▸ hget)

/-! ## §4. Removing and moving a file. -/

/-- A tree without one of its files is a tree. -/
theorem IsTree.erase (htree : s.IsTree) (hfile : s.MayHoldFile l) : (s.erase l).IsTree := by
  have hways : s.KeepsWays (s.erase l) :=
    keepsWays_of_mayHoldFile hfile (fun k hk _ => get?_erase_of_ne s hk)
  refine htree.of_keepsWays hways (fun d name hget => Or.inl ?_)
  have hne : d ++ [name] ≠ l := by
    rintro rfl
    exact hget (get?_erase_self _ _)
  rwa [get?_erase_of_ne s hne] at hget

/-- A file that is moved to where it is stays. -/
theorem moveTree_self (s : Files) (l : Location) : s.moveTree l l = s := by
  have hstays : s.entries.map (fun x => if l.isPrefixOf x.1 then (l ++ x.1.drop l.length, x.2) else x)
      = s.entries := by
    refine (List.map_congr_left (fun x _ => ?_)).trans (List.map_id _)
    split
    next h =>
      obtain ⟨names, hx⟩ := List.isPrefixOf_iff_prefix.mp h
      rw [← hx, List.drop_left, hx]
      rfl
    next => rfl
  rw [moveTree, if_pos rfl, hstays]

/-- What is moved takes the place of what is there. -/
theorem moveTree_eraseTree (hne : l ≠ m) : (s.eraseTree m).moveTree l m = s.moveTree l m := by
  have htwice : (s.eraseTree m).eraseTree m = s.eraseTree m := by
    simp [eraseTree, List.filter_filter]
  rw [moveTree, moveTree, if_neg hne, if_neg hne, htwice]

/-- Nothing but the file itself is taken away with a file. -/
theorem IsTree.eraseTree_eq_erase (htree : s.IsTree) (hdir : ¬s.HasDir l) :
    s.eraseTree l = s.erase l := by
  have hsame : s.entries.filter (fun x => !l.isPrefixOf x.1) = s.entries.filter (fun x => x.1 != l) := by
    refine List.filter_congr (fun x hx => ?_)
    by_cases hat : x.1 = l
    · simp [hat]
    · have hnot : l.isPrefixOf x.1 = false := by
        rw [← Bool.not_eq_true, List.isPrefixOf_iff_prefix]
        exact fun hin => hat (htree.eq_of_prefix hdir hx hin)
      rw [hnot, bne_iff_ne.mpr hat]
      rfl
  rw [eraseTree, hsame, Files.erase]

/-- **A file that is moved to where a path leads is there**, and nothing else has changed. -/
theorem Takes.get?_moveTree (h : s.Takes q base d) (htree : s.IsTree) (hp : s.HasFile p b l) :
    (s.moveTree l (d ++ [base])).get? m
      = if m = d ++ [base] then some (.file b) else if m = l then none else s.get? m := by
  have hfile : s.get? l = some (.file b) := get?_of_find hp (by simp)
  by_cases hsame : l = d ++ [base]
  · rw [← hsame, moveTree_self]
    split
    next hm => rw [hm, hfile]
    next => rfl
  have hnotDir : ∀ {k}, s.MayHoldFile k → k ≠ [] → ¬s.HasDir k := by
    rintro k hk hne (hnil | hdir)
    · exact hne hnil
    · obtain ⟨u, hu⟩ := hk _ hdir
      exact absurd hu (by simp)
  -- first the place is cleared, and then the file is moved
  have hcleared : s.moveTree l (d ++ [base]) = (s.erase (d ++ [base])).moveTree l (d ++ [base]) := by
    rw [← htree.eraseTree_eq_erase (hnotDir h.mayHoldFile (by simp)), moveTree_eraseTree hsame]
  have hl : ¬(s.erase (d ++ [base])).HasDir l := by
    rintro (hnil | hdir)
    · exact find_entry_ne_nil hp (by simp) hnil
    · rw [get?_erase_of_ne s hsame, hfile] at hdir
      exact absurd hdir (by simp)
  rw [hcleared, (htree.erase h.mayHoldFile).get?_moveTree hl (get?_erase_self _ _) (by simp) hsame,
    get?_erase_of_ne s hsame, hfile]
  split
  next => rfl
  next hm => rw [get?_erase_of_ne s hm]

/-- What a file that is moved there leaves. -/
theorem Takes.moveTree (h : s.Takes q base d) (htree : s.IsTree) (hp : s.HasFile p b l) :
    s.KeepsWays (s.moveTree l (d ++ [base])) ∧ (s.moveTree l (d ++ [base])).IsTree
      ∧ (s.moveTree l (d ++ [base])).HasFile q b (d ++ [base]) := by
  have hget (k : Location) := h.get?_moveTree (m := k) htree hp
  have hways : s.KeepsWays (s.moveTree l (d ++ [base])) := by
    refine keepsWays_of_mayHoldFile h.mayHoldFile (fun k hk hfile => ?_)
    have hkl : k ≠ l := by
      rintro rfl
      exact hfile b (get?_of_find hp (by simp))
    rw [hget, if_neg hk, if_neg hkl]
  refine ⟨hways, htree.of_keepsWays hways ?_, h.hasFile hways (by rw [hget, if_pos rfl])⟩
  intro d' name hthere
  rw [hget] at hthere
  split at hthere
  next hat =>
    obtain ⟨rfl, -⟩ := List.append_inj' hat rfl
    exact Or.inr (h.hasDir htree)
  next =>
    split at hthere
    next => exact absurd rfl hthere
    next => exact Or.inl hthere

/-- **A file is moved where the path leads**, unless a link is there. -/
theorem rename_endsIn (hp : s.HasFile p b l) (hq : EndsIn q base)
    (hlink : ∀ m u, s.find .change q ≠ .ok (.entry m (.link u))) (h : s.rename p q = .ok s') :
    ∃ d, s.Takes q base d ∧ s' = s.moveTree l (d ++ [base]) := by
  unfold rename at h
  rw [show s.find .change p = .ok (.entry l (.file b)) from hp] at h
  cases hfind : s.find .change q with
  | error e =>
    rw [hfind] at h
    exact absurd h (by simp)
  | ok place =>
    rw [hfind] at h
    have hend : ∀ m, place ≠ .entry m .dir := by
      rintro m rfl
      exact absurd h (by simp)
    obtain ⟨d, htakes, rfl⟩ := takes_of_find hq hfind hend (fun m u hu => hlink m u (hu ▸ hfind))
    refine ⟨d, htakes, ?_⟩
    cases hget : s.get? (d ++ [base]) with
    | none =>
      rw [placeIn_of_none hget] at h
      dsimp only at h
      split at h
      next => exact absurd h (by simp)
      next => exact (Except.ok.inj h).symm
    | some e =>
      obtain ⟨u, rfl⟩ := htakes.mayHoldFile e hget
      rw [placeIn_of_some hget] at h
      dsimp only at h
      split at h
      next => exact absurd h (by simp)
      next => exact (Except.ok.inj h).symm

end Files

end ScriptWeave
