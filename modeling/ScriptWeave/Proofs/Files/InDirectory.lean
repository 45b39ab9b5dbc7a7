/-
  ScriptWeave.Proofs.Files.InDirectory
  ────────────────────────────────────
  **A FILE IN A DIRECTORY.**

  If a path leads to a directory, through whatever links, then the path with
  one more name leads to what the directory has under that name, whatever it
  is followed for.  So a file in it is read, written and removed at its one
  location.

      s.find read p = ok (entry d dir)
        →  s.find purpose (p / name)  =  what is at d ++ [name]

  Writing and removing it does not change where any path to a directory
  leads.
-/
import ScriptWeave.Proofs.Files.Writing

namespace ScriptWeave

namespace Files

variable {s : Files} {purpose : Purpose}
  {viaLink viaLink' : Location → List Text → Except IoError Place} {d : Location} {b : ByteArray}
  {dir name : Text}

/-! ## §1. One more name. -/

/-- Whether a text is a name that a file can have. -/
structure IsFileName (t : Text) : Prop extends IsName t where
  short : Text.byteSize t ≤ nameLimit
  no_nul : '\x00' ∉ t

theorem isFileName_iff {t : Text} : IsFileName t ↔
    (t ≠ [] ∧ t ≠ ['.'] ∧ t ≠ ['.', '.'] ∧ '/' ∉ t) ∧ Text.byteSize t ≤ nameLimit ∧ '\x00' ∉ t :=
  ⟨fun h => ⟨⟨h.ne_nil, h.ne_here, h.ne_up, h.no_slash⟩, h.short, h.no_nul⟩,
    fun ⟨⟨hnil, hhere, hup, hslash⟩, hshort, hnul⟩ => ⟨⟨hnil, hhere, hup, hslash⟩, hshort, hnul⟩⟩

instance (t : Text) : Decidable (IsFileName t) := decidable_of_iff _ isFileName_iff.symm

/-- What a directory has under a name, if it has no link there. -/
def placeAt (s : Files) (d : Location) (name : Text) : Place :=
  match s.get? (d ++ [name]) with
  | some e => .entry (d ++ [name]) e
  | none => .vacant d name false

/-- Whether a location holds a file or nothing. -/
def MayHoldFile (s : Files) (l : Location) : Prop := ∀ e, s.get? l = some e → ∃ b, e = .file b

/-- Whether there is no link at a location. -/
def HasNoLink (s : Files) (l : Location) : Prop := ∀ t, s.get? l ≠ some (.link t)

theorem MayHoldFile.hasNoLink {l : Location} (h : s.MayHoldFile l) : s.HasNoLink l := by
  intro t ht
  obtain ⟨b, hb⟩ := h _ ht
  exact absurd hb (by simp)

theorem followNames_single (hname : IsFileName name) (hlink : s.HasNoLink (d ++ [name])) :
    s.followNames purpose viaLink d [name] = .ok (s.placeAt d name) := by
  have hdot : ¬(decide (name = []) || decide (name = ['.'])) = true := by
    simp [hname.ne_nil, hname.ne_here]
  unfold followNames placeAt
  rw [if_neg hdot, if_neg hname.ne_up]
  dsimp only
  rw [if_neg (by simp), if_neg (Nat.not_lt.mpr hname.short)]
  cases hget : s.get? (d ++ [name]) with
  | none => rfl
  | some e =>
    cases e with
    | file b => rfl
    | dir => rfl
    | link t => exact absurd hget (hlink t)

/-- Names that are empty lead nowhere else. -/
theorem followNames_of_all_empty {cur : Location} {names : List Text} (h : ∀ t ∈ names, t = []) :
    s.followNames purpose viaLink cur names = .ok (.entry cur .dir) := by
  induction names with
  | nil => rfl
  | cons t names ih =>
    obtain rfl := h t List.mem_cons_self
    exact ih (fun u hu => h u (List.mem_cons_of_mem _ hu))

/-- Names that lead to a directory, with one more behind them in place of empty ones, lead
to what the directory has under it. -/
theorem followNames_append_name (hname : IsFileName name) (hlink : s.HasNoLink (d ++ [name]))
    {blank : List Text} (hblank : ∀ t ∈ blank, t = [])
    (hvia : ∀ cur names, viaLink cur (names ++ blank) = .ok (.entry d .dir) →
      viaLink' cur (names ++ [name]) = .ok (s.placeAt d name))
    {cur : Location} {names : List Text}
    (h : s.followNames .read viaLink cur (names ++ blank) = .ok (.entry d .dir)) :
    s.followNames purpose viaLink' cur (names ++ [name]) = .ok (s.placeAt d name) := by
  induction names generalizing cur with
  | nil =>
    rw [List.nil_append, followNames_of_all_empty hblank] at h
    obtain rfl := (Place.entry.inj (Except.ok.inj h)).1
    exact followNames_single hname hlink
  | cons t rest ih =>
    rw [List.cons_append] at h ⊢
    -- a name stands behind this one, so the purpose does not matter yet
    have hlast : ((rest ++ [name]).all (·.isEmpty)) = false := by
      simp [List.all_append, hname.ne_nil]
    have hrest : (rest ++ [name]).isEmpty = false := by simp
    unfold followNames at h ⊢
    split at h
    next hdot =>
      rw [if_pos hdot]
      exact ih h
    next hdot =>
    rw [if_neg hdot]
    split at h
    next hup =>
      rw [if_pos hup]
      exact ih h
    next hup =>
    rw [if_neg hup]
    dsimp only at h ⊢
    rw [hlast, hrest]
    split at h
    next => exact absurd h (by simp)
    rw [if_neg (by simp)]
    split at h
    next => exact absurd h (by simp)
    next hlong =>
    rw [if_neg hlong]
    cases hget : s.get? (cur ++ [t]) with
    | none =>
      rw [hget] at h
      dsimp only at h
      split at h <;> exact absurd h (by simp)
    | some e =>
      rw [hget] at h
      cases e with
      | file b =>
        dsimp only at h
        split at h <;> exact absurd h (by simp)
      | dir => exact ih h
      | link target =>
        dsimp only at h ⊢
        split at h
        next => exact absurd h (by simp)
        rw [if_neg (by simp)]
        split at h
        next => exact absurd h (by simp)
        next htarget =>
        rw [if_neg htarget, ← List.append_assoc]
        rw [← List.append_assoc] at h
        exact hvia _ _ h

theorem followLinks_append_name (hname : IsFileName name) (hlink : s.HasNoLink (d ++ [name]))
    {blank : List Text} (hblank : ∀ t ∈ blank, t = []) (links : Nat) {cur : Location}
    {names : List Text}
    (h : s.followLinks .read links cur (names ++ blank) = .ok (.entry d .dir)) :
    s.followLinks purpose links cur (names ++ [name]) = .ok (s.placeAt d name) := by
  induction links generalizing cur names with
  | zero =>
    exact followNames_append_name hname hlink hblank (fun _ _ hvia => absurd hvia (by simp)) h
  | succ links ih => exact followNames_append_name hname hlink hblank (fun _ _ hvia => ih hvia) h

/-! ## §2. Paths. -/

/-- A path with a name behind it, once with a slash between them and once without. -/
theorem join_cases (hdir : dir ≠ []) (hname : IsName name) :
    (∃ p, dir = p ++ ['/'] ∧ Path.join dir name = p ++ '/' :: name) ∨
      Path.join dir name = dir ++ '/' :: name := by
  have hrelative : Path.isAbsolute name = false := by
    rw [Path.isAbsolute, beq_eq_false_iff_ne]
    exact fun h => hname.no_slash (List.mem_of_mem_head? h)
  unfold Path.join
  rw [hrelative, Bool.false_or, List.isEmpty_eq_false_iff.mpr hdir, if_neg Bool.false_ne_true]
  split
  next hslash =>
    obtain ⟨p, rfl⟩ := List.getLast?_eq_some_iff.mp (beq_iff_eq.mp hslash)
    exact Or.inl ⟨p, rfl, by rw [List.append_assoc, List.singleton_append]⟩
  next => exact Or.inr rfl

theorem splitOn_joined (hdir : dir ≠ []) (hname : IsName name) :
    ∃ names blank, (∀ t ∈ blank, t = []) ∧ Text.splitOn '/' dir = names ++ blank ∧
      Text.splitOn '/' (Path.join dir name) = names ++ [name] := by
  obtain ⟨p, rfl, hjoin⟩ | hjoin := join_cases hdir hname
  · refine ⟨Text.splitOn '/' p, [[]], by simp, Text.splitOn_append_cons_sep p [], ?_⟩
    rw [hjoin, Text.splitOn_append_cons_sep, Text.splitOn_of_not_mem hname.no_slash]
  · refine ⟨Text.splitOn '/' dir, [], by simp, (List.append_nil _).symm, ?_⟩
    rw [hjoin, Text.splitOn_append_cons_sep, Text.splitOn_of_not_mem hname.no_slash]

/-- What a path with a name behind it consists of. -/
theorem mem_join (hdir : dir ≠ []) (hname : IsName name) {c : Char} (h : c ∈ Path.join dir name) :
    c ∈ dir ∨ c = '/' ∨ c ∈ name := by
  obtain ⟨p, rfl, hjoin⟩ | hjoin := join_cases hdir hname
  · rw [hjoin, List.mem_append, List.mem_cons] at h
    exact h.imp_left (List.mem_append_left _)
  · rwa [hjoin, List.mem_append, List.mem_cons] at h

/-- It ends as the name does. -/
theorem getLast?_join (hdir : dir ≠ []) (hname : IsName name) :
    (Path.join dir name).getLast? = name.getLast? := by
  have hends : ∀ t : Text, (t ++ '/' :: name).getLast? = name.getLast? := by
    intro t
    rw [List.append_cons, List.getLast?_append, List.getLast?_eq_some_getLast hname.ne_nil,
      Option.some_or]
  obtain ⟨p, -, hjoin⟩ | hjoin := join_cases hdir hname <;> rw [hjoin, hends]

/-- A path that a text can be written to is not too long. -/
theorem byteSize_lt_of_writeText {s' : Files} {p t : Text} (h : s.writeText p t = .ok s') :
    Text.byteSize p < pathLimit := by
  unfold writeText writeBytes at h
  cases hfind : s.find .write p with
  | error e =>
    rw [hfind] at h
    exact absurd h (by simp)
  | ok place =>
    obtain ⟨-, -, hfits, -⟩ := find_eq_ok_iff.mp hfind
    exact hfits

/-- **A name behind a path to a directory leads to what the directory has under it.** -/
theorem find_join (hdir : s.find .read dir = .ok (.entry d .dir)) (hname : IsFileName name)
    (hfits : Text.byteSize (Path.join dir name) < pathLimit) (hlink : s.HasNoLink (d ++ [name])) :
    s.find purpose (Path.join dir name) = .ok (s.placeAt d name) := by
  obtain ⟨hne, hnul, -, hlinks⟩ := find_eq_ok_iff.mp hdir
  obtain ⟨names, blank, hblank, hsplit, hsplit'⟩ := splitOn_joined hne hname.toIsName
  rw [hsplit] at hlinks
  refine find_eq_ok_iff.mpr ⟨?_, ?_, hfits, ?_⟩
  · intro h
    have hlast := getLast?_join hne hname.toIsName
    rw [h, List.getLast?_nil, eq_comm, List.getLast?_eq_none_iff] at hlast
    exact hname.ne_nil hlast
  · intro h
    rcases mem_join hne hname.toIsName h with hin | hslash | hin
    · exact hnul hin
    · exact absurd hslash (by decide)
    · exact hname.no_nul hin
  · rw [hsplit']
    exact followLinks_append_name hname hlink hblank linkLimit hlinks

/-! ## §3. Reading, writing and removing. -/

section Operations

variable (hdir : s.find .read dir = .ok (.entry d .dir)) (hname : IsFileName name)
  (hfits : Text.byteSize (Path.join dir name) < pathLimit)

include hdir hname hfits

/-- Nothing is read where nothing is. -/
theorem readText_join_of_none (hnone : s.get? (d ++ [name]) = none) :
    s.readText (Path.join dir name) = .error .missing := by
  have hfile : s.MayHoldFile (d ++ [name]) := fun e he => absurd (hnone.symm.trans he) (by simp)
  rw [readText, readBytes, entryAt, find_join hdir hname hfits hfile.hasNoLink, placeAt, hnone]

/-- A file is read. -/
theorem readText_join_of_text {t : Text}
    (hget : s.get? (d ++ [name]) = some (.file (Text.encode t))) :
    s.readText (Path.join dir name) = .ok t := by
  have hfile : s.MayHoldFile (d ++ [name]) :=
    fun e he => ⟨_, (Option.some.inj (hget.symm.trans he)).symm⟩
  rw [readText, readBytes, entryAt, find_join hdir hname hfits hfile.hasNoLink, placeAt, hget]
  dsimp only
  rw [Text.decode?_encode]

/-- A file is written. -/
theorem writeText_join (hfile : s.MayHoldFile (d ++ [name])) (t : Text) :
    s.writeText (Path.join dir name) t = .ok (s.put (d ++ [name]) (.file (Text.encode t))) := by
  rw [writeText, writeBytes, find_join hdir hname hfits hfile.hasNoLink, placeAt]
  cases hget : s.get? (d ++ [name]) with
  | none => rfl
  | some e =>
    obtain ⟨b, rfl⟩ := hfile e hget
    rfl

/-- What is written under a name that is no link goes there. -/
theorem writeText_join_eq_ok {t : Text} {s' : Files} (hlink : s.HasNoLink (d ++ [name]))
    (h : s.writeText (Path.join dir name) t = .ok s') :
    s' = s.put (d ++ [name]) (.file (Text.encode t)) ∧ s.MayHoldFile (d ++ [name]) := by
  rw [writeText, writeBytes, find_join hdir hname hfits hlink, placeAt] at h
  cases hget : s.get? (d ++ [name]) with
  | none =>
    rw [hget] at h
    exact ⟨(Except.ok.inj h).symm, fun e he => absurd (hget.symm.trans he) (by simp)⟩
  | some e =>
    rw [hget] at h
    cases e with
    | dir => exact absurd h (by simp)
    | link t => exact absurd hget (hlink t)
    | file b =>
      exact ⟨(Except.ok.inj h).symm, fun e he => ⟨b, Option.some.inj (he.symm.trans hget)⟩⟩

/-- A file is removed. -/
theorem removeFile_join (hget : s.get? (d ++ [name]) = some (.file b)) :
    s.removeFile (Path.join dir name) = .ok (s.erase (d ++ [name])) := by
  have hfile : s.MayHoldFile (d ++ [name]) :=
    fun e he => ⟨_, (Option.some.inj (hget.symm.trans he)).symm⟩
  obtain ⟨hne, -⟩ := find_eq_ok_iff.mp hdir
  have hslash : endsInSlash (Path.join dir name) = false := by
    rw [endsInSlash, getLast?_join hne hname.toIsName, beq_eq_false_iff_ne]
    exact fun h => hname.no_slash (List.mem_of_getLast? h)
  rw [removeFile, find_join hdir hname hfits hfile.hasNoLink, placeAt, hget]
  dsimp only
  rw [hslash]
  rfl

end Operations

/-! ## §4. Where files are written and removed. -/

variable {s' : Files} {p : Text} {l : Location}

/-- What is written goes to a location that may hold a file. -/
theorem exists_mayHoldFile_of_writeBytes (h : s.writeBytes p b = .ok s') :
    ∃ l, s' = s.put l (.file b) ∧ s.MayHoldFile l := by
  unfold writeBytes at h
  split at h
  next => exact absurd h (by simp)
  next => exact absurd h (by simp)
  next l e hfile hfind =>
    refine ⟨l, (Except.ok.inj h).symm, ?_⟩
    -- what is found to be written is a directory or a file, since links are followed
    have hholds := find_holds hfind
    intro e' he'
    cases e with
    | dir => exact absurd rfl hfile
    | file b' => exact ⟨b', Option.some.inj (he'.symm.trans hholds)⟩
    | link t => exact absurd hholds.2 (by simp)
  next => exact absurd h (by simp)
  next d name hfind =>
    have hnone : s.get? (d ++ [name]) = none := find_holds hfind
    exact ⟨d ++ [name], (Except.ok.inj h).symm, fun e he => absurd (hnone.symm.trans he) (by simp)⟩

/-- What is removed is no directory. -/
theorem exists_notDir_of_removeFile (h : s.removeFile p = .ok s') :
    ∃ l, s' = s.erase l ∧ s.get? l ≠ some .dir := by
  unfold removeFile at h
  split at h
  next => exact absurd h (by simp)
  next => exact absurd h (by simp)
  next => exact absurd h (by simp)
  next l e hfile hfind =>
    split at h
    next => exact absurd h (by simp)
    next =>
      refine ⟨l, (Except.ok.inj h).symm, ?_⟩
      have hholds := find_holds hfind
      intro hdir
      cases e with
      | dir => exact absurd rfl hfile
      | file b' => exact absurd (hdir.symm.trans hholds) (by simp)
      | link t => exact absurd (hdir.symm.trans hholds.1) (by simp)

/-! ## §5. Other paths. -/

/-- A change to a location that may hold a file does not change where paths to directories
lead. -/
theorem find_dir_of_elsewhere {m : Location} {q : Text} (hfile : s.MayHoldFile l)
    (helse : ∀ m, m ≠ l → s'.get? m = s.get? m) (h : s.find .read q = .ok (.entry m .dir)) :
    s'.find .read q = .ok (.entry m .dir) := by
  have halters : s'.Alters s l (fun _ => True) :=
    ⟨fun m hm => (helse m hm).symm, fun e he => (hfile e he).imp (fun b hb => ⟨hb, trivial⟩)⟩
  exact halters.find_dir h

end Files

end ScriptWeave
