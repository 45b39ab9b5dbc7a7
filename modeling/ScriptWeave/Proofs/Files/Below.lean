/-
  ScriptWeave.Proofs.Files.Below
  ──────────────────────────────
  **THE PATHS OF WHAT LIES BELOW A PATH.**

  What lies below a directory has the names that lead to it, and its path has
  them behind the path of the directory, however that is written.  So such
  paths are in the order of their names, and the extension of such a path is
  that of its last name.

      parts (below p names) = parts p ++ names
-/
import ScriptWeave.Proofs.Files.InDirectory
import ScriptWeave.Proofs.Files.PathOrder

namespace ScriptWeave

open Files (IsName)

namespace Path

variable {p name : Text} {names names' : List Text}

/-! ## §1. Names behind a path. -/

/-- The path of what some names lead to below a path. -/
def below (p : Text) (names : List Text) : Text := names.foldl join p

/-- One more name is one more part. -/
theorem parts_join (hp : p ≠ []) (hname : IsName name) :
    parts (join p name) = parts p ++ [name] := by
  obtain ⟨shared, blank, hblank, hsplit, hsplit'⟩ := Files.splitOn_joined hp hname
  let isPart (x : Text × Nat) : Bool := !x.1.isEmpty && (x.1 != ['.'] || x.2 == 0)
  have hblanks (k : Nat) : (blank.zipIdx k).filter isPart = [] := by
    refine List.filter_eq_nil_iff.mpr (fun x hx => ?_)
    simp [isPart, hblank x.1 (List.fst_mem_of_mem_zipIdx hx)]
  have hlast (k : Nat) : [(name, k)].filter isPart = [(name, k)] :=
    List.filter_cons_of_pos (by simp [isPart, hname.ne_nil, hname.ne_here])
  show ((Text.splitOn '/' (join p name)).zipIdx.filter isPart).map _
    = ((Text.splitOn '/' p).zipIdx.filter isPart).map _ ++ [name]
  rw [hsplit, hsplit', List.zipIdx_append, List.zipIdx_append, List.filter_append,
    List.filter_append, hblanks, List.append_nil, List.zipIdx_singleton, hlast, List.map_append]
  rfl

theorem join_ne_nil (hp : p ≠ []) (hname : IsName name) : join p name ≠ [] := by
  intro h
  have hlast := Files.getLast?_join hp hname
  rw [h, List.getLast?_nil, eq_comm, List.getLast?_eq_none_iff] at hlast
  exact hname.ne_nil hlast

/-- **The parts of a path below another** are those of the other and the names. -/
theorem parts_below (hp : p ≠ []) (hnames : ∀ n ∈ names, IsName n) :
    parts (below p names) = parts p ++ names := by
  induction names generalizing p with
  | nil => exact (List.append_nil _).symm
  | cons n names ih =>
    have hn := hnames n List.mem_cons_self
    rw [List.append_cons, ← parts_join hp hn]
    exact ih (join_ne_nil hp hn) (fun m hm => hnames m (List.mem_cons_of_mem _ hm))

/-- Paths below a path are different if their names are. -/
theorem below_inj (hp : p ≠ []) (hnames : ∀ n ∈ names, IsName n)
    (hnames' : ∀ n ∈ names', IsName n) (h : below p names = below p names') : names = names' := by
  have hparts := congrArg parts h
  rw [parts_below hp hnames, parts_below hp hnames'] at hparts
  exact List.append_cancel_left hparts

/-! ## §2. Order. -/

theorem namesLe_append_left (shared names names' : List Text) :
    namesLe (shared ++ names) (shared ++ names') = namesLe names names' := by
  induction shared with
  | nil => rfl
  | cons n shared ih => simp only [List.cons_append, namesLe, if_pos, ih]

theorem namesLe_antisymm (h : namesLe names names' = true) (h' : namesLe names' names = true) :
    names = names' := by
  induction names generalizing names' with
  | nil =>
    cases names' with
    | nil => rfl
    | cons n names' => exact absurd h' (by simp [namesLe])
  | cons n names ih =>
    cases names' with
    | nil => exact absurd h (by simp [namesLe])
    | cons m names' =>
      rw [namesLe_cons_iff] at h h'
      rcases h with ⟨rfl, h⟩ | ⟨hne, hle⟩
      · rw [ih h (h'.resolve_right (fun hne => hne.1 rfl)).2]
      · exact absurd (Json.textLe_antisymm hle (h'.resolve_left (fun heq => hne heq.1.symm)).2) hne

/-- **Paths below a path are in the order of their names.** -/
theorem le_below (hp : p ≠ []) (hnames : ∀ n ∈ names, IsName n) (hnames' : ∀ n ∈ names', IsName n) :
    le (below p names) (below p names') = namesLe names names' := by
  rw [le, parts_below hp hnames, parts_below hp hnames', namesLe_append_left]

/-! ## §3. Extensions. -/

/-- Whether a name has one of some extensions: it is something, a dot and the extension, in
which there is no dot. -/
def HasExtensionIn (extensions : List Text) (name : Text) : Prop :=
  ∃ stem extension, name = stem ++ '.' :: extension ∧ stem ≠ [] ∧ '.' ∉ extension
    ∧ extension ∈ extensions

/-- A name without a dot has no extension. -/
theorem extension?_of_not_mem (h : '.' ∉ name) : extension? name = none := by
  have hall : ∀ c ∈ name.reverse, (c != '.') = true := by
    intro c hc
    exact bne_iff_ne.mpr (fun hdot => h (hdot ▸ List.mem_reverse.mp hc))
  have hafter : (name.reverse ++ []).takeWhile (· != '.')
      = name.reverse ++ [].takeWhile (· != '.') := List.takeWhile_append_of_pos hall
  rw [List.append_nil, List.takeWhile_nil, List.append_nil] at hafter
  simp [extension?, hafter]

/-- The extension of a name stands behind its last dot, unless that comes first. -/
theorem extension?_append {stem extension : Text} (hdot : '.' ∉ extension)
    (hup : stem ++ '.' :: extension ≠ ['.', '.']) :
    extension? (stem ++ '.' :: extension) = if stem = [] then none else some extension := by
  have hafter : (stem ++ '.' :: extension).reverse.takeWhile (· != '.') = extension.reverse := by
    have hall : ∀ c ∈ extension.reverse, (c != '.') = true := by
      intro c hc
      exact bne_iff_ne.mpr (fun h => hdot (h ▸ List.mem_reverse.mp hc))
    rw [List.reverse_append, List.reverse_cons, List.append_assoc,
      List.takeWhile_append_of_pos hall, List.singleton_append,
      List.takeWhile_cons_of_neg (by simp), List.append_nil]
  have hlen : (stem ++ '.' :: extension).length = stem.length + extension.length + 1 := by
    rw [List.length_append, List.length_cons, Nat.add_assoc]
  unfold extension?
  dsimp only
  rw [hafter, hlen, List.length_reverse, List.reverse_reverse, bne_iff_ne.mpr hup, Bool.and_true]
  by_cases hstem : stem = []
  · rw [if_pos hstem, hstem, if_neg (by simp)]
  · have hpos := List.length_pos_iff.mpr hstem
    rw [if_neg hstem, if_pos (by simp only [Bool.and_eq_true, decide_eq_true_eq]; omega)]

theorem extension?_eq_some_iff {extension : Text} (hup : name ≠ ['.', '.']) :
    extension? name = some extension ↔
      ∃ stem, name = stem ++ '.' :: extension ∧ stem ≠ [] ∧ '.' ∉ extension := by
  constructor
  · intro h
    by_cases hin : '.' ∈ name
    · obtain ⟨after, before, hcut, hdot⟩ := List.eq_append_cons_of_mem (List.mem_reverse.mpr hin)
      have hname : name = before.reverse ++ '.' :: after.reverse := by
        rw [← List.reverse_reverse name, hcut]
        simp
      have hdot : '.' ∉ after.reverse := fun hmem => hdot (List.mem_reverse.mp hmem)
      rw [hname] at h hup
      rw [extension?_append hdot hup] at h
      split at h
      next => exact absurd h (by simp)
      next hstem =>
        obtain rfl := Option.some.inj h
        exact ⟨before.reverse, hname, hstem, hdot⟩
    · rw [extension?_of_not_mem hin] at h
      exact absurd h (by simp)
  · rintro ⟨stem, rfl, hstem, hdot⟩
    rw [extension?_append hdot hup, if_neg hstem]

/-- The last name decides on the extension of a path. -/
theorem hasExtension_below {extensions : List Text} (hp : p ≠ []) (hnames : ∀ n ∈ names, IsName n)
    (hname : IsName name) :
    Files.hasExtension extensions (below p (names ++ [name])) = true
      ↔ HasExtensionIn extensions name := by
  have hall : ∀ n ∈ names ++ [name], IsName n := by
    intro n hn
    rcases List.mem_append.mp hn with hn | hn
    · exact hnames n hn
    · exact List.mem_singleton.mp hn ▸ hname
  have hlast : fileName? (below p (names ++ [name])) = some name := by
    rw [fileName?, parts_below hp hall, ← List.append_assoc, List.getLast?_concat]
    simp [hname.ne_here, hname.ne_up]
  rw [Files.hasExtension, hlast, Option.bind_some]
  constructor
  · intro h
    split at h
    next extension hextension =>
      obtain ⟨stem, hcut, hstem, hdot⟩ := (extension?_eq_some_iff hname.ne_up).mp hextension
      exact ⟨stem, extension, hcut, hstem, hdot, List.contains_iff_mem.mp h⟩
    next => exact absurd h (by simp)
  · rintro ⟨stem, extension, hcut, hstem, hdot, hmem⟩
    rw [(extension?_eq_some_iff hname.ne_up).mpr ⟨stem, hcut, hstem, hdot⟩]
    exact List.contains_iff_mem.mpr hmem

end Path

end ScriptWeave
