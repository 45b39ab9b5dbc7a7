/-
  ScriptWeave.Proofs.Build.FoundComponents
  ────────────────────────────────────────
  **WHICH COMPONENT FILES ARE FOUND.**

  In a directory tree without links, whose entries can all be looked at, a
  walk meets every file at any depth once and skips nothing, in whatever
  order the directories list their names.  So what is found are the files
  with one of the extensions, in the order of paths.

      item ∈ walk from p  ↔  item is a file below p

  A walk takes no more steps down than there are entries, since the
  directories it goes through are at different locations.
-/
import Mathlib.Data.List.Nodup
import Mathlib.Data.List.Perm.Subperm
import ScriptWeave.Proofs.Build.Actions
import ScriptWeave.Proofs.Files.Below
import ScriptWeave.Proofs.Files.Tree

namespace ScriptWeave

namespace Files

variable {s : Files} {viaLink viaLink' : Location → List Text → Except IoError Place}
  {cur d l : Location} {p name : Text} {names : List Text} {place : Place} {e : Entry}
  {b : ByteArray} {fuel : Nat} {ancestors : List (Text × Location)}
  {listing : Location → List Text}

/-! ## §1. Trees that can be walked through. -/

/-- Whether a path leads to a directory of a tree below which there are no links, and whether
all that is below can be looked at: each entry has a name that a file can have and a path that
is not too long. -/
structure IsWalkable (s : Files) (p : Text) (d : Location) : Prop where
  /-- Every entry stands in a directory. -/
  isTree : s.IsTree
  /-- A location holds one entry. -/
  nodup : (s.entries.map Prod.fst).Nodup
  /-- The path leads to the directory. -/
  find : s.find .read p = .ok (.entry d .dir)
  /-- There are no links. -/
  hasNoLink : ∀ names, names ≠ [] → s.HasNoLink (d ++ names)
  /-- Names are as names of files are. -/
  isFileName : ∀ names name, s.get? (d ++ (names ++ [name])) ≠ none → IsFileName name
  /-- Paths are not too long. -/
  fits : ∀ names, s.get? (d ++ names) ≠ none → Text.byteSize (Path.below p names) < pathLimit

/-- A tree can be walked through if each of its entries can be looked at. -/
theorem isWalkable_of_entries
    (hdirs : ∀ x ∈ s.entries, x.1.dropLast = [] ∨ s.get? x.1.dropLast = some .dir)
    (hnodup : (s.entries.map Prod.fst).Nodup) (hfind : s.find .read p = .ok (.entry d .dir))
    (hentries : ∀ x ∈ s.entries, (∀ t, x.2 ≠ .link t) ∧ (∀ n ∈ x.1, IsFileName n)
      ∧ Text.byteSize (Path.below p (x.1.drop d.length)) < pathLimit) : s.IsWalkable p d := by
  have hmem {l : Location} {e : Entry} (hget : s.get? l = some e) : (l, e) ∈ s.entries := by
    obtain ⟨before, behind, hsplit, -⟩ := List.lookup_eq_some_iff.mp hget
    rw [hsplit]
    simp
  refine ⟨isTree_of_entries hdirs, hnodup, hfind, ?_, ?_, ?_⟩
  · exact fun names _ t hget => (hentries _ (hmem hget)).1 t rfl
  · intro names name hget
    obtain ⟨e, hget⟩ := Option.ne_none_iff_exists'.mp hget
    exact (hentries _ (hmem hget)).2.1 name (by simp)
  · intro names hget
    obtain ⟨e, hget⟩ := Option.ne_none_iff_exists'.mp hget
    have hfits := (hentries _ (hmem hget)).2.2
    rwa [List.drop_left] at hfits

namespace IsWalkable

theorem path_ne_nil (h : s.IsWalkable p d) : p ≠ [] := (find_eq_ok_iff.mp h.find).1

/-- A name behind the path leads to what the directory has under it. -/
theorem find_join (h : s.IsWalkable p d) (purpose : Purpose)
    (hget : s.get? (d ++ [name]) = some e) :
    s.find purpose (Path.join p name) = .ok (.entry (d ++ [name]) e) := by
  have hsome : s.get? (d ++ [name]) ≠ none := by
    rw [hget]
    simp
  rw [Files.find_join h.find (h.isFileName [] name hsome) (h.fits [name] hsome)
    (h.hasNoLink [name] (List.cons_ne_nil _ _)), placeAt, hget]

/-- What lies below a directory of such a tree is such a tree. -/
theorem child (h : s.IsWalkable p d) (hget : s.get? (d ++ [name]) = some .dir) :
    s.IsWalkable (Path.join p name) (d ++ [name]) where
  isTree := h.isTree
  nodup := h.nodup
  find := h.find_join .read hget
  hasNoLink names _ := by
    rw [← List.append_cons]
    exact h.hasNoLink (name :: names) (List.cons_ne_nil _ _)
  isFileName names name' := by
    rw [← List.append_cons]
    exact h.isFileName (name :: names) name'
  fits names := by
    rw [← List.append_cons]
    exact h.fits (name :: names)

/-- What is below a name of the directory is in a directory of that name. -/
theorem get?_of_below (h : s.IsWalkable p d) (hne : names ≠ [])
    (hget : s.get? (d ++ name :: names) = some e) : s.get? (d ++ [name]) = some .dir := by
  by_contra hdir
  have hnone := h.isTree.get?_below (l := d ++ [name]) (by simp [HasDir, hdir]) hne
  rw [← List.append_cons, hget] at hnone
  exact absurd hnone (by simp)

theorem isName (h : s.IsWalkable p d) (hget : s.get? (d ++ names) = some e) :
    ∀ n ∈ names, IsName n := by
  induction names generalizing p d with
  | nil => exact fun n hn => absurd hn List.not_mem_nil
  | cons name names ih =>
    have hname : IsName name := by
      by_cases hnil : names = []
      · subst hnil
        exact (h.isFileName [] name (by simp [hget])).toIsName
      · have hdir := h.get?_of_below hnil hget
        exact (h.isFileName [] name (by simp [hdir])).toIsName
    intro n hn
    rcases List.mem_cons.mp hn with rfl | hn
    · exact hname
    · have hne : names ≠ [] := List.ne_nil_of_mem hn
      rw [List.append_cons] at hget
      exact ih (h.child (h.get?_of_below hne (by rwa [List.append_cons]))) hget n hn

end IsWalkable

/-! ## §2. The names in a directory. -/

theorem mem_map_fst_entries : l ∈ s.entries.map Prod.fst ↔ s.get? l ≠ none := by
  rw [get?, ne_eq, List.lookup_eq_none_iff, List.mem_map]
  constructor
  · rintro ⟨x, hx, rfl⟩ hnone
    simpa using hnone x hx
  · intro h
    simp only [bne_iff_ne, ne_eq, not_forall, not_not] at h
    obtain ⟨x, hx, hl⟩ := h
    exact ⟨x, hx, hl.symm⟩

/-- The name of a location that is directly below another one. -/
def nameBelow? (l m : Location) : Option Text :=
  if m.length = l.length + 1 && l.isPrefixOf m then m.getLast? else none

theorem nameBelow?_eq_some_iff {m : Location} : nameBelow? l m = some name ↔ m = l ++ [name] := by
  unfold nameBelow?
  constructor
  · intro h
    split at h
    next hbelow =>
      simp only [Bool.and_eq_true, decide_eq_true_eq, List.isPrefixOf_iff_prefix] at hbelow
      obtain ⟨hlen, t, rfl⟩ := hbelow
      rw [List.length_append, Nat.add_left_cancel_iff, List.length_eq_one_iff] at hlen
      obtain ⟨n, rfl⟩ := hlen
      rw [List.getLast?_concat] at h
      rw [Option.some.inj h]
    next => exact absurd h (by simp)
  · rintro rfl
    rw [if_pos (by simp), List.getLast?_concat]

theorem namesIn_eq_sort (s : Files) (l : Location) :
    s.namesIn l = Sorted.sort Json.textLe ((s.entries.map Prod.fst).filterMap (nameBelow? l)) := by
  rw [List.filterMap_map]
  rfl

/-- A directory lists the names under which there are entries. -/
theorem mem_namesIn : name ∈ s.namesIn l ↔ s.get? (l ++ [name]) ≠ none := by
  rw [namesIn_eq_sort, Sorted.mem_sort, List.mem_filterMap, ← mem_map_fst_entries]
  constructor
  · rintro ⟨m, hm, hname⟩
    exact nameBelow?_eq_some_iff.mp hname ▸ hm
  · exact fun h => ⟨_, h, nameBelow?_eq_some_iff.mpr rfl⟩

/-- It lists a name once, if a location holds one entry. -/
theorem nodup_namesIn (h : (s.entries.map Prod.fst).Nodup) (l : Location) :
    (s.namesIn l).Nodup := by
  rw [namesIn_eq_sort, (Sorted.sort_perm _ _).nodup_iff]
  refine List.Nodup.filterMap (fun m m' n hm hm' => ?_) h
  exact (nameBelow?_eq_some_iff.mp hm).trans (nameBelow?_eq_some_iff.mp hm').symm

/-! ## §3. Walking. -/

/-- What a walk from a path meets, if a directory lists its names in some order. -/
def walkListed (s : Files) (listing : Location → List Text) :
    (fuel : Nat) → (ancestors : List (Text × Location)) → Text → List WalkItem
  | 0, _, _ => []
  | fuel + 1, ancestors, p =>
    match s.enter ancestors p with
    | .error e => [.skipped e]
    | .ok (_, .file _) => [.file p]
    | .ok (_, .link _) => []
    | .ok (l, .dir) =>
      (listing l).flatMap (fun name =>
        s.walkListed listing fuel ((p, l) :: ancestors) (Path.join p name))

/-- The names are listed in the order of texts. -/
theorem walk_eq_walkListed (fuel : Nat) (ancestors : List (Text × Location)) (p : Text) :
    s.walk fuel ancestors p = s.walkListed s.namesIn fuel ancestors p := by
  induction fuel generalizing ancestors p with
  | zero => rfl
  | succ fuel ih =>
    unfold walk walkListed
    cases s.enter ancestors p with
    | error e => rfl
    | ok x =>
      obtain ⟨l, e⟩ := x
      cases e with
      | file b => rfl
      | link t => rfl
      | dir => simp only [ih]

/-- A path that leads to a directory if it is followed to read leads there, or to a link, if it
is followed to look at what is there. -/
theorem followNames_look_of_read
    (hvia : ∀ cur names, viaLink cur names = .ok place →
      viaLink' cur names = .ok place ∨ ∃ l t, viaLink' cur names = .ok (.entry l (.link t)))
    (h : s.followNames .read viaLink cur names = .ok place) :
    s.followNames .look viaLink' cur names = .ok place
      ∨ ∃ l t, s.followNames .look viaLink' cur names = .ok (.entry l (.link t)) := by
  induction names generalizing cur with
  | nil => exact Or.inl h
  | cons name rest ih =>
    obtain hhere | rfl | hlong | hname := name_cases name
    · rw [followNames_here hhere] at h ⊢
      exact ih h
    · rw [followNames_up] at h ⊢
      exact ih h
    · exact absurd h (followNames_long hlong)
    rw [followNames_step hname, if_neg (by simp)] at h ⊢
    cases hget : s.get? (cur ++ [name]) with
    | none =>
      rw [hget] at h
      exact Or.inl h
    | some e =>
      rw [hget] at h
      cases e with
      | file b =>
        refine Or.inl ?_
        simpa using h
      | dir => exact ih h
      | link target =>
        -- only a link at the end makes a difference
        cases hrest : rest.isEmpty with
        | true =>
          exact Or.inr ⟨cur ++ [name], target, rfl⟩
        | false =>
          simp only [hrest, reduceCtorEq, decide_false, Bool.and_false, Bool.or_false,
            Bool.false_eq_true, if_false, Bool.false_and] at h ⊢
          split at h
          next => exact absurd h (by simp)
          next htarget =>
            rw [if_neg htarget]
            exact hvia _ _ h

theorem followLinks_look_of_read (links : Nat)
    (h : s.followLinks .read links cur names = .ok place) :
    s.followLinks .look links cur names = .ok place
      ∨ ∃ l t, s.followLinks .look links cur names = .ok (.entry l (.link t)) := by
  induction links generalizing cur names with
  | zero => exact followNames_look_of_read (fun _ _ hvia => absurd hvia (by simp)) h
  | succ links ih => exact followNames_look_of_read (fun _ _ hvia => ih hvia) h

/-- A directory that no others are around is entered through whatever links. -/
theorem enter_of_find (h : s.find .read p = .ok (.entry d .dir)) :
    s.enter [] p = .ok (d, .dir) := by
  obtain ⟨hne, hnul, hfits, hlinks⟩ := find_eq_ok_iff.mp h
  rcases followLinks_look_of_read linkLimit hlinks with hlook | ⟨l, t, hlook⟩
  · have hfind : s.find .look p = .ok (.entry d .dir) :=
      find_eq_ok_iff.mpr ⟨hne, hnul, hfits, hlook⟩
    simp only [enter, hfind]
  · have hfind : s.find .look p = .ok (.entry l (.link t)) :=
      find_eq_ok_iff.mpr ⟨hne, hnul, hfits, hlook⟩
    simp only [enter, hfind, entryAt, h, List.find?_nil]

/-- An entry that is no link is entered where it stands, whatever directories are around. -/
theorem enter_of_look (h : s.find .look p = .ok (.entry l e)) (hlink : ∀ t, e ≠ .link t) :
    s.enter ancestors p = .ok (l, e) := by
  cases e with
  | file b => simp only [enter, h]
  | dir => simp only [enter, h]
  | link t => exact absurd rfl (hlink t)

/-! ## §4. What a walk meets. -/

theorem walkListed_of_enter_dir (h : s.enter ancestors p = .ok (d, .dir)) :
    s.walkListed listing (fuel + 1) ancestors p
      = (listing d).flatMap (fun name =>
          s.walkListed listing fuel ((p, d) :: ancestors) (Path.join p name)) := by
  rw [walkListed, h]

theorem walkListed_of_enter_file (h : s.enter ancestors p = .ok (d, .file b)) :
    s.walkListed listing (fuel + 1) ancestors p = [.file p] := by
  rw [walkListed, h]

namespace IsWalkable

/-- A name of the directory is entered. -/
theorem enter_join (h : s.IsWalkable p d) (hget : s.get? (d ++ [name]) = some e) :
    s.enter ancestors (Path.join p name) = .ok (d ++ [name], e) := by
  refine enter_of_look (h.find_join .look hget) ?_
  rintro t rfl
  exact h.hasNoLink [name] (List.cons_ne_nil _ _) t hget

/-- What the directory lists are files and directories. -/
theorem listed_cases (h : s.IsWalkable p d) (hlisting : ∀ l, (listing l).Perm (s.namesIn l))
    (hname : name ∈ listing d) :
    (∃ b, s.get? (d ++ [name]) = some (.file b)) ∨ s.get? (d ++ [name]) = some .dir := by
  rw [(hlisting d).mem_iff, mem_namesIn, Option.ne_none_iff_exists'] at hname
  obtain ⟨e, hget⟩ := hname
  cases e with
  | file b => exact Or.inl ⟨b, hget⟩
  | dir => exact Or.inr hget
  | link t => exact absurd hget (h.hasNoLink [name] (List.cons_ne_nil _ _) t)

theorem mem_listing (hlisting : ∀ l, (listing l).Perm (s.namesIn l))
    (hget : s.get? (d ++ [name]) = some e) : name ∈ listing d := by
  rw [(hlisting d).mem_iff, mem_namesIn, hget]
  simp

/-- A file that the directory lists is met, unless the walk goes no further. -/
theorem walkListed_join_of_file (h : s.IsWalkable p d)
    (hget : s.get? (d ++ [name]) = some (.file b)) :
    s.walkListed listing fuel ancestors (Path.join p name)
      = [WalkItem.file (Path.join p name)].take fuel := by
  cases fuel with
  | zero => rfl
  | succ fuel =>
    rw [walkListed_of_enter_file (h.enter_join hget), List.take_succ_cons, List.take_nil]

/-- **What a walk meets are the files below the directory**, as deep as it goes. -/
theorem mem_walkListed (h : s.IsWalkable p d) (hlisting : ∀ l, (listing l).Perm (s.namesIn l))
    (henter : s.enter ancestors p = .ok (d, .dir)) {item : WalkItem} :
    item ∈ s.walkListed listing fuel ancestors p ↔
      ∃ names b, names ≠ [] ∧ names.length < fuel ∧ s.get? (d ++ names) = some (.file b)
        ∧ item = .file (Path.below p names) := by
  induction fuel generalizing p d ancestors with
  | zero => exact iff_of_false List.not_mem_nil (fun ⟨_, _, _, hlen, _⟩ => Nat.not_lt_zero _ hlen)
  | succ fuel ih =>
    rw [walkListed_of_enter_dir henter, List.mem_flatMap]
    constructor
    · rintro ⟨name, hname, hitem⟩
      rcases h.listed_cases hlisting hname with ⟨b, hget⟩ | hget
      · rw [h.walkListed_join_of_file hget] at hitem
        obtain rfl := List.mem_singleton.mp (List.mem_of_mem_take hitem)
        have hpos : 0 < fuel := by
          by_contra hzero
          rw [Nat.eq_zero_of_not_pos hzero] at hitem
          exact List.not_mem_nil hitem
        exact ⟨[name], b, List.cons_ne_nil _ _, Nat.succ_lt_succ hpos, hget, rfl⟩
      · obtain ⟨names, b, hne, hlen, hfile, rfl⟩ := (ih (h.child hget) (h.enter_join hget)).mp hitem
        rw [← List.append_cons] at hfile
        exact ⟨name :: names, b, List.cons_ne_nil _ _, Nat.succ_lt_succ hlen, hfile, rfl⟩
    · rintro ⟨_ | ⟨name, names⟩, b, hne, hlen, hfile, rfl⟩
      · exact absurd rfl hne
      have hlen : names.length < fuel := Nat.lt_of_succ_lt_succ hlen
      by_cases hnil : names = []
      · subst hnil
        refine ⟨name, mem_listing hlisting hfile, ?_⟩
        rw [h.walkListed_join_of_file hfile, List.take_of_length_le hlen, List.mem_singleton]
        rfl
      · have hdir := h.get?_of_below hnil hfile
        rw [List.append_cons] at hfile
        exact ⟨name, mem_listing hlisting hdir,
          (ih (h.child hdir) (h.enter_join hdir)).mpr ⟨names, b, hnil, hlen, hfile, rfl⟩⟩

/-- What a walk meets under a name of the directory has that name. -/
theorem exists_of_mem_walkListed_join (h : s.IsWalkable p d)
    (hlisting : ∀ l, (listing l).Perm (s.namesIn l)) (hname : name ∈ listing d) {item : WalkItem}
    (hitem : item ∈ s.walkListed listing fuel ((p, d) :: ancestors) (Path.join p name)) :
    ∃ names, (∀ n ∈ name :: names, IsName n) ∧ item = .file (Path.below p (name :: names)) := by
  rcases h.listed_cases hlisting hname with ⟨b, hget⟩ | hget
  · rw [h.walkListed_join_of_file hget] at hitem
    exact ⟨[], h.isName hget, List.mem_singleton.mp (List.mem_of_mem_take hitem)⟩
  · obtain ⟨names, b, -, -, hfile, rfl⟩ :=
      ((h.child hget).mem_walkListed hlisting (h.enter_join hget)).mp hitem
    rw [← List.append_cons] at hfile
    exact ⟨names, h.isName hfile, rfl⟩

/-- **A walk meets a file once.** -/
theorem nodup_walkListed (h : s.IsWalkable p d) (hlisting : ∀ l, (listing l).Perm (s.namesIn l))
    (henter : s.enter ancestors p = .ok (d, .dir)) :
    (s.walkListed listing fuel ancestors p).Nodup := by
  induction fuel generalizing p d ancestors with
  | zero => exact List.nodup_nil
  | succ fuel ih =>
    rw [walkListed_of_enter_dir henter, List.nodup_flatMap]
    constructor
    · intro name hname
      rcases h.listed_cases hlisting hname with ⟨b, hget⟩ | hget
      · rw [h.walkListed_join_of_file hget]
        exact (List.nodup_singleton _).sublist (List.take_sublist _ _)
      · exact ih (h.child hget) (h.enter_join hget)
    · have hnames : (listing d).Nodup := (hlisting d).nodup_iff.mpr (nodup_namesIn h.nodup d)
      refine hnames.imp_of_mem (fun {n m} hn hm hne item hitem hitem' => ?_)
      obtain ⟨names, hall, rfl⟩ := h.exists_of_mem_walkListed_join hlisting hn hitem
      obtain ⟨names', hall', hsame⟩ := h.exists_of_mem_walkListed_join hlisting hm hitem'
      have hbelow := Path.below_inj h.path_ne_nil hall hall' (WalkItem.file.inj hsame)
      exact hne (List.cons.inj hbelow).1

/-- No file is deeper than there are entries: there is one at each step on the way. -/
theorem length_le (h : s.IsWalkable p d) (hget : s.get? (d ++ names) = some e) :
    names.length ≤ s.entries.length := by
  let steps := (List.range names.length).map (fun k => d ++ names.take (k + 1))
  have hsteps : steps.Nodup := by
    refine List.Nodup.map_on (fun k hk m hm hsame => ?_) List.nodup_range
    have hlen := congrArg List.length hsame
    rw [List.mem_range] at hk hm
    simp only [List.length_append, List.length_take] at hlen
    omega
  have hentries : steps ⊆ s.entries.map Prod.fst := by
    intro l hl
    obtain ⟨k, hk, rfl⟩ := List.mem_map.mp hl
    rw [List.mem_range] at hk
    rw [mem_map_fst_entries]
    intro hnone
    have hcut := List.take_append_drop (k + 1) names
    by_cases hend : names.drop (k + 1) = []
    · rw [hend, List.append_nil] at hcut
      rw [hcut, hget] at hnone
      exact absurd hnone (by simp)
    · have hdir : ¬ s.HasDir (d ++ names.take (k + 1)) := by
        rintro (hnil | hdir)
        · have hlen := congrArg List.length hnil
          simp only [List.length_append, List.length_take, List.length_nil] at hlen
          omega
        · rw [hnone] at hdir
          exact absurd hdir (by simp)
      have hbelow := h.isTree.get?_below hdir hend
      rw [List.append_assoc, hcut, hget] at hbelow
      exact absurd hbelow (by simp)
  have hlen := (hsteps.subperm hentries).length_le
  simpa [steps] using hlen

/-! ## §5. What is found. -/

/-- Nothing is skipped. -/
theorem skippedEntries_walkListed (h : s.IsWalkable p d)
    (hlisting : ∀ l, (listing l).Perm (s.namesIn l)) :
    skippedEntries (s.walkListed listing fuel [] p) = [] := by
  refine List.filterMap_eq_nil_iff.mpr (fun item hitem => ?_)
  obtain ⟨_, _, _, _, _, rfl⟩ := (h.mem_walkListed hlisting (enter_of_find h.find)).mp hitem
  rfl

/-- **What is found are the files with one of the extensions**, at any depth. -/
theorem mem_componentFiles (h : s.IsWalkable p d) (hlisting : ∀ l, (listing l).Perm (s.namesIn l))
    (hfuel : s.entries.length < fuel) {extensions : List Text} {q : Text} :
    q ∈ componentFiles extensions (s.walkListed listing fuel [] p) ↔
      ∃ names name b, s.get? (d ++ (names ++ [name])) = some (.file b)
        ∧ q = Path.below p (names ++ [name]) ∧ Path.HasExtensionIn extensions name := by
  have hmeets (item : WalkItem) : item ∈ s.walkListed listing fuel [] p ↔
      ∃ names b, names ≠ [] ∧ names.length < fuel ∧ s.get? (d ++ names) = some (.file b)
        ∧ item = .file (Path.below p names) :=
    h.mem_walkListed hlisting (enter_of_find h.find)
  have hextension (names : List Text) (name : Text) (b : ByteArray)
      (hfile : s.get? (d ++ (names ++ [name])) = some (.file b)) :
      hasExtension extensions (Path.below p (names ++ [name])) = true
        ↔ Path.HasExtensionIn extensions name := by
    have hall := h.isName hfile
    exact Path.hasExtension_below h.path_ne_nil (fun n hn => hall n (List.mem_append_left _ hn))
      (hall name (List.mem_append_right _ (List.mem_singleton_self name)))
  rw [componentFiles, Sorted.mem_sort, List.mem_filterMap]
  constructor
  · rintro ⟨item, hitem, hfound⟩
    obtain ⟨names, b, hne, -, hfile, rfl⟩ := (hmeets item).mp hitem
    obtain ⟨names, name, rfl⟩ := (List.eq_nil_or_concat' names).resolve_left hne
    dsimp only at hfound
    split at hfound
    next hhas =>
      exact ⟨names, name, b, hfile, (Option.some.inj hfound).symm,
        (hextension names name b hfile).mp hhas⟩
    next => exact absurd hfound (by simp)
  · rintro ⟨names, name, b, hfile, rfl, hname⟩
    refine ⟨.file (Path.below p (names ++ [name])), ?_, ?_⟩
    · exact (hmeets _).mpr ⟨_, b, by simp, Nat.lt_of_le_of_lt (h.length_le hfile) hfuel, hfile, rfl⟩
    · exact if_pos ((hextension names name b hfile).mpr hname)

/-- Two of these files are one if the path of each may precede that of the other. -/
theorem eq_of_le (h : s.IsWalkable p d) (hlisting : ∀ l, (listing l).Perm (s.namesIn l))
    (hfuel : s.entries.length < fuel) {extensions : List Text} {q q' : Text}
    (hq : q ∈ componentFiles extensions (s.walkListed listing fuel [] p))
    (hq' : q' ∈ componentFiles extensions (s.walkListed listing fuel [] p))
    (hle : Path.le q q' = true) (hle' : Path.le q' q = true) : q = q' := by
  obtain ⟨names, name, b, hfile, rfl, -⟩ := (h.mem_componentFiles hlisting hfuel).mp hq
  obtain ⟨names', name', b', hfile', rfl, -⟩ := (h.mem_componentFiles hlisting hfuel).mp hq'
  have hall := h.isName hfile
  have hall' := h.isName hfile'
  rw [Path.le_below h.path_ne_nil hall hall'] at hle
  rw [Path.le_below h.path_ne_nil hall' hall] at hle'
  rw [Path.namesLe_antisymm hle hle']

/-- **Each is found once.** -/
theorem nodup_componentFiles (h : s.IsWalkable p d)
    (hlisting : ∀ l, (listing l).Perm (s.namesIn l)) (extensions : List Text) :
    (componentFiles extensions (s.walkListed listing fuel [] p)).Nodup := by
  rw [componentFiles, (Sorted.sort_perm _ _).nodup_iff]
  refine List.Nodup.filterMap (fun item item' q hq hq' => ?_)
    (h.nodup_walkListed hlisting (enter_of_find h.find))
  cases item with
  | skipped e => exact absurd hq (by simp)
  | file r =>
    cases item' with
    | skipped e => exact absurd hq' (by simp)
    | file r' =>
      simp only [Option.mem_def, Option.ite_none_right_eq_some, Option.some.injEq] at hq hq'
      rw [hq.2, hq'.2]

/-- **The order of listings does not matter.** -/
theorem componentFiles_walkListed (h : s.IsWalkable p d)
    (hlisting : ∀ l, (listing l).Perm (s.namesIn l)) (hfuel : s.entries.length < fuel)
    (extensions : List Text) :
    componentFiles extensions (s.walkListed listing fuel [] p)
      = componentFiles extensions (s.walk fuel [] p) := by
  have hsorted (l : Location) : (s.namesIn l).Perm (s.namesIn l) := .refl _
  have henter := enter_of_find h.find
  rw [walk_eq_walkListed]
  refine Sorted.sort_eq_of_perm Path.le_total Path.le_trans ?_ (List.Perm.filterMap _ ?_)
  · intro q hq q' hq'
    exact h.eq_of_le hlisting hfuel (Sorted.mem_sort.mpr hq) (Sorted.mem_sort.mpr hq')
  · refine (List.perm_ext_iff_of_nodup (h.nodup_walkListed hlisting henter)
      (h.nodup_walkListed hsorted henter)).mpr (fun item => ?_)
    rw [h.mem_walkListed hlisting henter, h.mem_walkListed hsorted henter]

/-- They are found in strictly ascending order. -/
theorem pairwise_lt_componentFiles (h : s.IsWalkable p d)
    (hlisting : ∀ l, (listing l).Perm (s.namesIn l)) (hfuel : s.entries.length < fuel)
    (extensions : List Text) :
    (componentFiles extensions (s.walkListed listing fuel [] p)).Pairwise
      (fun q q' => Path.le q q' = true ∧ Path.le q' q = false) := by
  have hnodup : (componentFiles extensions (s.walkListed listing fuel [] p)).Nodup :=
    h.nodup_componentFiles hlisting extensions
  refine ((pairwise_componentFiles extensions _).and hnodup).imp_of_mem ?_
  rintro q q' hq hq' ⟨hle, hne⟩
  refine ⟨hle, Bool.eq_false_iff.mpr (fun hle' => hne ?_)⟩
  exact h.eq_of_le hlisting hfuel hq hq' hle hle'

end IsWalkable

end Files

/-- **The component files below a path are found**, whatever else is there: all files with one
of the extensions, at any depth, each once and in the order of paths.  In which order the
directories list their names does not matter. -/
theorem runIn_findComponentFiles {w : World} {p : Text} {d : Location}
    (h : w.files.IsWalkable p d) (extensions : List Text) :
    ∃ found,
      Effect.runIn (findComponentFiles p extensions) w = (found, w)
      ∧ (∀ listing, (∀ l, (listing l).Perm (w.files.namesIn l)) →
          Files.componentFiles extensions
            (w.files.walkListed listing (w.files.entries.length + 2) [] p) = found)
      ∧ (∀ q, q ∈ found ↔
          ∃ names name b, w.files.get? (d ++ (names ++ [name])) = some (.file b)
            ∧ q = Path.below p (names ++ [name]) ∧ Path.HasExtensionIn extensions name)
      ∧ found.Pairwise (fun q q' => Path.le q q' = true ∧ Path.le q' q = false) := by
  have hsorted (l : Location) : (w.files.namesIn l).Perm (w.files.namesIn l) := .refl _
  have hfuel : w.files.entries.length < w.files.entries.length + 2 := by omega
  have hwalk : w.files.walkAll p
      = w.files.walkListed w.files.namesIn (w.files.entries.length + 2) [] p :=
    Files.walk_eq_walkListed _ _ _
  refine ⟨Files.componentFiles extensions (w.files.walkAll p), ?_, ?_, ?_, ?_⟩
  · have hrun : Effect.runIn (findComponentFiles p extensions) w
        = (Files.componentFiles extensions (w.files.walkAll p),
          { w with warnings := w.warnings
              ++ (Files.skippedEntries (w.files.walkAll p)).map Warning.entrySkipped }) := rfl
    rw [hrun, hwalk, h.skippedEntries_walkListed hsorted, List.map_nil, List.append_nil]
  · exact fun listing hlisting => h.componentFiles_walkListed hlisting hfuel extensions
  · rw [hwalk]
    exact fun q => h.mem_componentFiles hsorted hfuel
  · rw [hwalk]
    exact h.pairwise_lt_componentFiles hsorted hfuel extensions

/-- A world with a directory in which another one is named like a component, what lies below `a`
comes before what has a longer name, and files have an extension, an empty one or none. -/
def siteWorld : World where
  files := ⟨[(["site"], .dir), (["site", "a.svelte"], .dir),
    (["site", "a.svelte", "x.y.svelte"], .file .empty), (["site", "c."], .file .empty),
    (["site", "a"], .dir), (["site", "a", "B.svelte"], .file .empty),
    (["site", ".svelte"], .file .empty), (["site", "README"], .file .empty),
    (["site", "D.Svelte"], .file .empty)]⟩
  processId := 1
  nextScratch := 0
  compilations := 0
  warnings := []
  faults := []

/-- What is found there. -/
def sitePaths : List Text := ["./site/a/B.svelte", "./site/a.svelte/x.y.svelte", "./site/c."]

theorem runIn_findComponentFiles_siteWorld :
    siteWorld.files.IsWalkable "./site/" ["site"]
      ∧ Effect.runIn (findComponentFiles "./site/" ["svelte", ""]) siteWorld
        = (sitePaths, siteWorld) := by
  have hwalkable : siteWorld.files.IsWalkable "./site/" ["site"] := by
    refine Files.isWalkable_of_entries (by decide) (by decide) rfl ?_
    simp only [siteWorld, List.forall_mem_cons, List.not_mem_nil, IsEmpty.forall_iff,
      implies_true, and_true]
    refine ⟨?_, ?_, ?_, ?_, ?_, ?_, ?_, ?_, ?_⟩ <;> exact ⟨by simp, by decide, by decide⟩
  obtain ⟨found, hrun, -⟩ := runIn_findComponentFiles hwalkable ["svelte", ""]
  have hfound : (Effect.runIn (findComponentFiles "./site/" ["svelte", ""]) siteWorld).1
      = sitePaths := by
    decide +kernel
  rw [hrun] at hfound
  exact ⟨hwalkable, hfound ▸ hrun⟩

end ScriptWeave
