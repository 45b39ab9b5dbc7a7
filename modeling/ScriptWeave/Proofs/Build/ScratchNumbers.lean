/-
  ScriptWeave.Proofs.Build.ScratchNumbers
  ───────────────────────────────────────
  **THE NUMBERS OF SCRATCH FILES.**

  A process makes scratch files, drops some and keeps others, in any order.
  Each name of a scratch file ends in a number that is taken for it, and in
  an extension.

      stem_process_number.extension

  Whatever the stem and the directory are, the number can be read off the
  name, unless an extension itself ends as a name does: beside scratch files
  with the extension x, those with x_7_1.x cannot be told from them in process
  7 (`TellApart`).  The number is the scratch file's own as long as there are
  numbers left, so no two scratch files have one path.
-/
import ScriptWeave.Proofs.Build.ScratchFiles

namespace ScriptWeave

open Files

/-! ## §1. Numbers in names. -/

namespace Scratch

variable {process m n : Nat} {e e' t : Text}

/-- The numbers in the name of a scratch file. -/
def mark (process number : Nat) : Text :=
  '_' :: (Decimal.digits process ++ '_' :: Decimal.digits number)

/-- What follows the stem in the name of a scratch file. -/
def ending (process number : Nat) (extension : Text) : Text :=
  mark process number ++ '.' :: extension

theorem fileName_eq_append_ending (stem : Text) (process number : Nat) (extension : Text) :
    fileName stem process number extension = stem ++ ending process number extension := by
  simp [fileName, ending, mark]

theorem dot_not_mem_mark (process number : Nat) : '.' ∉ mark process number := by
  have hdigits (k : Nat) : '.' ∉ Decimal.digits k :=
    fun hmem => Bool.noConfusion (Decimal.isDigit_of_mem_digits hmem)
  simp [mark, hdigits]

/-- A number is read off behind the last underscore. -/
theorem eq_of_append_digits {front front' : Text}
    (h : front ++ '_' :: Decimal.digits m = front' ++ '_' :: Decimal.digits n) : m = n := by
  have hdigits (k : Nat) : '_' ∉ Decimal.digits k :=
    fun hmem => Bool.noConfusion (Decimal.isDigit_of_mem_digits hmem)
  have hpieces := congrArg (Text.splitOn '_') h
  rw [Text.splitOn_append_cons_sep, Text.splitOn_append_cons_sep,
    Text.splitOn_of_not_mem (hdigits m), Text.splitOn_of_not_mem (hdigits n)] at hpieces
  obtain ⟨-, hlast⟩ := List.append_inj' hpieces rfl
  exact Decimal.digits_injective (List.cons.inj hlast).1

theorem eq_of_append_mark {front : Text} (h : front ++ mark process m = mark process n) :
    m = n := by
  have hcut : (front ++ '_' :: Decimal.digits process) ++ '_' :: Decimal.digits m
      = ('_' :: Decimal.digits process) ++ '_' :: Decimal.digits n := by simpa [mark] using h
  exact eq_of_append_digits hcut

/-- Where one name ends within the end of another, they have one number, or it ends within the
extension of the other. -/
theorem eq_or_ending_suffix (h : ending process m e <:+ ending process n e') :
    m = n ∨ ending process m e <:+ e' := by
  obtain ⟨front, h⟩ := h
  have hcut : (front ++ mark process m) ++ '.' :: e = mark process n ++ '.' :: e' := by
    simpa [ending] using h
  rcases List.append_eq_append_iff.mp hcut with ⟨rest, hmark, hrest⟩ | ⟨rest, hmark, hrest⟩
  · cases rest with
    | nil => exact Or.inl (eq_of_append_mark (by simpa using hmark.symm))
    | cons c rest =>
      obtain ⟨rfl, -⟩ := List.cons.inj hrest
      exact absurd (hmark ▸ by simp) (dot_not_mem_mark process n)
  · cases rest with
    | nil => exact Or.inl (eq_of_append_mark (by simpa using hmark))
    | cons c rest =>
      obtain ⟨rfl, rfl⟩ := List.cons.inj hrest
      -- no dot is in the numbers, so they stand behind the one in front of the rest
      have hbehind : mark process m <:+ rest := by
        rcases List.suffix_or_suffix_of_suffix (List.suffix_append front (mark process m))
          (hmark ▸ List.suffix_append (mark process n) ('.' :: rest)) with hin | hout
        · rcases List.suffix_cons_iff.mp hin with heq | hin
          · exact absurd (heq ▸ List.mem_cons_self) (dot_not_mem_mark process m)
          · exact hin
        · exact absurd (hout.subset List.mem_cons_self) (dot_not_mem_mark process m)
      obtain ⟨before, rfl⟩ := hbehind
      exact Or.inr ⟨before, by simp [ending]⟩

/-- Whether no extension ends as a name with one of them does. -/
def TellApart (process : Nat) (extensions : List Text) : Prop :=
  ∀ e ∈ extensions, ∀ e' ∈ extensions, ∀ n, ¬ending process n e' <:+ e

/-- Extensions without underscores. -/
theorem tellApart_of_not_mem {extensions : List Text} (h : ∀ e ∈ extensions, '_' ∉ e)
    (process : Nat) : TellApart process extensions :=
  fun e he _ _ _ hends => h e he (hends.subset List.mem_cons_self)

/-- How the scratch files of a process are named: with its number, and with extensions that tell
them apart. -/
structure Naming where
  /-- The number of the process. -/
  process : Nat
  /-- The extensions. -/
  extensions : List Text
  /-- No extension ends as a name does. -/
  tellApart : TellApart process extensions

variable {g : Naming}

/-- Whether a text ends as the names of scratch files with a number do. -/
def Naming.IsNumbered (g : Naming) (n : Nat) (t : Text) : Prop :=
  ∃ e ∈ g.extensions, ending g.process n e <:+ t

theorem isNumbered_fileName (he : e ∈ g.extensions) (stem : Text) (n : Nat) :
    g.IsNumbered n (fileName stem g.process n e) :=
  ⟨e, he, stem, (fileName_eq_append_ending ..).symm⟩

namespace Naming.IsNumbered

/-- The number of a name is the number of its paths. -/
theorem join (h : g.IsNumbered n t) (dir : Text) : g.IsNumbered n (Path.join dir t) := by
  obtain ⟨e, he, hends⟩ := h
  refine ⟨e, he, hends.trans ?_⟩
  unfold Path.join
  split
  next => exact List.suffix_rfl
  next =>
    split
    next => exact List.suffix_append _ _
    next => exact (List.suffix_cons '/' t).trans (List.suffix_append _ _)

/-- A text has one number at most. -/
theorem unique (h : g.IsNumbered m t) (h' : g.IsNumbered n t) : m = n := by
  obtain ⟨e, he, hends⟩ := h
  obtain ⟨e', he', hends'⟩ := h'
  rcases List.suffix_or_suffix_of_suffix hends hends' with hin | hin
  · exact (eq_or_ending_suffix hin).resolve_right (g.tellApart e' he' e he m)
  · exact ((eq_or_ending_suffix hin).resolve_right (g.tellApart e he e' he' n)).symm

end Naming.IsNumbered

/-- Dropping a scratch file takes no number. -/
theorem numbers_runIn_drop (f : Scratch) (w : World) :
    (Effect.runIn f.drop w).2.processId = w.processId
      ∧ (Effect.runIn f.drop w).2.nextScratch = w.nextScratch := by
  unfold drop
  rw [Effect.runIn_bind, Effect.runIn_change]
  cases w.files.removeFile f.path <;> exact ⟨rfl, rfl⟩

end Scratch

/-! ## §2. Runs. -/

/-- What has become of a scratch file. -/
inductive Fate where
  /-- It is in use. -/
  | live
  /-- It was dropped. -/
  | gone
  /-- It is kept at a path. -/
  | kept (path : Text)
  deriving Repr, DecidableEq

/-- A scratch file that was handed out. -/
structure HandedOut where
  /-- The scratch file. -/
  scratch : Scratch
  /-- The text that it was made with. -/
  contents : Text
  /-- What has become of it. -/
  fate : Fate
  deriving Repr, DecidableEq

/-- The path at which a scratch file is. -/
def HandedOut.place? (h : HandedOut) : Option Text :=
  match h.fate with
  | .live => some h.scratch.path
  | .gone => none
  | .kept path => some path

/-- What a process does with scratch files.  They are counted as they are handed out. -/
inductive ScratchStep where
  /-- Makes one. -/
  | create (dir stem extension contents : Text)
  /-- Drops one. -/
  | drop (i : Nat)
  /-- Keeps one in a directory. -/
  | keep (i : Nat) (dir : Text)
  deriving Repr, DecidableEq

/-- Whether a step makes a scratch file. -/
def ScratchStep.isCreate : ScratchStep → Bool
  | .create .. => true
  | _ => false

/-- The extension of the scratch file that a step makes. -/
def ScratchStep.extension? : ScratchStep → Option Text
  | .create _ _ extension _ => some extension
  | _ => none

/-- The extensions of the scratch files that steps make. -/
def ScratchStep.extensions (steps : List ScratchStep) : List Text :=
  steps.filterMap ScratchStep.extension?

theorem ScratchStep.forall_extensions_cons {step : ScratchStep} {rest : List ScratchStep}
    {p : Text → Prop} : (∀ e ∈ extensions (step :: rest), p e)
      ↔ (∀ e, step.extension? = some e → p e) ∧ ∀ e ∈ extensions rest, p e := by
  simp [extensions, or_imp, forall_and]

/-- The scratch files that a process was handed out, and the world it is in. -/
structure ScratchUse where
  /-- The scratch files. -/
  handedOut : List HandedOut
  /-- The world. -/
  world : World

namespace ScratchUse

/-- A process that has no scratch files yet. -/
def start (w : World) : ScratchUse := ⟨[], w⟩

/-- A scratch file that is in use. -/
def live? (u : ScratchUse) (i : Nat) : Option Scratch :=
  match u.handedOut[i]? with
  | some ⟨f, _, .live⟩ => some f
  | _ => none

/-- A scratch file is handed out, with the world that is left. -/
def handOut (u : ScratchUse) (f : Scratch) (contents : Text) (w : World) : ScratchUse :=
  ⟨u.handedOut ++ [⟨f, contents, .live⟩], w⟩

/-- What has become of a scratch file is noted, with the world that is left. -/
def settle (u : ScratchUse) (i : Nat) (fate : Fate) (w : World) : ScratchUse :=
  ⟨u.handedOut.modify i (fun h => { h with fate := fate }), w⟩

/-- Makes a step.  A scratch file that is not in use is neither dropped nor kept. -/
def perform (u : ScratchUse) : ScratchStep → ScratchUse
  | .create dir stem extension contents =>
    match (Scratch.create dir stem extension contents).runIn u.world with
    | (.ok f, w) => u.handOut f contents w
    | (.error _, w) => { u with world := w }
  | .drop i =>
    match u.live? i with
    | some f => u.settle i .gone (Effect.runIn f.drop u.world).2
    | none => u
  | .keep i dir =>
    match u.live? i with
    | some f =>
      match (f.keepIn dir).runIn u.world with
      | (.ok path, w) => u.settle i (.kept path) w
      | (.error _, w) => u.settle i .gone w
    | none => u

/-- Makes steps in order. -/
def run (u : ScratchUse) (steps : List ScratchStep) : ScratchUse := steps.foldl perform u

/-- The paths of the scratch files that were handed out. -/
def paths (u : ScratchUse) : List Text := u.handedOut.map (fun h => h.scratch.path)

variable {u u' : ScratchUse} {g : Scratch.Naming} {i j : Nat} {f : Scratch} {w : World}
  {step : ScratchStep} {steps : List ScratchStep} {first taken : Nat} {x y : HandedOut}

theorem live?_eq_some (hlive : u.live? i = some f) :
    ∃ contents, u.handedOut[i]? = some ⟨f, contents, .live⟩ := by
  unfold live? at hlive
  split at hlive
  next contents hget => exact ⟨contents, Option.some.inj hlive ▸ hget⟩
  next => exact absurd hlive (by simp)

theorem handedOut_handOut_of_ne {contents : Text} (hne : i ≠ u.handedOut.length) :
    (u.handOut f contents w).handedOut[i]? = u.handedOut[i]? := by
  rw [handOut, List.getElem?_append]
  split
  next => rfl
  next hle => rw [List.getElem?_eq_none (by simp; omega), List.getElem?_eq_none (by omega)]

theorem handedOut_handOut_self {contents : Text} :
    (u.handOut f contents w).handedOut[u.handedOut.length]? = some ⟨f, contents, .live⟩ :=
  List.getElem?_concat_length

theorem handedOut_settle_of_ne (hne : j ≠ i) (fate : Fate) :
    (u.settle i fate w).handedOut[j]? = u.handedOut[j]? :=
  List.getElem?_modify_ne _ _ hne.symm

theorem handedOut_settle_self (hget : u.handedOut[i]? = some x) (fate : Fate) :
    (u.settle i fate w).handedOut[i]? = some { x with fate := fate } := by
  rw [settle, List.getElem?_modify_eq, hget]
  rfl

theorem paths_handOut (u : ScratchUse) (f : Scratch) (contents : Text) (w : World) :
    (u.handOut f contents w).paths = u.paths ++ [f.path] := List.map_append

@[simp] theorem paths_settle (fate : Fate) : (u.settle i fate w).paths = u.paths := by
  refine List.ext_getElem? (fun j => ?_)
  by_cases hj : j = i
  · subst hj
    simp [paths, settle, Function.comp_def]
  · simp [paths, handedOut_settle_of_ne hj]

/-- How a step that makes a scratch file may end. -/
inductive Created (u : ScratchUse) (dir stem extension contents : Text) : ScratchUse → Prop where
  /-- There is no directory for it. -/
  | noDir : Created u dir stem extension contents
      ⟨u.handedOut, { u.world with files := Scratch.prepared dir u.world.files }⟩
  /-- Its file is not opened, or does not take the whole contents; its number is taken. -/
  | broken {s : Files}
      (hs : s = Scratch.prepared dir u.world.files ∨ ∃ b, (Scratch.prepared dir u.world.files).writeBytes
        (Scratch.nextPath dir stem extension u.world) b = .ok s) :
      Created u dir stem extension contents ⟨u.handedOut, Scratch.numbered s u.world⟩
  /-- It is handed out. -/
  | made {s : Files} (written : (Scratch.prepared dir u.world.files).writeText
        (Scratch.nextPath dir stem extension u.world) contents = .ok s) :
      Created u dir stem extension contents
        (u.handOut ⟨Scratch.nextPath dir stem extension u.world⟩ contents (Scratch.numbered s u.world))

theorem perform_create (u : ScratchUse) (dir stem extension contents : Text) :
    Created u dir stem extension contents (u.perform (.create dir stem extension contents)) := by
  have hcreated := Scratch.runIn_create dir stem extension contents u.world
  unfold perform
  dsimp only
  generalize (Scratch.create dir stem extension contents).runIn u.world = ran at hcreated ⊢
  obtain ⟨r, w⟩ := ran
  cases hcreated with
  | noDir e => exact .noDir
  | refused e => exact .broken (Or.inl rfl)
  | cut fault opened e => exact .broken (Or.inr ⟨_, opened⟩)
  | made written => exact .made written

/-- A scratch file is kept, or dropped where it is. -/
theorem perform_keep (hlive : u.live? i = some f) (dir : Text) :
    let s := (u.world.files.makeDirAll dir).2
    (u.perform (.keep i dir)
        = u.settle i .gone (Effect.runIn f.drop { u.world with files := s }).2)
      ∨ ∃ s', s.rename f.path (f.keptIn dir) = .ok s'
        ∧ u.perform (.keep i dir)
          = u.settle i (.kept (f.keptIn dir)) { u.world with files := s' } := by
  unfold perform
  dsimp only
  rw [hlive]
  rcases Scratch.runIn_keepIn f dir u.world with ⟨e, hrun⟩ | ⟨s', hrename, hrun⟩ <;> dsimp only <;>
    rw [hrun]
  · exact Or.inl rfl
  · exact Or.inr ⟨s', hrename, rfl⟩

/-! ## §3. No number is taken twice. -/

/-- How the numbers of scratch files are taken, from the first number on: the paths have the
numbers of different turns, and as many turns are over as numbers were taken. -/
structure Numbered (u : ScratchUse) (g : Scratch.Naming) (first taken : Nat) : Prop where
  process : u.world.processId = g.process
  next : u.world.nextScratch % Scratch.numberLimit = (first + taken) % Scratch.numberLimit
  turns : ∀ p ∈ u.paths, ∃ n turn, g.IsNumbered n p ∧ turn < taken
    ∧ n % Scratch.numberLimit = (first + turn) % Scratch.numberLimit
  apart : u.paths.Pairwise (fun p q => ∀ n, g.IsNumbered n p → ¬g.IsNumbered n q)

namespace Numbered

theorem start (hprocess : w.processId = g.process) :
    (ScratchUse.start w).Numbered g w.nextScratch 0 :=
  ⟨hprocess, rfl, fun _ hp => absurd hp List.not_mem_nil, List.Pairwise.nil⟩

/-- Every scratch file has a number. -/
theorem exists_number (hn : u.Numbered g first taken) (hx : u.handedOut[i]? = some x) :
    ∃ n, g.IsNumbered n x.scratch.path := by
  have hmem : x.scratch.path ∈ u.paths := List.mem_map_of_mem (List.mem_of_getElem? hx)
  obtain ⟨n, -, hnumber, -⟩ := hn.turns _ hmem
  exact ⟨n, hnumber⟩

/-- Scratch files that have one number are one. -/
theorem eq_of_number {n : Nat} (hn : u.Numbered g first taken)
    (hx : u.handedOut[i]? = some x) (hy : u.handedOut[j]? = some y)
    (hnumber : g.IsNumbered n x.scratch.path) (hnumber' : g.IsNumbered n y.scratch.path) :
    i = j := by
  have hapart := List.pairwise_iff_getElem.mp (List.pairwise_map.mp hn.apart)
  obtain ⟨hi, rfl⟩ := List.getElem?_eq_some_iff.mp hx
  obtain ⟨hj, rfl⟩ := List.getElem?_eq_some_iff.mp hy
  rcases Nat.lt_trichotomy i j with hlt | heq | hgt
  · exact absurd hnumber' (hapart i j hi hj hlt n hnumber)
  · exact heq
  · exact absurd hnumber (hapart j i hj hi hgt n hnumber')

/-- **Scratch files have different paths.** -/
theorem nodup (hn : u.Numbered g first taken) : u.paths.Nodup := by
  refine hn.apart.imp_of_mem (fun {p q} hp _ hpq heq => ?_)
  obtain ⟨n, -, hnumber, -⟩ := hn.turns p hp
  exact hpq n hnumber (heq ▸ hnumber)

/-- The next scratch file is numbered as it is made. -/
theorem isNumbered_nextPath {extension : Text} (hn : u.Numbered g first taken)
    (hext : extension ∈ g.extensions) (dir stem : Text) :
    g.IsNumbered u.world.nextScratch (Scratch.nextPath dir stem extension u.world) := by
  rw [Scratch.nextPath, hn.process]
  exact (Scratch.isNumbered_fileName hext stem _).join dir

/-- **The next number is no scratch file's**, as long as there are numbers left. -/
theorem not_isNumbered_next (hn : u.Numbered g first taken) (hleft : taken < Scratch.numberLimit)
    {p : Text} (hp : p ∈ u.paths) : ¬g.IsNumbered u.world.nextScratch p := by
  intro hnumber
  obtain ⟨m, turn, hturns, hturn, heq⟩ := hn.turns p hp
  obtain rfl := hnumber.unique hturns
  -- the turn is over, and there are not as many turns as numbers
  have hlater := heq.symm.trans hn.next
  unfold Scratch.numberLimit at hlater hleft
  omega

/-- Where no number is taken, and nothing is handed out, the numbers stay. -/
theorem of_same (hn : u.Numbered g first taken) (hpaths : u'.paths = u.paths)
    (hprocess : u'.world.processId = u.world.processId)
    (hnext : u'.world.nextScratch = u.world.nextScratch) : u'.Numbered g first taken := by
  refine ⟨hprocess.trans hn.process, hnext ▸ hn.next, ?_, ?_⟩ <;> rw [hpaths]
  · exact hn.turns
  · exact hn.apart

theorem next_following {n : Nat} (h : n % Scratch.numberLimit = (first + taken) % Scratch.numberLimit) :
    Scratch.followingNumber n % Scratch.numberLimit = (first + (taken + 1)) % Scratch.numberLimit := by
  unfold Scratch.followingNumber Scratch.numberLimit at *
  omega

/-- A number is taken and not used. -/
theorem skip (hn : u.Numbered g first taken) (hpaths : u'.paths = u.paths)
    (hprocess : u'.world.processId = u.world.processId)
    (hnext : u'.world.nextScratch = Scratch.followingNumber u.world.nextScratch) :
    u'.Numbered g first (taken + 1) := by
  refine ⟨hprocess.trans hn.process, hnext ▸ next_following hn.next, ?_, ?_⟩ <;> rw [hpaths]
  · intro p hp
    obtain ⟨n, turn, hnumber, hturn, heq⟩ := hn.turns p hp
    exact ⟨n, turn, hnumber, Nat.lt_succ_of_lt hturn, heq⟩
  · exact hn.apart

/-- A number is taken for a path. -/
theorem take {p : Text} (hn : u.Numbered g first taken)
    (hleft : taken < Scratch.numberLimit) (hpaths : u'.paths = u.paths ++ [p])
    (hp : g.IsNumbered u.world.nextScratch p)
    (hprocess : u'.world.processId = u.world.processId)
    (hnext : u'.world.nextScratch = Scratch.followingNumber u.world.nextScratch) :
    u'.Numbered g first (taken + 1) := by
  refine ⟨hprocess.trans hn.process, hnext ▸ next_following hn.next, ?_, ?_⟩ <;> rw [hpaths]
  · intro q hq
    rcases List.mem_append.mp hq with hq | hq
    · obtain ⟨n, turn, hnumber, hturn, heq⟩ := hn.turns q hq
      exact ⟨n, turn, hnumber, Nat.lt_succ_of_lt hturn, heq⟩
    · obtain rfl := List.mem_singleton.mp hq
      exact ⟨_, taken, hp, Nat.lt_succ_self taken, hn.next⟩
  · refine List.pairwise_append.mpr ⟨hn.apart, List.pairwise_singleton _ _, ?_⟩
    intro q hq p' hp' n hnumber hnumber'
    obtain rfl := List.mem_singleton.mp hp'
    obtain rfl := hnumber'.unique hp
    exact hn.not_isNumbered_next hleft hq hnumber

/-- **A step takes one number at most**, and only to make a scratch file. -/
theorem perform (hn : u.Numbered g first taken)
    (hext : ∀ e, step.extension? = some e → e ∈ g.extensions)
    (hleft : taken + [step].countP ScratchStep.isCreate ≤ Scratch.numberLimit) :
    ∃ taken', taken' ≤ taken + [step].countP ScratchStep.isCreate
      ∧ (u.perform step).Numbered g first taken' := by
  cases step with
  | create dir stem extension contents =>
    have hpath := hn.isNumbered_nextPath (hext extension rfl) dir stem
    have hcreated := perform_create u dir stem extension contents
    generalize u.perform (.create dir stem extension contents) = u' at hcreated ⊢
    cases hcreated with
    | noDir => exact ⟨taken, Nat.le_succ taken, hn.of_same rfl rfl rfl⟩
    | broken => exact ⟨taken + 1, Nat.le_refl _, hn.skip rfl rfl rfl⟩
    | made => exact ⟨taken + 1, Nat.le_refl _, hn.take hleft (paths_handOut ..) hpath rfl rfl⟩
  | drop i =>
    refine ⟨taken, Nat.le_refl taken, ?_⟩
    unfold ScratchUse.perform
    dsimp only
    split
    next f _ =>
      obtain ⟨hprocess, hnext⟩ := Scratch.numbers_runIn_drop f u.world
      exact hn.of_same (paths_settle _) hprocess hnext
    next => exact hn
  | keep i dir =>
    refine ⟨taken, Nat.le_refl taken, ?_⟩
    cases hlive : u.live? i with
    | none =>
      unfold ScratchUse.perform
      dsimp only
      rw [hlive]
      exact hn
    | some f =>
      rcases perform_keep hlive dir with hperform | ⟨s, -, hperform⟩ <;> rw [hperform]
      · obtain ⟨hprocess, hnext⟩ := Scratch.numbers_runIn_drop f
          { u.world with files := (u.world.files.makeDirAll dir).2 }
        exact hn.of_same (paths_settle _) hprocess hnext
      · exact hn.of_same (paths_settle _) rfl rfl

/-- A run takes no more numbers than it makes scratch files. -/
theorem run (hn : u.Numbered g first taken)
    (hext : ∀ e ∈ ScratchStep.extensions steps, e ∈ g.extensions)
    (hleft : taken + steps.countP ScratchStep.isCreate ≤ Scratch.numberLimit) :
    ∃ taken', (u.run steps).Numbered g first taken' := by
  induction steps generalizing u taken with
  | nil => exact ⟨taken, hn⟩
  | cons step rest ih =>
    rw [← List.singleton_append, List.countP_append] at hleft
    rw [ScratchStep.forall_extensions_cons] at hext
    obtain ⟨taken', htaken, hnext⟩ := hn.perform hext.1 (by omega)
    exact ih hnext hext.2 (by omega)

end Numbered

end ScratchUse

end ScriptWeave
