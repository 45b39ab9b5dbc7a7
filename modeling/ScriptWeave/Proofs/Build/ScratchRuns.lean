/-
  ScriptWeave.Proofs.Build.ScratchRuns
  ────────────────────────────────────
  **SCRATCH FILES STAY APART.**

  Scratch files have different paths if their extensions tell them apart.
  Still their paths may lead to one file.  Two links can lead there, an
  extension can lead through directories that have the names of scratch files,
  and a file that is kept can take the place of a link on the way to another
  (`scratchFiles_meet`).

  Where the extensions are parts of names, and no link is where a file is
  put, the file itself has the number in its name:

      path:  directory/stem_process_number.extension
      file:  some location whose last name ends in _number.extension

  Then each scratch file has a file of its own, with the text that it was
  made with until it is dropped, wherever it is kept.  No step touches the
  file of another (`scratchFiles_apart`).
-/
import ScriptWeave.Proofs.Build.ScratchNumbers
import ScriptWeave.Proofs.Files.LastName

namespace ScriptWeave

open Files

/-! ## §1. The file has the number. -/

namespace Scratch

variable {g : Naming} {p : Text} {m n : Nat} {f : Scratch} {w : World} {l : Location} {b : ByteArray}

namespace Naming

/-- Whether every extension is within a name. -/
def WithinNames (g : Naming) : Prop := ∀ e ∈ g.extensions, '/' ∉ e

namespace IsNumbered

/-- The number of a path stands in its last name, if the extensions are within names. -/
theorem exists_endsIn (h : g.IsNumbered n p) (hext : g.WithinNames) :
    ∃ base, EndsIn p base ∧ g.IsNumbered n base := by
  obtain ⟨e, he, front, rfl⟩ := h
  have hname : '/' ∉ ending g.process n e := by
    have hdigits (k : Nat) : '/' ∉ Decimal.digits k :=
      fun hmem => Bool.noConfusion (Decimal.isDigit_of_mem_digits hmem)
    simp [ending, mark, hdigits, hext e he]
  obtain ⟨u, pieces, hsplit⟩ := Text.exists_splitOn_append hname front
  exact ⟨_, ⟨by simp [ending, mark], pieces, hsplit⟩, e, he, u, rfl⟩

/-- The path at which a file is kept has the number of the file. -/
theorem keptIn (h : g.IsNumbered n f.path) (hext : g.WithinNames) (dir : Text) :
    g.IsNumbered n (f.keptIn dir) := by
  obtain ⟨base, hends, hbase⟩ := h.exists_endsIn hext
  have hmem : '_' ∈ base := by
    obtain ⟨e, -, hin⟩ := hbase
    exact hin.subset List.mem_cons_self
  have hname : Path.fileName? f.path = some base := by
    refine hends.fileName?_eq ?_ ?_ <;> rintro rfl <;> exact absurd hmem (by decide)
  rw [Scratch.keptIn, hname]
  exact hbase.join dir

end IsNumbered

/-- Whether the name at a location ends as the names of scratch files with a number do. -/
def NumberedAt (g : Naming) (n : Nat) (l : Location) : Prop :=
  ∃ d base, l = d ++ [base] ∧ g.IsNumbered n base

/-- A location has one number at most. -/
theorem NumberedAt.unique (h : g.NumberedAt m l) (h' : g.NumberedAt n l) : m = n := by
  obtain ⟨d, base, rfl, hbase⟩ := h
  obtain ⟨d', base', hat, hbase'⟩ := h'
  obtain ⟨-, hlast⟩ := List.append_inj' hat rfl
  rw [(List.cons.inj hlast).1] at hbase
  exact hbase.unique hbase'

end Naming

/-- A scratch file that is in place is removed when it is dropped, and all else stays. -/
theorem runIn_drop (hfile : w.files.HasFile f.path b l) (hslash : endsInSlash f.path = false) :
    (Effect.runIn f.drop w).2 = { w with files := w.files.erase l } := by
  unfold drop
  rw [Effect.runIn_bind, Effect.runIn_change, removeFile_of_find hfile hslash]
  rfl

end Scratch

/-! ## §2. Files that stay apart. -/

namespace ScratchUse

/-- Whether a scratch file is at a location, with the text that it was made with. -/
def Owns (u : ScratchUse) (i : Nat) (l : Location) : Prop :=
  ∃ x p, u.handedOut[i]? = some x ∧ x.place? = some p
    ∧ u.world.files.HasFile p (Text.encode x.contents) l

/-- Whether each scratch file that is not gone is at a location of its own, and the text that it
was made with is read from it. -/
structure Intact (u : ScratchUse) : Prop where
  /-- It is at its place, with its text. -/
  inPlace : ∀ i x p, u.handedOut[i]? = some x → x.place? = some p →
    u.world.files.readText p = .ok x.contents ∧ ∃ l, u.Owns i l
  /-- No other one is at its location. -/
  apart : ∀ i j l, u.Owns i l → u.Owns j l → i = j

/-- Whether a step touched its own file only: what it changed besides making directories is there,
and no scratch file but its own was there. -/
def TouchesOnly (u u' : ScratchUse) (i : Nat) (own : Location → Prop) : Prop :=
  ∀ l, u'.world.files.get? l = u.world.files.get? l
    ∨ (u.world.files.get? l = none ∧ u'.world.files.get? l = some .dir)
    ∨ (own l ∧ ∀ j, j ≠ i → ¬u.Owns j l)

/-- Whether a step touched at most the files at which a scratch file was, or is. -/
def KeepsOthers (u u' : ScratchUse) (i : Nat) : Prop :=
  u.TouchesOnly u' i (fun l => u.Owns i l ∨ u'.Owns i l)

/-- Whether a step touched its own scratch file only.  Making one and keeping one may make
directories, and making one writes where its path leads, to the end or not; dropping one removes
its file and changes nothing else. -/
def Spares (u u' : ScratchUse) : ScratchStep → Prop
  | .create dir stem extension _ => u.TouchesOnly u' u.handedOut.length (fun l =>
    ∃ b, u'.world.files.HasFile (Scratch.nextPath dir stem extension u.world) b l)
  | .drop i => ∀ l,
    ((u.live? i).isSome ∧ u.Owns i l → u'.world.files.get? l = none)
      ∧ (¬((u.live? i).isSome ∧ u.Owns i l) → u'.world.files.get? l = u.world.files.get? l)
  | .keep i _ => u.KeepsOthers u' i

/-- Whether a path leads to a link. -/
def linkAt (s : Files) (p : Text) : Bool :=
  match s.find .change p with
  | .ok (.entry _ (.link _)) => true
  | _ => false

/-- Whether a step finds a link where it puts its file. -/
def meetsLink (u : ScratchUse) : ScratchStep → Bool
  | .create dir stem extension _ =>
    linkAt (Scratch.prepared dir u.world.files) (Scratch.nextPath dir stem extension u.world)
  | .drop _ => false
  | .keep i dir =>
    match u.live? i with
    | some f => linkAt (u.world.files.makeDirAll dir).2 (f.keptIn dir)
    | none => false

/-- Whether no step finds a link where it puts its file. -/
def meetsNoLink : ScratchUse → List ScratchStep → Bool
  | _, [] => true
  | u, step :: rest => !u.meetsLink step && meetsNoLink (u.perform step) rest

variable {u u' : ScratchUse} {g : Scratch.Naming} {i j : Nat} {l : Location} {f : Scratch} {w : World}
  {s : Files} {step : ScratchStep} {steps : List ScratchStep} {first taken : Nat} {x : HandedOut}

theorem not_linkAt {p : Text} (hlink : linkAt s p = false) (l : Location) (t : Text) :
    s.find .change p ≠ .ok (.entry l (.link t)) := by
  intro hfind
  rw [linkAt, hfind] at hlink
  exact Bool.noConfusion hlink

/-! ## §3. Every file has its place. -/

/-- Whether every scratch file that is not gone is at its place, in a tree, and the path of the
place has the number of the file. -/
structure Held (u : ScratchUse) (g : Scratch.Naming) : Prop where
  tree : u.world.files.IsTree
  inPlace : ∀ (i : Nat) (x : HandedOut) (p : Text), u.handedOut[i]? = some x → x.place? = some p →
    ∃ l, u.world.files.HasFile p (Text.encode x.contents) l
  numbered : ∀ (i : Nat) (x : HandedOut) (p : Text), u.handedOut[i]? = some x → x.place? = some p →
    ∀ n, g.IsNumbered n x.scratch.path → g.IsNumbered n p

namespace Owns

theorem get? (howns : u.Owns i l) : ∃ b, u.world.files.get? l = some (.file b) := by
  obtain ⟨x, p, -, -, hfile⟩ := howns
  exact ⟨_, get?_of_find hfile (by simp)⟩

/-- A scratch file is at one location. -/
theorem unique {m : Location} (howns : u.Owns i l) (howns' : u.Owns i m) : l = m := by
  obtain ⟨x, p, hx, hp, hfile⟩ := howns
  obtain ⟨x', p', hx', hp', hfile'⟩ := howns'
  obtain rfl := Option.some.inj (hx.symm.trans hx')
  obtain rfl := Option.some.inj (hp.symm.trans hp')
  exact (Place.entry.inj (Except.ok.inj (hfile.symm.trans hfile'))).1

end Owns

namespace Held

theorem start (hw : w.files.IsTree) : (ScratchUse.start w).Held g :=
  ⟨hw, fun _ _ _ hx => absurd hx (by simp [ScratchUse.start]),
    fun _ _ _ hx => absurd hx (by simp [ScratchUse.start])⟩

/-- A scratch file in use is where its path leads. -/
theorem live (hheld : u.Held g) (hlive : u.live? i = some f) :
    ∃ contents l, u.handedOut[i]? = some ⟨f, contents, .live⟩
      ∧ u.world.files.HasFile f.path (Text.encode contents) l ∧ u.Owns i l := by
  obtain ⟨contents, hx⟩ := live?_eq_some hlive
  obtain ⟨l, hfile⟩ := hheld.inPlace i _ f.path hx rfl
  exact ⟨contents, l, hx, hfile, _, f.path, hx, rfl, hfile⟩

/-- Where a step touches one file only, and changes no way to a file, the others are at their
places as before. -/
theorem of_touchesOnly (hheld : u.Held g)
    {own : Location → Prop} (hsame : ∀ j, j ≠ i → u'.handedOut[j]? = u.handedOut[j]?)
    (htouches : u.TouchesOnly u' i own)
    (hways : u.world.files.KeepsWays u'.world.files) (htree : u'.world.files.IsTree)
    (hi : ∀ x p, u'.handedOut[i]? = some x → x.place? = some p →
      (∃ l, u'.world.files.HasFile p (Text.encode x.contents) l)
        ∧ ∀ n, g.IsNumbered n x.scratch.path → g.IsNumbered n p) :
    u'.Held g := by
  refine ⟨htree, ?_, ?_⟩ <;> intro j x p hx hp <;> by_cases hj : j = i
  · subst hj
    exact (hi x p hx hp).1
  · rw [hsame j hj] at hx
    obtain ⟨l, hfile⟩ := hheld.inPlace j x p hx hp
    have howns : u.Owns j l := ⟨x, p, hx, hp, hfile⟩
    refine ⟨l, hfile.of_keepsWays hways ?_⟩
    rcases htouches l with hstays | ⟨hnone, -⟩ | ⟨-, hothers⟩
    · exact hstays
    · obtain ⟨b, hb⟩ := howns.get?
      exact absurd (hnone.symm.trans hb) (by simp)
    · exact absurd howns (hothers j hj)
  · subst hj
    exact (hi x p hx hp).2
  · rw [hsame j hj] at hx
    exact hheld.numbered j x p hx hp

variable (hext : g.WithinNames) (hn : u.Numbered g first taken)

include hext hn

/-- The place of a scratch file ends in a name that has the number of the scratch file. -/
theorem exists_endsIn {p : Text} (hheld : u.Held g) (hx : u.handedOut[i]? = some x)
    (hp : x.place? = some p) :
    ∃ n base, g.IsNumbered n x.scratch.path ∧ EndsIn p base
      ∧ g.IsNumbered n base := by
  obtain ⟨n, hnumber⟩ := hn.exists_number hx
  obtain ⟨base, hends, hbase⟩ := (hheld.numbered i x p hx hp n hnumber).exists_endsIn hext
  exact ⟨n, base, hnumber, hends, hbase⟩

/-- A file has the number of its scratch file in its name. -/
theorem owner (hheld : u.Held g) (howns : u.Owns i l) :
    ∃ x n, u.handedOut[i]? = some x ∧ g.IsNumbered n x.scratch.path
      ∧ g.NumberedAt n l := by
  obtain ⟨x, p, hx, hp, hfile⟩ := howns
  obtain ⟨n, base, hnumber, hends, hbase⟩ := hheld.exists_endsIn hext hn hx hp
  obtain ⟨d, hat⟩ := hfile.exists_eq_concat hends
  exact ⟨x, n, hx, hnumber, d, base, hat, hbase⟩

/-- Where a file has the number of a scratch file in its name, no other scratch file is. -/
theorem eq_of_numberedAt {n : Nat} (hheld : u.Held g) (hx : u.handedOut[i]? = some x)
    (hnumber : g.IsNumbered n x.scratch.path)
    (hat : g.NumberedAt n l) (howns : u.Owns j l) : j = i := by
  obtain ⟨y, m, hy, hnumber', hat'⟩ := hheld.owner hext hn howns
  obtain rfl := hat.unique hat'
  exact hn.eq_of_number hy hx hnumber' hnumber

/-- No two scratch files are at one location. -/
theorem eq_of_owns (hheld : u.Held g) (hi : u.Owns i l) (hj : u.Owns j l) : i = j := by
  obtain ⟨x, n, hx, hnumber, hat⟩ := hheld.owner hext hn hj
  exact hheld.eq_of_numberedAt hext hn hx hnumber hat hi

/-- Where a scratch file is, a step that is about it may change what is there. -/
theorem owns_apart (hheld : u.Held g) (howns : u.Owns i l) :
    (u.Owns i l ∨ u'.Owns i l) ∧ ∀ j, j ≠ i → ¬u.Owns j l :=
  ⟨Or.inl howns, fun _ hj hown => hj (hheld.eq_of_owns hext hn hown howns)⟩

/-- **Every file has the text that it was made with.** -/
theorem intact (hheld : u.Held g) : u.Intact := by
  refine ⟨fun i x p hx hp => ?_, fun i j l => hheld.eq_of_owns hext hn⟩
  obtain ⟨l, hfile⟩ := hheld.inPlace i x p hx hp
  obtain ⟨n, base, -, hends, -⟩ := hheld.exists_endsIn hext hn hx hp
  exact ⟨hfile.readText hends, l, x, p, hx, hp, hfile⟩

/-! ## §4. Steps. -/

/-- **What is written for a new scratch file is no other's.**  The way to every other file stays, and
the new one is where its path leads. -/
theorem put (u' : ScratchUse) {p base : Text} {d : Location} {b : ByteArray} {n : Nat}
    (hheld : u.Held g)
    (hfree : ∀ q ∈ u.paths, ¬g.IsNumbered n q) (hbase : g.IsNumbered n base)
    (hadds : u.world.files.AddsDirs s) (htree : s.IsTree) (htakes : s.Takes p base d)
    (hfiles : u'.world.files = s.put (d ++ [base]) (.file b)) :
    u.TouchesOnly u' u.handedOut.length (fun l => ∃ b, u'.world.files.HasFile p b l)
      ∧ u.world.files.KeepsWays u'.world.files ∧ u'.world.files.IsTree
      ∧ u'.world.files.HasFile p b (d ++ [base]) := by
  obtain ⟨hways, htree', hfile⟩ := htakes.put htree b
  rw [← hfiles] at hways htree' hfile
  refine ⟨fun l => ?_, hadds.keepsWays.trans hways, htree', hfile⟩
  by_cases hl : l = d ++ [base]
  · subst hl
    refine Or.inr (Or.inr ⟨⟨b, hfile⟩, fun j _ howns => ?_⟩)
    -- the owner would have the number of the new one
    obtain ⟨y, m, hy, hnumber, hat⟩ := hheld.owner hext hn howns
    obtain rfl := hat.unique ⟨d, base, rfl, hbase⟩
    exact hfree _ (List.mem_map_of_mem (List.mem_of_getElem? hy)) hnumber
  · rw [hfiles, get?_put_of_ne _ _ hl]
    exact (hadds l).imp_right Or.inl

/-- A scratch file that is made is written to a file of its own. -/
theorem create {dir stem extension contents : Text} (hheld : u.Held g)
    (hin : extension ∈ g.extensions) (hleft : taken < Scratch.numberLimit)
    (hlink : u.meetsLink (.create dir stem extension contents) = false) :
    (u.perform (.create dir stem extension contents)).Held g
      ∧ u.Spares (u.perform (.create dir stem extension contents))
        (.create dir stem extension contents) := by
  have hadds := Scratch.addsDirs_prepared dir u.world.files
  have htree := Scratch.isTree_prepared hheld.tree dir
  have hfree := fun q hq => hn.not_isNumbered_next hleft (p := q) hq
  obtain ⟨base, hends, hbase⟩ := (hn.isNumbered_nextPath hin dir stem).exists_endsIn hext
  have hcreated := perform_create u dir stem extension contents
  generalize u.perform (.create dir stem extension contents) = u' at hcreated ⊢
  -- where nothing is written, at most directories are made
  have hmadeDirs (hout : u'.handedOut = u.handedOut)
      (hfiles : u'.world.files = Scratch.prepared dir u.world.files) :
      u'.Held g ∧ u.Spares u' (.create dir stem extension contents) := by
    have htouches : u.Spares u' (.create dir stem extension contents) :=
      fun l => hfiles ▸ (hadds l).imp_right Or.inl
    refine ⟨hheld.of_touchesOnly (fun _ _ => by rw [hout]) htouches (hfiles ▸ hadds.keepsWays)
      (hfiles ▸ htree) ?_, htouches⟩
    intro x p hx
    exact absurd hx (by simp [hout])
  cases hcreated with
  | noDir => exact hmadeDirs rfl rfl
  | @broken s hs =>
    rcases hs with rfl | ⟨b, hwrite⟩
    · exact hmadeDirs rfl rfl
    · obtain ⟨d, htakes, rfl⟩ := writeBytes_endsIn hends (not_linkAt hlink) hwrite
      obtain ⟨htouches, hways, htree', -⟩ :=
        put hext hn ⟨u.handedOut, Scratch.numbered _ u.world⟩ hheld hfree hbase hadds htree htakes rfl
      refine ⟨hheld.of_touchesOnly (fun _ _ => rfl) htouches hways htree' ?_, htouches⟩
      intro x p hx
      exact absurd hx (by simp)
  | @made s hwrite =>
    obtain ⟨d, htakes, rfl⟩ := writeBytes_endsIn hends (not_linkAt hlink) hwrite
    obtain ⟨htouches, hways, htree', hfile⟩ :=
      put hext hn (u.handOut _ _ (Scratch.numbered _ u.world)) hheld hfree hbase hadds htree htakes rfl
    refine ⟨hheld.of_touchesOnly (fun j hj => handedOut_handOut_of_ne hj) htouches hways htree' ?_,
      htouches⟩
    intro x p hx hp
    obtain rfl := Option.some.inj (handedOut_handOut_self.symm.trans hx)
    obtain rfl := Option.some.inj hp
    exact ⟨⟨_, hfile⟩, fun _ h => h⟩

/-- A scratch file that is dropped is removed, whatever directories are made before. -/
theorem dropped (hheld : u.Held g) (hlive : u.live? i = some f)
    (hadds : u.world.files.AddsDirs s) (htree : s.IsTree) :
    ∃ l, u.Owns i l
      ∧ (Effect.runIn f.drop { u.world with files := s }).2 = { u.world with files := s.erase l }
      ∧ u.KeepsOthers (u.settle i .gone { u.world with files := s.erase l }) i
      ∧ (u.settle i .gone { u.world with files := s.erase l }).Held g := by
  obtain ⟨contents, l, hx, hfile, howns⟩ := hheld.live hlive
  obtain ⟨n, base, -, hends, -⟩ := hheld.exists_endsIn hext hn hx rfl
  have hthere : s.HasFile f.path (Text.encode contents) l := hadds.find_entry hfile (by simp)
  have hget := get?_of_find hthere (by simp)
  have htouches : u.KeepsOthers (u.settle i .gone { u.world with files := s.erase l }) i := by
    intro m
    by_cases hm : m = l
    · subst hm
      exact Or.inr (Or.inr (hheld.owns_apart hext hn howns))
    · rw [settle, get?_erase_of_ne s hm]
      exact (hadds m).imp_right Or.inl
  refine ⟨l, howns, Scratch.runIn_drop hthere hends.not_endsInSlash, htouches,
    hheld.of_touchesOnly (fun j hj => handedOut_settle_of_ne hj _) htouches
      (hadds.keepsWays.trans (keepsWays_erase hget)) (htree.erase ?_) ?_⟩
  · intro e he
    exact ⟨_, Option.some.inj (he.symm.trans hget)⟩
  · intro y p hy hp
    rw [handedOut_settle_self hx] at hy
    obtain rfl := Option.some.inj hy
    exact absurd hp (by simp [HandedOut.place?])

/-- A scratch file that is moved is at a location of its own, if it is moved where the path leads. -/
theorem moved {contents q base : Text} {d : Location} {n : Nat} (hheld : u.Held g)
    (hx : u.handedOut[i]? = some ⟨f, contents, .live⟩)
    (hnumber : g.IsNumbered n f.path) (hq : g.IsNumbered n q)
    (hbase : g.IsNumbered n base)
    (hfile : u.world.files.HasFile f.path (Text.encode contents) l)
    (hadds : u.world.files.AddsDirs s) (htree : s.IsTree) (htakes : s.Takes q base d)
    (hw : w.files = s.moveTree l (d ++ [base])) :
    (u.settle i (.kept q) w).Held g ∧ u.KeepsOthers (u.settle i (.kept q) w) i := by
  have howns : u.Owns i l := ⟨_, f.path, hx, rfl, hfile⟩
  have hthere : s.HasFile f.path (Text.encode contents) l := hadds.find_entry hfile (by simp)
  obtain ⟨hways, htree', hfile'⟩ := htakes.moveTree htree hthere
  rw [← hw] at hways htree' hfile'
  have hx' := handedOut_settle_self (w := w) hx (.kept q)
  have htouches : u.KeepsOthers (u.settle i (.kept q) w) i := by
    intro m
    by_cases hmd : m = d ++ [base]
    · subst hmd
      exact Or.inr (Or.inr ⟨Or.inr ⟨_, q, hx', rfl, hfile'⟩,
        fun j hj hown => hj (hheld.eq_of_numberedAt hext hn hx hnumber ⟨d, base, rfl, hbase⟩ hown)⟩)
    by_cases hml : m = l
    · subst hml
      exact Or.inr (Or.inr (hheld.owns_apart hext hn howns))
    · rw [settle, hw, htakes.get?_moveTree htree hthere, if_neg hmd, if_neg hml]
      exact (hadds m).imp_right Or.inl
  refine ⟨hheld.of_touchesOnly (fun j hj => handedOut_settle_of_ne hj _) htouches
    (hadds.keepsWays.trans hways) htree' ?_, htouches⟩
  intro y p hy hp
  obtain rfl := Option.some.inj (hx'.symm.trans hy)
  obtain rfl := Option.some.inj hp
  refine ⟨⟨_, hfile'⟩, fun m hm => ?_⟩
  obtain rfl := hm.unique hnumber
  exact hq

/-- A scratch file that is kept is moved to a location of its own, or dropped. -/
theorem keep {dir : Text} (hheld : u.Held g) (hlive : u.live? i = some f)
    (hlink : u.meetsLink (.keep i dir) = false) :
    (u.perform (.keep i dir)).Held g
      ∧ u.KeepsOthers (u.perform (.keep i dir)) i := by
  have hadds := addsDirs_makeDirAll u.world.files dir
  have htree := hheld.tree.makeDirAll dir
  rcases perform_keep hlive dir with hperform | ⟨s, hrename, hperform⟩ <;> rw [hperform]
  · obtain ⟨l, -, hrun, htouches, hgone⟩ := hheld.dropped hext hn hlive hadds htree
    rw [hrun]
    exact ⟨hgone, htouches⟩
  · obtain ⟨contents, l, hx, hfile, -⟩ := hheld.live hlive
    obtain ⟨n, hnumber⟩ := hn.exists_number hx
    have hkept := hnumber.keptIn hext dir
    obtain ⟨base, hends, hbase⟩ := hkept.exists_endsIn hext
    rw [meetsLink, hlive] at hlink
    obtain ⟨d, htakes, rfl⟩ :=
      rename_endsIn (hadds.find_entry hfile (by simp)) hends (not_linkAt hlink) hrename
    exact hheld.moved hext hn hx hnumber hkept hbase hfile hadds htree htakes rfl

/-- A scratch file that is dropped is removed, and nothing else is changed. -/
theorem drop (hheld : u.Held g) :
    (u.perform (.drop i)).Held g
      ∧ u.Spares (u.perform (.drop i)) (.drop i) := by
  unfold perform
  dsimp only
  cases hlive : u.live? i with
  | none => exact ⟨hheld, fun l => ⟨fun h => absurd h.1 (by simp [hlive]), fun _ => rfl⟩⟩
  | some f =>
    obtain ⟨l, howns, hrun, -, hgone⟩ :=
      hheld.dropped hext hn hlive (AddsDirs.refl u.world.files) hheld.tree
    dsimp only at hrun ⊢
    rw [hrun]
    refine ⟨hgone, fun m => ⟨?_, fun hnot => get?_erase_of_ne _ ?_⟩⟩
    · rintro ⟨-, hown⟩
      obtain rfl := hown.unique howns
      exact get?_erase_self _ _
    · rintro rfl
      exact hnot ⟨by simp [hlive], howns⟩

/-- **A step keeps every file in its place**, and spares the others. -/
theorem perform (hheld : u.Held g) (hin : ∀ e, step.extension? = some e → e ∈ g.extensions)
    (hleft : taken + [step].countP ScratchStep.isCreate ≤ Scratch.numberLimit)
    (hlink : u.meetsLink step = false) :
    (u.perform step).Held g ∧ u.Spares (u.perform step) step := by
  cases step with
  | create dir stem extension contents =>
    exact hheld.create hext hn (hin extension rfl) hleft hlink
  | drop i => exact hheld.drop hext hn
  | keep i dir =>
    cases hlive : u.live? i with
    | some f => exact hheld.keep hext hn hlive hlink
    | none =>
      have hstays : u.perform (.keep i dir) = u := by
        rw [ScratchUse.perform, hlive]
      rw [hstays]
      exact ⟨hheld, fun l => Or.inl rfl⟩

/-! ## §5. Whole runs. -/

/-- Through a run every file keeps its place and its text, and every step spares the others. -/
theorem run (hheld : u.Held g) (hin : ∀ e ∈ ScratchStep.extensions steps, e ∈ g.extensions)
    (hleft : taken + steps.countP ScratchStep.isCreate ≤ Scratch.numberLimit)
    (hlinks : u.meetsNoLink steps = true) :
    (∀ before, before <+: steps → (u.run before).Intact)
      ∧ ∀ before step, before ++ [step] <+: steps →
        (u.run before).Spares (u.run (before ++ [step])) step := by
  induction steps generalizing u taken with
  | nil =>
    refine ⟨fun before hbefore => ?_, fun before step hbefore => ?_⟩
    · rw [List.prefix_nil.mp hbefore]
      exact hheld.intact hext hn
    · exact absurd (List.prefix_nil.mp hbefore) (by simp)
  | cons step rest ih =>
    rw [← List.singleton_append, List.countP_append] at hleft
    rw [ScratchStep.forall_extensions_cons] at hin
    rw [meetsNoLink, Bool.and_eq_true, Bool.not_eq_true'] at hlinks
    obtain ⟨hlink, hrest⟩ := hlinks
    obtain ⟨taken', htaken, hn'⟩ := hn.perform hin.1 (by omega)
    obtain ⟨hheld', hspares⟩ := hheld.perform hext hn hin.1 (by omega) hlink
    obtain ⟨hintact, hsteps⟩ := ih hn' hheld' hin.2 (by omega) hrest
    refine ⟨fun before hbefore => ?_, fun before step' hbefore => ?_⟩
    · rcases List.prefix_cons_iff.mp hbefore with rfl | ⟨before', rfl, hbefore'⟩
      · exact hheld.intact hext hn
      · exact hintact before' hbefore'
    · cases before with
      | nil =>
        obtain ⟨rfl, -⟩ := List.cons_prefix_cons.mp hbefore
        exact hspares
      | cons head before' =>
        obtain ⟨rfl, hbefore'⟩ := List.cons_prefix_cons.mp hbefore
        exact hsteps before' step' hbefore'

end Held

/-- **Scratch files stay apart.**  However scratch files are made, dropped and kept, fewer than there
are numbers of them, their paths differ, if the extensions tell their names apart.  If moreover the
extensions are parts of names and no link is where a file is put, each scratch file has a file of its
own with its text at any time, and no step touches the file of another. -/
theorem scratchFiles_apart (w : World) (steps : List ScratchStep)
    (hcount : steps.countP ScratchStep.isCreate < Scratch.numberLimit)
    (hapart : Scratch.TellApart w.processId (ScratchStep.extensions steps)) :
    ((start w).run steps).paths.Nodup
      ∧ (w.files.IsTree → (∀ e ∈ ScratchStep.extensions steps, '/' ∉ e) →
        (start w).meetsNoLink steps = true →
        (∀ before, before <+: steps → ((start w).run before).Intact)
          ∧ ∀ before step, before ++ [step] <+: steps →
            ((start w).run before).Spares ((start w).run (before ++ [step])) step) := by
  let g : Scratch.Naming := ⟨w.processId, ScratchStep.extensions steps, hapart⟩
  have hn : (start w).Numbered g w.nextScratch 0 := Numbered.start rfl
  have hleft : 0 + steps.countP ScratchStep.isCreate ≤ Scratch.numberLimit := by omega
  obtain ⟨taken, hrun⟩ := hn.run (fun _ he => he) hleft
  refine ⟨hrun.nodup, fun htree hext hlinks => ?_⟩
  have hwithin : g.WithinNames := hext
  exact (Held.start htree).run hwithin hn (fun _ he => he) hleft hlinks

/-- A process that makes two scratch files in a directory, keeps the first, drops the second, and is
to make another one. -/
def threeFiles : List ScratchStep :=
  [.create "tmp" "S" "x" "first", .create "tmp" "S" "y.x" "second", .keep 0 "tmp/kept", .drop 1,
    .create "tmp" "S" "x" "third"]

/-- A world with nothing in it, in which the third write breaks off. -/
def narrowWorld : World :=
  { Toolchain.freshWorld .empty with faults := [none, none, some ⟨2, .noSpace⟩] }

/-- The file that is kept has its text to the end, dropping the second file removes no other, and
what the third write left is no scratch file. -/
theorem threeFiles_apart :
    let u := (start narrowWorld).run threeFiles
    u.paths.Nodup ∧ u.world.files.readText "tmp/kept/S_7_0.x" = .ok "first"
      ∧ u.world.files.readText "tmp/S_7_2.x" = .ok "th"
      ∧ ((start narrowWorld).run (threeFiles.take 3)).Spares
        ((start narrowWorld).run (threeFiles.take 4)) (.drop 1) := by
  obtain ⟨hnodup, hrest⟩ := scratchFiles_apart narrowWorld threeFiles (by decide)
    (Scratch.tellApart_of_not_mem (by decide) _)
  obtain ⟨hintact, hspares⟩ := hrest (isTree_of_entries (by decide)) (by decide) (by decide)
  refine ⟨hnodup, ?_, by rfl, hspares (threeFiles.take 3) (.drop 1) (by decide)⟩
  have hkept : ((start narrowWorld).run threeFiles).handedOut[0]?
      = some ⟨⟨"tmp/S_7_0.x"⟩, "first", .kept "tmp/kept/S_7_0.x"⟩ := by decide
  exact ((hintact threeFiles List.prefix_rfl).inPlace 0 _ _ hkept rfl).1

/-! ## §6. Where they meet. -/

/-- Links with the names of scratch files, to one place. -/
def sharedLinks : Files :=
  ⟨[(["tmp"], .dir), (["tmp", "S_7_0.x"], .link "shared"), (["tmp", "S_7_1.x"], .link "shared")]⟩

/-- Directories with the names of scratch files. -/
def namedDirs : Files := ⟨[(["tmp"], .dir), (["tmp", "S_7_0.x"], .dir), (["tmp", "S_7_1.x"], .dir)]⟩

/-- A link where a scratch file will be kept, on the way to a directory of scratch files. -/
def linkedDir : Files :=
  ⟨[(["kept"], .dir), (["store"], .dir), (["kept", "S_7_0.x"], .link "../store")]⟩

/-- Two scratch files may have one path, if the extension of the first ends as the name of the second
does.  Then the first has the text of the second.  And two paths may lead to one file, through links
or through an extension that is more than a part of a name; a scratch file that takes the place of a
link cuts off another one that was made through it. -/
theorem scratchFiles_meet :
    let twice (dir e : Text) : List ScratchStep :=
      [.create dir "S" e "first", .create dir "S" e "second"]
    let named := (start (Toolchain.freshWorld .empty)).run
      [.create "tmp" "S" "x_7_1.x" "first", .create "tmp" "S_7_0.x" "x" "second"]
    let linked := (start (Toolchain.freshWorld sharedLinks)).run (twice "tmp" "x")
    let through := (start (Toolchain.freshWorld namedDirs)).run (twice "tmp" "x/../y")
    let replaced := (start (Toolchain.freshWorld linkedDir)).run
      (twice "kept/S_7_0.x" "x" ++ [.keep 0 "kept"])
    (named.handedOut[0]? = some ⟨⟨"tmp/S_7_0.x_7_1.x"⟩, "first", .live⟩
        ∧ named.handedOut[1]? = some ⟨⟨"tmp/S_7_0.x_7_1.x"⟩, "second", .live⟩
        ∧ named.world.files.readText "tmp/S_7_0.x_7_1.x" = .ok "second")
      ∧ (sharedLinks.IsTree ∧ linked.handedOut[0]? = some ⟨⟨"tmp/S_7_0.x"⟩, "first", .live⟩
        ∧ linked.world.files.readText "tmp/S_7_0.x" = .ok "second")
      ∧ (namedDirs.IsTree ∧ through.handedOut[0]? = some ⟨⟨"tmp/S_7_0.x/../y"⟩, "first", .live⟩
        ∧ through.world.files.readText "tmp/S_7_0.x/../y" = .ok "second")
      ∧ (linkedDir.IsTree
        ∧ replaced.handedOut[1]? = some ⟨⟨"kept/S_7_0.x/S_7_1.x"⟩, "second", .live⟩
        ∧ replaced.world.files.readText "kept/S_7_0.x/S_7_1.x" = .error .notDirectory) := by
  refine ⟨⟨by decide, by decide, ?_⟩, ⟨isTree_of_entries (by decide), by decide, ?_⟩,
    ⟨isTree_of_entries (by decide), by decide, ?_⟩, isTree_of_entries (by decide), by decide, ?_⟩ <;>
  rfl

end ScratchUse

end ScriptWeave
