/-
  ScriptWeave.Proofs.Build.Actions
  ────────────────────────────────
  **WHAT BECOMES OF AN ACTION.**

  An action is run in a world; it hands out a result or a failure, and the
  world it leaves.  What follows an action runs in that world, and nothing
  follows one that failed.

      (a >>= f).runIn w = (f x).runIn w'      if a.runIn w = (ok x, w')
      (a >>= f).runIn w = (error e, w')       if a.runIn w = (error e, w')

  A contract says what an action makes of every world in which an invariant
  holds: how it ends, and that the invariant still holds.
-/
import ScriptWeave.Build.World
import ScriptWeave.Proofs.Files.Writing

namespace ScriptWeave

variable {α β : Type} {w w' : World}

/-! ## §1. Running. -/

theorem exists_ok_of_toBool {ε : Type} {r : Except ε α} (h : r.toBool = true) : ∃ x, r = .ok x := by
  cases r with
  | ok x => exact ⟨x, rfl⟩
  | error e => exact Bool.noConfusion h

theorem exists_error_of_toBool {ε : Type} {r : Except ε α} (h : r.toBool = false) :
    ∃ e, r = .error e := by
  cases r with
  | ok x => exact Bool.noConfusion h
  | error e => exact ⟨e, rfl⟩

namespace World

/-- Whether nothing is wrong with any write to come. -/
def Faultless (w : World) : Prop := ∀ x ∈ w.faults, x = none

theorem Faultless.fault?_eq_none (h : w.Faultless) (t : Text) : w.fault? t = none := by
  unfold fault?
  cases hfaults : w.faults with
  | nil => rfl
  | cons x xs =>
    obtain rfl := h x (hfaults ▸ List.mem_cons_self)
    rfl

/-- Nor is it behind a write. -/
theorem Faultless.of_tail (h : w.Faultless) (hfaults : w'.faults = w.faults.tail) : w'.Faultless :=
  fun x hx => h x (List.mem_of_mem_tail (hfaults ▸ hx))

end World

/-- What becomes of an action in a world, and the world it leaves. -/
def Action.runIn (a : Action α) (w : World) : Except Failure α × World := (ExceptT.run a).run w

/-- What a step that does not fail hands out, and the world it leaves. -/
def Effect.runIn (a : Effect α) (w : World) : α × World := a.run w

namespace Effect

@[simp] theorem runIn_pure (x : α) : Effect.runIn (pure x) w = (x, w) := rfl

theorem runIn_bind (a : Effect α) (f : α → Effect β) :
    Effect.runIn (a >>= f) w = Effect.runIn (f (Effect.runIn a w).1) (Effect.runIn a w).2 := rfl

@[simp] theorem runIn_modify (f : World → World) : Effect.runIn (modify f) w = ((), f w) := rfl

/-- A change to the files is made, or nothing is changed. -/
theorem runIn_change (f : Files → Except IoError Files) :
    Effect.runIn (World.change f) w
      = match f w.files with
        | .ok s => (.ok (), { w with files := s })
        | .error e => (.error e, w) := by
  have hget : Effect.runIn get w = (w, w) := rfl
  rw [World.change, Effect.runIn_bind, hget]
  cases f w.files <;> rfl

/-- A write that meets no fault is one operation; else it fails in any case, and the file holds
what it took, if it was opened. -/
theorem runIn_write_eq (p t : Text) :
    Effect.runIn (World.write p t) w
      = match w.fault? t with
        | none => Effect.runIn (World.change (fun s => s.writeText p t))
            { w with faults := w.faults.tail }
        | some x =>
          match w.files.writeBytes p (x.taken t) with
          | .ok s => (.error x.error, { w with files := s, faults := w.faults.tail })
          | .error e => (.error e, { w with faults := w.faults.tail }) := by
  have hget : Effect.runIn get w = (w, w) := rfl
  rw [World.write, runIn_bind, hget]
  dsimp only
  rw [runIn_bind, runIn_modify]
  cases w.fault? t with
  | none => rfl
  | some x =>
    dsimp only
    rw [runIn_bind, runIn_change]
    dsimp only
    cases w.files.writeBytes p (x.taken t) <;> rfl

/-- A write without a fault makes its change to the files, or fails and makes none. -/
theorem runIn_write_of_noFault {p t : Text} (h : w.fault? t = none) :
    Effect.runIn (World.write p t) w
      = match w.files.writeText p t with
        | .ok s => (.ok (), { w with files := s, faults := w.faults.tail })
        | .error e => (.error e, { w with faults := w.faults.tail }) := by
  rw [runIn_write_eq, h]
  dsimp only
  rw [runIn_change]

/-- **What a write leaves**: the whole text, or the files as they were, or the beginning of the
text. -/
inductive Written (p t : Text) (w : World) : Except IoError Unit → Files → Prop where
  /-- There is no fault, and the file is opened. -/
  | whole {s : Files} (nofault : w.fault? t = none) (opened : w.files.writeText p t = .ok s) :
      Written p t w (.ok ()) s
  /-- The file is not opened. -/
  | refused {e : IoError} (closed : w.files.writeText p t = .error e) :
      Written p t w (.error e) w.files
  /-- The file is opened, and does not take the whole text. -/
  | cut {x : WriteFault} {s : Files} (fault : w.fault? t = some x)
      (opened : w.files.writeBytes p (x.taken t) = .ok s) : Written p t w (.error x.error) s

theorem runIn_write (p t : Text) (w : World) :
    ∃ r s, Effect.runIn (World.write p t) w = (r, { w with files := s, faults := w.faults.tail })
      ∧ Written p t w r s := by
  rw [runIn_write_eq]
  cases hfault : w.fault? t with
  | none =>
    dsimp only
    rw [runIn_change]
    dsimp only
    cases hopened : w.files.writeText p t with
    | ok s => exact ⟨_, s, rfl, .whole hfault hopened⟩
    | error e => exact ⟨_, w.files, rfl, .refused hopened⟩
  | some x =>
    dsimp only
    cases hopened : w.files.writeBytes p (x.taken t) with
    | ok s => exact ⟨_, s, rfl, .cut hfault hopened⟩
    | error e => exact ⟨_, w.files, rfl, .refused (Files.writeBytes_eq_error hopened _)⟩

/-- Making directories changes the files as it does, however it ends. -/
theorem runIn_makeDirAll (p : Text) :
    Effect.runIn (World.makeDirAll p) w
      = ((w.files.makeDirAll p).1, { w with files := (w.files.makeDirAll p).2 }) := rfl

end Effect

namespace Action

@[simp] theorem runIn_pure (x : α) : Action.runIn (pure x) w = (.ok x, w) := rfl

/-- A step that does not fail, as an action. -/
theorem runIn_lift (a : Effect α) :
    Action.runIn (liftM a : Action α) w = (.ok (Effect.runIn a w).1, (Effect.runIn a w).2) := rfl

/-- What follows an action runs in the world that it left, unless it failed. -/
theorem runIn_bind (a : Action α) (f : α → Action β) :
    Action.runIn (a >>= f) w
      = match a.runIn w with
        | (.ok x, w') => (f x).runIn w'
        | (.error e, w') => (.error e, w') := by
  show (match (ExceptT.run a).run w with
    | (r, w') => (ExceptT.bindCont f r).run w') = _
  unfold Action.runIn
  cases (ExceptT.run a).run w with
  | mk r w' => cases r <;> rfl

theorem runIn_bind_ok {a : Action α} {f : α → Action β} {x : α}
    (h : a.runIn w = (.ok x, w')) : Action.runIn (a >>= f) w = (f x).runIn w' := by
  rw [runIn_bind, h]

theorem runIn_bind_error {a : Action α} {f : α → Action β} {e : Failure}
    (h : a.runIn w = (.error e, w')) : Action.runIn (a >>= f) w = (.error e, w') := by
  rw [runIn_bind, h]

@[simp] theorem runIn_get : Action.runIn get w = (.ok w, w) := rfl

@[simp] theorem runIn_modify (f : World → World) : Action.runIn (modify f) w = (.ok (), f w) := rfl

/-- A handler runs in the world that a failed action left. -/
theorem runIn_tryCatch (a : Action α) (handle : Failure → Action α) :
    Action.runIn (tryCatch a handle) w
      = match a.runIn w with
        | (.ok x, w') => (.ok x, w')
        | (.error e, w') => (handle e).runIn w' := by
  show StateT.run (ExceptT.run (ExceptT.tryCatch a handle)) w = _
  rw [ExceptT.tryCatch, ExceptT.run_mk, StateT.run_bind]
  change (bind (a.runIn w) _ : Id _) = _
  rcases a.runIn w with ⟨r, w'⟩
  cases r <;> rfl

/-- What an operation on a path hands out, or its failure. -/
theorem runIn_orFail (path : Text) (r : Except IoError α) :
    Action.runIn (orFail path r) w = (r.mapError (Failure.io path), w) := by
  cases r <;> rfl

/-- A change to the files that may fail, and what follows it. -/
theorem runIn_change_orFail (path : Text) (f : Files → Except IoError Files) (g : Unit → Action β) :
    (∃ e, f w.files = .error e
        ∧ Action.runIn (liftM (World.change f) >>= fun r => orFail path r >>= g) w
          = (.error (.io path e), w))
      ∨ ∃ s, f w.files = .ok s
        ∧ Action.runIn (liftM (World.change f) >>= fun r => orFail path r >>= g) w
          = (g ()).runIn { w with files := s } := by
  rw [runIn_bind, runIn_lift, Effect.runIn_change]
  cases f w.files with
  | error e => exact Or.inl ⟨e, rfl, rfl⟩
  | ok s =>
    refine Or.inr ⟨s, rfl, ?_⟩
    dsimp only
    rw [runIn_bind]
    rfl

/-- An action with its result changed. -/
theorem runIn_map (a : Action α) (f : α → β) :
    Action.runIn (f <$> a) w = ((a.runIn w).1.map f, (a.runIn w).2) := by
  have hbind : Action.runIn (f <$> a) w = Action.runIn (a >>= fun x => pure (f x)) w := by
    rw [bind_pure_comp]
  rw [hbind, runIn_bind]
  rcases a.runIn w with ⟨r, w'⟩
  cases r <;> rfl

end Action

/-! ## §2. Contracts. -/

/-- In every world in which an invariant holds, the action ends as it should and the invariant
holds again. -/
def Meets (inv : World → Prop) (a : Action α) (ends : Except Failure α → Prop) : Prop :=
  ∀ w, inv w → ends (a.runIn w).1 ∧ inv (a.runIn w).2

namespace Meets

variable {inv : World → Prop} {a : Action α} {ends : Except Failure α → Prop}
  {ends' : Except Failure β → Prop}

protected theorem pure {x : α} (h : ends (.ok x)) : Meets inv (pure x) ends :=
  fun _ hw => ⟨h, hw⟩

protected theorem throw {e : Failure} (h : ends (.error e)) : Meets inv (throw e) ends :=
  fun _ hw => ⟨h, hw⟩

/-- A step that does not fail. -/
theorem lift {a : Effect α}
    (h : ∀ w, inv w → ends (.ok (Effect.runIn a w).1) ∧ inv (Effect.runIn a w).2) :
    Meets inv (liftM a : Action α) ends := by
  intro w hw
  rw [Action.runIn_lift]
  exact h w hw

/-- An action that ends as it should also ends as it then must. -/
theorem weaken {ends' : Except Failure α → Prop} (ha : Meets inv a ends)
    (h : ∀ r, ends r → ends' r) : Meets inv a ends' :=
  fun w hw => ⟨h _ (ha w hw).1, (ha w hw).2⟩

/-- What follows an action begins where the action ended, and as it ended. -/
theorem bind {f : α → Action β} (ha : Meets inv a ends)
    (hok : ∀ x, ends (.ok x) → Meets inv (f x) ends')
    (herror : ∀ e, ends (.error e) → ends' (.error e)) : Meets inv (a >>= f) ends' := by
  intro w hw
  obtain ⟨hends, hinv⟩ := ha w hw
  rcases hrun : a.runIn w with ⟨r, w'⟩
  rw [hrun] at hends hinv
  cases r with
  | ok x =>
    rw [Action.runIn_bind_ok hrun]
    exact hok x hends w' hinv
  | error e =>
    rw [Action.runIn_bind_error hrun]
    exact ⟨herror e hends, hinv⟩

/-- What follows a step that hands out nothing and does not fail. -/
theorem bind_unit {a : Action Unit} {f : Unit → Action β} (ha : Meets inv a (· = .ok ()))
    (hf : Meets inv (f ()) ends') : Meets inv (a >>= f) ends' :=
  ha.bind (fun _ _ => hf) (fun _ he => absurd he (by simp))

theorem map {f : α → β} (ha : Meets inv a (fun r => ends' (r.map f))) :
    Meets inv (f <$> a) ends' := by
  intro w hw
  rw [Action.runIn_map]
  exact ha w hw

end Meets

/-! ## §3. Invariants. -/

/-- Whether an action keeps an invariant, however it ends. -/
def Keeps (inv : World → Prop) (a : Action α) : Prop := Meets inv a (fun _ => True)

namespace Keeps

variable {inv : World → Prop} {a : Action α}

protected theorem pure {x : α} : Keeps inv (pure x) := Meets.pure trivial

theorem bind {f : α → Action β} (ha : Keeps inv a) (hf : ∀ x, Keeps inv (f x)) :
    Keeps inv (a >>= f) :=
  Meets.bind ha (fun x _ => hf x) (fun _ _ => trivial)

theorem map {f : α → β} (ha : Keeps inv a) : Keeps inv (f <$> a) := Meets.map ha

end Keeps

end ScriptWeave
