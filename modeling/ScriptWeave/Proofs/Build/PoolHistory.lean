/-
  ScriptWeave.Proofs.Build.PoolHistory
  ────────────────────────────────────
  **WHAT A POOL ANSWERS DOES NOT DEPEND ON WHAT IT WAS ASKED BEFORE.**

  A pool keeps a preprocessor for each text that was asked for with success,
  and for no text, the one of the default options.  Whatever was asked for
  before, it answers as an empty pool does; a call that fails leaves the pool
  and the world as they are, and a call that is made again changes nothing.

      find? k = some q  ↔  the text of k was asked for and stands for q

  There is one exception.  No text and the empty text share a place, so once
  no text was asked for, the empty text has the default options, which an
  empty pool refuses (`exists_answer_of_history`).
-/
import Mathlib.Data.List.Dedup
import Mathlib.Data.List.Induction
import ScriptWeave.Build.Pool
import ScriptWeave.Proofs.Build.CacheKeys

namespace ScriptWeave

/-! ## §1. One call. -/

namespace Pool

variable {spawn : Spawn} {p : Pool} {q : Preprocessor} {e : Failure} {x : Option Text} {w : World}

/-- The place of a text in a pool. -/
def key (x : Option Text) : Text := x.getD []

/-- The text that has a place. -/
def standsFor (k : Text) : Option Text := if k = [] then none else some k

theorem key_standsFor (k : Text) : key (standsFor k) = k := by
  unfold standsFor
  split
  next h => rw [h]; rfl
  next => rfl

/-- The empty text alone has the place of another. -/
theorem standsFor_key (hx : x ≠ some []) : standsFor (key x) = x := by
  cases x with
  | none => rfl
  | some t =>
    have ht : t ≠ [] := fun ht => hx (ht ▸ rfl)
    exact if_neg ht

theorem find?_eq_none_iff {k : Text} : p.find? k = none ↔ k ∉ p.entries.map Prod.fst := by
  rw [find?, List.lookup_eq_none_iff, List.mem_map]
  constructor
  · rintro h ⟨a, ha, rfl⟩
    simpa using h a ha
  · intro h a ha
    rw [bne_iff_ne]
    exact fun hka => h ⟨a, ha, hka.symm⟩

/-- The preprocessor that is made for a text. -/
def fresh (spawn : Spawn) (x : Option Text) : Except Failure Preprocessor :=
  match optionsOf x with
  | .error e => .error (.setup e)
  | .ok o =>
    match Preprocessor.rulesOf o with
    | .error e => .error (.setup e)
    | .ok rules =>
      .ok ⟨o, rules, (Toolchain.ofOptions o).compile spawn,
        if o.cache then some ⟨o.cacheDir, o.cacheSalt⟩ else none⟩

theorem fresh_none (spawn : Spawn) : ∃ q, fresh spawn none = .ok q := by
  have hrules : Preprocessor.rulesOf .builtin = .ok .builtin := Dialect.rules_builtin
  unfold fresh optionsOf
  dsimp only
  rw [hrules]
  exact ⟨_, rfl⟩

/-- The empty text is no JSON. -/
theorem fresh_empty (spawn : Spawn) : ∃ e, fresh spawn (some []) = .error (.setup (.json e)) :=
  ⟨_, rfl⟩

/-- A text that was asked for is found, and nothing changes. -/
theorem runIn_get_of_found (h : p.find? (key x) = some q) :
    (p.get spawn x).runIn w = (.ok (q, p), w) := by
  unfold key at h
  unfold get
  dsimp only
  rw [h]
  rfl

/-- What is made of options is what is made for a text that stands for them, in every world. -/
theorem runIn_ofOptions (spawn : Spawn) {o : Options} (h : optionsOf x = .ok o) (w : World) :
    ((Preprocessor.ofOptions spawn o).runIn w).1 = fresh spawn x := by
  cases hrules : Preprocessor.rulesOf o <;>
  · rw [Preprocessor.ofOptions, Preprocessor.runIn_new, hrules, fresh, h]
    dsimp only
    rw [hrules]

/-- Options that are refused change nothing. -/
theorem runIn_ofOptions_error {o : Options}
    (h : ((Preprocessor.ofOptions spawn o).runIn w).1 = .error e) :
    (Preprocessor.ofOptions spawn o).runIn w = (.error e, w) := by
  unfold Preprocessor.ofOptions at h ⊢
  rw [Preprocessor.runIn_new] at h
  cases hrules : Preprocessor.rulesOf o with
  | ok rules =>
    rw [hrules] at h
    exact absurd h (by simp)
  | error e' =>
    rw [hrules] at h
    obtain rfl := Except.error.inj h
    unfold Preprocessor.new
    rw [hrules]
    rfl

/-- A text that no preprocessor can be made for changes nothing. -/
theorem runIn_get_of_error (h : p.find? (key x) = none) (hx : fresh spawn x = .error e) :
    (p.get spawn x).runIn w = (.error e, w) := by
  unfold key at h
  unfold get
  dsimp only
  rw [h]
  cases hoptions : optionsOf x with
  | error e' =>
    rw [fresh, hoptions] at hx
    obtain rfl := Except.error.inj hx
    rfl
  | ok o =>
    have hmade := runIn_ofOptions spawn hoptions w
    rw [hx] at hmade
    exact Action.runIn_bind_error (runIn_ofOptions_error hmade)

/-- The preprocessor that is made for a text goes behind those made before. -/
theorem runIn_get_of_ok (h : p.find? (key x) = none) (hx : fresh spawn x = .ok q) :
    ∃ w', (p.get spawn x).runIn w = (.ok (q, ⟨p.entries ++ [(key x, q)]⟩), w') := by
  unfold key at h
  unfold get
  dsimp only
  rw [h]
  cases hoptions : optionsOf x with
  | error e' =>
    rw [fresh, hoptions] at hx
    exact absurd hx (by simp)
  | ok o =>
    have hmade := runIn_ofOptions spawn hoptions w
    rw [hx] at hmade
    exact ⟨_, Action.runIn_bind_ok (Prod.ext hmade rfl)⟩

end Pool

/-! ## §2. A pool in use. -/

/-- A pool in use: the calls with their answers, the pool and the world. -/
structure PoolUse where
  /-- What was asked for, and what the answer was. -/
  log : List (Option Text × Except Failure Preprocessor)
  /-- The pool. -/
  pool : Pool
  /-- The world. -/
  world : World

namespace PoolUse

variable {spawn : Spawn} {s : PoolUse} {history : List (Option Text)} {x : Option Text}
  {q : Preprocessor} {e : Failure}

/-- An empty pool that was not asked for anything. -/
def start (w : World) : PoolUse := ⟨[], .empty, w⟩

/-- What the pool answers. -/
def answer (spawn : Spawn) (s : PoolUse) (x : Option Text) : Except Failure Preprocessor :=
  ((s.pool.get spawn x).runIn s.world).1.map Prod.fst

/-- Asks for a text.  Only a call that succeeds hands out a pool. -/
def ask (spawn : Spawn) (s : PoolUse) (x : Option Text) : PoolUse :=
  match (s.pool.get spawn x).runIn s.world with
  | (.ok (q, p), w) => ⟨s.log ++ [(x, .ok q)], p, w⟩
  | (.error e, w) => ⟨s.log ++ [(x, .error e)], s.pool, w⟩

/-- A pool that was asked for several texts, one after the other. -/
def after (spawn : Spawn) (history : List (Option Text)) (w : World) : PoolUse :=
  history.foldl (ask spawn) (start w)

/-- What was asked for with success. -/
def succeeded (s : PoolUse) : List (Option Text) :=
  s.log.filterMap (fun a => a.2.toOption.map (fun _ => a.1))

/-- What a call does: it finds a place, or it fails and changes nothing, or it makes a place. -/
theorem ask_cases (spawn : Spawn) (s : PoolUse) (x : Option Text) :
    (∃ q, s.pool.find? (Pool.key x) = some q ∧ s.answer spawn x = .ok q ∧
      s.ask spawn x = ⟨s.log ++ [(x, .ok q)], s.pool, s.world⟩) ∨
    (∃ e, s.pool.find? (Pool.key x) = none ∧ Pool.fresh spawn x = .error e ∧
      s.answer spawn x = .error e ∧
      s.ask spawn x = ⟨s.log ++ [(x, .error e)], s.pool, s.world⟩) ∨
    (∃ q w, s.pool.find? (Pool.key x) = none ∧ Pool.fresh spawn x = .ok q ∧
      s.answer spawn x = .ok q ∧
      s.ask spawn x = ⟨s.log ++ [(x, .ok q)], ⟨s.pool.entries ++ [(Pool.key x, q)]⟩, w⟩) := by
  unfold answer ask
  cases hfound : s.pool.find? (Pool.key x) with
  | some q =>
    rw [Pool.runIn_get_of_found hfound]
    exact .inl ⟨q, rfl, rfl, rfl⟩
  | none =>
    cases hfresh : Pool.fresh spawn x with
    | error e =>
      rw [Pool.runIn_get_of_error hfound hfresh]
      exact .inr (.inl ⟨e, rfl, rfl, rfl, rfl⟩)
    | ok q =>
      obtain ⟨w, hrun⟩ := Pool.runIn_get_of_ok (w := s.world) hfound hfresh
      rw [hrun]
      exact .inr (.inr ⟨q, w, rfl, rfl, rfl, rfl⟩)

/-- The pool answers what it has, and else what is made. -/
theorem answer_eq (spawn : Spawn) (s : PoolUse) (x : Option Text) :
    s.answer spawn x
      = match s.pool.find? (Pool.key x) with
        | some q => .ok q
        | none => Pool.fresh spawn x := by
  obtain ⟨q, hfound, hans, -⟩ | ⟨e, hfound, hfresh, hans, -⟩ | ⟨q, w, hfound, hfresh, hans, -⟩ :=
    ask_cases spawn s x
  · rw [hans, hfound]
  · rw [hans, hfound, hfresh]
  · rw [hans, hfound, hfresh]

/-- An empty pool makes everything anew. -/
theorem answer_start (spawn : Spawn) (w : World) (x : Option Text) :
    (start w).answer spawn x = Pool.fresh spawn x := answer_eq spawn (start w) x

/-- A call that fails changes nothing. -/
theorem unchanged_of_answer_error (h : s.answer spawn x = .error e) :
    (s.ask spawn x).pool = s.pool ∧ (s.ask spawn x).world = s.world := by
  obtain ⟨q, -, hans, -⟩ | ⟨e', -, -, -, hask⟩ | ⟨q, w, -, -, hans, -⟩ := ask_cases spawn s x
  · rw [hans] at h
    exact absurd h (by simp)
  · rw [hask]
    exact ⟨rfl, rfl⟩
  · rw [hans] at h
    exact absurd h (by simp)

/-- What has its place is handed out as it is, and nothing changes. -/
theorem ask_of_found (h : s.pool.find? (Pool.key x) = some q) :
    s.answer spawn x = .ok q ∧
      (s.ask spawn x).pool = s.pool ∧ (s.ask spawn x).world = s.world := by
  unfold answer ask
  rw [Pool.runIn_get_of_found h]
  exact ⟨rfl, rfl, rfl⟩

/-! ## §3. What a pool has. -/

/-- What a pool has after it was asked for some texts. -/
structure Tracks (spawn : Spawn) (history : List (Option Text)) (s : PoolUse) : Prop where
  /-- The calls are written down. -/
  asked : s.log.map Prod.fst = history
  /-- A place holds what is made for its text, if that was asked for. -/
  found : ∀ k q, s.pool.find? k = some q ↔
    Pool.standsFor k ∈ history ∧ Pool.fresh spawn (Pool.standsFor k) = .ok q
  /-- No place is there twice. -/
  nodup : (s.pool.entries.map Prod.fst).Nodup
  /-- The places are those of what was asked for with success. -/
  places : ∀ k, k ∈ s.pool.entries.map Prod.fst ↔ k ∈ s.succeeded.map Pool.key

theorem succeeded_ok (s : PoolUse) (x : Option Text) (q : Preprocessor) (p : Pool) (w : World) :
    (⟨s.log ++ [(x, .ok q)], p, w⟩ : PoolUse).succeeded = s.succeeded ++ [x] :=
  List.filterMap_append

theorem succeeded_error (s : PoolUse) (x : Option Text) (e : Failure) (p : Pool) (w : World) :
    (⟨s.log ++ [(x, .error e)], p, w⟩ : PoolUse).succeeded = s.succeeded :=
  List.filterMap_append.trans (List.append_nil _)

theorem tracks_start (w : World) : Tracks spawn [] (start w) where
  asked := rfl
  found k q := by simp [start, Pool.empty, Pool.find?]
  nodup := List.nodup_nil
  places _ := Iff.rfl

/-- A call makes a place for its text if there is none and a preprocessor can be made. -/
theorem find?_ask (s : PoolUse) (x : Option Text) (k : Text) :
    (s.ask spawn x).pool.find? k
      = (s.pool.find? k).or
          (if k = Pool.key x then (Pool.fresh spawn x).toOption else none) := by
  obtain ⟨q, hfound, -, hask⟩ | ⟨e, -, hfresh, -, hask⟩ | ⟨q, w, hfound, hfresh, -, hask⟩ :=
    ask_cases spawn s x
  · rw [hask]
    split
    next hk => rw [hk, hfound, Option.some_or]
    next => rw [Option.or_none]
  · rw [hask, hfresh]
    simp [Except.toOption]
  · have hone : List.lookup k [(Pool.key x, q)] = if k = Pool.key x then some q else none := by
      rw [List.lookup_cons, List.lookup_nil]
      by_cases hk : k = Pool.key x
      · rw [if_pos hk, beq_iff_eq.mpr hk]
      · rw [if_neg hk, beq_eq_false_iff_ne.mpr hk]
    rw [hask, hfresh, Pool.find?, List.lookup_append, hone]
    rfl

/-- What was handed out has its place. -/
theorem find?_ask_of_answer_ok (h : s.answer spawn x = .ok q) :
    (s.ask spawn x).pool.find? (Pool.key x) = some q := by
  rw [answer_eq] at h
  rw [find?_ask, if_pos rfl]
  cases hfound : s.pool.find? (Pool.key x) with
  | some q' =>
    rw [hfound] at h
    rw [Option.some_or, Except.ok.inj h]
  | none =>
    rw [hfound] at h
    dsimp only at h
    rw [Option.none_or, h]
    rfl

theorem Tracks.found_ask (h : Tracks spawn history s) (x : Option Text) (k : Text)
    (q : Preprocessor) :
    (s.ask spawn x).pool.find? k = some q ↔
      Pool.standsFor k ∈ history ++ [x] ∧ Pool.fresh spawn (Pool.standsFor k) = .ok q := by
  rw [find?_ask, List.mem_append, List.mem_singleton]
  by_cases hx : Pool.standsFor k = x
  · -- this place is the one of the text that is asked for
    subst hx
    rw [Pool.key_standsFor, if_pos rfl]
    cases hfound : s.pool.find? k with
    | some q' =>
      obtain ⟨-, hfresh⟩ := (h.found k q').mp hfound
      simp [hfresh]
    | none =>
      cases Pool.fresh spawn (Pool.standsFor k) <;> simp [Except.toOption]
  · -- else nothing is put there: the empty text, which has the place of another, is refused
    have hnone : (if k = Pool.key x then (Pool.fresh spawn x).toOption else none) = none := by
      split
      next hk =>
        have hempty : x = some [] := by
          apply Classical.byContradiction
          intro hne
          exact hx (hk ▸ Pool.standsFor_key hne)
        obtain ⟨e, he⟩ := Pool.fresh_empty spawn
        rw [hempty, he]
        rfl
      next => rfl
    rw [hnone, Option.or_none, h.found]
    simp [hx]

/-- One more call: **a pool that has what it should still has it.** -/
theorem Tracks.ask (h : Tracks spawn history s) (x : Option Text) :
    Tracks spawn (history ++ [x]) (s.ask spawn x) := by
  have hfoundAsk := h.found_ask x
  obtain ⟨q, hfound, -, hask⟩ | ⟨e, -, -, -, hask⟩ | ⟨q, w, hfound, -, -, hask⟩ :=
    ask_cases spawn s x <;> rw [hask] at hfoundAsk ⊢
  · -- the place is there already, and the call succeeds once more
    have hplace : Pool.key x ∈ s.succeeded.map Pool.key := by
      rw [← h.places]
      apply Classical.byContradiction
      intro hout
      rw [Pool.find?_eq_none_iff.mpr hout] at hfound
      exact absurd hfound (by simp)
    refine ⟨by simp [h.asked], hfoundAsk, h.nodup, fun k => ?_⟩
    rw [succeeded_ok, List.map_append, List.mem_append, h.places]
    refine ⟨Or.inl, fun hk => hk.elim id fun hk => ?_⟩
    rw [List.map_singleton, List.mem_singleton] at hk
    exact hk ▸ hplace
  · refine ⟨by simp [h.asked], hfoundAsk, h.nodup, fun k => ?_⟩
    rw [succeeded_error]
    exact h.places k
  · refine ⟨by simp [h.asked], hfoundAsk, ?_, fun k => ?_⟩
    · rw [List.map_append, List.map_singleton, List.nodup_append]
      refine ⟨h.nodup, List.nodup_singleton _, fun k hk k' hk' heq => ?_⟩
      obtain rfl := heq.trans (List.mem_singleton.mp hk')
      exact Pool.find?_eq_none_iff.mp hfound hk
    · rw [succeeded_ok, List.map_append, List.map_append, List.mem_append, List.mem_append,
        h.places]
      rfl

/-- **A pool has what it was asked for with success,** whatever the calls were. -/
theorem tracks_after (spawn : Spawn) (history : List (Option Text)) (w : World) :
    Tracks spawn history (after spawn history w) := by
  induction history using List.reverseRecOn with
  | nil => exact tracks_start w
  | append_singleton history x ih =>
    rw [after, List.foldl_append]
    exact ih.ask x

/-! ## §4. History does not matter. -/

/-- A pool answers as an empty one does, unless the empty text finds the default options. -/
theorem Tracks.answer_eq_fresh (h : Tracks spawn history s) (x : Option Text) :
    s.answer spawn x
      = Pool.fresh spawn (if x = some [] ∧ none ∈ history then none else x) := by
  rw [answer_eq]
  by_cases hx : x = some []
  · subst hx
    obtain ⟨q, hq⟩ := Pool.fresh_none spawn
    by_cases hnone : none ∈ history
    · have hfound : s.pool.find? (Pool.key (some [])) = some q := (h.found [] q).mpr ⟨hnone, hq⟩
      rw [hfound, if_pos ⟨rfl, hnone⟩, hq]
    · have hfound : s.pool.find? (Pool.key (some [])) = none := by
        rw [Option.eq_none_iff_forall_ne_some]
        exact fun q' hq' => hnone ((h.found [] q').mp hq').1
      rw [hfound, if_neg (fun hboth => hnone hboth.2)]
  · rw [if_neg (fun hboth => hx hboth.1)]
    cases hfound : s.pool.find? (Pool.key x) with
    | none => rfl
    | some q =>
      obtain ⟨-, hfresh⟩ := (h.found _ q).mp hfound
      rw [Pool.standsFor_key hx] at hfresh
      rw [hfresh]

/-- There are as many preprocessors as places of what was asked for with success. -/
theorem Tracks.size_eq (h : Tracks spawn history s) :
    s.pool.size = (s.succeeded.map Pool.key).dedup.length := by
  have hperm : (s.pool.entries.map Prod.fst).Perm (s.succeeded.map Pool.key).dedup :=
    (List.perm_ext_iff_of_nodup h.nodup (List.nodup_dedup _)).mpr
      (fun k => by rw [h.places, List.mem_dedup])
  rw [Pool.size, ← hperm.length_eq, List.length_map]

theorem Tracks.mem_history (h : Tracks spawn history s) (hx : x ∈ s.succeeded) : x ∈ history := by
  obtain ⟨a, ha, hax⟩ := List.mem_filterMap.mp hx
  rw [← h.asked]
  cases hans : a.2.toOption with
  | none =>
    rw [hans] at hax
    exact absurd hax (by simp)
  | some q =>
    rw [hans] at hax
    exact Option.some.inj hax ▸ List.mem_map_of_mem ha

/-- Where no text and the empty text were not both asked for, texts and places are one. -/
theorem Tracks.key_injOn (h : Tracks spawn history s)
    (hapart : ¬(none ∈ history ∧ some [] ∈ history)) {x y : Option Text}
    (hx : x ∈ s.succeeded) (hy : y ∈ s.succeeded) (heq : Pool.key x = Pool.key y) : x = y := by
  have hx' := h.mem_history hx
  have hy' := h.mem_history hy
  cases x with
  | none =>
    cases y with
    | none => rfl
    | some t =>
      have ht : t = [] := heq.symm
      exact absurd ⟨hx', ht ▸ hy'⟩ hapart
  | some t =>
    cases y with
    | none =>
      have ht : t = [] := heq
      exact absurd ⟨hy', ht ▸ hx'⟩ hapart
    | some t' =>
      have ht : t = t' := heq
      rw [ht]

/-- **A pool does not depend on what it was asked for before.**  Whatever was asked for, it
answers as an empty pool does in the same world, with one exception: once no text was asked for,
the empty text has the answer of no text.  A call that fails changes neither the pool nor the
world, a call that is made again changes nothing, and there is one preprocessor for each place of
what was asked for with success. -/
theorem answer_after (spawn : Spawn) (history : List (Option Text)) (w : World)
    (x : Option Text) :
    let s := after spawn history w
    s.answer spawn x
        = (start s.world).answer spawn (if x = some [] ∧ none ∈ history then none else x) ∧
      (∀ e, s.answer spawn x = .error e →
        (s.ask spawn x).pool = s.pool ∧ (s.ask spawn x).world = s.world) ∧
      (∀ q, s.answer spawn x = .ok q →
        (s.ask spawn x).answer spawn x = .ok q ∧
        ((s.ask spawn x).ask spawn x).pool = (s.ask spawn x).pool ∧
        ((s.ask spawn x).ask spawn x).world = (s.ask spawn x).world) ∧
      s.pool.size = (s.succeeded.map Pool.key).dedup.length ∧
      (¬(none ∈ history ∧ some [] ∈ history) → s.pool.size = s.succeeded.dedup.length) := by
  have h := tracks_after spawn history w
  intro s
  refine ⟨?_, fun e => unchanged_of_answer_error,
    fun q hans => ask_of_found (find?_ask_of_answer_ok hans), h.size_eq, fun hapart => ?_⟩
  · rw [answer_start]
    exact h.answer_eq_fresh x
  · have hnodup : (s.succeeded.dedup.map Pool.key).Nodup :=
      (List.nodup_dedup _).map_on fun x hx y hy =>
        h.key_injOn hapart (List.mem_dedup.mp hx) (List.mem_dedup.mp hy)
    have hperm : (s.succeeded.map Pool.key).dedup.Perm (s.succeeded.dedup.map Pool.key) :=
      (List.perm_ext_iff_of_nodup (List.nodup_dedup _) hnodup).mpr
        (fun k => by simp only [List.mem_dedup, List.mem_map])
    rw [h.size_eq, hperm.length_eq, List.length_map]

/-- Programs that do nothing. -/
def idle : Spawn := fun _ _ _ files => (.ok ⟨some 0, .empty, .empty⟩, files)

/-- Of three texts two stand for options, and calls for these and the third change nothing. -/
theorem answer_after_threeTexts :
    let s := after idle [none, some "\x7b\x7d", some "["] bareWorld
    s.pool.size = 2 ∧
      (∃ e, s.answer idle (some "[") = .error e ∧
        (s.ask idle (some "[")).pool = s.pool ∧ (s.ask idle (some "[")).world = s.world) ∧
      (∃ q, s.answer idle none = .ok q ∧ (s.ask idle none).answer idle none = .ok q ∧
        ((s.ask idle none).ask idle none).pool = (s.ask idle none).pool) := by
  intro s
  obtain ⟨-, hfails, -, -, hsize⟩ :=
    answer_after idle [none, some "\x7b\x7d", some "["] bareWorld (some "[")
  obtain ⟨-, -, hagain, -, -⟩ :=
    answer_after idle [none, some "\x7b\x7d", some "["] bareWorld none
  refine ⟨?_, ?_, ?_⟩
  · have hlog : s.succeeded.dedup.length = 2 := by decide +kernel
    rw [← hlog]
    exact hsize (by decide)
  · have hno : (s.answer idle (some "[")).toBool = false := by decide +kernel
    obtain ⟨e, h⟩ := exists_error_of_toBool hno
    exact ⟨e, h, hfails e h⟩
  · have hyes : (s.answer idle none).toBool = true := by decide +kernel
    obtain ⟨q, h⟩ := exists_ok_of_toBool hyes
    obtain ⟨hans, hpool, -⟩ := hagain q h
    exact ⟨q, h, hans, hpool⟩

/-- **What was asked for before can matter.**  The empty text stands for no options, but after no
text was asked for it is handed the default ones, and two arguments that succeeded have one
place. -/
theorem exists_answer_of_history :
    let s := after idle [none] bareWorld
    (∃ e, (start s.world).answer idle (some []) = .error (.setup (.json e))) ∧
      (∃ q, s.answer idle (some []) = .ok q) ∧
      (s.ask idle (some [])).succeeded = [none, some []] ∧
      (s.ask idle (some [])).pool.size = 1 := by
  intro s
  refine ⟨?_, ?_, ?_, ?_⟩
  · rw [answer_start]
    exact Pool.fresh_empty idle
  · rw [(tracks_after idle [none] bareWorld).answer_eq_fresh, if_pos (by decide)]
    exact Pool.fresh_none idle
  · decide +kernel
  · decide +kernel

end PoolUse

end ScriptWeave
