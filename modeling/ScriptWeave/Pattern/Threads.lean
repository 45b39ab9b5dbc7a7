/-
  ScriptWeave.Pattern.Threads
  ───────────────────────────
  **ALL WAYS THROUGH A PATTERN AT ONCE.**

  A thread is a way through a program that has come as far as the position.
  The threads stand in the order in which a walk would try their ways.  Two
  threads at one step have the same future, so only the better one is kept,
  and there are never more threads than steps: a search takes time in
  proportion to the text, whatever the pattern.

  When a thread completes the match, the threads behind it are given up; those
  before it may still find a better match.
-/
import ScriptWeave.Pattern.Match
import ScriptWeave.Pattern.Program

namespace ScriptWeave.Pattern

/-! ## §1. Threads. -/

/-- A way through a program. -/
structure Thread where
  /-- The step it stands at. -/
  step : Nat
  /-- How many characters the search passed before the match began. -/
  before : Nat
  /-- The text from the start of the match on. -/
  start : Text
  /-- The groups that have begun, the latest first, each with the text from its start on. -/
  opened : List (Nat × Text) := []
  /-- The groups that have ended, the latest first. -/
  groups : Groups := []

namespace Thread

/-- The thread at another step. -/
def goTo (t : Thread) (step : Nat) : Thread := { t with step := step }

/-- The thread behind the start of a group. -/
def enter (t : Thread) (group : Nat) (rest : Text) : Thread :=
  { t with opened := (group, rest) :: t.opened }

/-- The thread behind the end of the group begun last. -/
def leave (t : Thread) (rest : Text) : Thread :=
  match t.opened with
  | [] => t
  | (group, start) :: opened =>
    { t with opened := opened, groups := (group, ⟨start, rest⟩) :: t.groups }

/-- The match that a thread has completed, with the number of characters before it. -/
def complete (t : Thread) (rest : Text) : Nat × Match := (t.before, ⟨⟨t.start, rest⟩, t.groups⟩)

end Thread

/-! ## §2. One position. -/

/-- The threads at a position once they have gone as far as they can without a character. -/
structure Settled where
  /-- The threads that wait for a character, best first. -/
  waiting : List Thread
  /-- The thread that completed the match, if one did. -/
  complete : Option Thread
  /-- For each step the position at which a thread came there last. -/
  seen : Array Nat

namespace Program

/-- Lets the threads go on, best first.  `place` numbers the position.  Every step is passed
once at most and leads to two threads at most, which bounds the `fuel` needed. -/
def settle (p : Program) (place : Nat) (prev : Option Char) (rest : Text) :
    (fuel : Nat) → (threads : List Thread) → (waiting : List Thread) → (seen : Array Nat) → Settled
  | 0, _, waiting, seen => ⟨waiting.reverse, none, seen⟩
  | _ + 1, [], waiting, seen => ⟨waiting.reverse, none, seen⟩
  | fuel + 1, t :: threads, waiting, seen =>
    if seen.getD t.step 0 = place then p.settle place prev rest fuel threads waiting seen
    else
      let seen := seen.setIfInBounds t.step place
      match p.steps.getD t.step .fail with
      | .fail => p.settle place prev rest fuel threads waiting seen
      | .done => ⟨waiting.reverse, some t, seen⟩
      | .char _ _ => p.settle place prev rest fuel threads (t :: waiting) seen
      | .check a next =>
        if a.holds prev rest.head? then
          p.settle place prev rest fuel (t.goTo next :: threads) waiting seen
        else p.settle place prev rest fuel threads waiting seen
      | .fork first second =>
        p.settle place prev rest fuel (t.goTo first :: t.goTo second :: threads) waiting seen
      | .enter group next =>
        p.settle place prev rest fuel ((t.goTo next).enter group rest :: threads) waiting seen
      | .leave next =>
        p.settle place prev rest fuel ((t.goTo next).leave rest :: threads) waiting seen

/-- The thread behind a character, if its step accepts it. -/
def pass (p : Program) (c : Char) (t : Thread) : Option Thread :=
  match p.steps.getD t.step .fail with
  | .char s next => if s.contains c then some (t.goTo next) else none
  | _ => none

/-- The threads at a position.  As long as no match is complete, one more begins here. -/
def arrive (p : Program) (place : Nat) (prev : Option Char) (rest : Text) (threads : List Thread)
    (found : Option (Nat × Match)) (seen : Array Nat) : Settled :=
  let threads :=
    if found.isNone then threads ++ [{ step := p.start, before := place - 1, start := rest }]
    else threads
  p.settle place prev rest (threads.length + 2 * p.steps.size + 1) threads [] seen

/-! ## §3. The whole text. -/

/-- The best match in the rest of a text, which the threads have come to. -/
def follow (p : Program) : (place : Nat) → (prev : Option Char) → (rest : Text) →
    (threads : List Thread) → (found : Option (Nat × Match)) → (seen : Array Nat) →
    Option (Nat × Match)
  | place, prev, [], threads, found, seen =>
    let s := p.arrive place prev [] threads found seen
    (s.complete.map (·.complete [])).or found
  | place, prev, c :: rest, threads, found, seen =>
    let s := p.arrive place prev (c :: rest) threads found seen
    let found := (s.complete.map (·.complete (c :: rest))).or found
    let threads := s.waiting.filterMap (p.pass c)
    if threads.isEmpty && found.isSome then found
    else p.follow (place + 1) (some c) rest threads found s.seen

/-- The leftmost match in a text behind `prev`, with the number of characters before it. -/
def search (p : Program) (prev : Option Char) (t : Text) : Option (Nat × Match) :=
  p.follow 1 prev t [] none (Array.replicate p.steps.size 0)

end Program

end ScriptWeave.Pattern
