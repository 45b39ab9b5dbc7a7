/-
  ScriptWeave.Pattern.Program
  ───────────────────────────
  **A PATTERN AS A PROGRAM.**

  A program is a list of steps, each of which names the steps after it.  It is
  built from the end: the steps of a part are added once it is known where the
  part leads to.  A loop leads back to itself, so its place is kept free until
  its body is there.
-/
import ScriptWeave.Pattern.Node

namespace ScriptWeave.Pattern

/-! ## §1. Steps. -/

/-- A step of a program. -/
inductive Step where
  /-- Nothing leads on from here. -/
  | fail
  /-- The match is complete. -/
  | done
  /-- One character of a set. -/
  | char (s : CharSet) (next : Nat)
  /-- A condition on the position. -/
  | check (a : Anchor) (next : Nat)
  /-- Two ways on, the better one first. -/
  | fork (first second : Nat)
  /-- A group begins. -/
  | enter (group : Nat) (next : Nat)
  /-- The group begun last ends. -/
  | leave (next : Nat)
  deriving Repr, DecidableEq

/-- The steps so far. -/
abbrev Steps := Array Step

/-- A part of a program in the making: where it leads to and the steps so far give where it
begins and the steps with it. -/
abbrev Part := Nat → Steps → Nat × Steps

/-- One more step. -/
def Steps.add (steps : Steps) (s : Step) : Nat × Steps := (steps.size, steps.push s)

/-! ## §2. Repetition. -/

/-- `n` rounds one after the other. -/
def Part.exactly (body : Part) : (n : Nat) → Part
  | 0, next, steps => (next, steps)
  | n + 1, next, steps =>
    let (start, steps) := body next steps
    Part.exactly body n start steps

/-- A choice between going on with a round and leaving. -/
def chooseRound (greedy : Bool) (round out : Nat) : Step :=
  if greedy then .fork round out else .fork out round

/-- At most `n` rounds, each of which leads to `next` if it is left out. -/
def Part.upTo (body : Part) (greedy : Bool) (out : Nat) : (n : Nat) → Part
  | 0, next, steps => (next, steps)
  | n + 1, next, steps =>
    let (round, steps) := body next steps
    let (start, steps) := Steps.add steps (chooseRound greedy round out)
    Part.upTo body greedy out n start steps

/-- One round or more: where the first round begins, and where the choice of another one
stands. -/
def Part.loop (body : Part) (greedy : Bool) (next : Nat) (steps : Steps) : Nat × Nat × Steps :=
  let (choice, steps) := Steps.add steps .fail
  let (round, steps) := body choice steps
  (round, choice, steps.setIfInBounds choice (chooseRound greedy round next))

/-- Rounds between two bounds.  A body that can match the empty text is tried at least once
before it is left out. -/
def Part.between (body : Part) (nullable greedy : Bool) (min : Nat) : (max : Option Nat) → Part
  | some max, next, steps =>
    let (start, steps) := Part.upTo body greedy next (max - min) next steps
    Part.exactly body min start steps
  | none, next, steps =>
    let (round, choice, steps) := Part.loop body greedy next steps
    match min with
    | 0 =>
      if nullable then Steps.add steps (chooseRound greedy round next) else (choice, steps)
    | n + 1 => Part.exactly body n round steps

/-! ## §3. Programs. -/

/-- The steps of a tree. -/
def Node.steps : Node → Part
  | .empty, next, steps => (next, steps)
  | .char s, next, steps => Steps.add steps (.char s next)
  | .anchor a, next, steps => Steps.add steps (.check a next)
  | .cat a b, next, steps =>
    let (middle, steps) := b.steps next steps
    a.steps middle steps
  | .alt a b, next, steps =>
    let (second, steps) := b.steps next steps
    let (first, steps) := a.steps next steps
    Steps.add steps (.fork first second)
  | .group i body, next, steps =>
    let (stop, steps) := Steps.add steps (.leave next)
    let (start, steps) := body.steps stop steps
    Steps.add steps (.enter i start)
  | .rep body min max greedy, next, steps =>
    Part.between body.steps body.nullable greedy min max next steps

/-- A program: its steps, and the one it begins with. -/
structure Program where
  /-- The steps. -/
  steps : Steps
  /-- The first step. -/
  start : Nat
  deriving Repr

/-- The program of a tree. -/
def Node.program (n : Node) : Program :=
  let (start, steps) := n.steps 0 #[.done]
  ⟨steps, start⟩

end ScriptWeave.Pattern
