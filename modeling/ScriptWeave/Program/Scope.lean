/-
  ScriptWeave.Program.Scope
  ─────────────────────────
  **NAMES AND THE SCOPES THEY ARE BOUND IN.**

  A module, a function, a block and the head of a loop each open a scope.
  `let` and `const` bind in the innermost scope, `var` in the innermost
  module or function.  On its way there it passes the scopes between, and
  none of them may bind the name as a block does.

  Declarations of one name in one scope share a binding, which remembers
  what declared it.  A name that `var` carried through a block counts as
  bound in that block too.
-/
import ScriptWeave.Program.Syntax

namespace ScriptWeave.Program

/-! ## §1. Scopes. -/

/-- What a scope belongs to. -/
inductive ScopeKind where
  /-- A module. -/
  | module
  /-- A function. -/
  | function
  /-- A block or the head of a loop. -/
  | block
  deriving Repr, DecidableEq

/-- What declares a name. -/
inductive Declarer where
  /-- A declaration that binds to the block. -/
  | block
  /-- A declaration that binds to the function, or a parameter. -/
  | variable
  /-- A function. -/
  | function
  deriving Repr, DecidableEq

/-- A scope. -/
structure Scope where
  /-- What it belongs to. -/
  kind : ScopeKind
  /-- The names bound in it, with the numbers of their bindings. -/
  names : List (Text × Nat)
  /-- The names carried through it. -/
  carried : List (Text × Nat)
  deriving Repr, DecidableEq

/-- The binding that a name meets in a scope. -/
def Scope.get? (s : Scope) (name : Text) : Option Nat :=
  (s.names.lookup name).or (s.carried.lookup name)

/-- The scope with a name bound in it. -/
def Scope.bind (s : Scope) (name : Text) (id : Nat) : Scope :=
  { s with names := (name, id) :: s.names }

/-- The scope without a name bound in it. -/
def Scope.unbind (s : Scope) (name : Text) : Scope :=
  { s with names := s.names.filter (fun b => b.1 != name) }

/-- The scope with a name carried through it. -/
def Scope.carry (s : Scope) (name : Text) (id : Nat) : Scope :=
  { s with carried := (name, id) :: s.carried }

/-- What is known while a module is walked through. -/
structure Names where
  /-- The scopes, the innermost first. -/
  scopes : List Scope
  /-- What declared each binding, the latest first. -/
  history : Array (List Declarer)
  /-- The diagnostics so far, the latest first. -/
  reports : List Diagnostic
  deriving Repr, DecidableEq

namespace Names

/-- A module before its first statement. -/
def start : Names := ⟨[⟨.module, [], []⟩], #[], []⟩

/-- Adds a diagnostic. -/
def report (n : Names) (d : Diagnostic) : Names := { n with reports := d :: n.reports }

/-- Enters a scope. -/
def enter (n : Names) (kind : ScopeKind) : Names :=
  { n with scopes := ⟨kind, [], []⟩ :: n.scopes }

/-- Leaves a scope. -/
def exit (n : Names) : Names := { n with scopes := n.scopes.tail }

/-- The kind of the innermost scope. -/
def kind (n : Names) : ScopeKind := (n.scopes.head?.map (·.kind)).getD .module

/-! ## §2. Bindings. -/

/-- What declared a binding, the latest first. -/
def declarers (n : Names) (id : Nat) : List Declarer := n.history[id]?.getD []

/-- Declares a binding once more. -/
def redeclare (n : Names) (id : Nat) (source : Declarer) : Names :=
  { n with history := n.history.modify id (source :: ·) }

/-- Adds a binding; its number is the number of bindings before. -/
def fresh (n : Names) (source : Declarer) : Names := { n with history := n.history.push [source] }

/-- Reports a name if what declared its binding rules out a further declaration. -/
def check (n : Names) (ruledOut : List Declarer → Bool) (name : Text) (id : Nat) : Names :=
  if ruledOut (n.declarers id) then n.report (.redeclared name) else n

/-- Declares a name in the innermost of the scopes given.  The answer holds its binding. -/
def declareIn (n : Names) (s : Scope) (outer : List Scope) (ruledOut : List Declarer → Bool)
    (source : Declarer) (name : Text) : Nat × Names :=
  match s.get? name with
  | some id =>
    (id, ({ n with scopes := s :: outer }.check ruledOut name id).redeclare id source)
  | none =>
    (n.history.size, { n with scopes := s.bind name n.history.size :: outer }.fresh source)

/-- Declares a name in the innermost scope. -/
def declare (n : Names) (ruledOut : List Declarer → Bool) (source : Declarer) (name : Text) :
    Nat × Names :=
  match n.scopes with
  | [] => (0, n)
  | s :: outer => n.declareIn s outer ruledOut source name

/-- Whether a binding belongs to a block. -/
def isExclusive (ds : List Declarer) : Bool := ds.contains .block

/-- Declares a name as `let` and `const` do: nothing else may declare it. -/
def bindBlock (n : Names) (name : Text) : Names :=
  (n.declare (fun _ => true) .block name).2

/-- Declares a parameter: neither another parameter nor a block may declare it. -/
def bindParam (n : Names) (name : Text) : Names :=
  (n.declare (fun ds => ds.contains .block || ds.contains .variable) .variable name).2

/-- Declares a name that anything may declare again. -/
def bindFreely (n : Names) (name : Text) : Names :=
  (n.declare (fun _ => false) .variable name).2

/-- Declares a function. -/
def bindFunction (n : Names) (name : Text) : Nat × Names :=
  n.declare isExclusive .function name

/-- Declares a name as `var` does, given the scopes that the name is carried through, the
scope that it belongs to, and those outside.  The first binding that it meets on its way is
its own from then on, and moves with it. -/
def hoistTo (n : Names) (inner : List Scope) (target : Scope) (outer : List Scope) (name : Text) :
    Nat × Names :=
  match inner.find? (fun s => (s.get? name).isSome) with
  | some s =>
    let id := (s.get? name).getD 0
    let rec settle : List Scope → List Scope
      | [] => []
      | s :: rest => if (s.get? name).isSome then s.unbind name :: rest else s :: settle rest
    let inner := (settle inner).map (·.carry name id)
    let n := { n with scopes := inner ++ target.bind name id :: outer }
    (id, (n.check isExclusive name id).redeclare id .variable)
  | none =>
    let r := n.declareIn target outer isExclusive .variable name
    (r.1, { r.2 with scopes := inner.map (·.carry name r.1) ++ r.2.scopes })

/-- Declares a name as `var` does. -/
def hoist (n : Names) (name : Text) : Nat × Names :=
  let inner := n.scopes.takeWhile (fun s => s.kind = .block)
  match n.scopes.dropWhile (fun s => s.kind = .block) with
  | [] => (0, n)
  | target :: outer => n.hoistTo inner target outer name

/-! ## §3. Afterthoughts. -/

/-- What declared a binding before its latest declaration. -/
def before (n : Names) (id : Nat) : Option Declarer := (n.declarers id).tail.head?

/-- Reports a name declared by `var` in a block right behind a function of that name. -/
def checkVariable (n : Names) (name : Text) (id : Nat) : Names :=
  if n.kind = .block && n.before id == some .function then n.report (.redeclared name) else n

/-- Reports a function whose name is taken.  Directly in a function it takes the name over
from a variable or a function. -/
def checkFunction (n : Names) (name : Text) (id : Nat) : Names :=
  match n.before id with
  | some .variable => if n.kind = .function then n else n.report (.redeclared name)
  | some .function => if n.kind = .function then n else n.report (.redeclared name)
  | _ => n

/-- Whether the outermost scope binds a name. -/
def bindsOutside (n : Names) (name : Text) : Bool :=
  match n.scopes.getLast? with
  | some s => (s.names.lookup name).isSome
  | none => false

end Names

end ScriptWeave.Program
