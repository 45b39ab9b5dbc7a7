/-
  ScriptWeave.Program.Naming
  ──────────────────────────
  **THE NAMES AND JUMPS OF A MODULE.**

  A module that can be read is walked through in the order of its text.
  Names are bound when their declaration begins, before its value is looked
  at.  A problem of a statement as a whole is reported when the statement
  ends, behind the problems of what is in it.

  Modules are strict code: some literals, names and statements that the
  grammar allows are refused.

  The name of a class is bound as `let` binds.  The names behind hash signs
  that a class declares are known in all of its members, and in those of the
  classes within it.
-/
import ScriptWeave.Program.Scope
import ScriptWeave.Program.Word

namespace ScriptWeave.Program

/-! ## §1. Places. -/

/-- What a jump can aim at. -/
inductive Enclosure where
  /-- A loop. -/
  | loop
  /-- A choice between cases. -/
  | choice
  /-- A statement with a label, and whether that is a loop. -/
  | label (t : Text) (ofLoop : Bool)
  deriving Repr, DecidableEq

/-- Where a statement stands. -/
structure Place where
  /-- The statements around it within its function, the innermost first. -/
  around : List Enclosure
  /-- Whether it stands in a function. -/
  inFunction : Bool
  /-- Whether it stands in a method. -/
  inMethod : Bool
  /-- Whether it stands directly in the module. -/
  outermost : Bool
  /-- Whether `new` may have a target. -/
  newTarget : Bool
  /-- What is wrong with a call of the parent. -/
  parentCall : Option Diagnostic
  /-- How the place is called, if it has no `arguments`. -/
  noArguments : Option Text
  /-- The hidden names that the classes around declare, if there are any classes. -/
  hidden : Option (List Text)
  deriving Repr, DecidableEq

namespace Place

/-- The place of the statements of a module. -/
def module : Place := ⟨[], false, false, true, false, some .strayParentCall, none, none⟩

/-- The place of the statements of an arrow function. -/
def arrow (p : Place) : Place := { p with around := [], inFunction := true, outermost := false }

/-- The place of the statements of a function. -/
def function (p : Place) : Place := { p.arrow with newTarget := true, noArguments := none }

/-- The place of the value of a member of an object. -/
def property (p : Place) : Expression → Place
  | .function _ _ _ => { p with inMethod := true, parentCall := some .strayParentCall }
  | _ => { p with inMethod := true }

/-- The place of the members of a class with the hidden names that it declares. -/
def inClass (p : Place) (members : List Member) : Place :=
  let names := members.filterMap (fun m => m.head?.bind (·.hidden))
  { p with hidden := some (names ++ p.hidden.getD []) }

/-- The place of the statements of a member of a class; `derived` says that the class extends
another. -/
def member (p : Place) (form : MemberForm) (derived : Bool) : Place :=
  { p.function with
    inMethod := true
    parentCall :=
      if form != .constructor then some .strayParentCall
      else if derived then none
      else some .noParent }

/-- The place of the value of a member of a class. -/
def field (p : Place) : Place :=
  { p with
    inMethod := true
    newTarget := true
    parentCall := some .strayParentCall
    noArguments := some "class field initializer" }

/-- The place of the statements that a class runs when it is made. -/
def staticBlock (p : Place) : Place :=
  { p.member .method false with noArguments := some "static initialization block" }

/-- The place of what is in a statement. -/
def inside (p : Place) : Place := { p with outermost := false }

/-- The place of what is in a statement that a jump can aim at. -/
def under (p : Place) (e : Enclosure) : Place := { p with around := e :: p.around, outermost := false }

/-- Whether the label of a statement around a place is of a loop. -/
def labelOf? (p : Place) (t : Text) : Option Bool :=
  p.around.findSome? (fun
    | .label u ofLoop => if u = t then some ofLoop else none
    | _ => none)

/-- What is wrong with a label that no statement around has. -/
def missingLabel (p : Place) : Diagnostic := if p.inFunction then .farLabel else .unknownLabel

/-- What is wrong with a jump out of a statement. -/
def leaveProblem? (p : Place) : Option Text → Option Diagnostic
  | none => if p.around.any (fun e => e = .loop || e = .choice) then none else some .strayBreak
  | some t => if (p.labelOf? t).isSome then none else some p.missingLabel

/-- What is wrong with a jump to the next round of a loop. -/
def nextProblem? (p : Place) : Option Text → Option Diagnostic
  | none => if p.around.contains .loop then none else some .strayContinue
  | some t =>
    match p.labelOf? t with
    | some true => none
    | some false => some .labelOfNoLoop
    | none => some p.missingLabel

end Place

namespace Names

/-! ## §2. Words as names. -/

/-- Reports a diagnostic if there is one. -/
def report? (n : Names) (d : Option Diagnostic) : Names :=
  match d with
  | some d => n.report d
  | none => n

/-- Reports a reserved word that is used as a name. -/
def useName (n : Names) (t : Text) : Names :=
  if reservedWords.contains t then n.report (.reservedWord t) else n

/-- Reports a name that is declared or assigned to and must not be. -/
def setName (n : Names) (t : Text) : Names :=
  let n := n.useName t
  if strictNames.contains t then n.report (.strictName t) else n

/-- Reports a name that is used where it must not be. -/
def useNameAt (n : Names) (p : Place) (t : Text) : Names :=
  let n := n.useName t
  match p.noArguments with
  | some place => if t = "arguments".toList then n.report (.strayArguments place) else n
  | none => n

/-- Reports a hidden name that no class around declares. -/
def useHiddenName (n : Names) (p : Place) (t : Text) : Names :=
  match p.hidden with
  | some names => if names.contains t then n else n.report (.unknownHiddenName t)
  | none => n.report (.strayHiddenName t)

/-- Declares names one after the other, and tells their bindings. -/
def declareAll (declare : Names → Text → Nat × Names) : List Text → Names → List (Text × Nat) × Names
  | [], n => ([], n)
  | t :: rest, n =>
    let r := declare n t
    let more := declareAll declare rest r.2
    ((t, r.1) :: more.1, more.2)

end Names

/-- Whether a statement is a function. -/
def Statement.isFunction : Statement → Bool
  | .function _ _ _ => true
  | _ => false

/-- Whether a statement is a loop, perhaps with labels. -/
def Statement.isLoop : Statement → Bool
  | .repeat _ _ _ => true
  | .loop _ _ => true
  | .labelled _ _ => true
  | _ => false

/-- Reports a function that is the only statement of another. -/
def Names.reportFunction (n : Names) (s : Statement) : Names :=
  if s.isFunction then n.report .misplacedFunction else n

/-- What is wrong with an operator before an operand. -/
def unaryProblem? (op : Text) (operand : Expression) : Option Diagnostic :=
  if op = "delete".toList then
    match operand with
    | .name _ => some .deletedName
    | .member parts =>
      match parts.getLast? with
      | some (.hidden _) => some .deletedHiddenName
      | _ => none
    | _ => none
  else none

/-- Whether two members of a class cannot have one hidden name: one that gets a value and one that
sets it can. -/
def MemberHead.excludes (a b : MemberHead) : Bool :=
  let pair := (a.form = .getter && b.form = .setter) || (a.form = .setter && b.form = .getter)
  a.hidden == b.hidden && !(pair && a.isStatic == b.isStatic)

/-- The hidden names that repeat one before them. -/
def repeatedHidden : (seen : List MemberHead) → List MemberHead → List Text
  | _, [] => []
  | seen, head :: rest =>
    match head.hidden with
    | some t =>
      if seen.any head.excludes then t :: repeatedHidden (head :: seen) rest
      else repeatedHidden (head :: seen) rest
    | none => repeatedHidden seen rest

/-- Reports what is wrong with the members of a class taken together. -/
def Names.reportMembers (n : Names) (members : List Member) : Names :=
  let heads := members.filterMap Member.head?
  let constructors := heads.filter (fun head => head.form = .constructor)
  let problems := (constructors.drop 1).map (fun _ => .repeatedConstructor)
    ++ (repeatedHidden [] heads).map .redeclared
  problems.foldl Names.report n

/-! ## §3. The walk. -/

mutual
/-- Walks through an expression. -/
def Expression.walk (p : Place) : Expression → Names → Names
  | .constant, n => n
  | .outdated d, n => n.report d
  | .name t, n => n.useNameAt p t
  | .unary op e, n => (e.walk p n).report? (unaryProblem? op e)
  | .update e, n => e.walkTarget p n
  | .binary _ l r, n => r.walk p (l.walk p n)
  | .assign t v, n => v.walk p (t.walkTarget p n)
  | .member es, n => walkExpressions p es n
  | .parenthesized e, n => e.walk p n
  | .array es, n => walkExpressions p es n
  | .object es, n => walkExpressions p es n
  | .property key v, n => v.walk (p.property v) (walkExpressions p key n)
  | .shorthand t es _, n => walkExpressions p es (n.useNameAt p t)
  | .spread e, n => e.walk p n
  | .function name params body, n =>
    let n := match name with
      | some t => n.setName t
      | none => n
    (walkStatements p.function body (walkParams p.function params (n.enter .function))).exit
  | .arrow params body, n =>
    (walkStatements p.arrow body (walkParams p.arrow params (n.enter .function))).exit
  | .class name heritage members, n =>
    let n := match name with
      | some t => n.setName t
      | none => n
    (walkMembers (p.inClass members) (!heritage.isEmpty) members
      (walkExpressions p heritage n)).reportMembers members
  | .hidden t, n => n.useHiddenName p t
  | .newTarget, n => if p.newTarget then n else n.report .strayNewTarget
  | .parent false, n => if p.inMethod then n else n.report .straySuper
  | .parent true, n => n.report? p.parentCall
  | .parts es, n => walkExpressions p es n

/-- Walks through expressions in order. -/
def walkExpressions (p : Place) : List Expression → Names → Names
  | [], n => n
  | e :: rest, n => walkExpressions p rest (e.walk p n)

/-- Walks through the members of a class in order; `derived` says that it extends another. -/
def walkMembers (p : Place) (derived : Bool) : List Member → Names → Names
  | [], n => n
  | m :: rest, n => walkMembers p derived rest (m.walk p derived n)

/-- Walks through a member of a class. -/
def Member.walk (p : Place) (derived : Bool) : Member → Names → Names
  | .method head key params body, n =>
    let q := p.member head.form derived
    let n := walkParams q params ((walkExpressions p key n).enter .function)
    (walkStatements q body n).exit
  | .field _ key value, n => walkExpressions p.field value (walkExpressions p key n)
  | .block body, n => (walkStatements p.staticBlock body (n.enter .function)).exit

/-- Walks through an expression that is assigned to. -/
def Expression.walkTarget (p : Place) : Expression → Names → Names
  | .name t, n => n.setName t
  | .parenthesized e, n => e.walkTarget p n
  | .assign t v, n => v.walk p (t.walkTarget p n)
  | .array es, n => walkTargets p es n
  | .object es, n => walkTargets p es n
  | .property key v, n => v.walkTarget p (walkExpressions p key n)
  | .shorthand t es _, n => walkExpressions p es (n.setName t)
  | .spread e, n => e.walkTarget p n
  | .member es, n => walkExpressions p es n
  | _, n => n

/-- Walks through expressions that are assigned to. -/
def walkTargets (p : Place) : List Expression → Names → Names
  | [], n => n
  | e :: rest, n => walkTargets p rest (e.walkTarget p n)

/-- Walks through a pattern whose names are bound. -/
def walkPattern (p : Place) : List Part → Names → Names
  | [], n => n
  | .name t :: rest, n => walkPattern p rest (n.setName t)
  | .value e :: rest, n => walkPattern p rest (e.walk p n)

/-- Walks through the parameters of a function. -/
def walkParams (p : Place) : List (List Part) → Names → Names
  | [], n => n
  | param :: rest, n =>
    walkParams p rest (walkPattern p param ((boundNames param).foldl Names.bindParam n))

/-- Walks through the patterns of a declaration and their values. -/
def walkItems (p : Place) (binding : Binding) :
    List (List Part × List Expression) → Names → Names
  | [], n => n
  | (pattern, value) :: rest, n =>
    match binding with
    | .block =>
      let n := (boundNames pattern).foldl Names.bindBlock n
      walkItems p binding rest (walkExpressions p value (walkPattern p pattern n))
    | .function =>
      let r := Names.declareAll Names.hoist (boundNames pattern) n
      let n := walkExpressions p value (walkPattern p pattern r.2)
      walkItems p binding rest (r.1.foldl (fun n b => n.checkVariable b.1 b.2) n)

/-- Walks through a statement. -/
def Statement.walk (p : Place) : Statement → Names → Names
  | .plain es, n => walkExpressions p es n
  | .declare binding items, n => walkItems p binding items n
  | .function (some t) params body, n =>
    let r := n.bindFunction t
    let n := walkParams p.function params ((r.2.setName t).enter .function)
    (walkStatements p.function body n).exit.checkFunction t r.1
  | .function none params body, n =>
    (walkStatements p.function body (walkParams p.function params (n.enter .function))).exit
  | .class required name heritage members, n =>
    let n := match name with
      | some t => (n.bindBlock t).setName t
      | none => n
    let n := (walkMembers (p.inClass members) (!heritage.isEmpty) members
      (walkExpressions p heritage n)).reportMembers members
    if required && name.isNone then n.report .noClassName else n
  | .block body, n => (walkStatements p.inside body (n.enter .block)).exit
  | .branch e alternatives, n =>
    alternatives.foldl Names.reportFunction (walkStatements p.inside alternatives (e.walk p n))
  | .repeat first body last, n =>
    let n := body.walk (p.under .loop) (walkExpressions p first n)
    (walkExpressions p last n).reportFunction body
  | .loop head body, n =>
    let n := walkStatements p.inside head (n.enter .block)
    (body.walk (p.under .loop) n).exit.reportFunction body
  | .select e cases, n =>
    (walkStatements (p.under .choice) cases ((e.walk p n).enter .block)).exit
  | .labelled t body, n =>
    let n := body.walk (p.under (.label t body.isLoop)) (n.useName t)
    let n := if (p.labelOf? t).isSome then n.report (.repeatedLabel t) else n
    n.reportFunction body
  | .within e body, n =>
    ((body.walk p.inside (e.walk p n)).reportFunction body).report .withStatement
  | .attempt body handler final, n =>
    let n := (walkStatements p.inside body (n.enter .block)).exit
    let n := walkStatements p.inside handler n
    (walkStatements p.inside final (n.enter .block)).exit
  | .handler names body, n =>
    let bind := match names with
      | [.name _] => Names.bindFreely
      | _ => Names.bindBlock
    let n := walkPattern p names ((boundNames names).foldl bind (n.enter .block))
    (walkStatements p.inside body n).exit
  | .leave label, n => ((label.map n.useName).getD n).report? (p.leaveProblem? label)
  | .next label, n => ((label.map n.useName).getD n).report? (p.nextProblem? label)
  | .exports items, n =>
    let n := items.foldl (fun n i => n.useName i.1) n
    if p.outermost then n else n.report .misplacedExport
  | .exported _ inner, n =>
    let n := inner.walk p n
    if p.outermost then n else n.report .misplacedExport
  | .imports names, n =>
    let n := names.foldl (fun n t => (n.bindBlock t).setName t) n
    if p.outermost then n else n.report .misplacedImport

/-- Walks through statements in order. -/
def walkStatements (p : Place) : List Statement → Names → Names
  | [], n => n
  | s :: rest, n => walkStatements p rest (s.walk p n)
end

end ScriptWeave.Program
