/-
  ScriptWeave.Program.Syntax
  ──────────────────────────
  **EXPRESSIONS AND STATEMENTS.**

  Of a script only what the checker asks for is kept: which names it
  declares, uses and assigns to and in which scopes, how it jumps, and which
  literals strict code refuses.  Operands without any of that are
  `constant`, and operations that only evaluate their operands in order are
  `parts`.
-/
import ScriptWeave.Program.Diagnostic

namespace ScriptWeave.Program

/-- What a member of a class is. -/
inductive MemberForm where
  /-- A method. -/
  | method
  /-- The method that makes objects of the class. -/
  | constructor
  /-- A method that is called where the member is used. -/
  | getter
  /-- A method that is called where the member is assigned to. -/
  | setter
  /-- A value. -/
  | field
  deriving Repr, DecidableEq

/-- What a member of a class begins with. -/
structure MemberHead where
  /-- What it is. -/
  form : MemberForm
  /-- Whether it is a member of the class itself. -/
  isStatic : Bool
  /-- Its name if that is a name behind a hash sign, which only the class knows. -/
  hidden : Option Text
  deriving Repr, DecidableEq

/-- How a declaration binds its names. -/
inductive Binding where
  /-- To the function around it, as `var` does. -/
  | function
  /-- To the block around it, as `let` and `const` do. -/
  | block
  deriving Repr, DecidableEq

mutual
/-- An expression. -/
inductive Expression where
  /-- An operand that says nothing. -/
  | constant
  /-- A literal that strict code refuses. -/
  | outdated (d : Diagnostic)
  /-- A name. -/
  | name (t : Text)
  /-- An operator before its operand. -/
  | unary (op : Text) (operand : Expression)
  /-- `++` or `--` and its operand. -/
  | update (operand : Expression)
  /-- An operator between two operands. -/
  | binary (op : Text) (left right : Expression)
  /-- An assignment. -/
  | assign (target value : Expression)
  /-- A member of an object, with what is evaluated to find it. -/
  | member (parts : List Expression)
  /-- An expression in parentheses. -/
  | parenthesized (inner : Expression)
  /-- An array. -/
  | array (items : List Expression)
  /-- An object. -/
  | object (members : List Expression)
  /-- A member of an object with its name, if that is computed, and its value. -/
  | property (key : List Expression) (value : Expression)
  /-- A member of an object that is the value of the name it has, with a default and its
  number if there is one. -/
  | shorthand (t : Text) (default : List Expression) (id : Nat)
  /-- The items of an array or object in place of it. -/
  | spread (inner : Expression)
  /-- A function that is an operand, with its name if it has one. -/
  | function (name : Option Text) (params : List (List Part)) (body : List Statement)
  /-- An arrow function. -/
  | arrow (params : List (List Part)) (body : List Statement)
  /-- A class that is an operand, with its name if it has one, and with the class it extends. -/
  | class (name : Option Text) (heritage : List Expression) (members : List Member)
  /-- A name behind a hash sign. -/
  | hidden (t : Text)
  /-- The target of `new`. -/
  | newTarget
  /-- The parent of an object, and whether it is called. -/
  | parent (called : Bool)
  /-- Operands evaluated in order. -/
  | parts (operands : List Expression)

/-- A member of a class, with what is evaluated to find it. -/
inductive Member where
  /-- A function. -/
  | method (head : MemberHead) (key : List Expression) (params : List (List Part))
    (body : List Statement)
  /-- A value, if it has one. -/
  | field (head : MemberHead) (key value : List Expression)
  /-- Statements that are run when the class is made. -/
  | block (body : List Statement)

/-- A part of a pattern of names. -/
inductive Part where
  /-- A name that is bound. -/
  | name (t : Text)
  /-- Something that is evaluated. -/
  | value (e : Expression)

/-- A statement. -/
inductive Statement where
  /-- One that evaluates operands. -/
  | plain (operands : List Expression)
  /-- A declaration: patterns of names with their values. -/
  | declare (binding : Binding) (items : List (List Part × List Expression))
  /-- A function, if it has a name, with its parameters and its body. -/
  | function (name : Option Text) (params : List (List Part)) (body : List Statement)
  /-- A class with its name, which `required` says it must have, and the class it extends. -/
  | class (required : Bool) (name : Option Text) (heritage : List Expression)
    (members : List Member)
  /-- Statements in braces. -/
  | block (body : List Statement)
  /-- The alternatives of a condition. -/
  | branch (condition : Expression) (alternatives : List Statement)
  /-- A loop without a scope of its own; `first` is evaluated before the body, `last` behind
  it. -/
  | repeat (first : List Expression) (body : Statement) (last : List Expression)
  /-- A loop with a head. -/
  | loop (head : List Statement) (body : Statement)
  /-- A choice between cases. -/
  | select (subject : Expression) (cases : List Statement)
  /-- A statement with a label. -/
  | labelled (label : Text) (body : Statement)
  /-- A statement whose names are members of an object. -/
  | within (object : Expression) (body : Statement)
  /-- A block, what is done when it fails, and what is done at the end. -/
  | attempt (body : List Statement) (handler : List Statement) (final : List Statement)
  /-- What is done when a block fails, with the names it binds. -/
  | handler (names : List Part) (body : List Statement)
  /-- A jump out of a statement. -/
  | leave (label : Option Text)
  /-- A jump to the next round of a loop. -/
  | next (label : Option Text)
  /-- A list of exports: names and the names they are exported under. -/
  | exports (items : List (Text × Text))
  /-- A declaration or expression that is exported. -/
  | exported (names : List Text) (inner : Statement)
  /-- Names that are imported. -/
  | imports (names : List Text)
end

instance : Inhabited Expression := ⟨.constant⟩

instance : Inhabited Statement := ⟨.plain []⟩

/-- A pattern of names: the names it binds and what it evaluates, in order. -/
abbrev Pattern := List Part

/-- The name of a part, if it binds one. -/
def Part.name? : Part → Option Text
  | .name t => some t
  | .value _ => none

/-- The names that a pattern binds. -/
def boundNames (p : Pattern) : List Text := p.filterMap Part.name?

/-- What a member of a class begins with, if it is no block. -/
def Member.head? : Member → Option MemberHead
  | .method head _ _ _ => some head
  | .field head _ _ => some head
  | .block _ => none

/-- The names under which a statement exports. -/
def Statement.exportedNames : Statement → List Text
  | .exports items => items.map (·.2)
  | .exported names _ => names
  | _ => []

end ScriptWeave.Program
