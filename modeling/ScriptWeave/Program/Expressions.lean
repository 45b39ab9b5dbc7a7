/-
  ScriptWeave.Program.Expressions
  ───────────────────────────────
  **READING EXPRESSIONS.**

  Operators bind by their precedence; powers group to the right and all
  other operators to the left.  What opens like a list in parentheses is
  first tried as the parameters of an arrow function.  What an assignment
  assigns to is read as an expression and then checked.

  The statements in the body of a function are read by a step that is given,
  so that expressions can be read without knowing what a statement is.
-/
import ScriptWeave.Program.Reading

namespace ScriptWeave.Program

/-! ## §1. Operators. -/

/-- How closely an operator between two operands binds. -/
def precedence? (op : Text) : Option Nat :=
  (List.map (fun (p : String × Nat) => (p.1.toList, p.2))
    [("??", 1), ("||", 2), ("&&", 3), ("|", 4), ("^", 5), ("&", 6), ("==", 7), ("!=", 7),
      ("===", 7), ("!==", 7), ("<", 8), (">", 8), ("<=", 8), (">=", 8), ("instanceof", 8),
      ("in", 8), ("<<", 9), (">>", 9), (">>>", 9), ("+", 10), ("-", 10), ("*", 11), ("/", 11),
      ("%", 11), ("**", 12)]).lookup op

/-- The operator between two operands that a token is. -/
def Token.operator? : Token → Option Text
  | .mark m => some m
  | .word t => if t = ['i', 'n'] || t = "instanceof".toList then some t else none
  | _ => none

/-- The operators that assign. -/
def assignments : List Text :=
  List.map String.toList
    ["=", "+=", "-=", "*=", "/=", "%=", "**=", "<<=", ">>=", ">>>=", "&=", "|=", "^=", "&&=",
      "||=", "??="]

/-- Whether a token assigns. -/
def Token.assigns : Token → Bool
  | .mark m => assignments.contains m
  | _ => false

/-- The operators before their operands. -/
def unaryOperators : List Text :=
  List.map String.toList ["!", "-", "+", "~", "typeof", "void", "delete"]

/-- The operator before an operand that a token is. -/
def Token.unary? : Token → Option Text
  | .mark m => if unaryOperators.contains m then some m else none
  | .word t => if unaryOperators.contains t then some t else none
  | _ => none

/-- Whether a token is `++` or `--`. -/
def Token.updates : Token → Bool
  | .mark m => m == ['+', '+'] || m == ['-', '-']
  | _ => false

/-- Whether a token is a literal. -/
def Token.isLiteral : Token → Bool
  | .word t => literalWords.contains t
  | .number _ _ _ => true
  | .string _ _ => true
  | .pattern => true
  | _ => false

/-! ## §2. Targets. -/

mutual
/-- Checks that an expression can be assigned to.  `patterns` says that arrays and objects
can be. -/
def checkTarget (patterns : Bool) : Expression → Parse Unit
  | .name _ => pure ()
  | .member _ => pure ()
  -- parentheses make an array a value for good
  | .parenthesized (.array _) => haltWith .badTarget
  | .parenthesized (.object _) => haltWith .badTarget
  | .parenthesized inner => checkTarget false inner
  | .array items => if patterns then checkItems items else haltWith .badTarget
  | .object members => if patterns then checkItems members else haltWith .badTarget
  | _ => haltWith .badTarget

/-- Checks that an item of an array or a member of an object can be assigned to. -/
def checkItem : Expression → Parse Unit
  -- its target was checked when the default behind it was met
  | .assign _ _ => pure ()
  -- the default turns out to be one of a pattern, where it is right
  | .shorthand _ _ id => modify (fun s => { s with defaults := s.defaults.filter (· != id) })
  | .property _ value => checkItem value
  | .parts [] => pure ()
  | e => checkTarget true e

/-- Checks that items can be assigned to; only the last can stand for all that is left. -/
def checkItems : List Expression → Parse Unit
  | [] => pure ()
  | [.spread e] => checkTarget true e
  | .spread _ :: _ => haltWith .spreadNotLast
  | e :: rest => do
    checkItem e
    checkItems rest
end

/-! ## §3. Arrow functions ahead. -/

/-- Whether parentheses open the parameters of an arrow function. -/
inductive Sight where
  /-- They do. -/
  | yes
  /-- They do not. -/
  | no
  /-- It takes more than the next few tokens to tell. -/
  | maybe
  deriving Repr, DecidableEq

/-- Looks whether the parameters of an arrow function are next. -/
def arrowSight : Parse Sight := look do
  if ← acceptWord "async" then
    if ← atNewLine then return .no
  unless ← accept "(" do return .no
  match ← peek with
  | .mark m =>
    -- empty parentheses are no operand, so only parameters are left
    if m = [')'] then
      advance
      let t ← peek
      return if t ∈ ([.mark "=>", .mark ":", .mark "\x7b"] : List Token) then .yes else .no
    else if m = ['.', '.', '.'] then
      advance
      return if (← peek).isLiteral then .no else .yes
    -- an array or an object can be a value or a pattern
    else return if m = ['['] || m = ['\x7b'] then .maybe else .no
  | .word t =>
    unless isBindingWord t || t == ("this" : Text) do return .no
    advance
    match ← peek with
    | .mark m =>
      if m = [':'] then return .yes
      else if m = ['?'] then
        advance
        let t ← peek
        return if t ∈ ([.mark ":", .mark ",", .mark "=", .mark ")"] : List Token) then .yes else .no
      else return if m = [','] || m = ['='] || m = [')'] then .maybe else .no
    | _ => return .no
  | _ => return .no

/-- Looks whether `async` and the only parameter of an arrow function are next. -/
def asyncArrowAhead : Parse Bool := look do
  unless ← acceptWord "async" do return false
  if ← atNewLine then return false
  match ← peek with
  | .word t =>
    unless isPlainName t do return false
    advance
    return !(← atNewLine) && (← at? "=>")
  | _ => return false

/-- Looks whether `async function` is next, on one line. -/
def asyncFunctionAhead : Parse Bool := look do
  unless ← acceptWord "async" do return false
  return !(← atNewLine) && (← atWord "function")

/-- Looks whether `await` is an operator here. -/
def awaitAhead : Parse Bool := look do
  unless ← acceptWord "await" do return false
  if ← at? "=>" then return false
  if (← get).context.awaits then return true
  -- elsewhere it is a name, unless an operand on the same line follows
  match ← peek with
  | .word t => return !(← atNewLine) && (t != ("of" : Text)) && (precedence? t).isNone
  | .number _ _ _ => return !(← atNewLine)
  | .string _ _ => return !(← atNewLine)
  | .mark m => return !(← atNewLine) && m == ['\x7b']
  | _ => return false

/-- Looks whether `yield` is an operator here. -/
def yieldAhead : Parse Bool := look do
  unless ← acceptWord "yield" do return false
  if (← get).context.yields then return true
  -- elsewhere it is a name, unless an operand on the same line follows
  match ← peek with
  | .word t => return !(← atNewLine) && (precedence? t).isNone
  | .number _ _ _ => return !(← atNewLine)
  | .string _ _ => return !(← atNewLine)
  | _ => return false

/-! ## §4. Literals. -/

/-- The expression for a literal that strict code may refuse. -/
def literal : Option Diagnostic → Expression
  | some d => .outdated d
  | none => .constant

/-- Reads a regular expression. -/
def readPattern : Parse Expression := do
  reread Lexeme.asPattern
  if (← get).faults.isEmpty then
    advance
  else unexpected
  return .constant

/-- Reads the name of a member; the answer is what is evaluated to find it. -/
def readMemberName : Parse (List Expression) := do
  match ← peek with
  | .privateName t =>
    advance
    return [.hidden t]
  | _ =>
    let _ ← readAnyName
    return []

/-- Passes a word before the name of a member, if it stands before one.  `sameLine` says that no
line may end between them. -/
def acceptModifier (w : Text) (sameLine : Bool) : Parse Bool := do
  -- before anything else the word is itself the name of the member
  let ahead ← look do
    unless ← acceptWord w do return false
    if sameLine && (← atNewLine) then return false
    match ← peek with
    | .mark m => return m == ['['] || m == ['*']
    | .word _ => return true
    | .string _ _ => return true
    | .number _ _ _ => return true
    | .privateName _ => return true
    | _ => return false
  if ahead then advance
  return ahead

/-- Passes the word that makes a method an accessor, if it stands before one. -/
def acceptAccessor : Parse MemberForm := do
  if ← acceptModifier "get" false then return .getter
  if ← acceptModifier "set" false then return .setter
  return .method

/-- Remarks on the parameters of a member that takes others. -/
def checkParameters (form : MemberForm) (params : List Pattern) : Parse Unit :=
  match form with
  | .getter => unless params.isEmpty do remark .getterParameters
  | .setter => unless params.length == 1 do remark .setterParameters
  | _ => pure ()

/-- Reads the name of a function or a class that is an operand, if it has one. -/
def readOwnName (c : Context) : Parse (Option Text) := do
  match ← peek with
  | .word t =>
    if isBindingWord t then
      checkName t c
      advance
      return some t
    else return none
  | _ => return none

/-! ## §5. Members of classes. -/

/-- A class that was read. -/
structure ClassRead where
  /-- Its name. -/
  name : Option Text
  /-- The class it extends. -/
  heritage : List Expression
  /-- Its members. -/
  members : List Member

/-- Looks whether a static block is next. -/
def staticBlockAhead : Parse Bool := look do
  unless ← acceptWord "static" do return false
  at? "\x7b"

/-- Remarks on a member of a class with a name that it cannot have; `first` is the token that its
name starts with. -/
def checkMember (head : MemberHead) (isAsync generator : Bool) (first : Token) : Parse Unit := do
  if head.hidden == some ("constructor" : Text) then remark .hiddenConstructor
  if head.isStatic && first.memberName? == some ("prototype" : Text) then remark .staticPrototype
  if first.memberName? == some ("constructor" : Text) then
    match head.form with
    -- a static method may be called so
    | .field => remark .fieldAsConstructor
    | .constructor =>
      if generator then remark .generatorAsConstructor
      else if isAsync then remark .asyncAsConstructor
    | .method => pure ()
    | _ => unless head.isStatic do remark .accessorAsConstructor

/-! ## §6. Expressions. -/

section

variable (body : Parse (List Statement))

/-- Reads the body of a function. -/
def readBody : Parse (List Statement) := do
  expect "\x7b"
  let statements ← within (fun c => { c with returns := true }) body
  expect "\x7d"
  return statements

/-- Reads the statements that a class runs when it is made. -/
def readStaticBlock : Parse (List Statement) := do
  expect "\x7b"
  let statements ← within (fun _ => ⟨true, false, false, false⟩) body
  expect "\x7d"
  return statements

mutual
/-- Reads an expression that no comma divides. -/
def readAssignment : (fuel : Nat) → Parse Expression
  | 0 => do
    unexpected
    return .constant
  | fuel + 1 => do
    if ← yieldAhead then return (← readYield fuel)
    if ← asyncArrowAhead then
      advance
      let t ← readBinding
      advance
      return (← readArrow true [[.name t]] fuel)
    match ← arrowSight with
    | .yes =>
      let isAsync ← acceptWord "async"
      let params ← readArrowHead isAsync fuel
      return (← readArrow isAsync params fuel)
    | .maybe =>
      let s ← get
      if s.noArrows.contains s.position then readOperation fuel
      else
        -- parameters are tried first; if that halts, the place is read again as an operand
        let isAsync ← acceptWord "async"
        let params ← readArrowHead isAsync fuel
        if ← halted then
          let refused := (← get).noArrows
          -- the place is kept, so that no nesting is tried twice
          set { s with noArrows := s.position :: refused }
          readOperation fuel
        else return (← readArrow isAsync params fuel)
    | .no => readOperation fuel

/-- Reads an expression that no comma divides and that is no arrow function with parentheses. -/
def readOperation : (fuel : Nat) → Parse Expression
  | 0 => do
    unexpected
    return .constant
  | fuel + 1 => do
    let left ← readBinary 0 fuel
    if ← at? "=>" then
      if let .name t := left then
        if ← atNewLine then remark .lineBeforeArrow
        advance
        return (← readArrow false [[.name t]] fuel)
    if (← peek).assigns then
      -- only a plain assignment takes values apart
      checkTarget (← at? "=") left
      advance
      let value ← readAssignment fuel
      return .assign left value
    if ← accept "?" then
      let yes ← withIn (readAssignment fuel)
      expect ":"
      let no ← readAssignment fuel
      return .parts [left, yes, no]
    return left

/-- Reads expressions divided by commas. -/
def readExpression : (fuel : Nat) → Parse Expression
  | 0 => do
    unexpected
    return .constant
  | fuel + 1 => do
    let first ← readAssignment fuel
    if ← at? "," then
      let rest ← readSequence fuel
      return .parts (first :: rest)
    return first

/-- Reads the expressions behind the first comma. -/
def readSequence : (fuel : Nat) → Parse (List Expression)
  | 0 => do
    unexpected
    return []
  | fuel + 1 => do
    if ← accept "," then
      let e ← readAssignment fuel
      let rest ← readSequence fuel
      return e :: rest
    return []

/-- Reads operands with operators between them that bind closer than `least`. -/
def readBinary (least : Nat) : (fuel : Nat) → Parse Expression
  | 0 => do
    unexpected
    return .constant
  | fuel + 1 => do
    let parens ← at? "("
    let left ← match ← peek with
      -- a hidden name is an operand only of `in`
      | .privateName t =>
        advance
        unless ← atWord "in" do unexpected
        pure (.hidden t)
      | _ => readUnary fuel
    readBinaryRest least parens left fuel

/-- Reads the operators and operands behind the first operand.  `parens` says that this
starts with a parenthesis. -/
def readBinaryRest (least : Nat) (parens : Bool) (left : Expression) :
    (fuel : Nat) → Parse Expression
  | 0 => do
    unexpected
    return left
  | fuel + 1 => do
    let some op := (← peek).operator? | return left
    let some p := precedence? op | return left
    -- operators of one precedence group to the left, powers to the right
    if p < least || (p == least && op != ['*', '*']) then return left
    if op == ("in" : Text) && !(← get).context.inOperator then return left
    advance
    let rightParens ← at? "("
    let right ← readBinary p fuel
    -- `??` beside `||` or `&&` needs parentheses around one of them
    if op == ['?', '?'] then
      let mixed := match left, right with
        | _, .binary o _ _ => if rightParens then none else some o
        | .binary o _ _, _ => if parens then none else some o
        | _, _ => none
      if mixed == some ['|', '|'] || mixed == some ['&', '&'] then remark .mixedCoalesce
    -- a sign before the base would be ambiguous
    if op == ['*', '*'] && !parens then
      if let .unary _ _ := left then remark .bareExponent
    readBinaryRest least parens (.binary op left right) fuel

/-- Reads an operand with the operators before it. -/
def readUnary : (fuel : Nat) → Parse Expression
  | 0 => do
    unexpected
    return .constant
  | fuel + 1 => do
    if let some op := (← peek).unary? then
      advance
      let e ← readUnary fuel
      return .unary op e
    if ← awaitAhead then
      unless (← get).context.awaits do remark .strayAwait
      advance
      let e ← within (fun c => { c with awaits := true }) (readUnary fuel)
      return .unary "await" e
    if (← peek).updates then
      advance
      let e ← readUnary fuel
      checkTarget false e
      return .update e
    let e ← readOperand fuel
    -- behind a line break it belongs to the next operand
    if (← peek).updates && !(← atNewLine) then
      advance
      checkTarget false e
      return .update e
    return e

/-- Reads an operand with its members and calls. -/
def readOperand : (fuel : Nat) → Parse Expression
  | 0 => do
    unexpected
    return .constant
  | fuel + 1 => do
    let e ← readPrimary fuel
    readSuffixes true false e fuel

/-- Reads members, items and, where `calls` allows them, calls of an operand.  `optional` says
that one of them was optional, so that nothing can be assigned to the whole. -/
def readSuffixes (calls optional : Bool) (e : Expression) : (fuel : Nat) → Parse Expression
  | 0 => do
    unexpected
    return e
  | fuel + 1 => do
    -- wrapped, an optional chain is no target
    let whole := if optional then .parts [e] else e
    if ← halted then return whole
    match ← peek with
    | .mark m =>
      if m = ['.'] then
        advance
        let key ← readMemberName
        readSuffixes calls optional (.member (e :: key)) fuel
      else if m = ['['] then
        let key ← readKey fuel
        readSuffixes calls optional (.member [e, key]) fuel
      else if m = ['('] && calls then
        let items ← readArguments fuel
        readSuffixes calls optional (.parts (e :: items)) fuel
      else if m = ['?', '.'] then
        -- only behind `new` are calls left out
        if !calls then
          haltWith .optionalConstructor
          return whole
        readOptional e fuel
      else return whole
    | .template _ _ =>
      let t ← readTemplateLiteral true fuel
      readSuffixes calls optional (.parts [e, t]) fuel
    | _ => return whole

/-- Reads an optional member, item or call, and what follows it. -/
def readOptional (e : Expression) : (fuel : Nat) → Parse Expression
  | 0 => do
    unexpected
    return e
  | fuel + 1 => do
    advance
    match ← peek with
    | .mark m =>
      if m = ['['] then
        let key ← readKey fuel
        readSuffixes true true (.member [e, key]) fuel
      else if m = ['('] then
        let items ← readArguments fuel
        readSuffixes true true (.parts (e :: items)) fuel
      else
        haltWith .unexpectedToken
        return e
    | .word _ =>
      let key ← readMemberName
      readSuffixes true true (.member (e :: key)) fuel
    | .privateName _ =>
      let key ← readMemberName
      readSuffixes true true (.member (e :: key)) fuel
    | _ =>
      haltWith .unexpectedToken
      return e

/-- Reads an expression in brackets. -/
def readKey : (fuel : Nat) → Parse Expression
  | 0 => do
    unexpected
    return .constant
  | fuel + 1 => do
    advance
    let e ← withIn (readExpression fuel)
    expect "]"
    return e

/-- Reads the arguments of a call. -/
def readArguments : (fuel : Nat) → Parse (List Expression)
  | 0 => do
    unexpected
    return []
  | fuel + 1 => do
    expect "("
    let items ← withIn (readItems ")" (readItem fuel) fuel)
    expect ")"
    return items.1

/-- Reads an item of a list of operands, which may stand for several. -/
def readItem : (fuel : Nat) → Parse Expression
  | 0 => do
    unexpected
    return .constant
  | fuel + 1 => do
    if ← accept "..." then
      let e ← readAssignment fuel
      return .spread e
    readAssignment fuel

/-- Reads an item of an array, which may be left out. -/
def readElement : (fuel : Nat) → Parse Expression
  | 0 => do
    unexpected
    return .constant
  | fuel + 1 => do
    if ← at? "," then return .parts []
    readItem fuel

/-- Reads what an operand starts with. -/
def readPrimary : (fuel : Nat) → Parse Expression
  | 0 => do
    unexpected
    return .constant
  | fuel + 1 => do
    match ← peek with
    | .number _ outdated complete =>
      unless complete do haltWith .unexpectedToken
      advance
      return literal outdated
    | .string _ outdated =>
      advance
      return literal outdated
    | .template _ _ => readTemplateLiteral false fuel
    | .mark m =>
      if m = ['('] then readParentheses fuel
      else if m = ['['] then
        advance
        let items ← withIn (readItems "]" (readElement fuel) fuel)
        expect "]"
        return .array items.1
      else if m = ['\x7b'] then
        advance
        let members ← withIn (readItems "\x7d" (readMember fuel) fuel)
        expect "\x7d"
        return .object members.1
      else if m = ['/'] || m = ['/', '='] then readPattern
      else
        unexpected
        return .constant
    | .word t =>
      if literalWords.contains t || t == ("this" : Text) then
        advance
        return .constant
      else if t == ("function" : Text) then readFunctionOperand false fuel
      else if t == ("class" : Text) then
        let c ← readClass fuel
        return .class c.name c.heritage c.members
      else if t == ("async" : Text) then
        if ← asyncFunctionAhead then
          advance
          readFunctionOperand true fuel
        else readReference
      else if t == ("new" : Text) then readNew fuel
      else if t == ("super" : Text) then
        advance
        let next ← peek
        unless next ∈ ([.mark "(", .mark "[", .mark "."] : List Token) do remark .bareSuper
        return .parent (next == .mark "(")
      else if t == ("import" : Text) then
        advance
        if ← accept "." then
          let _ ← readMemberName
          return .constant
        else if ← at? "(" then
          let items ← readArguments fuel
          return .parts items
        else
          unexpected
          return .constant
      else readReference
    | _ =>
      unexpected
      return .constant

/-- Reads an operand in parentheses. -/
def readParentheses : (fuel : Nat) → Parse Expression
  | 0 => do
    unexpected
    return .constant
  | fuel + 1 => do
    advance
    let items ← withIn (readItems ")" (readAssignment fuel) fuel)
    if items.2 then
      haltWith .parenthesesComma
      return .constant
    match items.1 with
    -- only parameters can be empty, and no arrow follows
    | [] =>
      expect ")"
      haltWith .emptyParentheses
      return .constant
    | [e] =>
      expect ")"
      return .parenthesized e
    | es =>
      expect ")"
      return .parenthesized (.parts es)

/-- Reads an operand that starts with `new`. -/
def readNew : (fuel : Nat) → Parse Expression
  | 0 => do
    unexpected
    return .constant
  | fuel + 1 => do
    advance
    if ← accept "." then
      if ← acceptWord "target" then return .newTarget
      advance
      haltWith .badNewProperty
      return .constant
    let e ← readPrimary fuel
    -- the first arguments belong to `new`, so no call is read here
    let e ← readSuffixes false false e fuel
    if ← at? "(" then
      let items ← readArguments fuel
      return .parts (e :: items)
    return .parts [e]

/-- Reads a template.  In one with a tag every escape can stand. -/
def readTemplateLiteral (tagged : Bool) : (fuel : Nat) → Parse Expression
  | 0 => do
    unexpected
    return .constant
  | fuel + 1 => do
    match ← peek with
    | .template piece valid =>
      unless valid || tagged do remark .badTemplate
      advance
      match piece with
      | .whole => return .constant
      | .tail => return .constant
      | _ =>
        let e ← withIn (readExpression fuel)
        -- what follows the brace is template again
        if ← at? "\x7d" then reread Lexeme.asTemplate
        if ← halted then return e
        let rest ← readTemplateLiteral tagged fuel
        return .parts [e, rest]
    | _ =>
      expect "\x7d"
      return .constant

/-- Reads the name of a member of an object; the answer is what is evaluated to find it. -/
def readPropertyName : (fuel : Nat) → Parse (List Expression)
  | 0 => do
    unexpected
    return []
  | fuel + 1 => do
    match ← peek with
    | .string _ outdated =>
      advance
      return [literal outdated]
    | .number _ outdated _ =>
      advance
      return [literal outdated]
    | .mark m =>
      if m = ['['] then
        advance
        let e ← withIn (readAssignment fuel)
        expect "]"
        return [e]
      else
        unexpected
        return []
    | _ => readMemberName

/-- Reads a member of an object. -/
def readMember : (fuel : Nat) → Parse Expression
  | 0 => do
    unexpected
    return .constant
  | fuel + 1 => do
    if ← accept "..." then
      let e ← readAssignment fuel
      return .spread e
    let isAsync ← acceptModifier "async" true
    -- a method that is asynchronous is no accessor
    let form ← if isAsync then pure .method else acceptAccessor
    if form != .method then
      let key ← readPropertyName fuel
      let f ← readFunction false false fuel
      checkParameters form f.1
      return .property key (.function none f.1 f.2)
    let generator ← accept "*"
    let first ← peek
    let key ← readPropertyName fuel
    if generator || isAsync || (← at? "(") then
      let f ← readFunction isAsync generator fuel
      return .property key (.function none f.1 f.2)
    match first with
    | .word t =>
      if isBindingWord t && !(← at? ":") then
        if ← accept "=" then
          let e ← withIn (readAssignment fuel)
          -- right only if the object turns out to be a pattern
          let id := (← get).nextDefault
          modify (fun s => { s with nextDefault := id + 1, defaults := s.defaults ++ [id] })
          return .shorthand t [e] id
        return .shorthand t [] 0
    | _ => pure ()
    expect ":"
    let value ← readAssignment fuel
    return .property key value

/-- Reads a class, from its opening word on. -/
def readClass : (fuel : Nat) → Parse ClassRead
  | 0 => do
    unexpected
    return ⟨none, [], []⟩
  | fuel + 1 => do
    advance
    let name ← readOwnName (← get).context
    let heritage ←
      if ← acceptWord "extends" then
        let e ← readOperand fuel
        pure [e]
      else pure []
    expect "\x7b"
    let members ← readClassMembers fuel
    expect "\x7d"
    return ⟨name, heritage, members⟩

/-- Reads the members of a class up to the closing brace. -/
def readClassMembers : (fuel : Nat) → Parse (List Member)
  | 0 => do
    unexpected
    return []
  | fuel + 1 => do
    if (← at? "\x7d") || (← stuck) then return []
    if ← accept ";" then readClassMembers fuel
    else
      let m ← readClassMember fuel
      let rest ← readClassMembers fuel
      return m :: rest

/-- Reads a member of a class. -/
def readClassMember : (fuel : Nat) → Parse Member
  | 0 => do
    unexpected
    return .block []
  | fuel + 1 => do
    if ← staticBlockAhead then
      advance
      let statements ← readStaticBlock body
      return .block statements
    let isStatic ← acceptModifier "static" false
    let isAsync ← acceptModifier "async" true
    let accessor ← if isAsync then pure .method else acceptAccessor
    let generator ← if accessor = .method then accept "*" else pure false
    let first ← peek
    let name ← readPropertyName fuel
    -- a hidden name is declared here, and not used
    let key := if first.hiddenName?.isSome then [] else name
    if isAsync || generator || accessor != .method || (← at? "(") then
      let makes := accessor = .method && !isStatic && first.memberName? == some ("constructor" : Text)
      let head := ⟨if makes then .constructor else accessor, isStatic, first.hiddenName?⟩
      checkMember head isAsync generator first
      let f ← readFunction isAsync generator fuel
      checkParameters accessor f.1
      return .method head key f.1 f.2
    let head := ⟨.field, isStatic, first.hiddenName?⟩
    checkMember head false false first
    let value ←
      if ← accept "=" then
        let e ← within (fun c => ⟨true, false, false, c.returns⟩) (readAssignment fuel)
        pure [e]
      else pure []
    endStatement
    return .field head key value

/-- Reads a function that is an operand, from its opening word on. -/
def readFunctionOperand (isAsync : Bool) : (fuel : Nat) → Parse Expression
  | 0 => do
    unexpected
    return .constant
  | fuel + 1 => do
    advance
    let generator ← accept "*"
    let name ← readOwnName { (← get).context with awaits := isAsync, yields := generator }
    let f ← readFunction isAsync generator fuel
    return .function name f.1 f.2

/-- Reads the parameters and the body of a function. -/
def readFunction (isAsync generator : Bool) :
    (fuel : Nat) → Parse (List Pattern × List Statement)
  | 0 => do
    unexpected
    return ([], [])
  | fuel + 1 => do
    within (fun c => ⟨true, isAsync, generator, c.returns⟩) do
      let params ← readParameters fuel
      if ← at? "\x7b" then
        let statements ← readBody body
        return (params, statements)
      else
        haltWith .noFunctionBody
        return (params, [])

/-- Reads parameters in parentheses. -/
def readParameters : (fuel : Nat) → Parse (List Pattern)
  | 0 => do
    unexpected
    return []
  | fuel + 1 => do
    expect "("
    let params ← readNames ")" .restParameterNotLast (readDefaulted fuel) (readNamePattern fuel)
      true false fuel
    expect ")"
    return params

/-- Reads a pattern of names with a default. -/
def readDefaulted : (fuel : Nat) → Parse Pattern
  | 0 => do
    unexpected
    return []
  | fuel + 1 => do
    let p ← readNamePattern fuel
    if ← accept "=" then
      let e ← withIn (readAssignment fuel)
      return p ++ [.value e]
    return p

/-- Reads a pattern of names. -/
def readNamePattern : (fuel : Nat) → Parse Pattern
  | 0 => do
    unexpected
    return []
  | fuel + 1 => do
    match ← peek with
    | .mark m =>
      if m = ['\x7b'] then
        advance
        let items ← readNames "\x7d" .restNotLast (readNameMember fuel) (readNamePattern fuel)
          true false fuel
        expect "\x7d"
        return items.flatten
      else if m = ['['] then
        advance
        let items ← readNames "]" .restNotLast (readNameItem fuel) (readNamePattern fuel)
          true false fuel
        expect "]"
        return items.flatten
      else
        let t ← readBinding
        return [.name t]
    | _ =>
      let t ← readBinding
      return [.name t]

/-- Reads an item of an array of names, which may be left out. -/
def readNameItem : (fuel : Nat) → Parse Pattern
  | 0 => do
    unexpected
    return []
  | fuel + 1 => do
    if ← at? "," then return []
    readDefaulted fuel

/-- Reads a member of an object of names. -/
def readNameMember : (fuel : Nat) → Parse Pattern
  | 0 => do
    unexpected
    return []
  | fuel + 1 => do
    let first ← peek
    let key ← readPropertyName fuel
    match first with
    | .word t =>
      if isBindingWord t && !(← at? ":") then
        if ← accept "=" then
          let e ← withIn (readAssignment fuel)
          return [.name t, .value e]
        return [.name t]
    | _ => pure ()
    expect ":"
    let p ← readDefaulted fuel
    return key.map .value ++ p

/-- Reads the parameters of an arrow function and its arrow. -/
def readArrowHead (isAsync : Bool) : (fuel : Nat) → Parse (List Pattern)
  | 0 => do
    unexpected
    return []
  | fuel + 1 => do
    let params ← within (fun c => { c with awaits := c.awaits || isAsync }) (readParameters fuel)
    if ← atNewLine then remark .lineBeforeArrow
    expect "=>"
    return params

/-- Reads what an arrow function does. -/
def readArrow (isAsync : Bool) (params : List Pattern) : (fuel : Nat) → Parse Expression
  | 0 => do
    unexpected
    return .constant
  | fuel + 1 => do
    within (fun c => { c with awaits := isAsync, yields := false }) do
      if ← at? "\x7b" then
        let statements ← readBody body
        return .arrow params statements
      else
        let e ← readAssignment fuel
        return .arrow params [.plain [e]]

/-- Reads an operand that starts with `yield`. -/
def readYield : (fuel : Nat) → Parse Expression
  | 0 => do
    unexpected
    return .constant
  | fuel + 1 => do
    unless (← get).context.yields do remark .strayYield
    advance
    if ← atNewLine then return .constant
    if ← accept "*" then
      let e ← readAssignment fuel
      return .parts [e]
    -- what cannot start an operand ends it
    let t ← peek
    if t ∈ ([.mark ";", .mark ")", .mark "]", .mark "\x7d", .mark ",", .mark ":", .finish,
        .unreadable] : List Token) || t == .word "in" || t == .word "of" then
      return .constant
    let e ← readAssignment fuel
    return .parts [e]
end

end

end ScriptWeave.Program
