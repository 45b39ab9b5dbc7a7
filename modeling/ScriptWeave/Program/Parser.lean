/-
  ScriptWeave.Program.Parser
  ──────────────────────────
  **FROM A SCRIPT TO STATEMENTS.**

  A statement ends with a semicolon, or without one before a closing brace,
  at the end of the script, or at the end of a line.  Where only one
  statement can stand, `let` opens no declaration: there it is a name.

  A body of statements is read at a depth: the functions in it are read at
  the next lower one, so that reading ends.
-/
import ScriptWeave.Program.Expressions

namespace ScriptWeave.Program

/-! ## §1. Declarations. -/

/-- How a declaration starts. -/
inductive Opening where
  /-- With `var`. -/
  | var
  /-- With `let`. -/
  | let
  /-- With `const`. -/
  | const
  deriving Repr, DecidableEq

/-- How names declared behind an opening word are bound. -/
def Opening.binding : Opening → Binding
  | .var => .function
  | _ => .block

/-- Whether the tokens between a mark and its name say that a pattern is more than a name. -/
def opensPattern (t : Token) : Bool := t == .mark "\x7b" || t == .mark "["

/-- Whether a token behind `let` shows that `let` is a name. -/
def Token.followsLetName : Token → Bool
  | .mark m =>
    assignments.contains m
      || ((precedence? m).isSome && !(["&&", "||", "??"].map String.toList).contains m)
  | .word t => (precedence? t).isSome
  | _ => false

/-- What a missing value of a declared pattern means. -/
def missingValue (o : Opening) (destructures : Bool) : Parse Unit := do
  if destructures then remark .noPatternInitializer
  else if o = .const then remark .noInitializer

/-- A declared pattern, its value, and whether it takes a value apart. -/
structure Declarator where
  /-- The names. -/
  names : Pattern
  /-- The value, if there is one. -/
  value : List Expression
  /-- Whether the pattern takes a value apart. -/
  destructures : Bool

/-! ## §2. Statements. -/

section

variable (body : Parse (List Statement))

/-- Reads a declared pattern with its value. -/
def readDeclarator (fuel : Nat) : Parse Declarator := do
  let destructures := opensPattern (← peek)
  let names ← readNamePattern body fuel
  if ← accept "=" then
    let e ← readAssignment body fuel
    return ⟨names, [e], destructures⟩
  return ⟨names, [], destructures⟩

/-- Reads the patterns of a declaration.  `strict` says that a missing value is remarked on. -/
def readDeclarators (o : Opening) (strict : Bool) : (fuel : Nat) → Parse (List Declarator)
  | 0 => do
    unexpected
    return []
  | fuel + 1 => do
    let d ← readDeclarator body fuel
    if strict && d.value.isEmpty then missingValue o d.destructures
    if ← accept "," then
      let rest ← readDeclarators o strict fuel
      return d :: rest
    return [d]

/-- The statement for a declaration. -/
def declaration (o : Opening) (ds : List Declarator) : Statement :=
  .declare o.binding (ds.map (fun d => (d.names, d.value)))

/-- Reads a declaration behind its opening word, to its end.  `single` says that only one
statement can stand here. -/
def readDeclaration (o : Opening) (single : Bool) (fuel : Nat) : Parse Statement := do
  let ds ← readDeclarators body o true fuel
  endStatement
  -- `var` is fine there, since its names belong to the function
  if single && o != .var then remark .loneDeclaration
  return declaration o ds

/-- Reads an expression that is a statement. -/
def readPlain (fuel : Nat) : Parse Statement := do
  let e ← readExpression body fuel
  endStatement
  return .plain [e]

/-- Reads a statement that starts with `let`. -/
def readLet (single : Bool) (fuel : Nat) : Parse Statement := do
  -- what follows tells the declaration from the name
  let next ← look do
    advance
    peek
  if next.followsLetName then
    let e ← readAssignment body fuel
    endStatement
    return .plain [e]
  else if next == .mark "." || next == .mark "(" then
    let e ← readExpression body fuel
    return .plain [e]
  else if (single && next != .mark "[") || next == .mark ";" then
    let e ← readReference
    endStatement
    return .plain [e]
  else
    advance
    readDeclaration body .let single fuel

/-- Reads an expression in parentheses. -/
def readCondition (fuel : Nat) : Parse Expression := do
  expect "("
  let e ← readExpression body fuel
  expect ")"
  return e

/-- Reads the name of a function that is a statement. -/
def readFunctionName (required : Bool) : Parse (Option Text) := do
  match ← peek with
  | .word t =>
    if isBindingWord t then
      checkName t (← get).context
      advance
      return some t
    else
      if required then haltWith (.expected "Identifier" (← found))
      return none
  | .mark m =>
    if required && m = ['('] then remark .noFunctionName
    return none
  | _ => return none

/-- Reads a function that is a statement, from its opening word on. -/
def readFunctionStatement (isAsync single required : Bool) (fuel : Nat) : Parse Statement := do
  advance
  let generator ← accept "*"
  let name ← readFunctionName required
  let f ← readFunction body isAsync generator fuel
  if single then
    if isAsync then remark .loneAsync
    else if generator then remark .loneGenerator
  return .function name f.1 f.2

/-- Reads a class that is a statement. -/
def readClassStatement (single required : Bool) (fuel : Nat) : Parse Statement := do
  let c ← readClass body fuel
  if single then remark .loneClass
  return .class required c.name c.heritage c.members

/-- Reads a statement that starts with `return`. -/
def readReturn (fuel : Nat) : Parse Statement := do
  advance
  let e ←
    if ← accept ";" then pure []
    else if ← canEnd then pure []
    else
      let e ← withIn (readExpression body fuel)
      endStatement
      pure [e]
  -- noted last, behind what is wrong with the value
  unless (← get).context.returns do remark .strayReturn
  return .plain e

/-- Reads a statement that starts with `throw`. -/
def readThrow (fuel : Nat) : Parse Statement := do
  advance
  if ← atNewLine then remark .lineAfterThrow
  readPlain body fuel

/-- Reads the label of a jump, to the end of the statement. -/
def readJump : Parse (Option Text) := do
  advance
  let label ← if ← canEnd then pure none else some <$> readLabel
  endStatement
  return label

/-! ## §3. Exports and imports. -/

/-- A name in an export list; a string can name something too. -/
structure ExportName where
  /-- The name. -/
  text : Text
  /-- Whether it is a string. -/
  quoted : Bool
  deriving Repr, DecidableEq

/-- Reads a name in an export list. -/
def readExportName : Parse ExportName := do
  match ← peek with
  | .string t _ =>
    advance
    return ⟨t, true⟩
  | _ => return ⟨← readAnyName, false⟩

/-- Reads an item of an export list. -/
def readExport : Parse (ExportName × ExportName) := do
  let name ← readExportName
  if ← acceptWord "as" then
    let outer ← readExportName
    return (name, outer)
  return (name, name)

/-- Reads the place that a module comes from. -/
def readSource : Parse Unit := do
  match ← peek with
  | .string _ _ => advance
  | _ => unexpected

/-- Remarks on names that cannot be exported. -/
def checkExports : List (ExportName × ExportName) → Parse Unit
  | [] => pure ()
  | (name, _) :: rest => do
    if name.quoted then remark .stringExported
    else if !isPlainName name.text || futureWords.contains name.text then remark .wordExported
    checkExports rest

/-- Reads an export list and what follows it. -/
def readExportList (fuel : Nat) : Parse Statement := do
  expect "\x7b"
  let items ← readItems "\x7d" readExport fuel
  expect "\x7d"
  if ← acceptWord "from" then
    readSource
    endStatement
    return .exported (items.1.map (·.2.text)) (.plain [])
  else
    -- without `from` the names are those of the script, and words are none
    checkExports items.1
    endStatement
    return .exports (items.1.map (fun i => (i.1.text, i.2.text)))

/-- Reads what is exported from another module as a whole. -/
def readExportAll : Parse Statement := do
  advance
  let name ← if ← acceptWord "as" then some <$> readExportName else pure none
  expectWord "from"
  readSource
  endStatement
  return .exported (name.map (·.text)).toList (.plain [])

/-- Reads an expression, a function or a class that is exported under no name of its own. -/
def readExportDefault (fuel : Nat) : Parse Statement := do
  advance
  let inner ←
    if ← atWord "function" then readFunctionStatement body false false false fuel
    else if ← asyncFunctionAhead then
      advance
      readFunctionStatement body true false false fuel
    else if ← atWord "class" then readClassStatement body false false fuel
    else
      let e ← readAssignment body fuel
      endStatement
      pure (.plain [e])
  return .exported ["default"] inner

/-- Reads a declaration that is exported. -/
def readExportedDeclaration (fuel : Nat) : Parse Statement := do
  let opening? : Option Opening := match ← peek with
    | .word t =>
      if t = ['v', 'a', 'r'] then some .var
      else if t = ['l', 'e', 't'] then some .let
      else if t == ("const" : Text) then some .const
      else none
    | _ => none
  match opening? with
  | some o =>
    advance
    let ds ← readDeclarators body o true fuel
    endStatement
    return .exported (boundNames (ds.flatMap (·.names))) (declaration o ds)
  | none =>
    if ← atWord "function" then
      let f ← readFunctionStatement body false false true fuel
      return .exported (names f) f
    else if ← asyncFunctionAhead then
      advance
      let f ← readFunctionStatement body true false true fuel
      return .exported (names f) f
    else if ← atWord "class" then
      let c ← readClassStatement body false true fuel
      return .exported (names c) c
    else
      unexpected
      return .plain []
where
  names : Statement → List Text
    | .function (some t) _ _ => [t]
    | .class _ (some t) _ _ => [t]
    | _ => []

/-- Reads a statement that starts with `export`. -/
def readExportStatement (fuel : Nat) : Parse Statement := do
  advance
  if ← at? "\x7b" then readExportList fuel
  else if ← at? "*" then readExportAll
  else if ← atWord "default" then readExportDefault body fuel
  else readExportedDeclaration body fuel

/-- Reads an item of an import list; the answer is the name it binds. -/
def readImport : Parse Text := do
  match ← peek with
  | .string _ _ =>
    advance
    expectWord "as"
    readBinding
  | .word t =>
    -- a word before `as` is the name over there and may be any word
    let plain ← look do
      advance
      return !(← atWord "as")
    if plain && isBindingWord t then readBinding
    else
      advance
      expectWord "as"
      readBinding
  | _ =>
    unexpected
    return []

/-- Reads a list of imports, or the name of a whole module. -/
def readImportList (fuel : Nat) : Parse (List Text) := do
  if ← accept "*" then
    expectWord "as"
    let t ← readBinding
    return [t]
  else if ← accept "\x7b" then
    let items ← readItems "\x7d" readImport fuel
    expect "\x7d"
    return items.1
  else
    unexpected
    return []

/-- Reads a declaration that starts with `import`, behind that word. -/
def readImportDeclaration (fuel : Nat) : Parse Statement := do
  match ← peek with
  | .string _ _ =>
    advance
    endStatement
    return .imports []
  | .word _ =>
    let t ← readBinding
    let names ← if ← accept "," then readImportList fuel else pure []
    expectWord "from"
    readSource
    endStatement
    return .imports (t :: names)
  | _ =>
    let names ← readImportList fuel
    expectWord "from"
    readSource
    endStatement
    return .imports names

/-! ## §4. Statements within statements. -/

mutual
/-- Reads a statement.  `single` says that only one statement can stand here. -/
def readStatement (single : Bool) : (fuel : Nat) → Parse Statement
  | 0 => do
    unexpected
    return .plain []
  | fuel + 1 => do
    match ← peek with
    | .mark m =>
      if m = [';'] then
        advance
        return .plain []
      else if m = ['\x7b'] then
        let inner ← readBlock fuel
        return .block inner
      else readPlain body fuel
    | .word t =>
      if t = ['v', 'a', 'r'] then
        advance
        readDeclaration body .var single fuel
      else if t = ['l', 'e', 't'] then readLet body single fuel
      else if t == ("const" : Text) then
        advance
        readDeclaration body .const single fuel
      else if t == ("function" : Text) then readFunctionStatement body false single true fuel
      else if t == ("class" : Text) then readClassStatement body single true fuel
      else if t == ("return" : Text) then readReturn body fuel
      else if t == ("if" : Text) then readBranch fuel
      else if t == ("for" : Text) then readFor fuel
      else if t == ("while" : Text) then
        advance
        let e ← readCondition body fuel
        let inner ← readStatement true fuel
        return .repeat [e] inner []
      else if t == ("do" : Text) then
        advance
        let inner ← readStatement true fuel
        expectWord "while"
        let e ← readCondition body fuel
        let _ ← accept ";"
        return .repeat [] inner [e]
      else if t == ("break" : Text) then return .leave (← readJump)
      else if t == ("continue" : Text) then return .next (← readJump)
      else if t == ("throw" : Text) then readThrow body fuel
      else if t == ("try" : Text) then readTry fuel
      else if t == ("switch" : Text) then readSwitch fuel
      else if t == ("with" : Text) then
        advance
        let e ← readCondition body fuel
        let inner ← readStatement true fuel
        return .within e inner
      else if t == ("debugger" : Text) then
        advance
        endStatement
        return .plain []
      else if t == ("export" : Text) then readExportStatement body fuel
      else if t == ("import" : Text) then
        -- a call or a property starts an expression
        let operand ← look do
          advance
          return (← at? "(") || (← at? ".")
        if operand then readPlain body fuel
        else
          advance
          readImportDeclaration fuel
      else if t == ("async" : Text) then
        if ← asyncFunctionAhead then
          advance
          readFunctionStatement body true single true fuel
        else readLabelled fuel
      else readLabelled fuel
    | _ => readPlain body fuel

/-- Reads an expression that is a statement, or a statement with a label. -/
def readLabelled : (fuel : Nat) → Parse Statement
  | 0 => do
    unexpected
    return .plain []
  | fuel + 1 => do
    let e ← readExpression body fuel
    match e with
    | .name t =>
      if ← accept ":" then
        let inner ← readStatement true fuel
        return .labelled t inner
      else
        endStatement
        return .plain [e]
    | _ =>
      endStatement
      return .plain [e]

/-- Reads a condition and its alternatives. -/
def readBranch : (fuel : Nat) → Parse Statement
  | 0 => do
    unexpected
    return .plain []
  | fuel + 1 => do
    advance
    let e ← readCondition body fuel
    let yes ← readStatement true fuel
    if ← acceptWord "else" then
      let no ← readStatement true fuel
      return .branch e [yes, no]
    return .branch e [yes]

/-- Reads a loop with a head. -/
def readFor : (fuel : Nat) → Parse Statement
  | 0 => do
    unexpected
    return .plain []
  | fuel + 1 => do
    advance
    if ← atWord "await" then
      unless (← get).context.awaits do remark .strayAwait
      advance
    expect "("
    let opening? : Option Opening ← match ← peek with
      | .word t =>
        if t = ['v', 'a', 'r'] then pure (some .var)
        else if t == ("const" : Text) then pure (some .const)
        else if t = ['l', 'e', 't'] then
          let next ← look do
            advance
            peek
          -- before `in` and `of` the word is a name
          let declares := match next with
            | .word u => u != ['i', 'n'] && u != ['o', 'f']
            | t => opensPattern t
          pure (if declares then some .let else none)
        else pure none
      | _ => pure none
    match opening? with
    | some o =>
      advance
      let ds ← withoutIn (readDeclarators body o false fuel)
      if (← atWord "in") || (← atWord "of") then readForEach (declaration o ds) fuel
      else
        expect ";"
        -- over the items of something a missing value is no fault
        for d in ds do
          if d.value.isEmpty then missingValue o d.destructures
        readForParts [declaration o ds] fuel
    | none =>
      if (← at? ";") || (← at? ")") then
        expect ";"
        readForParts [] fuel
      else
        let e ← withoutIn (readExpression body fuel)
        if (← atWord "in") || (← atWord "of") then
          -- what was read as an expression is assigned to
          checkTarget true e
          readForEach (.plain [.assign e .constant]) fuel
        else
          expect ";"
          readForParts [.plain [e]] fuel

/-- Reads a loop over the items of something, from the word before that on. -/
def readForEach (head : Statement) : (fuel : Nat) → Parse Statement
  | 0 => do
    unexpected
    return .plain []
  | fuel + 1 => do
    let e ←
      -- commas may divide only what stands behind `in`
      if ← acceptWord "in" then readExpression body fuel
      else
        advance
        readAssignment body fuel
    expect ")"
    let inner ← readStatement true fuel
    return .loop [head, .plain [e]] inner

/-- Reads the head of a loop behind its first semicolon, and its body. -/
def readForParts (head : List Statement) : (fuel : Nat) → Parse Statement
  | 0 => do
    unexpected
    return .plain []
  | fuel + 1 => do
    let test ←
      if (← at? ";") || (← at? ")") then pure []
      else
        let e ← withIn (readExpression body fuel)
        pure [e]
    expect ";"
    let step ←
      if ← at? ")" then pure []
      else
        let e ← withIn (readExpression body fuel)
        pure [e]
    expect ")"
    let inner ← readStatement true fuel
    return .loop (head ++ [.plain (test ++ step)]) inner

/-- Reads a block and what is done when it fails. -/
def readTry : (fuel : Nat) → Parse Statement
  | 0 => do
    unexpected
    return .plain []
  | fuel + 1 => do
    advance
    let first ← readBlock fuel
    let handler ←
      if ← acceptWord "catch" then
        let names ←
          if ← accept "(" then
            let p ← readNamePattern body fuel
            expect ")"
            pure p
          else pure []
        let inner ← readBlock fuel
        pure [.handler names inner]
      else pure []
    if ← acceptWord "finally" then
      let last ← readBlock fuel
      return .attempt first handler last
    if handler.isEmpty then remark .noHandler
    return .attempt first handler []

/-- Reads a choice between cases. -/
def readSwitch : (fuel : Nat) → Parse Statement
  | 0 => do
    unexpected
    return .plain []
  | fuel + 1 => do
    advance
    let e ← readCondition body fuel
    expect "\x7b"
    let cases ← readCases fuel
    expect "\x7d"
    return .select e cases

/-- Reads the cases of a choice. -/
def readCases : (fuel : Nat) → Parse (List Statement)
  | 0 => do
    unexpected
    return []
  | fuel + 1 => do
    if (← at? "\x7d") || (← stuck) then return []
    let test ←
      if ← acceptWord "default" then pure []
      else if ← acceptWord "case" then
        let e ← readExpression body fuel
        pure [e]
      else
        unexpected
        pure []
    expect ":"
    let inner ← readCase fuel
    let rest ← readCases fuel
    return .plain test :: inner ++ rest

/-- Reads the statements of a case. -/
def readCase : (fuel : Nat) → Parse (List Statement)
  | 0 => do
    unexpected
    return []
  | fuel + 1 => do
    if (← at? "\x7d") || (← stuck) || (← atWord "case") || (← atWord "default") then return []
    let s ← readStatement false fuel
    let rest ← readCase fuel
    return s :: rest

/-- Reads statements in braces. -/
def readBlock : (fuel : Nat) → Parse (List Statement)
  | 0 => do
    unexpected
    return []
  | fuel + 1 => do
    expect "\x7b"
    let inner ← readStatements fuel
    expect "\x7d"
    return inner

/-- Reads statements up to a closing brace. -/
def readStatements : (fuel : Nat) → Parse (List Statement)
  | 0 => do
    unexpected
    return []
  | fuel + 1 => do
    if (← at? "\x7d") || (← stuck) then return []
    let s ← readStatement false fuel
    let rest ← readStatements fuel
    return s :: rest
end

/-- Reads the statements of a script, and notes what they export. -/
def readScript : (fuel : Nat) → Parse (List Statement)
  | 0 => do
    unexpected
    return []
  | fuel + 1 => do
    if ← stuck then return []
    let s ← readStatement body false fuel
    modify (fun r => { r with exported := r.exported ++ s.exportedNames })
    let rest ← readScript fuel
    return s :: rest

end

/-! ## §5. Scripts. -/

/-- Reads the statements in the body of a function, with at most so many functions within
each other. -/
def readNested (fuel : Nat) : (depth : Nat) → Parse (List Statement)
  | 0 => do
    unexpected
    return []
  | depth + 1 => readStatements (readNested fuel depth) fuel

/-- A reading and the statements that it read. -/
def readModule (source : Text) : List Statement × Reading :=
  let size := source.length
  (readScript (readNested (32 * (size + 2)) (size + 1)) (32 * (size + 2))).run (.start source)

/-- What is wrong with the words and the grammar of a script that was read. -/
def Reading.problems (s : Reading) : List Diagnostic :=
  let grammar := match s.halt with
    | none => s.remarks
    | some h =>
      -- remarks made after the halt are about text that was not read
      let before := s.remarks.take h.remarks
      if !s.faults.isEmpty && (s.next.token == .finish || s.next.token == .unreadable) then before
      else before ++ [h.problem]
  s.faults ++ grammar ++ s.defaults.map (fun _ => .strayDefault)

end ScriptWeave.Program
