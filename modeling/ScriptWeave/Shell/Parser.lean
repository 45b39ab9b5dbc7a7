/-
  ScriptWeave.Shell.Parser
  ────────────────────────
  **READING A SCRIPT.**

  Words contain commands, which contain words, so both are read by functions
  that call each other.  Their first argument bounds how deep the calls nest;
  a bound of the order of the length of the script is never met.  A script is
  read one line at a time, with as many more lines as its commands need.
-/
import ScriptWeave.Shell.Token

namespace ScriptWeave.Shell

/-! ## §1. Where parts stand. -/

/-- Where the parts of a word stand. -/
inductive Surroundings where
  /-- Outside of quotes. -/
  | plain
  /-- In a word that ends a document, where nothing is put in. -/
  | delimiter
  /-- Between double quotes. -/
  | double
  /-- Behind the operator of a parameter in braces; `quoted` says that quotes are around. -/
  | braces (quoted : Bool)
  /-- In an arithmetic expression, inside so many parentheses. -/
  | arithmetic (parens : Nat)
  /-- In a document. -/
  | document
  deriving Repr, DecidableEq

/-- Whether what stands there is quoted. -/
def Surroundings.quoted : Surroundings → Bool
  | .plain => false
  | .delimiter => false
  | .double => true
  | .braces q => q
  | .arithmetic _ => true
  | .document => true

/-- Whether a backslash takes the meaning of a character away. -/
def Surroundings.escapes (s : Surroundings) (c : Char) : Bool :=
  match s with
  | .plain => true
  | .delimiter => true
  | .braces false => true
  | .braces true => "\\\x60$\"\x7d".toList.contains c
  | .double => "\\\x60$\"".toList.contains c
  | .arithmetic _ => "\\\x60$\"".toList.contains c
  | .document => "\\\x60$".toList.contains c

/-- Whether single quotes have a meaning. -/
def Surroundings.singleQuotes (s : Surroundings) : Bool :=
  s == .plain || s == .delimiter || s == .braces false

/-- What is wrong if the script ends there. -/
def Surroundings.open? : Surroundings → Option SyntaxCause
  | .plain => none
  | .delimiter => none
  | .document => none
  | .double => some .openQuote
  | .braces true => some .openQuote
  | .braces false => some .openBrace
  | .arithmetic _ => some .openArithmetic

/-- The rule that an operator in braces stands for. -/
def ruleOf? (c : Char) : Option ParamRule :=
  if c = '-' then some .default
  else if c = '=' then some .assign
  else if c = '?' then some .require
  else if c = '+' then some .alternative
  else none

/-- The name of a parameter behind its opening brace, and the rule if its length is asked
for; no name if there is none. -/
def passParamName : Parse (Option Text × ParamRule) := do
  match ← peekChar with
  | none => return (none, .bad)
  | some c =>
    if startsName c then return (some (← passName), .value)
    else if c.isDigit then return (some (← passWhile Char.isDigit ((← get).rest.length + 1)), .value)
    else if c = '\x7d' then return (none, .bad)
    else
      pass
      if c = '#' then
        match ← peekChar with
        | some d =>
          if startsName d then return (some (← passName), .length)
          else if d.isDigit then
            return (some (← passWhile Char.isDigit ((← get).rest.length + 1)), .length)
          else if isSpecial d && d != '\x7d' && ((← get).rest.drop 1).head? = some '\x7d' then
            pass
            return (some [d], .length)
          else return (some ['#'], .value)
        | none => return (some ['#'], .value)
      else if isSpecial c then return (some [c], .value)
      else return (none, .bad)

/-- The operator behind a name in braces, and whether an empty value counts as unset. -/
def passRule : Parse (ParamRule × Bool) := do
  match ← peekChar with
  | some ':' =>
    pass
    match (← peekChar).bind ruleOf? with
    | some rule =>
      pass
      return (rule, true)
    | none => return (.bad, false)
  | some '%' =>
    pass
    return (.cutEnd (← passIf '%'), false)
  | some '#' =>
    pass
    return (.cutStart (← passIf '#'), false)
  | some c =>
    match ruleOf? c with
    | some rule =>
      pass
      return (rule, false)
    | none => return (if c = '\x7d' then .value else .bad, false)
  | none => return (.bad, false)

/-! ## §2. Signs. -/

/-- The arrow at a `>` or `<`. -/
def passArrow : Parse Arrow := do
  if ← passIf '>' then
    if ← passIf '>' then return .file .append
    if ← passIf '|' then return .file .overwrite
    if ← passIf '&' then return .same
    return .file .write
  else
    pass
    if ← passIf '<' then return .document (← passIf '-')
    if ← passIf '&' then return .same
    if ← passIf '>' then return .file .update
    return .file .read

/-- A sign of one or two characters, if one is next. -/
def passSign? : Parse (Option Token) := do
  match ← peekChar with
  | none => return some .finish
  | some c =>
    if c = '\n' then
      pass
      return some .newline
    else if c = '&' then
      pass
      return some (if ← passIf '&' then .andAnd else .ampersand)
    else if c = '|' then
      pass
      return some (if ← passIf '|' then .orOr else .bar)
    else if c = ';' then
      pass
      return some (if ← passIf ';' then .doubleSemicolon else .semicolon)
    else if c = '(' then
      pass
      return some .openParen
    else if c = ')' then
      pass
      return some .closeParen
    else if c = '>' then return some (.redirect 1 (← passArrow))
    else if c = '<' then return some (.redirect 0 (← passArrow))
    else
      -- a digit names a stream only right before an arrow
      let next := (dropJoins (← get).rest.tail).1.head?
      if c.isDigit && (next = some '>' || next = some '<') then
        pass
        return some (.redirect (c.toNat - 0x30) (← passArrow))
      else return none

/-- Whether a word starts an assignment: its name and its value. -/
def assignment? (w : Word) : Option (Text × Word) :=
  let name := w.takeWhile (fun
    | .char c false => inName c
    | _ => false)
  match Word.plain? name, w.drop name.length with
  | some n, .char '=' false :: value => if isName n then some (n, value) else none
  | _, _ => none

/-- The names of commands that a function cannot have. -/
def specialCommands : List Text :=
  [".", ":", "break", "continue", "eval", "exec", "exit", "export", "readonly", "return", "set",
    "shift", "times", "trap", "unset"].map String.toList

/-- One command after what was read before it. -/
def chain (before : Option Command) (c : Command) : Command :=
  match before with
  | none => c
  | some b => .chain b c

/-- Announces a document and gives its number. -/
def announce (w : Word) (quoted strip : Bool) : Parse Nat := do
  let r ← get
  let delimiter := w.filterMap (fun
    | .char c _ => some c
    | _ => none)
  let a : Announced := ⟨r.nextDocument, delimiter, strip, quoted⟩
  set { r with announced := r.announced ++ [a], nextDocument := r.nextDocument + 1 }
  return r.nextDocument

/-! ## §3. Words and commands. -/

mutual

/-- The parts of a word up to its end, and whether any of them is quoted. -/
def parts : (fuel : Nat) → Surroundings → Parse (Word × Bool)
  | 0, _ => refuse .openQuote
  | fuel + 1, s => do
    -- goes on behind `w`
    let more (w : Word) (quoted : Bool) (s : Surroundings) : Parse (Word × Bool) := do
      let r ← parts fuel s
      return (w ++ r.1, quoted || r.2)
    match ← peekChar with
    | none =>
      match s.open? with
      | some cause => refuse cause
      | none => return ([], false)
    | some c =>
      if (s = .plain || s = .delimiter) && endsWord c then return ([], false)
      else if c = '\\' then
        pass
        match (← get).rest.head? with
        | none => more [.char '\\' true] true s
        | some d =>
          pass
          if s.escapes d then more [.char d true] true s
          else more [.char '\\' true, .char d true] true s
      else if c = '\x27' && s.singleQuotes then
        pass
        let inside ← passSingle
        more (.quotes :: Word.literal inside true) true s
      else if c = '"' then
        match s with
        | .double =>
          pass
          return ([], true)
        | .braces true =>
          pass
          more [] true s
        | .document =>
          pass
          more [.char c true] false s
        | .arithmetic _ =>
          pass
          more [.char c true] false s
        | _ =>
          pass
          let (inside, _) ← parts fuel .double
          match inside with
          -- alone between quotes, no arguments leave no field behind
          | [.param ['@'] .value _ _ _] => more inside true s
          | _ => more (.quotes :: inside) true s
      else if c = '$' && s != .delimiter then
        pass
        let p ← substitution fuel s
        more [p] false s
      else if c = '\x60' && s != .delimiter then
        pass
        let p ← backquoted fuel s.quoted
        more [p] false s
      else
        match s, c with
        | .braces _, '\x7d' =>
          pass
          return ([], false)
        | .arithmetic n, '(' =>
          pass
          more [.char c true] false (.arithmetic (n + 1))
        | .arithmetic 0, ')' =>
          pass
          -- the second parenthesis ends the expression
          if ← passIf ')' then return ([], false) else more [.char c true] false s
        | .arithmetic (n + 1), ')' =>
          pass
          more [.char c true] false (.arithmetic n)
        | _, _ =>
          pass
          more [.char c s.quoted] false s

/-- What a `$` that was passed begins. -/
def substitution : (fuel : Nat) → Surroundings → Parse Part
  | 0, _ => refuse .openBrace
  | fuel + 1, s => do
    match ← peekChar with
    | none => return .char '$' s.quoted
    | some c =>
      if c = '(' then
        pass
        if ← passIf '(' then
          let (expr, _) ← parts fuel (.arithmetic 0)
          return .arithmetic expr s.quoted
        else
          -- documents announced around the command belong to a later line
          let outer ← get
          set { outer with announced := [], putBack := false }
          let body ← list fuel false true none
          match ← token fuel with
          | .closeParen => modify (fun r => { r with announced := outer.announced })
          | _ => refuseToken (some .closeParen)
          return .output (body.getD .nothing) s.quoted
      else if c = '\x7b' then
        pass
        let (name, rule) ← passParamName
        let (rule, orNull) ← match rule with
          | .value => passRule
          | rule => pure (rule, false)
        match rule with
        | .value =>
          pass
          return .param (name.getD []) .value false [] s.quoted
        | rule =>
          -- shapes are read as if no quotes were around
          let cuts := match rule with
            | .cutStart _ => true
            | .cutEnd _ => true
            | _ => false
          let (arg, _) ← parts fuel (.braces (s.quoted && !cuts))
          return .param (name.getD []) (if name.isNone then .bad else rule) orNull arg s.quoted
      else if startsName c then return .param (← passName) .value false [] s.quoted
      else if isSpecial c then
        pass
        return .param [c] .value false [] s.quoted
      else return .char '$' s.quoted

/-- The command between backquotes, of which the first was passed. -/
def backquoted : (fuel : Nat) → (quoted : Bool) → Parse Part
  | 0, _ => refuse .openBackquote
  | fuel + 1, quoted => do
    let outer ← get
    match cutBackquote outer.rest with
    | none => throw (SyntaxProblem.mk (outer.line + outer.rest.count '\n') .openBackquote)
    | some (inside, after) =>
      -- the text is read on its own, without the backslashes that protect it
      set { outer with
        rest := dropBackslashes quoted inside, line := 1, announced := [], putBack := false }
      let body ← list fuel false true none
      modify (fun r =>
        { r with
          rest := after, line := outer.line + inside.count '\n', announced := outer.announced
          putBack := false, last := outer.last })
      return .output (body.getD .nothing) quoted

/-- Reads the documents announced in the line that ends here. -/
def readDocuments : (fuel : Nat) → Parse Unit
  | 0 => return ()
  | fuel + 1 => do
    let r ← get
    match r.announced with
    | [] => return ()
    | a :: rest =>
      let (body, after) := cutDocument a (r.rest.length + 1) r.rest
      let passed := (r.rest.take (r.rest.length - after.length)).count '\n'
      if a.literal then
        set { r with
          rest := after, line := r.line + passed, announced := rest
          documents := (a.number, Word.literal body true) :: r.documents }
      else
        -- the body is read as a script of its own, then its place is restored
        set { r with rest := body, announced := [] }
        let (w, _) ← parts fuel .document
        modify (fun s =>
          { s with
            rest := after, line := r.line + passed, announced := rest
            documents := (a.number, w) :: s.documents })
      readDocuments fuel

/-- The next token. -/
def token : (fuel : Nat) → Parse Token
  | 0 => refuse .openQuote
  | fuel + 1 => do
    let r ← get
    let t ←
      if r.putBack then
        set { r with putBack := false }
        pure r.last
      else
        passBlanks
        match ← passSign? with
        | some t => pure t
        | none =>
          let (w, quoted) ← parts fuel .plain
          pure (.word w quoted)
    match t with
    | .newline =>
      modify (fun s => { s with last := t })
      if r.passLines then
        -- the lines of documents come right behind the line break
        readDocuments fuel
        token fuel
      else
        expecting false false
        return t
    | t =>
      let t := match t with
        | .word w false =>
          if r.keywords then
            match (Word.plain? w).bind Keyword.of? with
            | some k => .keyword k
            | none => .word w false
          else .word w false
        | t => t
      modify (fun s => { s with last := t, passLines := false, keywords := false })
      return t

/-- Commands one after the other: those of a line, or those up to a token that ends a
list.  `begun` says that a list may end here. -/
def list : (fuel : Nat) → (oneLine begun : Bool) → Option Command → Parse (Option Command)
  | 0, _, _, _ => refuse .openQuote
  | fuel + 1, oneLine, begun, before => do
    expecting (!oneLine) true
    match ← token fuel with
    | .newline =>
      readDocuments fuel
      return some (before.getD .nothing)
    | .finish =>
      readDocuments fuel
      putBack
      return before
    | t =>
      putBack
      if begun && !oneLine && t.endsList then return before
      let c ← andOr fuel
      match ← token fuel with
      | .finish =>
        readDocuments fuel
        putBack
        return some (chain before c)
      | .newline =>
        putBack
        list fuel oneLine true (some (chain before c))
      | .semicolon => list fuel oneLine true (some (chain before c))
      | .ampersand => list fuel oneLine true (some (chain before (.background c)))
      | _ =>
        -- on a line of its own a command ends with the line
        if oneLine then refuseToken none
        putBack
        return some (chain before c)

/-- Commands of which each depends on those before it. -/
def andOr : (fuel : Nat) → Parse Command
  | 0 => refuse .openQuote
  | fuel + 1 => do
    let c ← pipeline fuel
    andOrRest fuel c

/-- What follows a command with `&&` or `||`. -/
def andOrRest : (fuel : Nat) → Command → Parse Command
  | 0, _ => refuse .openQuote
  | fuel + 1, before => do
    match ← token fuel with
    | .andAnd =>
      expecting true true
      let c ← pipeline fuel
      andOrRest fuel (.both before c)
    | .orOr =>
      expecting true true
      let c ← pipeline fuel
      andOrRest fuel (.either before c)
    | _ =>
      putBack
      return before

/-- Commands with `|` between them. -/
def pipeline : (fuel : Nat) → Parse Command
  | 0 => refuse .openQuote
  | fuel + 1 => do
    let negated := (← token fuel).isKeyword .not
    if negated then expecting false true else putBack
    let first ← command fuel
    let rest ← pipelineRest fuel
    let c := if rest.isEmpty then first else .pipe (first :: rest)
    return if negated then .negate c else c

/-- What follows a command with `|`. -/
def pipelineRest : (fuel : Nat) → Parse (List Command)
  | 0 => refuse .openQuote
  | fuel + 1 => do
    match ← token fuel with
    | .bar =>
      expecting true true
      let c ← command fuel
      return c :: (← pipelineRest fuel)
    | _ =>
      putBack
      return []

/-- A command. -/
def command : (fuel : Nat) → Parse Command
  | 0 => refuse .openQuote
  | fuel + 1 => do
    let t ← token fuel
    let line := (← get).line
    match t with
    | .word _ _ =>
      putBack
      simple fuel line true [] [] []
    | .redirect _ _ =>
      putBack
      simple fuel line true [] [] []
    | .openParen =>
      let body ← list fuel false false none
      match ← token fuel with
      | .closeParen =>
        expecting false true
        let rs ← redirects fuel
        return .subshell line (body.getD .nothing) rs
      | _ => refuseToken (some .closeParen)
    | .keyword .begin =>
      let body ← list fuel false false none
      closed fuel line (body.getD .nothing) .end
    | .keyword .if =>
      let c ← choice fuel
      closed fuel line c .fi
    | .keyword .while =>
      let c ← loopRest fuel false
      closed fuel line c .done
    | .keyword .until =>
      let c ← loopRest fuel true
      closed fuel line c .done
    | .keyword .for =>
      let c ← forRest fuel line
      closed fuel line c .done
    | .keyword .case =>
      match ← token fuel with
      | .word w _ =>
        expecting true true
        if (← token fuel).isKeyword .in then
          let branches ← branchList fuel
          wrapped fuel line (.select line w branches)
        else refuseToken (some (.keyword .in))
      | _ => refuseToken (some (.word [] false))
    | _ => refuseToken none

/-- A command that a keyword closes, with the redirections behind it. -/
def closed : (fuel : Nat) → (line : Nat) → Command → Keyword → Parse Command
  | 0, _, _, _ => refuse .openQuote
  | fuel + 1, line, c, k => do
    if (← token fuel).isKeyword k then wrapped fuel line c
    else refuseToken (some (.keyword k))

/-- A command with the redirections behind it. -/
def wrapped : (fuel : Nat) → (line : Nat) → Command → Parse Command
  | 0, _, _ => refuse .openQuote
  | fuel + 1, line, c => do
    expecting false true
    let rs ← redirects fuel
    return if rs.isEmpty then c else .redirected line c rs

/-- Redirections behind a command. -/
def redirects : (fuel : Nat) → Parse (List Redirect)
  | 0 => refuse .openQuote
  | fuel + 1 => do
    match ← token fuel with
    | .redirect stream arrow =>
      let r ← redirectTarget fuel stream arrow
      return r :: (← redirects fuel)
    | _ =>
      putBack
      return []

/-- The target of a redirection. -/
def redirectTarget : (fuel : Nat) → (stream : Nat) → Arrow → Parse Redirect
  | 0, _, _ => refuse .openQuote
  | fuel + 1, stream, arrow => do
    match arrow with
    | .document strip =>
      passBlanks
      match ← passSign? with
      | some t =>
        modify (fun r => { r with last := t })
        refuseToken none
      | none =>
        let (w, quoted) ← parts fuel .delimiter
        modify (fun r => { r with last := .word w quoted })
        return .document stream (← announce w quoted strip)
    | .same =>
      match ← token fuel with
      | .word w _ => return .same stream w
      | _ => refuseToken none
    | .file kind =>
      match ← token fuel with
      | .word w _ => return .file stream kind w
      | _ => refuseToken none

/-- The test, the commands and the alternatives of a choice, up to the keyword that ends
it. -/
def choice : (fuel : Nat) → Parse Command
  | 0 => refuse .openQuote
  | fuel + 1 => do
    let test ← list fuel false false none
    if (← token fuel).isKeyword .then then
      let yes ← list fuel false false none
      let t ← token fuel
      let no ←
        if t.isKeyword .elif then choice fuel
        else if t.isKeyword .else then
          pure ((← list fuel false false none).getD .nothing)
        else
          putBack
          pure .nothing
      return .choose (test.getD .nothing) (yes.getD .nothing) no
    else refuseToken (some (.keyword .then))

/-- The test and the body of a loop, up to the keyword that ends it. -/
def loopRest : (fuel : Nat) → (untilOk : Bool) → Parse Command
  | 0, _ => refuse .openQuote
  | fuel + 1, untilOk => do
    let test ← list fuel false false none
    if (← token fuel).isKeyword .do then
      let body ← list fuel false false none
      return .repeat_ untilOk (test.getD .nothing) (body.getD .nothing)
    else refuseToken (some (.keyword .do))

/-- A loop over words, up to the keyword that ends it. -/
def forRest : (fuel : Nat) → (line : Nat) → Parse Command
  | 0, _ => refuse .openQuote
  | fuel + 1, line => do
    let name ← match ← token fuel with
      | .word w false => pure ((Word.plain? w).filter isName)
      | _ => pure none
    match name with
    | none => refuse .loopName
    | some name =>
      expecting true true
      let t ← token fuel
      let words ←
        if t.isKeyword .in then
          let ws ← wordList fuel
          match (← get).last with
          | .newline => pure ws
          | .semicolon => pure ws
          | _ => refuseToken none
        else
          match t with
          | .semicolon => pure ()
          | _ => putBack
          -- without words the loop runs over the arguments
          pure [[.param ['@'] .value false [] true]]
      expecting true true
      if (← token fuel).isKeyword .do then
        let body ← list fuel false false none
        return .each line name words (body.getD .nothing)
      else refuseToken (some (.keyword .do))

/-- Words up to another token. -/
def wordList : (fuel : Nat) → Parse (List Word)
  | 0 => refuse .openQuote
  | fuel + 1 => do
    match ← token fuel with
    | .word w _ => return w :: (← wordList fuel)
    | _ => return []

/-- The branches of a choice by shape, with the keyword that ends it. -/
def branchList : (fuel : Nat) → Parse (List (List Word × Command))
  | 0 => refuse .openQuote
  | fuel + 1 => do
    expecting true true
    let t ← token fuel
    if t.isKeyword .esac then return []
    -- a parenthesis before the shapes may be left out
    let t ← match t with
      | .openParen => token fuel
      | t => pure t
    let shapes ← shapeList fuel t
    match (← get).last with
    | .closeParen =>
      let body ← list fuel false true none
      expecting true true
      match ← token fuel with
      | .doubleSemicolon => return (shapes, body.getD .nothing) :: (← branchList fuel)
      | t =>
        if t.isKeyword .esac then return [(shapes, body.getD .nothing)]
        else refuseToken (some .doubleSemicolon)
    | _ => refuseToken (some .closeParen)

/-- The shapes of a branch, the first of which is the given token, up to another token. -/
def shapeList : (fuel : Nat) → Token → Parse (List Word)
  | 0, _ => refuse .openQuote
  | fuel + 1, t => do
    let w := match t with
      | .word w _ => w
      | .keyword k => Word.literal k.text false
      | _ => []
    match ← token fuel with
    | .bar => return w :: (← shapeList fuel (← token fuel))
    | _ => return [w]

/-- A simple command, or the definition of a function.  `mayAssign` says that no word of the
command was met yet. -/
def simple : (fuel : Nat) → (line : Nat) → (mayAssign : Bool) → List (Text × Word) →
    List Word → List Redirect → Parse Command
  | 0, _, _, _, _, _ => refuse .openQuote
  | fuel + 1, line, mayAssign, assigns, words, rs => do
    match ← token fuel with
    | .word w _ =>
      match assignment? w with
      | some a =>
        if mayAssign then simple fuel line true (assigns ++ [a]) words rs
        else simple fuel line false assigns (words ++ [w]) rs
      | none => simple fuel line false assigns (words ++ [w]) rs
    | .redirect stream arrow =>
      let r ← redirectTarget fuel stream arrow
      simple fuel line mayAssign assigns words (rs ++ [r])
    | .openParen =>
      -- one word and parentheses define a function
      match words, assigns, rs with
      | [w], [], [] =>
        match ← token fuel with
        | .closeParen =>
          match (Word.plain? w).filter isName with
          | some name =>
            if specialCommands.contains name then refuse .functionName
            expecting true true
            let body ← command fuel
            return .define name body
          | none => refuse .functionName
        | _ => refuseToken (some .closeParen)
      | _, _, _ =>
        putBack
        return .simple line assigns words rs
    | _ =>
      putBack
      return .simple line assigns words rs

end

/-! ## §4. Lines. -/

/-- The commands of the next line, none if the script is at its end, and the reader behind
it. -/
def Reader.nextLine (r : Reader) : Except SyntaxProblem (Option Command × Reader) :=
  (list (4 * r.rest.length + 16) true false none).run
    { r with putBack := false, passLines := false, keywords := false, announced := [] }

end ScriptWeave.Shell
