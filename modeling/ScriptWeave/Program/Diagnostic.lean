/-
  ScriptWeave.Program.Diagnostic
  ──────────────────────────────
  **WHAT CAN BE WRONG WITH A SCRIPT.**

  The checker knows JavaScript modules without decorators.  A diagnostic says
  what is wrong with one: with its characters, with its grammar, or with its
  names and jumps.  One function gives the wording of them all.
-/
import ScriptWeave.Text.Basic

namespace ScriptWeave.Program

/-- What is wrong with a script. -/
inductive Diagnostic where
  /-- A string does not end on its line, or a template does not end. -/
  | unterminatedString
  /-- A comment does not end. -/
  | unterminatedComment
  /-- A regular expression does not end on its line. -/
  | unterminatedPattern
  /-- A character that cannot stand where it stands. -/
  | badCharacter (c : Char)
  /-- The script ends within a number. -/
  | unexpectedEnd
  /-- A number runs into a name. -/
  | badNumber
  /-- A backslash before something that it does not go with. -/
  | badEscape
  /-- A code point in a name that is not written as one. -/
  | badUnicodeEscape
  /-- A flag that regular expressions do not have. -/
  | unknownFlag (c : Char)
  /-- A flag of a regular expression given twice. -/
  | repeatedFlag (c : Char)
  /-- A template with a wrong backslash. -/
  | badTemplate
  /-- Something that cannot stand where it stands. -/
  | unexpectedToken
  /-- Something else than the mark that is due. -/
  | expected (mark found : Text)
  /-- An item of a list that nothing separates from the one before. -/
  | expectedSeparator (closing found : Text)
  /-- A statement that goes on where it should end. -/
  | noSemicolon
  /-- A word of the language as a name. -/
  | wordAsName (word : Text)
  /-- A function without a name. -/
  | noFunctionName
  /-- A function without a body. -/
  | noFunctionBody
  /-- A constant without a value. -/
  | noInitializer
  /-- A pattern of names without a value. -/
  | noPatternInitializer
  /-- An assignment to something that holds no value. -/
  | badTarget
  /-- A member of an object with a default, where the object is no target. -/
  | strayDefault
  /-- A power of an operand with an operator before it. -/
  | bareExponent
  /-- `??` beside `||` or `&&`. -/
  | mixedCoalesce
  /-- A pair of parentheses with nothing between them. -/
  | emptyParentheses
  /-- A comma before the closing parenthesis of an operand. -/
  | parenthesesComma
  /-- The end of a line before `=>`. -/
  | lineBeforeArrow
  /-- The end of a line behind `throw`. -/
  | lineAfterThrow
  /-- A `try` without `catch` and `finally`. -/
  | noHandler
  /-- A parameter behind the rest of the parameters. -/
  | restParameterNotLast
  /-- A name behind the rest of a pattern. -/
  | restNotLast
  /-- A comma behind the rest. -/
  | restComma
  /-- An item of a target behind the rest. -/
  | spreadNotLast
  /-- `let` or `const` where only one statement can stand. -/
  | loneDeclaration
  /-- An asynchronous function where only one statement can stand. -/
  | loneAsync
  /-- A generator where only one statement can stand. -/
  | loneGenerator
  /-- A class where only one statement can stand. -/
  | loneClass
  /-- A constructor that is an accessor. -/
  | accessorAsConstructor
  /-- A constructor that is a generator. -/
  | generatorAsConstructor
  /-- A constructor that is asynchronous. -/
  | asyncAsConstructor
  /-- A value with the name of the constructor. -/
  | fieldAsConstructor
  /-- A hidden member with the name of the constructor. -/
  | hiddenConstructor
  /-- A static member with the name of the prototype. -/
  | staticPrototype
  /-- A parameter of an accessor that gets a value. -/
  | getterParameters
  /-- Not just one parameter of an accessor that sets a value. -/
  | setterParameters
  /-- A `return` outside functions. -/
  | strayReturn
  /-- An `await` where nothing can be awaited. -/
  | strayAwait
  /-- A `yield` outside generators. -/
  | strayYield
  /-- `await` as a name where it is an operator. -/
  | awaitAsName
  /-- `yield` as a name where it is an operator. -/
  | yieldAsName
  /-- `super` on its own. -/
  | bareSuper
  /-- A property of `new` that it does not have. -/
  | badNewProperty
  /-- An optional member as a constructor. -/
  | optionalConstructor
  /-- A word of the language that is exported. -/
  | wordExported
  /-- A string that is exported. -/
  | stringExported
  /-- A name exported twice. -/
  | duplicateExport (name : Text)
  /-- A name declared twice. -/
  | redeclared (name : Text)
  /-- A reserved word as a name. -/
  | reservedWord (word : Text)
  /-- A name that strict code does not assign to. -/
  | strictName (name : Text)
  /-- A name that is deleted. -/
  | deletedName
  /-- A `with` statement. -/
  | withStatement
  /-- A number or an escape in base 8 written with a leading zero. -/
  | outdatedOctal
  /-- A decimal number with a leading zero. -/
  | outdatedDecimal
  /-- A function as the only statement of a branch or a loop. -/
  | misplacedFunction
  /-- An export inside another statement. -/
  | misplacedExport
  /-- An import inside another statement. -/
  | misplacedImport
  /-- A `break` outside loops. -/
  | strayBreak
  /-- A `continue` outside loops. -/
  | strayContinue
  /-- A jump to a label that is not there. -/
  | unknownLabel
  /-- A jump to a label outside the function. -/
  | farLabel
  /-- A `continue` with the label of something that is no loop. -/
  | labelOfNoLoop
  /-- A label within a statement of the same label. -/
  | repeatedLabel (name : Text)
  /-- `new.target` outside functions. -/
  | strayNewTarget
  /-- `super` outside classes and objects. -/
  | straySuper
  /-- A call of `super` outside constructors. -/
  | strayParentCall
  /-- A call of `super` in a class that extends no other. -/
  | noParent
  /-- `arguments` in a place of a class that has none. -/
  | strayArguments (place : Text)
  /-- A hidden name outside classes. -/
  | strayHiddenName (name : Text)
  /-- A hidden name that no class around declares. -/
  | unknownHiddenName (name : Text)
  /-- A hidden member that is deleted. -/
  | deletedHiddenName
  /-- A class without a name. -/
  | noClassName
  /-- A class with several constructors. -/
  | repeatedConstructor
  /-- An exported name that is not declared. -/
  | undefinedExport (name : Text)
  deriving Repr, DecidableEq

/-- The sentence that states a diagnostic. -/
def Diagnostic.text : Diagnostic → Text
  | .unterminatedString => "Unterminated string"
  | .unterminatedComment => "Unterminated multiline comment"
  | .unterminatedPattern => "Unterminated regular expression"
  | .badCharacter c => "Invalid Character `" ++ [c, '`']
  | .unexpectedEnd => "Unexpected end of file"
  | .badNumber => "Invalid characters after number"
  | .badEscape => "Invalid escape sequence"
  | .badUnicodeEscape => "Invalid Unicode escape sequence"
  | .unknownFlag c => "Unexpected flag " ++ c :: " in regular expression literal"
  | .repeatedFlag c => "Flag " ++ c :: " is mentioned twice in regular expression literal"
  | .badTemplate => "Bad escape sequence in untagged template literal"
  | .unexpectedToken => "Unexpected token"
  | .expected mark found => "Expected `" ++ mark ++ "` but found `" ++ found ++ ['`']
  | .expectedSeparator closing found =>
    "Expected `,` or `" ++ closing ++ "` but found `" ++ found ++ ['`']
  | .noSemicolon =>
    "Expected a semicolon or an implicit semicolon after a statement, but found none"
  | .wordAsName word =>
    "Identifier expected. \x27" ++ word ++ "\x27 is a reserved word that cannot be used here."
  | .noFunctionName => "Expected function name"
  | .noFunctionBody => "Expected function body"
  | .noInitializer => "Missing initializer in const declaration"
  | .noPatternInitializer => "Missing initializer in destructuring declaration"
  | .badTarget => "Cannot assign to this expression"
  | .strayDefault => "Invalid assignment in object literal"
  | .bareExponent => "Unexpected exponentiation expression"
  | .mixedCoalesce => "Logical expressions and coalesce expressions cannot be mixed"
  | .emptyParentheses => "Empty parenthesized expression"
  | .parenthesesComma => "Parenthesized expressions may not have a trailing comma."
  | .lineBeforeArrow => "Line terminator not permitted before arrow"
  | .lineAfterThrow => "Illegal newline after throw"
  | .noHandler => "Missing catch or finally clause"
  | .restParameterNotLast => "A rest parameter must be last in a parameter list"
  | .restNotLast => "A rest element must be last in a destructuring pattern"
  | .restComma => "Unexpected trailing comma after rest element"
  | .spreadNotLast => "Spread must be last element"
  | .loneDeclaration => "Lexical declaration cannot appear in a single-statement context"
  | .loneAsync => "Async functions can only be declared at the top level or inside a block"
  | .loneGenerator => "Generators can only be declared at the top level or inside a block"
  | .loneClass => "Invalid class declaration"
  | .accessorAsConstructor => "Constructor can\x27t have get/set modifier"
  | .generatorAsConstructor => "Constructor can\x27t be a generator"
  | .asyncAsConstructor => "Constructor can\x27t be an async method"
  | .fieldAsConstructor => "Classes can\x27t have a field named \x27constructor\x27"
  | .hiddenConstructor => "Classes can\x27t have an element named \x27#constructor\x27"
  | .staticPrototype => "Classes may not have a static property named prototype"
  | .getterParameters => "A \x27get\x27 accessor must not have any formal parameters."
  | .setterParameters => "A \x27set\x27 accessor must have exactly one parameter."
  | .strayReturn => "A \x27return\x27 statement can only be used within a function body."
  | .strayAwait =>
    "`await` is only allowed within async functions and at the top levels of modules"
  | .strayYield => "A \x27yield\x27 expression is only allowed in a generator body."
  | .awaitAsName => "Cannot use `await` as an identifier in an async context"
  | .yieldAsName => "Cannot use `yield` as an identifier in a generator context"
  | .bareSuper => "\x27super\x27 can only be used with function calls or in property accesses"
  | .badNewProperty => "The only valid meta property for new is new.target"
  | .optionalConstructor =>
    "Optional chaining cannot appear in the callee of new expressions"
  | .wordExported => "A reserved word cannot be used as an exported binding without `from`"
  | .stringExported => "A string literal cannot be used as an exported binding without `from`"
  | .duplicateExport name => "Duplicated export \x27" ++ name ++ "\x27"
  | .redeclared name => "Identifier `" ++ name ++ "` has already been declared"
  | .reservedWord word => "The keyword \x27" ++ word ++ "\x27 is reserved"
  | .strictName name => "Cannot assign to \x27" ++ name ++ "\x27 in strict mode"
  | .deletedName => "Delete of an unqualified identifier in strict mode."
  | .withStatement => "\x27with\x27 statements are not allowed"
  | .outdatedOctal =>
    "\x270\x27-prefixed octal literals and octal escape sequences are deprecated"
  | .outdatedDecimal => "Decimals with leading zeros are not allowed in strict mode"
  | .misplacedFunction => "Invalid function declaration"
  | .misplacedExport =>
    "\x27export statement\x27 declaration can only be used at the top level of a module"
  | .misplacedImport =>
    "\x27import statement\x27 declaration can only be used at the top level of a module"
  | .strayBreak => "Illegal break statement"
  | .strayContinue => "Illegal continue statement: no surrounding iteration statement"
  | .unknownLabel => "Use of undefined label"
  | .farLabel => "Jump target cannot cross function boundary."
  | .labelOfNoLoop =>
    "A `continue` statement can only jump to a label of an enclosing `for`, `while` or "
      ++ "`do while` statement."
  | .repeatedLabel name => "Label `" ++ name ++ "` has already been declared"
  | .strayNewTarget => "Unexpected new.target expression"
  | .straySuper =>
    "\x27super\x27 can only be referenced in members of derived classes or object literal "
      ++ "expressions."
  | .strayParentCall =>
    "Super calls are not permitted outside constructors or in nested functions inside "
      ++ "constructors."
  | .noParent => "\x27super\x27 can only be referenced in a derived class."
  | .strayArguments place => "\x27arguments\x27 is not allowed in " ++ place
  | .strayHiddenName name =>
    "Private identifier \x27#" ++ name ++ "\x27 is not allowed outside class bodies"
  | .unknownHiddenName name =>
    "Private field \x27" ++ name ++ "\x27 must be declared in an enclosing class"
  | .deletedHiddenName => "Private fields can not be deleted"
  | .noClassName => "A class name is required."
  | .repeatedConstructor => "Multiple constructor implementations are not allowed."
  | .undefinedExport name => "Export \x27" ++ name ++ "\x27 is not defined"

end ScriptWeave.Program
