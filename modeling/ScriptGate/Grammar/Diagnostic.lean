import ScriptGate.Text.Basic

/-!
# `ScriptGate.Grammar.Diagnostic`: what is wrong with a program text

A diagnostic is a complaint and the line that it is about. Lines are
counted by line feeds alone, whatever else the grammar takes for a line
terminator.
-/

set_option autoImplicit false

namespace ScriptGate.Grammar

/-- What a program text is reproached with. -/
inductive Complaint where
  /-- A statement is followed by something that cannot continue it. -/
  | missingSemicolon
  /-- A token that nothing expected here can begin with. -/
  | unexpectedToken
  /-- One token is required and another one found. -/
  | expected (wanted found : String)
  /-- A reserved word stands for a name. -/
  | reservedName (word : String)
  /-- A string or template does not end. -/
  | unterminatedString
  /-- A comment does not end. -/
  | unterminatedComment
  /-- A regular expression does not end. -/
  | unterminatedPattern
  /-- A character that begins no token. -/
  | invalidCharacter (c : Char)
  /-- The text ends inside a number. -/
  | unexpectedEnd
  /-- A number runs into a name or a digit. -/
  | numberRunsOn
  /-- A string has an escape that means nothing. -/
  | invalidEscape
  /-- A name has an escape that means nothing. -/
  | invalidUnicodeEscape
  /-- An untagged template has an escape that means nothing. -/
  | invalidTemplateEscape
  /-- A regular expression has an unknown flag. -/
  | unknownFlag (c : Char)
  /-- A regular expression has a flag twice. -/
  | repeatedFlag (c : Char)
  /-- A constant gets no value. -/
  | constantWithoutValue
  /-- A destructuring declaration gets no value. -/
  | destructuringWithoutValue
  /-- A lexical declaration stands where only one statement may. -/
  | lonelyDeclaration
  /-- A generator is declared where only one statement may stand. -/
  | lonelyGenerator
  /-- An async function is declared where only one statement may stand. -/
  | lonelyAsyncFunction
  /-- A `try` has neither handler nor finalizer. -/
  | missingHandler
  /-- A line ends right after `throw`. -/
  | newlineAfterThrow
  /-- A function declaration has no name. -/
  | missingFunctionName
  /-- A class declaration has no name. -/
  | missingClassName
  /-- Parentheses hold nothing. -/
  | emptyParentheses
  /-- A `return` outside any function. -/
  | returnOutsideFunction
  /-- An `await` outside async functions. -/
  | awaitOutsideAsync
  /-- A `yield` outside generators. -/
  | yieldOutsideGenerator
  /-- An assignment to something that is no place. -/
  | invalidTarget
  /-- An object literal with a default that is no pattern. -/
  | strayDefault
  /-- A spread that is not the last element of a pattern. -/
  | spreadNotLast
  /-- A rest element that is not the last of a pattern. -/
  | restElementNotLast
  /-- A rest parameter that is not the last one. -/
  | restParameterNotLast
  /-- A comma after a rest element. -/
  | commaAfterRest
  /-- A line ends in front of an arrow. -/
  | newlineBeforeArrow
  /-- A coalescing operator beside an unparenthesized logical one. -/
  | mixedCoalescing
  /-- A unary expression as the base of a power. -/
  | unaryBase
  /-- A lone `super`. -/
  | strayParentReference
  /-- `new.` with anything but `target`. -/
  | newMetaProperty
  /-- `import.` with anything but `meta`. -/
  | importMetaProperty
  /-- An optional chain as the callee of `new`. -/
  | optionalConstructor
  /-- A tagged template in an optional chain. -/
  | taggedOptionalChain
  /-- `for await` without `of`. -/
  | awaitWithoutOf
  deriving DecidableEq, Repr

/-- The wording of a complaint. -/
def Complaint.message : Complaint → String
  | missingSemicolon =>
    "Expected a semicolon or an implicit semicolon after a statement, but found none"
  | unexpectedToken => "Unexpected token"
  | expected wanted found => "Expected `" ++ wanted ++ "` but found `" ++ found ++ "`"
  | reservedName word =>
    "Identifier expected. '" ++ word ++ "' is a reserved word that cannot be used here."
  | unterminatedString => "Unterminated string"
  | unterminatedComment => "Unterminated multiline comment"
  | unterminatedPattern => "Unterminated regular expression"
  | invalidCharacter c => "Invalid Character `" ++ c.toString ++ "`"
  | unexpectedEnd => "Unexpected end of file"
  | numberRunsOn => "Invalid characters after number"
  | invalidEscape => "Invalid escape sequence"
  | invalidUnicodeEscape => "Invalid Unicode escape sequence"
  | invalidTemplateEscape => "Bad escape sequence in untagged template literal"
  | unknownFlag c => "Unexpected flag " ++ c.toString ++ " in regular expression literal"
  | repeatedFlag c => "Flag " ++ c.toString ++ " is mentioned twice in regular expression literal"
  | constantWithoutValue => "Missing initializer in const declaration"
  | destructuringWithoutValue => "Missing initializer in destructuring declaration"
  | lonelyDeclaration => "Lexical declaration cannot appear in a single-statement context"
  | lonelyGenerator => "Generators can only be declared at the top level or inside a block"
  | lonelyAsyncFunction =>
    "Async functions can only be declared at the top level or inside a block"
  | missingHandler => "Missing catch or finally clause"
  | newlineAfterThrow => "Illegal newline after throw"
  | missingFunctionName => "Expected function name"
  | missingClassName => "A class name is required."
  | emptyParentheses => "Empty parenthesized expression"
  | returnOutsideFunction =>
    "A 'return' statement can only be used within a function body."
  | awaitOutsideAsync =>
    "`await` is only allowed within async functions and at the top levels of modules"
  | yieldOutsideGenerator => "A 'yield' expression is only allowed in a generator body."
  | invalidTarget => "Cannot assign to this expression"
  | strayDefault => "Invalid assignment in object literal"
  | spreadNotLast => "Spread must be last element"
  | restElementNotLast => "A rest element must be last in a destructuring pattern"
  | restParameterNotLast => "A rest parameter must be last in a parameter list"
  | commaAfterRest => "Unexpected trailing comma after rest element"
  | newlineBeforeArrow => "Line terminator not permitted before arrow"
  | mixedCoalescing => "Logical expressions and coalesce expressions cannot be mixed"
  | unaryBase => "Unexpected exponentiation expression"
  | strayParentReference =>
    "'super' can only be used with function calls or in property accesses"
  | newMetaProperty => "The only valid meta property for new is new.target"
  | importMetaProperty => "The only valid meta property for import is import.meta"
  | optionalConstructor => "Invalid optional chain from new expression"
  | taggedOptionalChain =>
    "Tagged template expressions are not permitted in an optional chain"
  | awaitWithoutOf => "await can only be used in conjunction with `for...of` statements"

/-- A complaint about a line. -/
structure Diagnostic where
  /-- The line, counted from one. -/
  line : Nat
  /-- What is wrong. -/
  complaint : Complaint
  deriving DecidableEq, Repr

end ScriptGate.Grammar
