import ScriptGate.Grammar.Expression

/-!
# `ScriptGate.Grammar.Statement`: steps of statements

Each definition carries out one goal of the grammar of statements,
functions and classes. A statement ends at a semicolon, at a closing
brace, at the end of the text or where a line ended before the next
token.
-/

set_option autoImplicit false

namespace ScriptGate.Grammar

open State

/-- The end of a statement. The complaint is about the place right after
it. -/
def stepEndStatement (s : State) : Step :=
  if s.isAt .semicolon then .ok s.advance
  else if s.canEndStatement then .ok s
  else s.fail s.lastLine .missingSemicolon

/-! ### Declarations -/

/-- The complaint about a declarator without a value. -/
def missingValue? (word : String) (s : State) : Option Complaint :=
  if !s.value.isName then some .destructuringWithoutValue
  else if word == "const" then some .constantWithoutValue
  else none

/-- The value of a declarator. Loops that walk through values need
none. -/
def stepDeclaratorValue (word : String) (inLoop : Bool) (line : Nat) (s : State) : Step :=
  if s.isAt .assign then .ok (s.advance.push [.assignment])
  else
    match missingValue? word s with
    | none => .ok s
    | some c =>
      .ok (if inLoop then { s with unset := ⟨line, c⟩ :: s.unset } else s.complain line c)

/-- Whether `let` before this token begins a declaration. -/
def declaresAfterLet (k : Kind) : Bool :=
  match k with
  | .word w => w != "in"
  | .punctuator p => p == .leftBrace || p == .leftBracket
  | _ => false

/-- A variable statement. -/
def stepVariables (single lexical : Bool) (word : String) (s : State) : Step :=
  let complaint :=
    if single && lexical then [Goal.note ⟨s.token.line, .lonelyDeclaration⟩] else []
  .ok (s.advance.push ([.declarators word false, .endStatement] ++ complaint))

/-- A statement that begins with `let`, which may still be a name. -/
def stepLet (single : Bool) (s : State) : Step :=
  let next := s.peek.kind
  let isAssignment := match next with
    | .punctuator p => p.isAssignment
    | _ => false
  if isAssignment || next.isBinaryOperator then .ok (s.push [.assignment, .endStatement])
  else if next == .punctuator .dot || next == .punctuator .leftParen then
    .ok (s.push [.expression])
  else if (single && next != .punctuator .leftBracket) || next == .punctuator .semicolon then
    .ok (s.advance.push [.endStatement])
  else stepVariables single true "let" s

/-! ### Functions and classes -/

/-- Parameters and body of a function. -/
def stepFunctionTail (isAsync isGenerator : Bool) (s : State) : Step :=
  .ok (s.push (s.within { s.context with allowsIn := true, isAsync, isGenerator }
    [.expect .leftParen, .list .parameters true [], .expect .rightParen, .functionBody]))

/-- The body of a function. -/
def stepFunctionBody (s : State) : Step :=
  if s.isAt .leftBrace then
    .ok (s.advance.push (s.within { s.context with allowsIn := true, inFunction := true }
      [.statements true] ++ [.expect .rightBrace]))
  else s.unexpected

/-- A function declaration, which needs a name. -/
def stepFunctionDeclaration (single : Bool) (s : State) : Step :=
  let line := s.token.line
  let isAsync := s.isAtWord "async"
  let s := (if isAsync then s.advance else s).advance
  let isGenerator := s.isAt .times
  let s := if isGenerator then s.advance else s
  let s :=
    if s.token.kind.isName then s.advance
    else s.complain s.token.line .missingFunctionName
  let complaints :=
    (if single && isAsync then [Goal.note ⟨line, .lonelyAsyncFunction⟩] else []) ++
      (if single && isGenerator then [Goal.note ⟨line, .lonelyGenerator⟩] else [])
  .ok (s.push (.functionTail isAsync isGenerator :: complaints))

/-- A function expression from its `function` on. -/
def stepFunctionExpression (isAsync : Bool) (s : State) : Step :=
  let s := s.advance
  let isGenerator := s.isAt .times
  let s := if isGenerator then s.advance else s
  let s := if s.token.kind.isName then s.advance else s
  .ok (s.push [.functionTail isAsync isGenerator])

/-- A class from its keyword on. -/
def stepClass (declared : Bool) (s : State) : Step :=
  let line := s.token.line
  let s := s.advance
  let named := s.token.kind.isName && !s.isAtWord "implements"
  let s := if named then s.advance else s
  let complaint :=
    if declared && !named then [Goal.note ⟨line, .missingClassName⟩] else []
  .ok (s.push ([.heritage, .expect .leftBrace, .classElements, .expect .rightBrace] ++
    complaint))

/-- The elements of a class. -/
def stepClassElements (s : State) : Step :=
  if s.isAt .rightBrace || s.token.kind == .endOfText then .ok s
  else if s.isAt .semicolon then .ok (s.advance.push [.classElements])
  else .ok (s.push [.classElement, .classElements])

/-- Whether a modifier before this token is rather a name itself. -/
def endsElementName (k : Kind) : Bool :=
  match k with
  | .endOfText => true
  | .punctuator p =>
    [Punctuator.leftParen, .assign, .semicolon, .rightBrace].contains p
  | _ => false

/-- An element of a class. -/
def stepClassElement (s : State) : Step :=
  if s.isAt .atSign then .ok (s.push [.decorators, .classElement])
  else if s.isAtWord "static" && s.peek.kind == .punctuator .leftBrace then
    .ok (s.advance.push (s.within { s.context with isAsync := false, isGenerator := false }
      [.block]))
  else
    let s := if s.isAtWord "static" && !endsElementName s.peek.kind then s.advance else s
    let next := s.peek
    let isAsync := s.isAtWord "async" && !next.afterNewline && !endsElementName next.kind
    let s := if isAsync then s.advance else s
    let isGenerator := s.isAt .times
    let s := if isGenerator then s.advance else s
    let isAccessor := !isAsync && !isGenerator && (s.isAtWord "get" || s.isAtWord "set") &&
      s.peek.kind.beginsPropertyName
    let s := if isAccessor then s.advance else s
    if s.token.kind.beginsPropertyName then
      .ok (s.push [.propertyName,
        .afterElementName (isGenerator || isAccessor) isAsync isGenerator])
    else s.unexpected

/-- What follows the name of a class element: a method, or a field with
or without a value. -/
def stepAfterElementName (isMethod isAsync isGenerator : Bool) (s : State) : Step :=
  if isMethod || s.isAt .leftParen then .ok (s.push [.functionTail isAsync isGenerator])
  else if s.isAt .assign then
    .ok (s.advance.push (s.within
      { s.context with allowsIn := true, isAsync := false, isGenerator := false }
      [.assignment] ++ [.endStatement]))
  else .ok (s.push [.endStatement])

/-! ### Loops -/

/-- The head of a `for` after its parenthesis. -/
def stepLoopHead (isAwait : Bool) (line : Nat) (s : State) : Step :=
  let noIn := { s.context with allowsIn := false }
  let declaration (word : String) : Step :=
    let fresh : State := { s.advance with unset := [] }
    .ok (fresh.push
      (s.within noIn [.declarators word true] ++ [.loopAfterDeclaration isAwait line]))
  match s.token.kind with
  | .punctuator .semicolon => .ok (s.push [.loopCounting isAwait line])
  | .punctuator .rightParen => .ok (s.push [.loopCounting isAwait line])
  | .word "var" => declaration "var"
  | .word "const" => declaration "const"
  | k =>
    if k == .word "let" && declaresAfterLet s.peek.kind then declaration "let"
    else .ok (s.push (s.within noIn [.expression] ++ [.loopAfterExpression isAwait line]))

/-- The rest of a `for` that walks through values. -/
def stepLoopValues (isAwait : Bool) (line : Nat) (s : State) : Step :=
  let isIn := s.isAtWord "in"
  let s := if isAwait && isIn then s.complain line .awaitWithoutOf else s
  .ok (s.advance.push [if isIn then .expression else .assignment, .expect .rightParen,
    .statement true])

/-- What follows a declaration in the head of a `for`. -/
def stepLoopAfterDeclaration (isAwait : Bool) (line : Nat) (s : State) : Step :=
  if s.isAtWord "in" || s.isAtWord "of" then stepLoopValues isAwait line s
  else .ok (s.push [.loopCounting isAwait line])

/-- What follows an expression in the head of a `for`. -/
def stepLoopAfterExpression (isAwait : Bool) (line : Nat) (s : State) : Step :=
  if s.isAtWord "in" || s.isAtWord "of" then do
    let s ← s.takeAsTarget
    stepLoopValues isAwait line s
  else
    let fresh : State := { s with unset := [] }
    .ok (fresh.push [.loopCounting isAwait line])

/-- The rest of a counting `for`. -/
def stepLoopCounting (isAwait : Bool) (line : Nat) (s : State) : Step := do
  let s ← s.expect .semicolon
  let s := { s with noted := s.unset ++ s.noted, unset := [] }
  let complaint := if isAwait then [Goal.note ⟨line, .awaitWithoutOf⟩] else []
  .ok (s.push ([.loopTest, .expect .semicolon, .loopStep, .expect .rightParen] ++ complaint ++
    [.statement true]))

/-! ### Statements -/

/-- A jump, perhaps to a label. -/
def stepJump (s : State) : Step :=
  let s := s.advance
  if s.canEndStatement then .ok (s.push [.endStatement])
  else if s.token.kind.isName then .ok (s.advance.push [.endStatement])
  else s.unexpected

/-- A `return`. -/
def stepReturn (s : State) : Step :=
  let line := s.token.line
  let s := s.advance
  if s.isAt .semicolon then .ok (s.advance.push [.checkReturn line])
  else if s.canEndStatement then .ok (s.push [.checkReturn line])
  else .ok (s.push (s.withIn [.expression] ++ [.endStatement, .checkReturn line]))

/-- A `throw`, whose operand begins on the same line. -/
def stepThrow (s : State) : Step :=
  let line := s.token.line
  let s := s.advance
  let s := if s.token.afterNewline then s.complain line .newlineAfterThrow else s
  .ok (s.push [.expression, .endStatement])

/-- A `for` up to its parenthesis. -/
def stepFor (s : State) : Step :=
  let line := s.token.line
  let s := s.advance
  let isAwait := s.isAtWord "await"
  let s :=
    if isAwait then
      (if s.context.isAsync then s else s.complain s.token.line .awaitOutsideAsync).advance
    else s
  .ok (s.push [.expect .leftParen, .loopHead isAwait line])

/-- A statement. -/
def stepStatement (single : Bool) (s : State) : Step :=
  let expression : Step := .ok (s.push [.expression, .afterExpression single])
  match s.token.kind with
  | .punctuator .leftBrace => .ok (s.push [.block])
  | .punctuator .semicolon => .ok s.advance
  | .punctuator .atSign => .ok (s.push [.decorators, .statement single])
  | .word "if" => .ok (s.advance.push [.condition, .statement true, .elseBranch])
  | .word "do" =>
    .ok (s.advance.push [.statement true, .expectWord "while", .condition, .optionalSemicolon])
  | .word "while" => .ok (s.advance.push [.condition, .statement true])
  | .word "with" => .ok (s.advance.push [.condition, .statement true])
  | .word "for" => stepFor s
  | .word "continue" => stepJump s
  | .word "break" => stepJump s
  | .word "return" => stepReturn s
  | .word "switch" =>
    .ok (s.advance.push [.condition, .expect .leftBrace, .cases, .expect .rightBrace])
  | .word "throw" => stepThrow s
  | .word "try" => .ok (s.advance.push [.block, .handlers])
  | .word "debugger" => .ok (s.advance.push [.endStatement])
  | .word "class" => .ok (s.push [.classTail true])
  | .word "var" => stepVariables single false "var" s
  | .word "const" => stepVariables single true "const" s
  | .word "let" => stepLet single s
  | .word "function" => .ok (s.push [.functionDeclaration single])
  | .word "async" =>
    let next := s.peek
    if next.kind == .word "function" && !next.afterNewline then
      .ok (s.push [.functionDeclaration single])
    else expression
  | _ => expression

/-- An import declaration. -/
def stepImportDeclaration (s : State) : Step :=
  let s := s.advance
  if s.token.kind == .string then .ok (s.advance.push [.endStatement])
  else .ok (s.push [.moduleNames, .moduleSource, .endStatement])

/-- An export declaration. -/
def stepExportDeclaration (s : State) : Step :=
  let s := s.advance
  match s.token.kind with
  | .word "default" =>
    let s := s.advance
    match s.token.kind with
    | .word "function" => .ok (s.push [.functionExpression false])
    | .word "class" => .ok (s.push [.classTail false])
    | _ => .ok (s.push [.assignment, .endStatement])
  | .punctuator .leftBrace => .ok (s.push [.moduleNames, .moduleSource, .endStatement])
  | .punctuator .times => .ok (s.push [.moduleNames, .moduleSource, .endStatement])
  | .word w =>
    if ["var", "let", "const", "function", "class", "async"].contains w then
      .ok (s.push [.statement false])
    else s.unexpected
  | _ => s.unexpected

/-- Statements one after the other. -/
def stepStatements (nested : Bool) (s : State) : Step :=
  if s.token.kind == .endOfText || (nested && s.isAt .rightBrace) then .ok s
  else if s.isAt .atSign then .ok (s.push [.decorators, .statements nested])
  else
    let s := s.push [.statements nested]
    if s.isAtWord "import" && s.peek.kind != .punctuator .dot &&
        s.peek.kind != .punctuator .leftParen then stepImportDeclaration s
    else if s.isAtWord "export" then stepExportDeclaration s
    else stepStatement false s

/-- The names of an import or export, one after the other. -/
def stepModuleNames (s : State) : Step :=
  match s.token.kind with
  | .punctuator .comma => .ok (s.advance.push [.moduleNames])
  | .punctuator .times => .ok (s.advance.push [.moduleNames])
  | .punctuator .leftBrace => .ok (s.advance.push [.moduleNames])
  | .punctuator .rightBrace => .ok (s.advance.push [.moduleNames])
  | .word "from" => .ok s
  | .word _ => .ok (s.advance.push [.moduleNames])
  | _ => .ok s

/-- The source of a module, if there is one. -/
def stepModuleSource (s : State) : Step :=
  if s.isAtWord "from" then
    let s := s.advance
    if s.token.kind == .string then .ok s.advance else s.unexpected
  else .ok s

/-- The cases of a `switch`. -/
def stepCases (s : State) : Step :=
  match s.token.kind with
  | .punctuator .rightBrace => .ok s
  | .endOfText => .ok s
  | .word "default" => .ok (s.advance.push [.expect .colon, .caseStatements, .cases])
  | .word "case" =>
    .ok (s.advance.push [.expression, .expect .colon, .caseStatements, .cases])
  | _ => s.unexpected

/-- Statements up to the next case. -/
def stepCaseStatements (s : State) : Step :=
  match s.token.kind with
  | .punctuator .rightBrace => .ok s
  | .endOfText => .ok s
  | .word "default" => .ok s
  | .word "case" => .ok s
  | _ => .ok (s.push [.statement false, .caseStatements])

/-- The handler of a `try`, if there is one. -/
def stepHandlers (s : State) : Step :=
  let line := s.lastLine
  if s.isAtWord "catch" then
    let s := s.advance
    if s.isAt .leftParen then
      .ok (s.advance.push [.binding, .expect .rightParen, .block, .finalizer true line])
    else .ok (s.push [.block, .finalizer true line])
  else .ok (s.push [.finalizer false line])

/-- The finalizer of a `try`, which must not lack both. -/
def stepFinalizer (handled : Bool) (line : Nat) (s : State) : Step :=
  if s.isAtWord "finally" then .ok (s.advance.push [.block])
  else .ok (if handled then s else s.complain line .missingHandler)

end ScriptGate.Grammar
