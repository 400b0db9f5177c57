import ScriptGate.Grammar.Machine

/-!
# `ScriptGate.Grammar.Expression`: steps of expressions

Each definition carries out one goal of the expression grammar. Arrow
functions begin like other expressions: `arrowGuess` looks a few tokens
ahead, and where that leaves a doubt the head of an arrow function is
tried first and given up for an expression in parentheses.
-/

set_option autoImplicit false

namespace ScriptGate.Grammar

open State

/-! ### Looking ahead -/

/-- Whether an arrow function begins here. -/
inductive Guess where
  | no | yes | maybe
  deriving DecidableEq, Repr

/-- Whether parentheses that open at `t` begin an arrow function. -/
def guessAtParenthesis (t : Token) : Guess :=
  let second := t.following.1
  match second.kind with
  | .punctuator .rightParen =>
    match second.following.1.kind with
    | .punctuator .arrow => .yes
    | .punctuator .leftBrace => .yes
    | _ => .no
  | .punctuator .leftBracket => .maybe
  | .punctuator .leftBrace => .maybe
  | .punctuator .ellipsis =>
    let third := second.following.1.kind
    if third.isName then .yes else if third.isLiteral then .no else .maybe
  | k =>
    if k.isName || k == .word "this" then
      match second.following.1.kind with
      | .punctuator .comma => .maybe
      | .punctuator .assign => .maybe
      | .punctuator .rightParen => .maybe
      | _ => .no
    else .no

/-- Whether an arrow function with parentheses begins at `t`. -/
def arrowGuess (t : Token) : Guess :=
  match t.kind with
  | .punctuator .leftParen => guessAtParenthesis t
  | .word "async" =>
    let next := t.following.1
    if next.kind == .punctuator .leftParen && !next.afterNewline then guessAtParenthesis next
    else .no
  | _ => .no

/-- Whether `t` is the `async` of an arrow function with one bare
parameter. -/
def isBareAsyncArrow (t : Token) : Bool :=
  t.kind == .word "async" &&
    (let next := t.following.1
     next.kind.isName && !next.afterNewline &&
      (let third := next.following.1
       third.kind == .punctuator .arrow && !third.afterNewline))

/-- Whether an operand can follow a word that is an operator in some
places only. -/
def suggestsOperand (k : Kind) : Bool :=
  !k.isBinaryOperator && (k.isLiteral || k.isWord)

/-- Whether `yield` is an operator at this place. -/
def isYield (s : State) : Bool :=
  s.isAtWord "yield" &&
    (let next := s.peek
     next.kind != .punctuator .arrow &&
      (s.context.isGenerator || (!next.afterNewline && suggestsOperand next.kind)))

/-- Whether `await` is an operator at this place. -/
def isAwait (s : State) : Bool :=
  s.isAtWord "await" &&
    (let next := s.peek
     next.kind != .punctuator .arrow &&
      (s.context.isAsync ||
        (next.kind != .word "of" && !next.afterNewline && suggestsOperand next.kind)))

/-! ### Assignments -/

/-- A `yield` with its operand. -/
def stepYield (s : State) : Step :=
  let line := s.token.line
  let s := if s.context.isGenerator then s else s.complain line .yieldOutsideGenerator
  let s := s.advance
  let done (s : State) : Step := .ok { s with value := .other line }
  if s.token.afterNewline then done s
  else
    let isDelegate := s.isAt .times
    let s := if isDelegate then s.advance else s
    let noOperand :=
      match s.token.kind with
      | .endOfText => true
      | .punctuator p =>
        [Punctuator.semicolon, .rightBracket, .rightParen, .rightBrace, .colon, .comma].contains p
      | .word w => w == "in"
      | _ => false
    if noOperand && !isDelegate then done s
    else
      .ok (s.push (s.within { s.context with isGenerator := true } [.assignment] ++
        [.setValue (.other line)]))

/-- An assignment or anything simpler. -/
def stepAssignment (s : State) : Step :=
  if isYield s then stepYield s
  else
    match arrowGuess s.token with
    | .yes =>
      let isAsync := s.isAtWord "async"
      .ok (s.push [.arrowHead isAsync, .arrowBody isAsync])
    | .maybe =>
      if s.notArrows.contains s.index then .ok (s.push [.operation 0, .afterOperand])
      else
        let isAsync := s.isAtWord "async"
        .ok (s.push [.arrowHead isAsync, .attempt isAsync s.save])
    | .no =>
      if isBareAsyncArrow s.token then .ok (s.advance.advance.push [.arrow, .arrowBody true])
      else .ok (s.push [.operation 0, .afterOperand])

/-- What follows the left side of an assignment. -/
def stepAfterOperand (s : State) : Step :=
  let line := s.value.line
  match s.token.kind with
  | .punctuator .arrow =>
    if s.value.isName then .ok (s.push [.arrow, .arrowBody false]) else .ok s
  | .punctuator .question =>
    .ok (s.advance.push (s.withIn [.assignment] ++ [.otherwise line]))
  | .punctuator .assign => do
    let s ← s.takeAsTarget
    .ok (s.advance.push [.assignment, .setValue (.assigned line)])
  | .punctuator p =>
    if p.isAssignment then do
      let s ← s.takeAsPlace
      .ok (s.advance.push [.assignment, .setValue (.other line)])
    else .ok s
  | _ => .ok s

/-- The head of an arrow function with parentheses. -/
def stepArrowHead (isAsync : Bool) (s : State) : Step :=
  let outer := s
  let s := if isAsync then s.advance else s
  .ok (s.push (outer.within { s.context with isAsync := s.context.isAsync || isAsync }
    [.expect .leftParen, .list .parameters true [], .expect .rightParen] ++ [.arrow]))

/-- An arrow, on the line of what comes before it. -/
def stepArrow (s : State) : Step :=
  let s := if s.token.afterNewline then s.complain s.token.line .newlineBeforeArrow else s
  s.expect .arrow

/-- The body of an arrow function. -/
def stepArrowBody (isAsync : Bool) (s : State) : Step :=
  let inner := { s.context with isAsync, isGenerator := false }
  let body := if s.isAt .leftBrace then Goal.functionBody else .assignment
  .ok (s.push (s.within inner [body] ++ [.setValue (.other s.token.line)]))

/-! ### Operators -/

/-- The operators after an operand. Power binds to the right, all others
to the left. -/
def stepOperators (line floor : Nat) (s : State) : Step :=
  match s.token.kind.precedence? with
  | none => .ok s
  | some p =>
    let stops := if p == 12 then p < floor else p ≤ floor
    if stops || (s.isAtWord "in" && !s.context.allowsIn) then .ok s
    else .ok (s.advance.push [.operation p, .afterRight line floor s.token.kind s.value])

/-- What follows the right operand of an operator. -/
def stepAfterRight (line floor : Nat) (operator : Kind) (left : Value) (s : State) : Step :=
  let (s, result) : State × Value :=
    match operator with
    | .punctuator .coalesce =>
      (if s.value.isLogical || left.isLogical then s.complain line .mixedCoalescing else s,
        .other line)
    | .punctuator .logicalAnd => (s, .logical line)
    | .punctuator .logicalOr => (s, .logical line)
    | .punctuator .power =>
      (if left.isUnary then s.complain left.line .unaryBase else s, .other line)
    | _ => (s, .other line)
  let joined : State := { s with value := result }
  .ok (joined.push [.operators line floor])

/-- Operands joined by operators. -/
def stepOperation (floor : Nat) (s : State) : Step :=
  let line := s.token.line
  if s.token.kind == .privateName && s.context.allowsIn then
    .ok (s.advance.push
      [.expectWord "in", .unary, .setValue (.other line), .operators line floor])
  else .ok (s.push [.unary, .operators line floor])

/-- A unary expression. -/
def stepUnary (s : State) : Step :=
  let line := s.token.line
  let isOperator :=
    match s.token.kind with
    | .punctuator p => [Punctuator.plus, .minus, .tilde, .bang].contains p
    | .word w => ["typeof", "void", "delete"].contains w
    | _ => false
  if isOperator then .ok (s.advance.push [.unary, .setValue (.unary line)])
  else if isAwait s then
    let s := if s.context.isAsync then s else s.complain line .awaitOutsideAsync
    .ok (s.advance.push (s.within { s.context with isAsync := true } [.unary] ++
      [.setValue (.unary line)]))
  else
    match s.token.kind with
    | .punctuator .increment => .ok (s.advance.push [.unary, .checkPlace line])
    | .punctuator .decrement => .ok (s.advance.push [.unary, .checkPlace line])
    | _ => .ok (s.push [.postfixed])

/-- A postfix operator on the line of its operand. -/
def stepAfterPlace (s : State) : Step :=
  if (s.isAt .increment || s.isAt .decrement) && !s.token.afterNewline then do
    let line := s.value.line
    let s ← s.advance.takeAsPlace
    .ok { s with value := .other line }
  else .ok s

/-! ### Members and calls -/

/-- A template that is a literal or the argument of a tag. -/
def stepTemplate (tagged : Bool) (s : State) (after : List Goal) : Step :=
  match s.token.kind with
  | .template piece sound =>
    let s := if sound || tagged then s
      else s.complain s.token.line .invalidTemplateEscape
    match piece with
    | .head =>
      .ok (s.advance.push (s.withIn [.expression] ++
        [.templateTail, .templatePieces tagged] ++ after))
    | _ => .ok (s.advance.push after)
  | _ => s.unexpected

/-- The name of a property after a dot. -/
def stepMemberName (s : State) (after : List Goal) : Step :=
  if s.token.kind.isWord || s.token.kind == .privateName then .ok (s.advance.push after)
  else s.unexpected

/-- Members and calls of the last expression. The value of a chain is no
place. -/
def stepSuffixes (line : Nat) (calls chain : Bool) (s : State) : Step :=
  let again (chain : Bool) := Goal.suffixes line calls chain
  let finish (s : State) : Step := .ok (if chain then { s with value := .other line } else s)
  match s.token.kind with
  | .punctuator .leftBracket =>
    .ok (s.advance.push (s.withIn [.expression] ++
      [.expect .rightBracket, .setValue (.place line), again chain]))
  | .punctuator .dot => stepMemberName s.advance [.setValue (.place line), again chain]
  | .punctuator .optionalChain =>
    match s.peek.kind with
    | .punctuator .leftBracket => .ok (s.advance.push [again true])
    | .punctuator .leftParen =>
      if calls then .ok (s.advance.push [again true]) else finish s
    | k =>
      if k.isWord || k == .privateName then
        stepMemberName s.advance [.setValue (.place line), again true]
      else if calls then s.advance.unexpected
      else finish s
  | .template _ _ =>
    let s := if chain then s.complain line .taggedOptionalChain else s
    stepTemplate true s [.setValue (.other line), again chain]
  | .punctuator .leftParen =>
    if calls then
      .ok (s.advance.push (s.withIn [.list .arguments true []] ++
        [.expect .rightParen, .setValue (.other line), again chain]))
    else finish s
  | _ => finish s

/-- An expression with members and calls. -/
def stepLeftHandSide (s : State) : Step :=
  .ok (s.push [.primary, .suffixes s.token.line true false])

/-! ### Primary expressions -/

/-- An expression that begins with `new`. -/
def stepNew (s : State) : Step :=
  let line := s.token.line
  let s := s.advance
  if s.isAt .dot then
    let s := s.advance
    if s.isAtWord "target" then .ok { s.advance with value := .other line }
    else s.fail line .newMetaProperty
  else
    .ok (s.push [.primary, .suffixes s.token.line false false, .newArguments line])

/-- The arguments of `new`, if there are any. -/
def stepNewArguments (line : Nat) (s : State) : Step :=
  let s := if s.isAt .optionalChain then s.complain line .optionalConstructor else s
  if s.isAt .leftParen then
    .ok (s.advance.push (s.withIn [.list .arguments true []] ++
      [.expect .rightParen, .setValue (.other line)]))
  else .ok { s with value := .other line }

/-- An expression that begins with `import`. -/
def stepImport (s : State) : Step :=
  let line := s.token.line
  let s := s.advance
  match s.token.kind with
  | .punctuator .dot =>
    let s := s.advance
    if s.isAtWord "meta" then .ok { s.advance with value := .other line }
    else s.fail line .importMetaProperty
  | .punctuator .leftParen =>
    .ok (s.advance.push (s.withIn [.list .arguments true []] ++
      [.expect .rightParen, .setValue (.other line)]))
  | _ => s.unexpected

/-- A name, or nothing that can stand here. -/
def stepName (s : State) : Step :=
  if s.token.kind.isName then .ok { s.advance with value := .name s.token.line }
  else s.unexpected

/-- A primary expression. -/
def stepPrimary (s : State) : Step :=
  let line := s.token.line
  let simple : Step := .ok { s.advance with value := .other line }
  let pattern : Step :=
    match s.token.scanPattern with
    | none => s.fail line .unterminatedPattern
    | some (t, ds) =>
      let s := { s with token := t, lexical := ds.reverse ++ s.lexical }
      .ok { s.advance with value := .other line }
  match s.token.kind with
  | .number _ => simple
  | .string => simple
  | .template _ _ => stepTemplate false s [.setValue (.other line)]
  | .punctuator .leftBracket =>
    .ok (s.advance.push (s.withIn [.list .arrayItems true []] ++ [.closeArray line]))
  | .punctuator .leftBrace =>
    .ok (s.advance.push (s.withIn [.list .properties true []] ++ [.closeObject line]))
  | .punctuator .leftParen =>
    .ok (s.advance.push (s.withIn [.list .group true []] ++ [.closeGroup line]))
  | .punctuator .slash => pattern
  | .punctuator .slashAssign => pattern
  | .punctuator .atSign => .ok (s.push [.decorators, .primary])
  | .word "this" => simple
  | .word "null" => simple
  | .word "true" => simple
  | .word "false" => simple
  | .word "function" => .ok (s.push [.functionExpression false, .setValue (.other line)])
  | .word "class" => .ok (s.push [.classTail false, .setValue (.other line)])
  | .word "new" => stepNew s
  | .word "import" => stepImport s
  | .word "super" =>
    let s := s.advance
    let follows := s.isAt .dot || s.isAt .leftParen || s.isAt .leftBracket
    let s := if follows then s else s.complain line .strayParentReference
    .ok { s with value := .other line }
  | .word "async" =>
    let next := s.peek
    if next.kind == .word "function" && !next.afterNewline then
      .ok (s.advance.push [.functionExpression true, .setValue (.other line)])
    else stepName s
  | _ => stepName s

/-- The end of parentheses. -/
def stepCloseGroup (line : Nat) (s : State) : Step := do
  let items := s.items
  let s ← s.expect .rightParen
  match items with
  | [] => s.fail line .emptyParentheses
  | [v] => .ok { s with value := .grouped line v }
  | _ => .ok { s with value := .grouped line (.other line) }

/-- The end of an array literal. -/
def stepCloseArray (line : Nat) (s : State) : Step := do
  let items := s.items
  let s ← (if s.isAt .comma then s.advance else s).expect .rightBracket
  .ok { s with value := .array line items }

/-- The end of an object literal. -/
def stepCloseObject (line : Nat) (s : State) : Step := do
  let items := s.items
  let s ← (if s.isAt .comma then s.advance else s).expect .rightBrace
  .ok { s with value := .object line items }

/-! ### Lists -/

/-- An element of a list. -/
def stepItem (sort : ListSort) (s : State) (after : List Goal) : Step :=
  let line := s.token.line
  let spread : Step := .ok (s.advance.push ([.assignment, .wrapSpread line] ++ after))
  let rest : Step := .ok (s.advance.push ([.binding, .afterRest line] ++ after))
  let hole : Step := .ok ({ s with value := .hole }.push after)
  match sort, s.token.kind with
  | .arguments, .punctuator .ellipsis => spread
  | .arguments, _ => .ok (s.push (.assignment :: after))
  | .group, _ => .ok (s.push (.assignment :: after))
  | .arrayItems, .punctuator .comma => hole
  | .arrayItems, .punctuator .ellipsis => spread
  | .arrayItems, _ => .ok (s.push (.assignment :: after))
  | .properties, .punctuator .ellipsis => spread
  | .properties, k =>
    let next := s.peek
    let named := next.kind.beginsPropertyName
    let method (isAsync isGenerator : Bool) (s : State) : Step :=
      .ok (s.push ([.propertyName, .functionTail isAsync isGenerator,
        .setValue (.other line)] ++ after))
    let starred := next.kind == .punctuator .times
    if (k == .word "get" || k == .word "set") && named then method false false s.advance
    else if k == .word "async" && (named || starred) && !next.afterNewline then
      let s := s.advance
      if s.isAt .times then method true true s.advance else method true false s
    else if k == .punctuator .times && named then method false true s.advance
    else
      let continues :=
        match next.kind with
        | .punctuator p => [Punctuator.leftParen, .colon, .dot].contains p
        | _ => false
      if k.isName && !continues then
        let mark := s.index
        let s := s.advance
        if s.isAt .assign then
          let marked : State :=
            { s.advance with strayDefaults := (mark, line) :: s.strayDefaults }
          .ok (marked.push ([.assignment, .afterShorthand line mark] ++ after))
        else .ok ({ s with value := .shorthand line none }.push after)
      else .ok (s.push ([.propertyName, .afterPropertyName line] ++ after))
  | .patternItems, .punctuator .comma => hole
  | .patternItems, .punctuator .ellipsis => rest
  | .patternItems, _ => .ok (s.push (.bindingWithDefault :: after))
  | .patternProperties, .punctuator .ellipsis => rest
  | .patternProperties, _ => .ok (s.push (.bindingProperty :: after))
  | .parameters, .punctuator .ellipsis => rest
  | .parameters, _ => .ok (s.push (.bindingWithDefault :: after))

/-- The elements of a list up to what closes it, which is left. -/
def stepList (sort : ListSort) (first : Bool) (items : List Value) (s : State) : Step :=
  let close := Kind.punctuator sort.close
  let done (s : State) : Step := .ok { s with items := items.reverse }
  let element (s : State) : Step :=
    let s :=
      match sort.restComplaint?, items with
      | some c, .spread l _ :: _ => s.complain l c
      | _, _ => s
    stepItem sort s [.listAdd sort items]
  if s.token.kind == close || s.token.kind == .endOfText then done s
  else if first then element s
  else if !sort.takesTrailingComma && s.isAt .comma && s.peek.kind == close then done s
  else do
    let s ← s.expect .comma
    if s.token.kind == close then done s else element s

/-- What follows the name of a property in an object literal. -/
def stepAfterPropertyName (line : Nat) (s : State) : Step :=
  match s.token.kind with
  | .punctuator .colon => .ok (s.advance.push [.assignment])
  | .punctuator .leftParen =>
    .ok (s.push [.functionTail false false, .setValue (.other line)])
  | _ => s.unexpected

/-- The name of a property. -/
def stepPropertyName (s : State) : Step :=
  match s.token.kind with
  | .punctuator .leftBracket =>
    .ok (s.advance.push (s.withIn [.assignment] ++ [.expect .rightBracket]))
  | .word _ | .string | .number _ | .privateName => .ok s.advance
  | _ => s.unexpected

/-! ### Bound patterns -/

/-- A pattern or name that is bound. Afterwards the last value is a name
or a pattern. -/
def stepBinding (s : State) : Step :=
  let line := s.token.line
  match s.token.kind with
  | .punctuator .leftBrace =>
    .ok (s.advance.push [.list .patternProperties true [], .expect .rightBrace,
      .setValue (.other line)])
  | .punctuator .leftBracket =>
    .ok (s.advance.push [.list .patternItems true [], .expect .rightBracket,
      .setValue (.other line)])
  | .word w =>
    if isReserved w then s.fail line (.reservedName w)
    else .ok { s.advance with value := .name line }
  | _ => s.unexpected

/-- The default of a bound pattern, if there is one. -/
def stepBindingDefault (s : State) : Step :=
  if s.isAt .assign then .ok (s.advance.push (s.withIn [.assignment])) else .ok s

/-- What follows a rest element: no comma before the end. -/
def stepAfterRest (line : Nat) (s : State) : Step :=
  let closes :=
    match s.peek.kind with
    | .punctuator p => [Punctuator.rightParen, .rightBracket, .rightBrace].contains p
    | _ => false
  let s := if s.isAt .comma && closes then s.complain s.token.line .commaAfterRest else s
  .ok { s with value := .spread line (.other line) }

/-- What follows the name of a property in an object pattern. -/
def stepAfterBindingKey (isName : Bool) (s : State) : Step :=
  if isName && !s.isAt .colon then .ok (s.push [.bindingDefault])
  else do
    let s ← s.expect .colon
    .ok (s.push [.bindingWithDefault])

end ScriptGate.Grammar
