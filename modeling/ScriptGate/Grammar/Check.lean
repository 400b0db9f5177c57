import ScriptGate.Grammar.Statement

/-!
# `ScriptGate.Grammar.Check`: whether a text is a program

`check` reads a text as a classic script and reports the first mistake.
It is a purely syntactic check: names need no declaration, and a label
or a `break` may stand anywhere.
-/

set_option autoImplicit false

namespace ScriptGate.Grammar

open State

/-- Carries out one goal. -/
def step (g : Goal) (s : State) : Step :=
  match g with
  | .statements nested => stepStatements nested s
  | .blockStatements =>
    if s.isAt .rightBrace || s.token.kind == .endOfText then .ok s
    else .ok (s.push [.statement false, .blockStatements])
  | .caseStatements => stepCaseStatements s
  | .statement single => stepStatement single s
  | .block => .ok (s.push [.expect .leftBrace, .blockStatements, .expect .rightBrace])
  | .expect p => s.expect p
  | .expectWord w =>
    if s.isAtWord w then .ok s.advance
    else s.fail s.token.line (.expected w s.token.kind.text)
  | .optionalSemicolon => .ok (if s.isAt .semicolon then s.advance else s)
  | .endStatement => stepEndStatement s
  | .condition => .ok (s.push [.expect .leftParen, .expression, .expect .rightParen])
  | .elseBranch =>
    .ok (if s.isAtWord "else" then s.advance.push [.statement true] else s)
  | .afterExpression _ =>
    if s.value.isName && s.isAt .colon then .ok (s.advance.push [.statement true])
    else stepEndStatement s
  | .cases => stepCases s
  | .handlers => stepHandlers s
  | .finalizer handled line => stepFinalizer handled line s
  | .checkReturn line =>
    .ok (if s.context.inFunction then s else s.complain line .returnOutsideFunction)
  | .declarators word inLoop =>
    .ok (s.push [.binding, .declaratorValue word inLoop s.token.line,
      .moreDeclarators word inLoop])
  | .declaratorValue word inLoop line => stepDeclaratorValue word inLoop line s
  | .moreDeclarators word inLoop =>
    .ok (if s.isAt .comma then s.advance.push [.declarators word inLoop] else s)
  | .note d => .ok (s.complain d.line d.complaint)
  | .loopHead isAwait line => stepLoopHead isAwait line s
  | .loopAfterDeclaration isAwait line => stepLoopAfterDeclaration isAwait line s
  | .loopAfterExpression isAwait line => stepLoopAfterExpression isAwait line s
  | .loopCounting isAwait line => stepLoopCounting isAwait line s
  | .loopTest =>
    .ok (if s.isAt .semicolon || s.isAt .rightParen then s else s.push [.expression])
  | .loopStep => .ok (if s.isAt .rightParen then s else s.push [.expression])
  | .binding => stepBinding s
  | .bindingWithDefault => .ok (s.push [.binding, .bindingDefault])
  | .bindingDefault => stepBindingDefault s
  | .afterRest line => stepAfterRest line s
  | .bindingProperty =>
    .ok (s.push [.propertyName, .afterBindingKey s.token.kind.isName])
  | .afterBindingKey isName => stepAfterBindingKey isName s
  | .list sort first items => stepList sort first items s
  | .listAdd sort items => .ok (s.push [.list sort false (s.value :: items)])
  | .functionDeclaration single => stepFunctionDeclaration single s
  | .functionExpression isAsync => stepFunctionExpression isAsync s
  | .functionTail isAsync isGenerator => stepFunctionTail isAsync isGenerator s
  | .functionBody => stepFunctionBody s
  | .classTail declared => stepClass declared s
  | .heritage => .ok (if s.isAtWord "extends" then s.advance.push [.leftHandSide] else s)
  | .classElements => stepClassElements s
  | .classElement => stepClassElement s
  | .afterElementName isMethod isAsync isGenerator =>
    stepAfterElementName isMethod isAsync isGenerator s
  | .propertyName => stepPropertyName s
  | .afterPropertyName line => stepAfterPropertyName line s
  | .afterShorthand line mark => .ok { s with value := .shorthand line (some mark) }
  | .setContext c => .ok { s with context := c }
  | .setValue v => .ok { s with value := v }
  | .expression => .ok (s.push [.assignment, .moreExpressions])
  | .moreExpressions =>
    .ok (if s.isAt .comma then
        s.advance.push [.assignment, .setValue (.other s.value.line), .moreExpressions]
      else s)
  | .assignment => stepAssignment s
  | .afterOperand => stepAfterOperand s
  | .arrowBody isAsync => stepArrowBody isAsync s
  | .arrowHead isAsync => stepArrowHead isAsync s
  | .arrow => stepArrow s
  | .attempt isAsync _ => .ok (s.push [.arrowBody isAsync])
  | .otherwise line => do
    let s ← s.expect .colon
    .ok (s.push [.assignment, .setValue (.other line)])
  | .operation floor => stepOperation floor s
  | .operators line floor => stepOperators line floor s
  | .afterRight line floor operator left => stepAfterRight line floor operator left s
  | .unary => stepUnary s
  | .postfixed => .ok (s.push [.leftHandSide, .afterPlace])
  | .afterPlace => stepAfterPlace s
  | .checkPlace line => do
    let s ← s.takeAsPlace
    .ok { s with value := .other line }
  | .leftHandSide => stepLeftHandSide s
  | .suffixes line calls chain => stepSuffixes line calls chain s
  | .newArguments line => stepNewArguments line s
  | .primary => stepPrimary s
  | .closeGroup line => stepCloseGroup line s
  | .closeArray line => stepCloseArray line s
  | .closeObject line => stepCloseObject line s
  | .wrapSpread line => .ok { s with value := .spread line s.value }
  | .templateTail =>
    if s.isAt .rightBrace then
      let (t, ds) := s.token.scanTemplateTail
      .ok { s with token := t, lexical := ds.reverse ++ s.lexical }
    else .ok s
  | .templatePieces tagged =>
    match s.token.kind with
    | .endOfText => s.fail s.token.line (.expected "\x7d" s.token.kind.text)
    | .template piece sound =>
      let s' := if sound || tagged then s
        else s.complain s.token.line .invalidTemplateEscape
      match piece with
      | .tail => .ok s'.advance
      | .middle => .ok (s'.advance.push [.templatePieces tagged])
      | _ => .ok (s.push (s.withIn [.expression] ++ [.templateTail, .templatePieces tagged]))
    | _ => .ok (s.push (s.withIn [.expression] ++ [.templateTail, .templatePieces tagged]))
  | .decorators =>
    .ok (if s.isAt .atSign then s.advance.push [.leftHandSide, .decorators] else s)
  | .moduleNames => stepModuleNames s
  | .moduleSource => stepModuleSource s

/-- Goes back to the last attempt at an arrow function after a failure,
if there is one. -/
def recover? (f : Failure) : Option State :=
  match f.state.goals.dropWhile (fun g => match g with | .attempt _ _ => false | _ => true) with
  | .attempt _ saved :: rest =>
    some { f.state.restore saved with
      goals := .assignment :: rest, notArrows := f.state.notArrows.insert saved.index }
  | _ => none

/-- Carries out goals until none is left or a failure is final, and
returns the first mistake. -/
def run : Nat → State → Option Diagnostic
  | 0, s => s.firstMistake
  | fuel + 1, s =>
    match s.goals with
    | [] => s.firstMistake
    | g :: gs =>
      match step g { s with goals := gs } with
      | .ok s => run fuel s
      | .error f =>
        match recover? f with
        | some s => run fuel s
        | none => { f.state with noted := f.diagnostic :: f.state.noted }.firstMistake

/-- More steps than a text of `n` characters takes, unless attempts at
arrow functions are nested without sense. -/
def stepLimit (n : Nat) : Nat := 200 * (n + 2) * (n + 2)

/-- The first mistake of a program text, if there is one. -/
def check (t : Text) : Option Diagnostic :=
  let (token, ds) := scanFirst t
  run (stepLimit t.length)
    { token, lexical := ds.reverse, goals := [.statements false] }

end ScriptGate.Grammar
