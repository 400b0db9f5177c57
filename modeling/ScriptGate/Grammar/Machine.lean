import Std.Data.HashSet
import ScriptGate.Grammar.Lexer

/-!
# `ScriptGate.Grammar.Machine`: the state of the syntax check

The check works on a stack of goals: what is still to be found in the
text, the next thing on top. A step takes one goal off the stack and
either reads tokens or puts finer goals in its place. So no step calls
itself, and the nesting of a program costs stack entries and nothing
else.

Some mistakes end the check (`Failure`), others are only noted. Of all
of them the first counts, where mistakes in characters come before
mistakes in structure.

A `Value` is what is known of the expression read last. It holds just
enough to tell whether the expression can be assigned to.
-/

set_option autoImplicit false

namespace ScriptGate.Grammar

/-! ### Expressions as targets -/

/-- An expression that was read, with the line that it begins on. -/
inductive Value where
  /-- A name. -/
  | name (line : Nat)
  /-- A property of something. -/
  | place (line : Nat)
  /-- An array literal. -/
  | array (line : Nat) (items : List Value)
  /-- An object literal. -/
  | object (line : Nat) (items : List Value)
  /-- A plain assignment. -/
  | assigned (line : Nat)
  /-- A spread element. -/
  | spread (line : Nat) (v : Value)
  /-- A property that is a name alone; a default is known by its mark. -/
  | shorthand (line : Nat) (mark : Option Nat)
  /-- An expression in parentheses. -/
  | grouped (line : Nat) (v : Value)
  /-- A logical conjunction or disjunction. -/
  | logical (line : Nat)
  /-- A unary expression. -/
  | unary (line : Nat)
  /-- A missing array element. -/
  | hole
  /-- Anything else. -/
  | other (line : Nat)
  deriving Repr

namespace Value

/-- The line that an expression begins on. -/
def line : Value → Nat
  | name l | place l | array l _ | object l _ | assigned l | spread l _ | shorthand l _
  | grouped l _ | logical l | unary l | other l => l
  | hole => 0

/-- Whether the expression is a name. -/
def isName : Value → Bool
  | name _ => true
  | _ => false

/-- Whether the expression is a logical one without parentheses. -/
def isLogical : Value → Bool
  | logical _ => true
  | _ => false

/-- Whether the expression is a unary one without parentheses. -/
def isUnary : Value → Bool
  | unary _ => true
  | _ => false

/-- The mistake in assigning to the expression as to one place, if there
is one. -/
def placeMistake : Value → Option Diagnostic
  | name _ | place _ => none
  | grouped l (array _ _) => some ⟨l, .invalidTarget⟩
  | grouped l (object _ _) => some ⟨l, .invalidTarget⟩
  | grouped _ v => v.placeMistake
  | v => some ⟨v.line, .invalidTarget⟩

mutual

/-- Takes an expression for a pattern. The result is the marks of the
defaults that stand in it rightly, or the first mistake. -/
def asTarget : Value → Except Diagnostic (List Nat)
  | array _ items => itemsAsTargets items
  | object _ items => itemsAsTargets items
  | v =>
    match v.placeMistake with
    | none => .ok []
    | some d => .error d

/-- Takes the elements of a literal for the elements of a pattern. A
spread element is the last one. -/
def itemsAsTargets : List Value → Except Diagnostic (List Nat)
  | [] => .ok []
  | v :: rest =>
    let marks : Except Diagnostic (List Nat) :=
      match v with
      | hole => .ok []
      | assigned _ => .ok []
      | shorthand _ mark => .ok mark.toList
      | spread l w => if rest.isEmpty then w.asTarget else .error ⟨l, .spreadNotLast⟩
      | name _ => .ok []
      | place _ => .ok []
      | array _ items => itemsAsTargets items
      | object _ items => itemsAsTargets items
      | grouped l w =>
        match (grouped l w).placeMistake with
        | none => .ok []
        | some d => .error d
      | w => .error ⟨w.line, .invalidTarget⟩
    match marks, itemsAsTargets rest with
    | .error d, _ => .error d
    | .ok ms, .ok ns => .ok (ms ++ ns)
    | .ok _, .error d => .error d

end

end Value

/-! ### Goals -/

/-- What the enclosing constructs allow. -/
structure Context where
  /-- Whether `in` is an operator here. -/
  allowsIn : Bool := true
  /-- Whether this is inside an async function. -/
  isAsync : Bool := false
  /-- Whether this is inside a generator. -/
  isGenerator : Bool := false
  /-- Whether this is inside a function. -/
  inFunction : Bool := false
  deriving DecidableEq, Repr

/-- The lists of the grammar, by their elements. -/
inductive ListSort where
  /-- The arguments of a call. -/
  | arguments
  /-- Expressions in parentheses. -/
  | group
  /-- The elements of an array literal. -/
  | arrayItems
  /-- The properties of an object literal. -/
  | properties
  /-- The elements of an array pattern. -/
  | patternItems
  /-- The properties of an object pattern. -/
  | patternProperties
  /-- The parameters of a function. -/
  | parameters
  deriving DecidableEq, Repr

namespace ListSort

/-- What closes the list. -/
def close : ListSort → Punctuator
  | arguments | group | parameters => .rightParen
  | arrayItems | patternItems => .rightBracket
  | properties | patternProperties => .rightBrace

/-- Whether a comma may follow the last element as part of the list. -/
def takesTrailingComma : ListSort → Bool
  | group | arrayItems | properties => false
  | _ => true

/-- The complaint about elements after a rest element. -/
def restComplaint? : ListSort → Option Complaint
  | patternItems | patternProperties => some .restElementNotLast
  | parameters => some .restParameterNotLast
  | _ => none

end ListSort

/-- What can be gone back to. -/
structure Snapshot where
  /-- The token at the front. -/
  token : Token
  /-- The number of tokens read. -/
  index : Nat
  /-- The line that the token before it ends on. -/
  lastLine : Nat
  /-- The mistakes in characters, last one first. -/
  lexical : List Diagnostic
  /-- The mistakes noted, last one first. -/
  noted : List Diagnostic
  /-- What is allowed. -/
  context : Context
  deriving Repr

/-- What is to be found or done. -/
inductive Goal where
  /-- Statements up to a closing brace or, outside of functions, up to
  the end. -/
  | statements (nested : Bool)
  /-- Statements up to a closing brace. -/
  | blockStatements
  /-- Statements up to the next case. -/
  | caseStatements
  /-- A statement; `single` where no declaration may stand. -/
  | statement (single : Bool)
  /-- A statement in braces. -/
  | block
  /-- A punctuator. -/
  | expect (p : Punctuator)
  /-- A keyword. -/
  | expectWord (w : String)
  /-- A semicolon, if there is one. -/
  | optionalSemicolon
  /-- The end of a statement, by a semicolon or without. -/
  | endStatement
  /-- An expression in parentheses. -/
  | condition
  /-- An `else` with its statement, if there is one. -/
  | elseBranch
  /-- The end of a statement that began with an expression. -/
  | afterExpression (single : Bool)
  /-- The cases of a `switch`. -/
  | cases
  /-- Handler and finalizer of a `try` whose block ended on the current
  line. -/
  | handlers
  /-- The finalizer of a `try`; `handled` if it has a handler. -/
  | finalizer (handled : Bool) (line : Nat)
  /-- Checks that a `return` on this line stands in a function. -/
  | checkReturn (line : Nat)
  /-- The declarators of a declaration; `word` is its keyword and `line`
  its own. -/
  | declarators (word : String) (inLoop : Bool)
  /-- The value of a declarator. -/
  | declaratorValue (word : String) (inLoop : Bool) (line : Nat)
  /-- A comma and further declarators, if there are any. -/
  | moreDeclarators (word : String) (inLoop : Bool)
  /-- Notes a mistake. -/
  | note (d : Diagnostic)
  /-- The head of a `for` after its parenthesis. -/
  | loopHead (isAwait : Bool) (line : Nat)
  /-- What follows a declaration in the head of a `for`. -/
  | loopAfterDeclaration (isAwait : Bool) (line : Nat)
  /-- What follows an expression in the head of a `for`. -/
  | loopAfterExpression (isAwait : Bool) (line : Nat)
  /-- The rest of a counting `for`. -/
  | loopCounting (isAwait : Bool) (line : Nat)
  /-- The test of a counting `for`. -/
  | loopTest
  /-- The step of a counting `for`. -/
  | loopStep
  /-- A pattern or name that is bound. -/
  | binding
  /-- A bound pattern with a default, if there is one. -/
  | bindingWithDefault
  /-- The default of a bound pattern, if there is one. -/
  | bindingDefault
  /-- What follows a rest element. -/
  | afterRest (line : Nat)
  /-- A property of an object pattern. -/
  | bindingProperty
  /-- What follows the name of a property in an object pattern. -/
  | afterBindingKey (isName : Bool)
  /-- The elements of a list, those already read being reversed. -/
  | list (sort : ListSort) (first : Bool) (items : List Value)
  /-- Adds the last expression to the elements. -/
  | listAdd (sort : ListSort) (items : List Value)
  /-- A function declaration. -/
  | functionDeclaration (single : Bool)
  /-- A function after its `function`. -/
  | functionExpression (isAsync : Bool)
  /-- Parameters and body of a function. -/
  | functionTail (isAsync isGenerator : Bool)
  /-- The body of a function in braces. -/
  | functionBody
  /-- A class from its keyword on. -/
  | classTail (declared : Bool)
  /-- The superclass, if there is one. -/
  | heritage
  /-- The elements of a class. -/
  | classElements
  /-- An element of a class after its modifiers. -/
  | classElement
  /-- An element of a class after its name. -/
  | afterElementName (isMethod isAsync isGenerator : Bool)
  /-- The name of a property. -/
  | propertyName
  /-- What follows the name of a property in an object literal. -/
  | afterPropertyName (line : Nat)
  /-- A default of a shorthand property. -/
  | afterShorthand (line : Nat) (mark : Nat)
  /-- Sets what is allowed. -/
  | setContext (c : Context)
  /-- Sets what is known of the last expression. -/
  | setValue (v : Value)
  /-- An expression with its commas. -/
  | expression
  /-- The rest of an expression after a part of it. -/
  | moreExpressions
  /-- An assignment or anything simpler. -/
  | assignment
  /-- What follows the left side of an assignment. -/
  | afterOperand
  /-- What follows the arrow of a function. -/
  | arrowBody (isAsync : Bool)
  /-- The head of an arrow function with parentheses. -/
  | arrowHead (isAsync : Bool)
  /-- Checks the place of an arrow and reads it. -/
  | arrow
  /-- A point to go back to if the head of an arrow function fails. -/
  | attempt (isAsync : Bool) (saved : Snapshot)
  /-- The second half of a conditional. -/
  | otherwise (line : Nat)
  /-- Operands joined by operators that bind more tightly than
  `floor`. -/
  | operation (floor : Nat)
  /-- The operators after an operand. -/
  | operators (line floor : Nat)
  /-- What follows the right operand. -/
  | afterRight (line floor : Nat) (operator : Kind) (left : Value)
  /-- A unary expression. -/
  | unary
  /-- An expression with postfix operators. -/
  | postfixed
  /-- A postfix operator, if there is one. -/
  | afterPlace
  /-- Checks that the last expression is a place, then takes the
  expression from `line` on as a whole. -/
  | checkPlace (line : Nat)
  /-- An expression with members and calls. -/
  | leftHandSide
  /-- Members and, if wanted, calls of the last expression. -/
  | suffixes (line : Nat) (calls chain : Bool)
  /-- The arguments of `new`. -/
  | newArguments (line : Nat)
  /-- The end of a chain in the callee of `new`. -/
  | primary
  /-- The end of parentheses that began on `line`. -/
  | closeGroup (line : Nat)
  /-- The end of an array literal. -/
  | closeArray (line : Nat)
  /-- The end of an object literal. -/
  | closeObject (line : Nat)
  /-- Wraps the last expression into a spread element. -/
  | wrapSpread (line : Nat)
  /-- Reads on in a template behind a substitution. -/
  | templateTail
  /-- The pieces of a template after the first. -/
  | templatePieces (tagged : Bool)
  /-- Decorators in front of a class. -/
  | decorators
  /-- A name of a module's export or import, or a list of them. -/
  | moduleNames
  /-- The source of a module, if there is one. -/
  | moduleSource
  deriving Repr

/-! ### State -/

/-- The state of the check. -/
structure State where
  /-- The token at the front. -/
  token : Token
  /-- The number of tokens read. -/
  index : Nat := 0
  /-- The line that the token before it ends on. -/
  lastLine : Nat := 1
  /-- The mistakes in characters, last one first. -/
  lexical : List Diagnostic := []
  /-- The mistakes noted, last one first. -/
  noted : List Diagnostic := []
  /-- What is allowed. -/
  context : Context := {}
  /-- What is known of the last expression. -/
  value : Value := .hole
  /-- The elements of the last list. -/
  items : List Value := []
  /-- Defaults in object literals that are not in a pattern so far. -/
  strayDefaults : List (Nat × Nat) := []
  /-- Declarators without a value in the head of a loop. -/
  unset : List Diagnostic := []
  /-- Places where no arrow function begins. -/
  notArrows : Std.HashSet Nat := {}
  /-- What is to be found, the next thing first. -/
  goals : List Goal := []

/-- A mistake that the check cannot go on from. -/
structure Failure where
  /-- The mistake. -/
  diagnostic : Diagnostic
  /-- The state in which it was found. -/
  state : State

/-- What a step results in. -/
abbrev Step := Except Failure State

namespace State

/-- Passes the token at the front. -/
def advance (s : State) : State :=
  let (t, ds) := s.token.following
  { s with
    token := t, index := s.index + 1, lastLine := s.token.endLine
    lexical := ds.reverse ++ s.lexical }

/-- Puts goals on the stack, the first of them on top. -/
def push (s : State) (gs : List Goal) : State := { s with goals := gs ++ s.goals }

/-- Notes a mistake. -/
def complain (s : State) (line : Nat) (c : Complaint) : State :=
  { s with noted := ⟨line, c⟩ :: s.noted }

/-- Whether the token at the front is `p`. -/
def isAt (s : State) (p : Punctuator) : Bool := s.token.kind == .punctuator p

/-- Whether the token at the front is the word `w`. -/
def isAtWord (s : State) (w : String) : Bool := s.token.kind == .word w

/-- The token after the one at the front. -/
def peek (s : State) : Token := s.token.following.1

/-- Whether a statement may end in front of this token without a
semicolon of its own. -/
def canEndStatement (s : State) : Bool :=
  s.isAt .semicolon || s.isAt .rightBrace || s.token.kind == .endOfText ||
    s.token.afterNewline

/-- Ends the check. -/
def fail (s : State) (line : Nat) (c : Complaint) : Step := .error ⟨⟨line, c⟩, s⟩

/-- Ends the check at a token that cannot stand here. A mistake in its
characters explains it better. -/
def unexpected (s : State) : Step :=
  match s.token.kind, s.lexical with
  | .unreadable, d :: ds => .error ⟨d, { s with lexical := ds }⟩
  | _, _ => s.fail s.token.line .unexpectedToken

/-- Passes the punctuator `p`. -/
def expect (s : State) (p : Punctuator) : Step :=
  if s.isAt p then .ok s.advance
  else s.fail s.token.line (.expected p.text s.token.kind.text)

/-- Goals in a context of their own. -/
def within (s : State) (c : Context) (gs : List Goal) : List Goal :=
  .setContext c :: gs ++ [.setContext s.context]

/-- Goals in a context where `in` is an operator. -/
def withIn (s : State) (gs : List Goal) : List Goal :=
  s.within { s.context with allowsIn := true } gs

/-- Keeps what can be gone back to. -/
def save (s : State) : Snapshot :=
  ⟨s.token, s.index, s.lastLine, s.lexical, s.noted, s.context⟩

/-- Goes back. -/
def restore (s : State) (saved : Snapshot) : State :=
  { s with
    token := saved.token, index := saved.index, lastLine := saved.lastLine
    lexical := saved.lexical, noted := saved.noted, context := saved.context }

/-- Takes the last expression for a pattern, or fails. -/
def takeAsTarget (s : State) : Step :=
  match s.value.asTarget with
  | .error d => .error ⟨d, s⟩
  | .ok marks =>
    .ok { s with strayDefaults := s.strayDefaults.filter fun d => !marks.contains d.1 }

/-- Takes the last expression for one place, or fails. -/
def takeAsPlace (s : State) : Step :=
  match s.value.placeMistake with
  | some d => .error ⟨d, s⟩
  | none => .ok s

/-- The first mistake: one in characters if there is any, else one in
structure, else a default that no pattern holds. -/
def firstMistake (s : State) : Option Diagnostic :=
  match s.lexical.getLast? with
  | some d => some d
  | none =>
    match s.noted.getLast? with
    | some d => some d
    | none => s.strayDefaults.getLast?.map fun d => ⟨d.2, .strayDefault⟩

end State
end ScriptGate.Grammar
