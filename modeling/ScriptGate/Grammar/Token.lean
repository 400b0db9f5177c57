import ScriptGate.Text.Basic

/-!
# `ScriptGate.Grammar.Token`: the words of a program text

Tokens of JavaScript scripts. Keywords and identifiers are both words;
which words are reserved is a matter of `isReserved`, because the other
keywords are names wherever the grammar does not ask for them.
-/

set_option autoImplicit false

namespace ScriptGate.Grammar

/-- The punctuators. -/
inductive Punctuator where
  | leftParen | rightParen | leftBracket | rightBracket | leftBrace | rightBrace
  | semicolon | comma | colon | dot | ellipsis | arrow | atSign
  | question | optionalChain | coalesce | coalesceAssign
  | assign | equal | strictEqual | bang | notEqual | strictNotEqual
  | plus | increment | plusAssign | minus | decrement | minusAssign
  | times | power | timesAssign | powerAssign
  | slash | slashAssign | percent | percentAssign
  | bitAnd | logicalAnd | bitAndAssign | logicalAndAssign
  | bitOr | logicalOr | bitOrAssign | logicalOrAssign
  | bitXor | bitXorAssign | tilde
  | less | lessEqual | shiftLeft | shiftLeftAssign
  | greater | greaterEqual | shiftRight | shiftRightAssign
  | shiftRightZero | shiftRightZeroAssign
  deriving DecidableEq, Repr

/-- The characters of a punctuator. -/
def Punctuator.text : Punctuator → String
  | leftParen => "(" | rightParen => ")" | leftBracket => "[" | rightBracket => "]"
  | leftBrace => "\x7b" | rightBrace => "\x7d"
  | semicolon => ";" | comma => "," | colon => ":" | dot => "." | ellipsis => "..."
  | arrow => "=>" | atSign => "@"
  | question => "?" | optionalChain => "?." | coalesce => "??" | coalesceAssign => "??="
  | assign => "=" | equal => "==" | strictEqual => "==="
  | bang => "!" | notEqual => "!=" | strictNotEqual => "!=="
  | plus => "+" | increment => "++" | plusAssign => "+="
  | minus => "-" | decrement => "--" | minusAssign => "-="
  | times => "*" | power => "**" | timesAssign => "*=" | powerAssign => "**="
  | slash => "/" | slashAssign => "/=" | percent => "%" | percentAssign => "%="
  | bitAnd => "&" | logicalAnd => "&&" | bitAndAssign => "&=" | logicalAndAssign => "&&="
  | bitOr => "|" | logicalOr => "||" | bitOrAssign => "|=" | logicalOrAssign => "||="
  | bitXor => "^" | bitXorAssign => "^=" | tilde => "~"
  | less => "<" | lessEqual => "<=" | shiftLeft => "<<" | shiftLeftAssign => "<<="
  | greater => ">" | greaterEqual => ">=" | shiftRight => ">>" | shiftRightAssign => ">>="
  | shiftRightZero => ">>>" | shiftRightZeroAssign => ">>>="

/-- Whether the punctuator assigns. -/
def Punctuator.isAssignment : Punctuator → Bool
  | assign | plusAssign | minusAssign | timesAssign | powerAssign | slashAssign
  | percentAssign | bitAndAssign | logicalAndAssign | bitOrAssign | logicalOrAssign
  | bitXorAssign | coalesceAssign | shiftLeftAssign | shiftRightAssign
  | shiftRightZeroAssign => true
  | _ => false

/-- How tightly a binary operator binds. -/
def Punctuator.precedence? : Punctuator → Option Nat
  | coalesce => some 1
  | logicalOr => some 2
  | logicalAnd => some 3
  | bitOr => some 4
  | bitXor => some 5
  | bitAnd => some 6
  | equal | notEqual | strictEqual | strictNotEqual => some 7
  | less | lessEqual | greater | greaterEqual => some 8
  | shiftLeft | shiftRight | shiftRightZero => some 9
  | plus | minus => some 10
  | times | slash | percent => some 11
  | power => some 12
  | _ => none

/-- The forms of numbers. -/
inductive NumberForm where
  /-- Decimal digits alone. -/
  | decimal
  /-- Digits with a point. -/
  | float
  /-- With an exponent. -/
  | exponential (negative : Bool)
  /-- Of base sixteen. -/
  | hexadecimal
  /-- Of base eight. -/
  | octal
  /-- Of base two. -/
  | binary
  deriving DecidableEq, Repr

/-- How a number is called. -/
def NumberForm.text : NumberForm → String
  | decimal => "decimal"
  | float => "float"
  | exponential true => "negative exponential"
  | exponential false => "positive exponential"
  | hexadecimal => "hex"
  | octal => "octal"
  | binary => "binary"

/-- The pieces of templates between substitutions. -/
inductive TemplatePiece where
  /-- A template without substitutions. -/
  | whole
  /-- The part up to the first substitution. -/
  | head
  /-- The part between two substitutions. -/
  | middle
  /-- The part after the last substitution. -/
  | tail
  deriving DecidableEq, Repr

/-- The kinds of tokens. -/
inductive Kind where
  /-- The end of the text. -/
  | endOfText
  /-- Something that is no token. -/
  | unreadable
  /-- A punctuator. -/
  | punctuator (p : Punctuator)
  /-- An identifier or keyword. -/
  | word (name : String)
  /-- A name that begins with a number sign. -/
  | privateName
  /-- A number. -/
  | number (form : NumberForm)
  /-- A string. -/
  | string
  /-- A regular expression. -/
  | pattern
  /-- A piece of a template. The flag says whether its escapes mean
  something. -/
  | template (piece : TemplatePiece) (sound : Bool)
  deriving DecidableEq, Repr

/-- The words that are never names. -/
def reservedWords : List String :=
  ["break", "case", "catch", "class", "const", "continue", "debugger", "default", "delete",
    "do", "else", "enum", "export", "extends", "false", "finally", "for", "function", "if",
    "import", "in", "instanceof", "new", "null", "return", "super", "switch", "this", "throw",
    "true", "try", "typeof", "var", "void", "while", "with"]

/-- The words that are names but mean something in places. -/
def contextualWords : List String :=
  ["abstract", "accessor", "any", "as", "assert", "asserts", "async", "await", "bigint",
    "boolean", "constructor", "declare", "from", "get", "global", "implements", "infer",
    "interface", "intrinsic", "is", "keyof", "let", "meta", "module", "namespace", "never",
    "number", "object", "of", "out", "override", "package", "private", "protected", "public",
    "readonly", "require", "satisfies", "set", "static", "string", "symbol", "target", "type",
    "undefined", "unique", "unknown", "using", "yield"]

/-- Whether a word is never a name. -/
def isReserved (word : String) : Bool := reservedWords.contains word

namespace Kind

/-- How a token that was found is called. -/
def text : Kind → String
  | endOfText => "EOF"
  | unreadable => "Unknown"
  | punctuator p => p.text
  | word name => if isReserved name || contextualWords.contains name then name else "Identifier"
  | privateName => "#identifier"
  | number form => form.text
  | string => "string"
  | pattern => "/regexp/"
  | template .whole _ => "$\x7b\x7d"
  | template .head _ => "$\x7b"
  | template .middle _ => "$\x7bexpr\x7d"
  | template .tail _ => "\x7d"

/-- Whether the token can be a name. -/
def isName : Kind → Bool
  | word name => !isReserved name
  | _ => false

/-- Whether the token is a word of any sort. -/
def isWord : Kind → Bool
  | word _ => true
  | _ => false

/-- Whether the token is a literal of one word. -/
def isLiteral : Kind → Bool
  | number _ | string | pattern => true
  | word name => name == "true" || name == "false" || name == "null"
  | _ => false

/-- Whether a property or class element name can begin with the
token. -/
def beginsPropertyName : Kind → Bool
  | word _ | string | number _ | privateName | punctuator .leftBracket => true
  | _ => false

/-- Whether the token is a binary operator. -/
def isBinaryOperator : Kind → Bool
  | punctuator p => p.precedence?.isSome
  | word name => name == "in" || name == "instanceof"
  | _ => false

/-- How tightly the token binds as a binary operator. -/
def precedence? : Kind → Option Nat
  | punctuator p => p.precedence?
  | word name => if name == "in" || name == "instanceof" then some 8 else none
  | _ => none

end Kind

/-- A token in its place. -/
structure Token where
  /-- What it is. -/
  kind : Kind
  /-- The line that it begins on. -/
  line : Nat
  /-- The line that it ends on. -/
  endLine : Nat
  /-- Whether a line terminator comes before it. -/
  afterNewline : Bool
  /-- The text after it. -/
  rest : Text
  deriving Repr

end ScriptGate.Grammar
