import ScriptGate.Grammar.Diagnostic
import ScriptGate.Grammar.Token
import ScriptGate.Unicode.Identifier

/-!
# `ScriptGate.Grammar.Lexer`: from characters to tokens

`scan` reads the next token of a text. What a slash begins cannot be
told from the characters alone, so `scan` takes it for an operator, and
`scanPattern` reads a regular expression from it where the grammar
wants one. In the same way `scanTemplateTail` reads on in a template
behind the brace that ends a substitution.

Mistakes in characters do not stop the reading. They are handed out
beside the token, and where nothing sensible can be made of the
characters the token is `unreadable`.
-/

set_option autoImplicit false

namespace ScriptGate.Grammar

/-! ### Blanks and comments -/

/-- Whether `c` is a line separator or a paragraph separator. -/
def isSeparator (c : Char) : Bool := c.toNat == 0x2028 || c.toNat == 0x2029

/-- Whether `c` ends a line of the program. -/
def isLineTerminator (c : Char) : Bool := c == '\n' || c == '\r' || isSeparator c

/-- Whether `c` is a blank between tokens. -/
def isProgramBlank (c : Char) : Bool :=
  let n := c.toNat
  n == 0x20 || n == 9 || n == 11 || n == 12 || n == 0x85 || n == 0xA0 || n == 0x1680 ||
  (0x2000 ≤ n && n ≤ 0x200B) || n == 0x202F || n == 0x205F || n == 0x3000 || n == 0xFEFF

/-- What the characters between tokens belong to. -/
inductive Trivia where
  /-- The program. -/
  | code
  /-- A comment that ends with its line. -/
  | lineComment
  /-- A comment that began on the given line. -/
  | blockComment (line : Nat)
  deriving DecidableEq, Repr

/-- Where the next token begins. -/
structure Gap where
  /-- The line of the next token. -/
  line : Nat
  /-- Whether a line terminator was passed. -/
  newline : Bool
  /-- The text from the next token on. -/
  rest : Text
  /-- The line of a comment that does not end. -/
  openComment : Option Nat
  deriving Repr

/-- Passes blanks and comments. -/
def skipTrivia : Trivia → Nat → Bool → Text → Gap
  | .blockComment start, line, newline, [] => ⟨line, newline, [], some start⟩
  | _, line, newline, [] => ⟨line, newline, [], none⟩
  | .code, line, newline, '/' :: '/' :: rest => skipTrivia .lineComment line newline rest
  | .code, line, newline, '/' :: '*' :: rest =>
    skipTrivia (.blockComment line) line newline rest
  | .code, line, newline, '<' :: '!' :: '-' :: '-' :: rest =>
    skipTrivia .lineComment line newline rest
  | .code, line, true, '-' :: '-' :: '>' :: rest => skipTrivia .lineComment line true rest
  | .blockComment _, line, newline, '*' :: '/' :: rest =>
    skipTrivia .code line newline rest
  | mode, line, newline, c :: rest =>
    if c == '\n' then
      skipTrivia (match mode with | .blockComment l => .blockComment l | _ => .code)
        (line + 1) true rest
    else if c == '\r' || isSeparator c then
      skipTrivia (match mode with | .blockComment l => .blockComment l | _ => .code)
        line true rest
    else
      match mode with
      | .code =>
        if isProgramBlank c then skipTrivia .code line newline rest
        else ⟨line, newline, c :: rest, none⟩
      | mode => skipTrivia mode line newline rest

/-! ### Words -/

/-- Whether an identifier can begin with `c`. -/
def beginsIdentifier (c : Char) : Bool :=
  if c.toNat < 128 then c.isAlpha || c == '$' || c == '_'
  else Unicode.identifierStartTable.contains c

/-- Whether an identifier can go on with `c`. -/
def continuesIdentifier (c : Char) : Bool :=
  if c.toNat < 128 then c.isAlphanum || c == '$' || c == '_'
  else Unicode.identifierPartTable.contains c || c.toNat == 0x200C || c.toNat == 0x200D

/-- Where the reader of an identifier stands. -/
inductive IdentifierState where
  /-- Between characters. -/
  | plain
  /-- After a backslash. -/
  | backslash
  /-- After `\u`. -/
  | unicode
  /-- Inside the digits of an escape, of which `left` are to come; `none`
  is any number of them up to a brace. -/
  | digits (left : Option Nat) (value : Nat)
  deriving DecidableEq, Repr

/-- Reads an identifier from its beginning on. Without a text the
identifier has a malformed escape. -/
def readIdentifier : IdentifierState → Text → Text → Option Text × Text
  | .plain, acc, [] => (some acc.reverse, [])
  | _, _, [] => (none, [])
  | .plain, acc, c :: rest =>
    if c == '\\' then readIdentifier .backslash acc rest
    else if continuesIdentifier c then readIdentifier .plain (c :: acc) rest
    else (some acc.reverse, c :: rest)
  | .backslash, acc, c :: rest =>
    if c == 'u' then readIdentifier .unicode acc rest else (none, c :: rest)
  | .unicode, acc, c :: rest =>
    if c == '{' then readIdentifier (.digits none 0) acc rest
    else
      match Text.hexValue? c with
      | some d => readIdentifier (.digits (some 3) d) acc rest
      | none => (none, c :: rest)
  | .digits left value, acc, c :: rest =>
    match Text.hexValue? c, left with
    | some d, some 1 =>
      match Text.charOfNat? (16 * value + d) with
      | some e =>
        if (if acc.isEmpty then beginsIdentifier e else continuesIdentifier e) then
          readIdentifier .plain (e :: acc) rest
        else (none, rest)
      | none => (none, rest)
    | some d, some n => readIdentifier (.digits (some (n - 1)) (16 * value + d)) acc rest
    | some d, none => readIdentifier (.digits none (16 * value + d)) acc rest
    | none, none =>
      if c == '}' then
        match Text.charOfNat? value with
        | some e =>
          if (if acc.isEmpty then beginsIdentifier e else continuesIdentifier e) then
            readIdentifier .plain (e :: acc) rest
          else (none, rest)
        | none => (none, rest)
      else (none, c :: rest)
    | none, some _ => (none, c :: rest)

/-! ### What a token leaves -/

/-- A token without its place: what it is, how many line feeds it holds,
the text after it, and what is wrong with its characters. -/
structure Lexeme where
  /-- What the token is. -/
  kind : Kind
  /-- The number of line feeds in it. -/
  lineFeeds : Nat := 0
  /-- The text after it. -/
  rest : Text
  /-- What is wrong with it, first things first. -/
  complaints : List Complaint := []
  deriving Repr

/-! ### Numbers -/

/-- Reads the digits of a number that belong to a base, with single
underscores between them. The complaint is about an underscore without
a digit after it. -/
def readDigits (isDigit : Char → Bool) : Text → Text × Option Complaint
  | [] => ([], none)
  | c :: rest =>
    if c == '_' then
      match rest with
      | [] => ([], some .unexpectedEnd)
      | d :: rest' =>
        if isDigit d then readDigits isDigit (d :: rest') else (d :: rest', some (.invalidCharacter d))
    else if isDigit c then readDigits isDigit rest
    else (c :: rest, none)

/-- Reads digits of which there must be one at least. -/
def readSomeDigits (isDigit : Char → Bool) (t : Text) : Text × Option Complaint :=
  match t with
  | [] => ([], some .unexpectedEnd)
  | c :: rest =>
    if isDigit c then readDigits isDigit rest else (c :: rest, some (.invalidCharacter c))

/-- The end of a number: neither a digit nor a name follows it. -/
def endNumber (form : NumberForm) (complaints : List (Option Complaint)) (t : Text) : Lexeme :=
  let complaints := complaints.filterMap id
  match t with
  | [] => ⟨.number form, 0, [], complaints⟩
  | c :: _ =>
    if Text.isDigit c || beginsIdentifier c then
      ⟨.unreadable, 0, (t.drop 1).dropWhile beginsIdentifier, complaints ++ [.numberRunsOn]⟩
    else ⟨.number form, 0, t, complaints⟩

/-- Reads an exponent, if there is one, and ends the number. -/
def readExponentPart (form : NumberForm) (complaints : List (Option Complaint)) (t : Text) :
    Lexeme :=
  match t with
  | e :: rest =>
    if e == 'e' || e == 'E' then
      let (negative, rest) :=
        match rest with
        | '-' :: r => (true, r)
        | '+' :: r => (false, r)
        | r => (false, r)
      let (rest, complaint) := readSomeDigits Text.isDigit rest
      endNumber (.exponential negative) (complaints ++ [complaint]) rest
    else endNumber form complaints t
  | [] => endNumber form complaints t

/-- Reads what follows the point of a number. -/
def readFraction (complaints : List (Option Complaint)) (t : Text) : Lexeme :=
  match t with
  | c :: _ =>
    if Text.isDigit c then
      let (rest, complaint) := readDigits Text.isDigit t
      readExponentPart .float (complaints ++ [complaint]) rest
    else readExponentPart .float complaints t
  | [] => endNumber .float complaints []

/-- Reads what follows the digits in front of a point. -/
def readAfterWhole (complaints : List (Option Complaint)) (t : Text) : Lexeme :=
  match t with
  | '.' :: rest => readFraction complaints rest
  | 'n' :: rest => endNumber .decimal complaints rest
  | t => readExponentPart .decimal complaints t

/-- Reads a number of another base after its letter. -/
def readBased (form : NumberForm) (isDigit : Char → Bool) (t : Text) : Lexeme :=
  match t with
  | [] => ⟨.unreadable, 0, [], [.unexpectedEnd]⟩
  | c :: rest =>
    if isDigit c then
      let (rest, complaint) := readDigits isDigit rest
      match rest with
      | 'n' :: rest => endNumber form [complaint] rest
      | rest => endNumber form [complaint] rest
    else ⟨.unreadable, 0, c :: rest, [.invalidCharacter c]⟩

/-- Reads a number that begins with a zero and another digit. -/
def readLeadingZero (t : Text) : Lexeme :=
  let (digits, rest) := t.span Text.isDigit
  if digits.all (fun c => c < '8') then endNumber .octal [] rest
  else
    match rest with
    | '.' :: rest => readFraction [] rest
    | rest => readExponentPart .decimal [] rest

/-- Reads a number from its first digit on. -/
def readNumeral : Text → Lexeme
  | '0' :: rest =>
    match rest with
    | c :: rest' =>
      if c == 'b' || c == 'B' then readBased .binary (fun d => d == '0' || d == '1') rest'
      else if c == 'o' || c == 'O' then readBased .octal (fun d => '0' ≤ d && d ≤ '7') rest'
      else if c == 'x' || c == 'X' then
        readBased .hexadecimal (fun d => (Text.hexValue? d).isSome) rest'
      else if Text.isDigit c then readLeadingZero rest
      else readAfterWhole [] rest
    | [] => endNumber .decimal [] []
  | t =>
    let (rest, complaint) := readDigits Text.isDigit t
    readAfterWhole [complaint] rest

/-! ### Strings and templates -/

/-- The quote that opens a string beside the double one. -/
def singleQuote : Char := Char.ofNat 0x27

/-- The mark around templates. -/
def templateMark : Char := Char.ofNat 0x60

/-- Where the reader of a string stands. -/
inductive StringState where
  /-- Between characters. -/
  | plain
  /-- After a backslash. -/
  | backslash
  /-- Inside an escape that still needs this many digits. -/
  | digits (left : Nat)
  /-- After `\u`. -/
  | unicode
  /-- Inside `\u` and a brace, with the value so far, none without
  digits. -/
  | braced (value : Option Nat)
  deriving DecidableEq, Repr

/-- What a string reader does at a character: go on in a state, or note
a malformed escape and look at the character again. -/
def stringStep (state : StringState) (c : Char) : Option StringState :=
  match state with
  | .plain => some (if c == '\\' then .backslash else .plain)
  | .backslash =>
    if c == 'x' then some (.digits 2) else if c == 'u' then some .unicode else some .plain
  | .digits n =>
    match Text.hexValue? c with
    | some _ => some (if n ≤ 1 then .plain else .digits (n - 1))
    | none => none
  | .unicode =>
    if c == '{' then some (.braced none)
    else
      match Text.hexValue? c with
      | some _ => some (.digits 3)
      | none => none
  | .braced value =>
    match Text.hexValue? c, value with
    | some d, v =>
      let n := 16 * v.getD 0 + d
      if n ≤ 0x10FFFF then some (.braced (some n)) else none
    | none, some _ => if c == '}' then some .plain else none
    | none, none => none

/-- How a string reader ended. -/
structure StringEnd where
  /-- Whether the closing mark was found. -/
  closed : Bool
  /-- Whether all escapes mean something. -/
  sound : Bool
  /-- The number of line feeds passed. -/
  lineFeeds : Nat
  /-- The text after the string. -/
  rest : Text

/-- Reads a string up to its closing quote. A line terminator ends it
too soon unless a backslash precedes it. -/
def readStringBody (quote : Char) : StringState → Bool → Nat → Text → StringEnd
  | _, sound, n, [] => ⟨false, sound, n, []⟩
  | .backslash, sound, n, '\r' :: '\n' :: rest =>
    readStringBody quote .plain sound (n + 1) rest
  | state, sound, n, c :: rest =>
    if state == .backslash && (c == '\n' || c == '\r') then
      readStringBody quote .plain sound (if c == '\n' then n + 1 else n) rest
    else
      match stringStep state c with
      | some next =>
        if state == .plain && c == quote then ⟨true, sound, n, rest⟩
        else if state == .plain && (c == '\n' || c == '\r') then ⟨false, sound, n, c :: rest⟩
        else readStringBody quote next sound n rest
      | none =>
        -- the malformed escape ends in front of this character
        if c == quote then ⟨true, false, n, rest⟩
        else if c == '\n' || c == '\r' then ⟨false, false, n, c :: rest⟩
        else readStringBody quote (if c == '\\' then .backslash else .plain) false n rest

/-- How a piece of a template ended. -/
structure TemplateEnd where
  /-- Whether a substitution follows, if the piece ends at all. -/
  substitution : Option Bool
  /-- Whether all escapes mean something. -/
  sound : Bool
  /-- The number of line feeds passed. -/
  lineFeeds : Nat
  /-- The text after the piece. -/
  rest : Text

/-- Whether the character after a backslash makes an escape that no
template may have. -/
def isOctalEscape (c : Char) (rest : Text) : Bool :=
  ('1' ≤ c && c ≤ '9') || (c == '0' && rest.head?.any Text.isDigit)

/-- Reads a piece of a template. -/
def readTemplate : StringState → Bool → Nat → Text → TemplateEnd
  | _, sound, n, [] => ⟨none, sound, n, []⟩
  | .plain, sound, n, '$' :: '{' :: rest => ⟨some true, sound, n, rest⟩
  | state, sound, n, c :: rest =>
    let n' := if c == '\n' then n + 1 else n
    match stringStep state c with
    | some next =>
      if state == .plain && c == templateMark then ⟨some false, sound, n, rest⟩
      else
        readTemplate next (sound && !(state == .backslash && isOctalEscape c rest)) n' rest
    | none =>
      if c == templateMark then ⟨some false, false, n, rest⟩
      else readTemplate (if c == '\\' then .backslash else .plain) false n' rest

/-- The token of a template piece that ended in some way. -/
def templateLexeme (last next : TemplatePiece) (e : TemplateEnd) : Lexeme :=
  match e.substitution with
  | none => ⟨.unreadable, e.lineFeeds, e.rest, [.unterminatedString]⟩
  | some true => ⟨.template next e.sound, e.lineFeeds, e.rest, []⟩
  | some false => ⟨.template last e.sound, e.lineFeeds, e.rest, []⟩

/-! ### Punctuators -/

/-- The longest punctuator at the beginning of a text. -/
def readPunctuator : Text → Option (Punctuator × Text)
  | '(' :: r => some (.leftParen, r)
  | ')' :: r => some (.rightParen, r)
  | '[' :: r => some (.leftBracket, r)
  | ']' :: r => some (.rightBracket, r)
  | '{' :: r => some (.leftBrace, r)
  | '}' :: r => some (.rightBrace, r)
  | ';' :: r => some (.semicolon, r)
  | ',' :: r => some (.comma, r)
  | ':' :: r => some (.colon, r)
  | '~' :: r => some (.tilde, r)
  | '@' :: r => some (.atSign, r)
  | '.' :: '.' :: '.' :: r => some (.ellipsis, r)
  | '.' :: r => some (.dot, r)
  | '=' :: '=' :: '=' :: r => some (.strictEqual, r)
  | '=' :: '=' :: r => some (.equal, r)
  | '=' :: '>' :: r => some (.arrow, r)
  | '=' :: r => some (.assign, r)
  | '!' :: '=' :: '=' :: r => some (.strictNotEqual, r)
  | '!' :: '=' :: r => some (.notEqual, r)
  | '!' :: r => some (.bang, r)
  | '+' :: '+' :: r => some (.increment, r)
  | '+' :: '=' :: r => some (.plusAssign, r)
  | '+' :: r => some (.plus, r)
  | '-' :: '-' :: r => some (.decrement, r)
  | '-' :: '=' :: r => some (.minusAssign, r)
  | '-' :: r => some (.minus, r)
  | '*' :: '*' :: '=' :: r => some (.powerAssign, r)
  | '*' :: '*' :: r => some (.power, r)
  | '*' :: '=' :: r => some (.timesAssign, r)
  | '*' :: r => some (.times, r)
  | '/' :: '=' :: r => some (.slashAssign, r)
  | '/' :: r => some (.slash, r)
  | '%' :: '=' :: r => some (.percentAssign, r)
  | '%' :: r => some (.percent, r)
  | '&' :: '&' :: '=' :: r => some (.logicalAndAssign, r)
  | '&' :: '&' :: r => some (.logicalAnd, r)
  | '&' :: '=' :: r => some (.bitAndAssign, r)
  | '&' :: r => some (.bitAnd, r)
  | '|' :: '|' :: '=' :: r => some (.logicalOrAssign, r)
  | '|' :: '|' :: r => some (.logicalOr, r)
  | '|' :: '=' :: r => some (.bitOrAssign, r)
  | '|' :: r => some (.bitOr, r)
  | '^' :: '=' :: r => some (.bitXorAssign, r)
  | '^' :: r => some (.bitXor, r)
  | '<' :: '<' :: '=' :: r => some (.shiftLeftAssign, r)
  | '<' :: '<' :: r => some (.shiftLeft, r)
  | '<' :: '=' :: r => some (.lessEqual, r)
  | '<' :: r => some (.less, r)
  | '>' :: '>' :: '>' :: '=' :: r => some (.shiftRightZeroAssign, r)
  | '>' :: '>' :: '>' :: r => some (.shiftRightZero, r)
  | '>' :: '>' :: '=' :: r => some (.shiftRightAssign, r)
  | '>' :: '>' :: r => some (.shiftRight, r)
  | '>' :: '=' :: r => some (.greaterEqual, r)
  | '>' :: r => some (.greater, r)
  | '?' :: '?' :: '=' :: r => some (.coalesceAssign, r)
  | '?' :: '?' :: r => some (.coalesce, r)
  | '?' :: '.' :: r =>
    if r.head?.any Text.isDigit then some (.question, '.' :: r) else some (.optionalChain, r)
  | '?' :: r => some (.question, r)
  | _ => none

/-! ### Tokens -/

/-- Reads the lexeme at the beginning of a text. -/
def readLexeme (t : Text) : Lexeme :=
  match t with
  | [] => ⟨.endOfText, 0, [], []⟩
  | c :: rest =>
    if c == '"' || c == singleQuote then
      let e := readStringBody c .plain true 0 rest
      let complaints := if e.sound then [] else [Complaint.invalidEscape]
      if e.closed then ⟨.string, e.lineFeeds, e.rest, complaints⟩
      else ⟨.unreadable, e.lineFeeds, e.rest, complaints ++ [.unterminatedString]⟩
    else if c == templateMark then templateLexeme .whole .head (readTemplate .plain true 0 rest)
    else if Text.isDigit c then readNumeral t
    else if c == '.' && rest.head?.any Text.isDigit then readFraction [] rest
    else if beginsIdentifier c || c == '\\' then
      match readIdentifier .plain [] t with
      | (some name, rest) => ⟨.word (String.ofList name), 0, rest, []⟩
      | (none, rest) => ⟨.unreadable, 0, rest, [.invalidUnicodeEscape]⟩
    else if c == '#' then
      match rest with
      | d :: _ =>
        if beginsIdentifier d || d == '\\' then
          match readIdentifier .plain [] rest with
          | (some _, rest) => ⟨.privateName, 0, rest, []⟩
          | (none, rest) => ⟨.unreadable, 0, rest, [.invalidUnicodeEscape]⟩
        else ⟨.unreadable, 0, rest, [.invalidCharacter d]⟩
      | [] => ⟨.unreadable, 0, [], [.unexpectedEnd]⟩
    else
      match readPunctuator t with
      | some (p, rest) => ⟨.punctuator p, 0, rest, []⟩
      | none => ⟨.unreadable, 0, rest, [.invalidCharacter c]⟩

/-- A lexeme as a token that begins on `line`. -/
def Lexeme.place (l : Lexeme) (line : Nat) (afterNewline : Bool) : Token × List Diagnostic :=
  (⟨l.kind, line, line + l.lineFeeds, afterNewline, l.rest⟩, l.complaints.map (⟨line, ·⟩))

/-- The next token of a text that continues on `line`, with the
mistakes in its characters. A comment without an end is the end of the
text. -/
def scan (line : Nat) (newline : Bool) (t : Text) : Token × List Diagnostic :=
  let gap := skipTrivia .code line newline t
  match gap.openComment with
  | some start =>
    (⟨.endOfText, gap.line, gap.line, gap.newline, []⟩, [⟨start, .unterminatedComment⟩])
  | none => (readLexeme gap.rest).place gap.line gap.newline

/-- The first token of a program, which may begin with a line that names
its interpreter. -/
def scanFirst (t : Text) : Token × List Diagnostic :=
  match t with
  | '#' :: '!' :: rest => scan 1 true (rest.dropWhile fun c => !isLineTerminator c)
  | t => scan 1 true t

/-- The token after `t`. -/
def Token.following (t : Token) : Token × List Diagnostic := scan t.endLine false t.rest

/-- Reads the inside of a regular expression up to its closing slash. -/
def readPatternBody (escaped inClass : Bool) : Text → Option Text
  | [] => none
  | c :: rest =>
    if isLineTerminator c then none
    else if escaped then readPatternBody false inClass rest
    else if c == '/' && !inClass then some rest
    else if c == '[' then readPatternBody false true rest
    else if c == ']' then readPatternBody false false rest
    else readPatternBody (c == '\\') inClass rest

/-- What is wrong with the flags of a regular expression. -/
def flagComplaints : Text → Text → List Complaint
  | _, [] => []
  | seen, c :: rest =>
    if !"dgimsuvy".toList.contains c then .unknownFlag c :: flagComplaints seen rest
    else if seen.contains c then .repeatedFlag c :: flagComplaints seen rest
    else flagComplaints (c :: seen) rest

/-- The regular expression that begins with the slash token `t`, when it
ends. -/
def Token.scanPattern (t : Token) : Option (Token × List Diagnostic) :=
  (readPatternBody false false t.rest).map fun rest =>
    let (flags, rest) := rest.span fun c => c.toNat < 128 && continuesIdentifier c
    (⟨.pattern, t.line, t.line, t.afterNewline, rest⟩,
      (flagComplaints [] flags).map (⟨t.line, ·⟩))

/-- The piece of a template that follows the closing brace `t` of a
substitution. -/
def Token.scanTemplateTail (t : Token) : Token × List Diagnostic :=
  (templateLexeme .tail .middle (readTemplate .plain true 0 t.rest)).place t.line t.afterNewline

end ScriptGate.Grammar
