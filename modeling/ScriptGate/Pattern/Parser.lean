import ScriptGate.Pattern.Weight

/-!
# `ScriptGate.Pattern.Parser`: the notation of patterns

`Pattern.parse?` reads a pattern from its usual notation. Literals,
classes, groups, alternatives, repetitions and assertions have their
common forms. Neither look-around nor references to groups exist.

* Flags hold from where they stand to the end of the enclosing group:
  `i` ignores case, `m` makes `^` and `$` see lines, `s` lets the dot
  match line ends, `U` exchanges greedy and reluctant repetitions, `R`
  takes carriage returns for line ends, `x` skips blanks and comments,
  and without `u` the named classes are ASCII.
* Classes nest and combine by `&&`, `--` and `~~`, which bind to the
  left and weaker than putting items side by side.
* A pattern nested too deep or too heavy (`maxWeight`) is no pattern.

In some places this is not the usual notation.

* Of the properties of Unicode, `\p` and `\P` know letters, decimal digits
  and white space (`property?`). The name of any other property makes the
  text denote no pattern, although the notation has it.
* Without `u`, only the named classes are ASCII (`Flags.ascii`). Which
  letters differ in case alone, where a word ends and what `\p` names is
  still decided by Unicode, and an escaped number from 128 on is still a
  character.
* Without `u`, a pattern that could match part of a character is refused
  only if a class in brackets or one of `\D`, `\S` and `\W` is negated, or
  if it has a dot. Whatever else could do so is read as if `u` were set.

Every reader takes the rest of the text and returns what it leaves.
-/

set_option autoImplicit false

namespace ScriptGate.Pattern

/-! ### Flags -/

/-- The flags in force at some place of a pattern. -/
structure Flags where
  /-- Letters match without regard to case. -/
  caseless : Bool := false
  /-- The anchors match at lines. -/
  multiline : Bool := false
  /-- The dot matches line ends. -/
  dotAll : Bool := false
  /-- Repetitions are reluctant unless marked. -/
  swapGreed : Bool := false
  /-- Carriage returns end lines. -/
  returns : Bool := false
  /-- Blanks and comments are skipped. -/
  extended : Bool := false
  /-- Named classes hold ASCII characters only. Nothing else becomes ASCII:
  case, boundaries of words, properties and escaped numbers stay those of
  Unicode. -/
  ascii : Bool := false
  deriving DecidableEq, Repr

/-- Flags together with the group names given so far. -/
structure Scope where
  /-- The flags in force. -/
  flags : Flags := {}
  /-- The names of groups. -/
  names : List Text := []
  deriving DecidableEq, Repr

/-- Sets or clears the flag of a letter. -/
def Flags.set? (f : Flags) (value : Bool) : Char → Option Flags
  | 'i' => some { f with caseless := value }
  | 'm' => some { f with multiline := value }
  | 's' => some { f with dotAll := value }
  | 'U' => some { f with swapGreed := value }
  | 'R' => some { f with returns := value }
  | 'x' => some { f with extended := value }
  | 'u' => some { f with ascii := !value }
  | _ => none

/-- Reads flags up to a colon or a closing parenthesis, which it leaves.
No letter stands twice, and one minus sign stands before some letter.
The result says whether any item was read. -/
def readFlags (f : Flags) (value : Bool) (used : Text) : Text → Option (Flags × Bool × Text)
  | [] => none
  | c :: rest =>
    if c == ':' || c == ')' then
      if used.head? == some '-' then none else some (f, !used.isEmpty, c :: rest)
    else if used.contains c then none
    else if c == '-' then readFlags f false ('-' :: used) rest
    else
      match f.set? value c with
      | none => none
      | some f => readFlags f value (c :: used) rest

/-- Under the flag `x`, `t` without the blanks and comments it begins
with. -/
def skipExtended (f : Flags) (t : Text) : Text :=
  if f.extended then go t.length t else t
where
  /-- Skips one blank or comment at a time. -/
  go : Nat → Text → Text
    | 0, t => t
    | _, [] => []
    | fuel + 1, c :: rest =>
      if Text.isBlank c then go fuel rest
      else if c == '#' then go fuel (rest.dropWhile (· != '\n'))
      else c :: rest

/-! ### Escapes -/

/-- What an escape stands for. -/
inductive Escape where
  /-- A character. -/
  | literal (c : Char)
  /-- A class. -/
  | set (s : CharSet)
  /-- An assertion. -/
  | assertion (a : Assertion)
  deriving DecidableEq, Repr

/-- The ASCII characters of a named class. -/
def asciiClass? (name : String) : Option CharSet :=
  let lower := CharSet.range 'a' 'z'
  let upper := CharSet.range 'A' 'Z'
  let digits := CharSet.range '0' '9'
  let numbered (low high : Nat) := CharSet.range (Char.ofNat low) (Char.ofNat high)
  match name with
  | "alnum" => some (.unions [digits, upper, lower])
  | "alpha" => some (.union upper lower)
  | "ascii" => some (numbered 0 0x7F)
  | "blank" => some (.union (.single '\t') (.single ' '))
  | "cntrl" => some (.union (numbered 0 0x1F) (numbered 0x7F 0x7F))
  | "digit" => some digits
  | "graph" => some (.range '!' '~')
  | "lower" => some lower
  | "print" => some (.range ' ' '~')
  | "punct" => some (.unions [.range '!' '/', .range ':' '@', numbered 0x5B 0x60, numbered 0x7B 0x7E])
  | "space" => some (.union (numbered 9 13) (.single ' '))
  | "upper" => some upper
  | "word" => some (.unions [digits, upper, lower, .single '_'])
  | "xdigit" => some (.unions [digits, .range 'A' 'F', .range 'a' 'f'])
  | _ => none

/-- The set of the classes `d`, `s` and `w`. Outside ASCII their
complements could cut a character apart and are refused. -/
def shortClass? (f : Flags) (c : Char) : Option CharSet :=
  let named (wide : CharSet) (name : String) (negated : Bool) : Option CharSet :=
    if f.ascii then if negated then none else asciiClass? name
    else some (if negated then .complement wide else wide)
  match c with
  | 'd' => named .digit "digit" false
  | 'D' => named .digit "digit" true
  | 's' => named .blank "space" false
  | 'S' => named .blank "space" true
  | 'w' => named .word "word" false
  | 'W' => named .word "word" true
  | _ => none

/-- The set of a Unicode property. Case, blanks, hyphens, underscores
and a leading `is` do not matter in its name. Letters, decimal digits and
white space are the only properties here: no other name denotes a set, be
it the name of another category, of a script or of a binary property. -/
def property? (name : Text) : Option CharSet :=
  let plain := (Text.asciiLower name).filter fun c =>
    !(Text.isBlank c || c == '_' || c == '-')
  let plain := (Text.dropStart? "is".toList plain).getD plain
  match String.ofList plain with
  | "l" | "letter" => some .letter
  | "nd" | "decimalnumber" => some .digit
  | "whitespace" | "space" => some .blank
  | _ => none

/-- Reads a property after its letter. -/
def readProperty (f : Flags) (negated : Bool) (t : Text) : Option (Escape × Text) := do
  let (name, rest) ←
    match skipExtended f t with
    | '{' :: rest =>
      let (name, rest) := rest.span (· != '}')
      match rest with
      | '}' :: rest => some (name, rest)
      | _ => none
    | '\\' :: _ => none
    | c :: rest => some ([c], rest)
    | [] => none
  let s ← property? name
  let s := if f.caseless then .folded s else s
  pure (.set (if negated then .complement s else s), rest)

/-- Reads `n` hexadecimal digits. -/
def readHexDigits (f : Flags) (value : Nat) : Nat → Text → Option (Nat × Text)
  | 0, t => some (value, t)
  | n + 1, t =>
    match skipExtended f t with
    | c :: rest => (Text.hexValue? c).bind fun d => readHexDigits f (16 * value + d) n rest
    | [] => none

/-- Reads the code point after the letter of a hexadecimal escape, which
has `n` digits or any number of them in braces. -/
def readHex (f : Flags) (n : Nat) (t : Text) : Option (Escape × Text) := do
  let (value, rest) ←
    match skipExtended f t with
    | '{' :: rest =>
      let (digits, rest) := rest.span (· != '}')
      let digits := if f.extended then digits.filter (fun c => !Text.isBlank c) else digits
      match rest with
      | '}' :: rest =>
        if digits.isEmpty || 8 < (digits.dropWhile (· == '0')).length then none
        else (readHexDigits f 0 digits.length digits).map fun r => (r.1, rest)
      | _ => none
    | rest => readHexDigits f 0 n rest
  let c ← Text.charOfNat? value
  pure (.literal c, rest)

/-- The assertion with a name in braces. -/
def boundary? (name : Text) : Option Assertion :=
  match String.ofList name with
  | "start" => some .wordStart
  | "end" => some .wordEnd
  | "start-half" => some .wordStartHalf
  | "end-half" => some .wordEndHalf
  | _ => none

/-- Reads what follows `\b`. Braces that cannot hold a name are left for
a repetition. -/
def readBoundary (f : Flags) (t : Text) : Option (Escape × Text) :=
  match t with
  | '{' :: rest =>
    match skipExtended f rest with
    | [] => none
    | c :: _ =>
      if c.isAlpha || c == '-' then
        let (name, rest) := (skipExtended f rest).span fun c => c.isAlpha || c == '-'
        match rest with
        | '}' :: rest => (boundary? name).map fun a => (.assertion a, rest)
        | _ => none
      else some (.assertion .wordBoundary, t)
  | _ => some (.assertion .wordBoundary, t)

/-- Reads an escape after its backslash. ASCII characters that are
neither letters nor digits may be escaped, except angle brackets, which
are boundaries of words. -/
def readEscape (f : Flags) (t : Text) : Option (Escape × Text) :=
  match t with
  | [] => none
  | c :: rest =>
    match c with
    | 'x' => readHex f 2 rest
    | 'u' => readHex f 4 rest
    | 'U' => readHex f 8 rest
    | 'p' => readProperty f false rest
    | 'P' => readProperty f true rest
    | 'a' => some (.literal (Char.ofNat 7), rest)
    | 'f' => some (.literal (Char.ofNat 12), rest)
    | 't' => some (.literal '\t', rest)
    | 'n' => some (.literal '\n', rest)
    | 'r' => some (.literal '\r', rest)
    | 'v' => some (.literal (Char.ofNat 11), rest)
    | 'A' => some (.assertion .textStart, rest)
    | 'z' => some (.assertion .textEnd, rest)
    | 'b' => readBoundary f rest
    | 'B' => some (.assertion .notWordBoundary, rest)
    | '<' => some (.assertion .wordStart, rest)
    | '>' => some (.assertion .wordEnd, rest)
    | c =>
      match shortClass? f c with
      | some s => some (.set s, rest)
      | none =>
        if c.toNat < 128 && !c.isAlphanum then some (.literal c, rest) else none

/-! ### Classes in brackets -/

/-- A set under construction and how deep it is nested. -/
structure SetPart where
  /-- The set. -/
  set : CharSet
  /-- How deep it is nested. -/
  depth : Nat := 0
  deriving DecidableEq, Repr

/-- The union of items side by side. -/
def SetPart.ofItems : List SetPart → SetPart
  | [] => ⟨.none, 0⟩
  | [p] => p
  | ps => ⟨.unions (ps.map (·.set)), 1 + (ps.map (·.depth)).foldl max 0⟩

/-- An operator between two parts of a class. -/
inductive SetOperator where
  /-- The members of both. -/
  | intersection
  /-- The members of the first that are not in the second. -/
  | difference
  /-- The members of exactly one. -/
  | symmetricDifference
  deriving DecidableEq, Repr

/-- Combines two parts. Under the flag `i` each operand ignores case. -/
def SetPart.combine (f : Flags) (op : SetOperator) (p q : SetPart) : SetPart :=
  let fold (s : CharSet) := if f.caseless then CharSet.folded s else s
  let s := fold p.set
  let t := fold q.set
  let set := match op with
    | .intersection => CharSet.inter s t
    | .difference => .inter s (.complement t)
    | .symmetricDifference => .inter (.union s t) (.complement (.inter s t))
  ⟨set, 1 + max p.depth q.depth⟩

/-- Reads a named ASCII class after its bracket. -/
def readAsciiClass (f : Flags) (t : Text) : Option (CharSet × Text) :=
  match t with
  | ':' :: rest =>
    let (negated, rest) :=
      match rest with
      | '^' :: r => (true, r)
      | r => (false, r)
    let (name, rest) := rest.span (· != ':')
    match rest with
    | ':' :: ']' :: rest =>
      (asciiClass? (String.ofList name)).map fun s =>
        let s := if f.caseless then .folded s else s
        (if negated then .complement s else s, rest)
    | _ => none
  | _ => none

/-- Reads one character or escape of a class. -/
def readClassAtom (f : Flags) : Text → Option (Escape × Text)
  | [] => none
  | '\\' :: rest => readEscape f rest
  | c :: rest => some (.literal c, rest)

/-- Reads one item of a class, a range or a single atom. A hyphen before
a closing bracket or another hyphen makes no range. -/
def readClassRange (f : Flags) (t : Text) : Option (CharSet × Text) := do
  let (first, rest) ← readClassAtom f t
  let single : Option (CharSet × Text) :=
    match first with
    | .literal c => some (.single c, rest)
    | .set s => some (s, rest)
    | .assertion _ => none
  match skipExtended f rest with
  | [] => none
  | '-' :: afterHyphen =>
    match skipExtended f afterHyphen with
    | ']' :: _ => single
    | '-' :: _ => single
    | t => do
      let (last, rest) ← readClassAtom f t
      match first, last with
      | .literal low, .literal high =>
        if low ≤ high then some (.range low high, rest) else none
      | _, _ => none
  | _ => single

/-- Reads the hyphens that stand for themselves at the start of a
class. -/
def readLeadingHyphens (f : Flags) (items : List SetPart) : Nat → Text → List SetPart × Text
  | 0, t => (items, t)
  | fuel + 1, t =>
    match skipExtended f t with
    | '-' :: rest => readLeadingHyphens f (⟨.single '-', 0⟩ :: items) fuel rest
    | t => (items, t)

mutual

/-- Reads a class after its opening bracket. -/
def readClass (f : Flags) : Nat → Text → Option (SetPart × Text)
  | 0, _ => none
  | fuel + 1, t =>
    let (negated, t) :=
      match skipExtended f t with
      | '^' :: rest => (true, skipExtended f rest)
      | t => (false, t)
    let (items, t) := readLeadingHyphens f [] t.length t
    let (items, t) : List SetPart × Text :=
      match items, t with
      | [], ']' :: rest => ([⟨.single ']', 0⟩], rest)
      | items, t => (items, t)
    match readClassItems f none items fuel t with
    | none => none
    | some (p, rest) =>
      let s := if f.caseless then CharSet.folded p.set else p.set
      if negated && f.ascii then none
      else some (⟨if negated then .complement s else s, 1 + p.depth⟩, rest)

/-- Reads the items of a class up to its closing bracket. `left` is what
stands before the last operator; `items` are those after it, reversed. -/
def readClassItems (f : Flags) (left : Option (SetPart × SetOperator)) (items : List SetPart) :
    Nat → Text → Option (SetPart × Text)
  | 0, _ => none
  | fuel + 1, t =>
    let part (_ : Unit) : SetPart :=
      let right := SetPart.ofItems items.reverse
      match left with
      | none => right
      | some (l, op) => l.combine f op right
    match skipExtended f t with
    | [] => none
    | ']' :: rest => some (part (), rest)
    | '&' :: '&' :: rest => readClassItems f (some (part (), .intersection)) [] fuel rest
    | '-' :: '-' :: rest => readClassItems f (some (part (), .difference)) [] fuel rest
    | '~' :: '~' :: rest => readClassItems f (some (part (), .symmetricDifference)) [] fuel rest
    | '[' :: rest =>
      match readAsciiClass f rest with
      | some (s, rest) => readClassItems f left (⟨s, 0⟩ :: items) fuel rest
      | none =>
        match readClass f fuel rest with
        | none => none
        | some (p, rest) => readClassItems f left (p :: items) fuel rest
    | t =>
      match readClassRange f t with
      | none => none
      | some (s, rest) => readClassItems f left (⟨s, 0⟩ :: items) fuel rest

end

/-! ### Repetitions -/

/-- How often a pattern is repeated. -/
structure Bounds where
  /-- The least number of rounds. -/
  least : Nat
  /-- The largest number of rounds, if there is one. -/
  most : Option Nat
  deriving DecidableEq, Repr

/-- Reads a decimal number between blanks, of 32 bits at most. -/
def readCount (t : Text) : Option (Nat × Text) :=
  let (digits, rest) := (Text.trimStart t).span Text.isDigit
  let n := Text.natOfDigits (digits.dropWhile (· == '0') |>.take 11)
  if digits.isEmpty || Nat.pow 2 32 ≤ n then none else some (n, Text.trimStart rest)

/-- Reads the bounds of a repetition after the opening brace. -/
def readBounds (f : Flags) (t : Text) : Option (Bounds × Text) := do
  let (least, rest) ← readCount (skipExtended f t)
  match rest with
  | '}' :: rest => pure (⟨least, some least⟩, rest)
  | ',' :: rest =>
    match skipExtended f rest with
    | '}' :: rest => pure (⟨least, none⟩, rest)
    | rest =>
      let (most, rest) ← readCount rest
      match rest with
      | '}' :: rest => if least ≤ most then some (⟨least, some most⟩, rest) else none
      | _ => none
  | _ => none

/-- Reads a repetition operator, without the mark that makes it
reluctant. `none` inside is the absence of an operator. -/
def readOperator (f : Flags) (t : Text) : Option (Option Bounds × Text) :=
  match t with
  | '*' :: rest => some (some ⟨0, none⟩, rest)
  | '+' :: rest => some (some ⟨1, none⟩, rest)
  | '?' :: rest => some (some ⟨0, some 1⟩, rest)
  | '{' :: rest => (readBounds f rest).map fun (b, rest) => (some b, skipExtended f rest)
  | t => some (none, t)

/-- A pattern under construction and how deep it is nested. -/
structure Part where
  /-- The pattern. -/
  pattern : Pattern
  /-- How deep it is nested. -/
  depth : Nat := 0
  deriving DecidableEq, Repr

/-- Reads the repetitions of `p`. -/
def readRepetitions (f : Flags) (p : Part) : Nat → Text → Option (Part × Text)
  | 0, _ => none
  | fuel + 1, t =>
    match readOperator f (skipExtended f t) with
    | none => none
    | some (none, rest) => some (p, rest)
    | some (some b, rest) =>
      let (greedy, rest) :=
        match rest with
        | '?' :: r => (false, r)
        | r => (true, r)
      let p' : Part := ⟨.rep b.least b.most (greedy != f.swapGreed) p.pattern, p.depth + 1⟩
      readRepetitions f p' fuel rest

/-! ### Patterns -/

/-- Patterns one after the other. -/
def Part.ofSequence : List Part → Part
  | [] => ⟨.empty, 0⟩
  | [p] => p
  | ps =>
    ⟨match ps.map (·.pattern) with
      | [] => .empty
      | p :: rest => rest.foldl .seq p,
     1 + (ps.map (·.depth)).foldl max 0⟩

/-- Alternatives in order of preference. -/
def Part.ofAlternatives : List Part → Part
  | [] => ⟨.empty, 0⟩
  | [p] => p
  | ps =>
    ⟨match ps.reverse.map (·.pattern) with
      | [] => .empty
      | p :: rest => rest.foldl (fun q p => .alt p q) p,
     1 + (ps.map (·.depth)).foldl max 0⟩

/-- The set of one character under the flags. -/
def literalSet (f : Flags) (c : Char) : CharSet :=
  if f.caseless then .folded (.single c) else .single c

/-- What the dot matches. In ASCII it could match part of a character
and is refused. -/
def dotSet? (f : Flags) : Option CharSet :=
  if f.ascii then none
  else if f.dotAll then some (.complement .none)
  else if f.returns then some (.complement (.union (.single '\r') (.single '\n')))
  else some (.complement (.single '\n'))

/-- What a caret asserts. -/
def caret (f : Flags) : Assertion :=
  if f.multiline then if f.returns then .returnLineStart else .lineStart else .textStart

/-- What a dollar sign asserts. -/
def dollar (f : Flags) : Assertion :=
  if f.multiline then if f.returns then .returnLineEnd else .lineEnd else .textEnd

/-- Whether a group name may contain `c`, as its first character or
later. -/
def isNameChar (first : Bool) (c : Char) : Bool :=
  c == '_' || Unicode.letterTable.contains c ||
    (!first && (c == '.' || c == '[' || c == ']' || CharSet.isWord c))

/-- Reads the name of a group up to its closing angle bracket. -/
def readName (names : List Text) (t : Text) : Option (Text × Text) :=
  let (name, rest) := t.span (· != '>')
  match name, rest with
  | c :: cs, '>' :: rest =>
    if isNameChar true c && cs.all (isNameChar false) && !names.contains name then
      some (name, rest)
    else none
  | _, _ => none

/-- What an opening parenthesis begins. -/
inductive Opening where
  /-- Flags for the rest of the enclosing group. -/
  | flags (f : Flags)
  /-- A group with a scope of its own. -/
  | group (s : Scope)
  deriving DecidableEq, Repr

/-- Reads what follows an opening parenthesis. -/
def readOpening (s : Scope) (t : Text) : Option (Opening × Text) :=
  match skipExtended s.flags t with
  | '?' :: rest =>
    match rest with
    | '=' :: _ => none
    | '!' :: _ => none
    | '<' :: '=' :: _ => none
    | '<' :: '!' :: _ => none
    | '<' :: rest =>
      (readName s.names rest).map fun (name, rest) =>
        (.group { s with names := name :: s.names }, rest)
    | 'P' :: '<' :: rest =>
      (readName s.names rest).map fun (name, rest) =>
        (.group { s with names := name :: s.names }, rest)
    | rest =>
      match readFlags s.flags true [] rest with
      | some (f, true, ')' :: rest) => some (.flags f, rest)
      | some (f, _, ':' :: rest) => some (.group { s with flags := f }, rest)
      | _ => none
  | rest => some (.group s, rest)

mutual

/-- Reads alternatives up to a closing parenthesis or the end, which it
leaves; `done` are those already read, reversed. -/
def readAlternatives (s : Scope) (done : List Part) :
    Nat → Text → Option (Part × Scope × Text)
  | 0, _ => none
  | fuel + 1, t =>
    match readSequence s [] fuel t with
    | none => none
    | some (p, s, '|' :: rest) => readAlternatives s (p :: done) fuel rest
    | some (p, s, rest) => some (.ofAlternatives (p :: done).reverse, s, rest)

/-- Reads a sequence up to a bar, a closing parenthesis or the end,
which it leaves; `done` are the parts already read, reversed. -/
def readSequence (s : Scope) (done : List Part) : Nat → Text → Option (Part × Scope × Text)
  | 0, _ => none
  | fuel + 1, t =>
    let finish (t : Text) := some (Part.ofSequence done.reverse, s, t)
    let continueWith (s : Scope) (p : Part) (rest : Text) :=
      match readRepetitions s.flags p (rest.length + 1) rest with
      | none => none
      | some (p, rest) => readSequence s (p :: done) fuel rest
    match skipExtended s.flags t with
    | [] => finish []
    | c :: rest =>
      match c with
      | '|' => finish (c :: rest)
      | ')' => finish (c :: rest)
      | '(' =>
        match readOpening s rest with
        | none => none
        | some (.flags f, rest) =>
          readSequence { s with flags := f } (⟨.empty, 0⟩ :: done) fuel rest
        | some (.group inner, rest) =>
          match readAlternatives inner [] fuel rest with
          | some (p, inner, ')' :: rest) =>
            continueWith { s with names := inner.names } { p with depth := p.depth + 1 } rest
          | _ => none
      | '[' =>
        match readClass s.flags (rest.length + 2) rest with
        | none => none
        | some (p, rest) => continueWith s ⟨.char p.set, p.depth⟩ rest
      | '*' => none
      | '+' => none
      | '?' => none
      | '{' => none
      | '.' =>
        match dotSet? s.flags with
        | none => none
        | some d => continueWith s ⟨.char d, 0⟩ rest
      | '^' => continueWith s ⟨.assert (caret s.flags), 0⟩ rest
      | '$' => continueWith s ⟨.assert (dollar s.flags), 0⟩ rest
      | '\\' =>
        match readEscape s.flags rest with
        | none => none
        | some (.literal c, rest) => continueWith s ⟨.char (literalSet s.flags c), 0⟩ rest
        | some (.set e, rest) => continueWith s ⟨.char e, 0⟩ rest
        | some (.assertion a, rest) => continueWith s ⟨.assert a, 0⟩ rest
      | c => continueWith s ⟨.char (literalSet s.flags c), 0⟩ rest

end

/-- How deep patterns may be nested. -/
def maxDepth : Nat := 250

/-- The pattern that `t` denotes, when it denotes one. -/
def parse? (t : Text) : Option Pattern :=
  match readAlternatives {} [] (2 * t.length + 2) t with
  | some (p, _, []) =>
    if p.depth ≤ maxDepth ∧ p.pattern.weight ≤ maxWeight then some p.pattern else none
  | _ => none

end ScriptGate.Pattern
