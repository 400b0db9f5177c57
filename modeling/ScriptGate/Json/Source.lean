import ScriptGate.Json.Value
import ScriptGate.Decimal.Binary

/-!
# `ScriptGate.Json.Source`: reading JSON text

A `Source` is what a reader finds in a JSON text, in the order in which
it stands there. It is a value except where the text goes wrong: a
`broken` item is the place where no JSON stands any more, and nothing
after it is read; an array or object that is not closed lacks its end
for that reason. A decoder that walks a `Source` from the left thus
meets its own objections and the mistakes of the text in their order.

Strings with half a surrogate pair and numbers too large are well formed
but denote nothing. They are `meaningless`, and reading goes on behind
them.

`parse?` is for the callers that want a value or nothing.
-/

set_option autoImplicit false

namespace ScriptGate.Json

/-- What stands in a JSON text. -/
inductive Source where
  /-- The value `null`. -/
  | null
  /-- A truth value. -/
  | bool (b : Bool)
  /-- A number. -/
  | number (n : JsonNumber)
  /-- A string. -/
  | text (t : Text)
  /-- Items, and whether the closing bracket was found. -/
  | array (items : List Source) (closed : Bool)
  /-- Members, and whether the closing brace was found. -/
  | object (members : List (Text × Source)) (closed : Bool)
  /-- A string or number that denotes nothing. -/
  | meaningless
  /-- No JSON. -/
  | broken
  deriving Repr

/-! ### White space, strings and numbers -/

/-- White space between tokens. -/
def isSpace (c : Char) : Bool := c == ' ' || c == '\t' || c == '\n' || c == '\r'

/-- `t` without the white space it begins with. -/
def skipSpace (t : Text) : Text := t.dropWhile isSpace

/-- The number of four hexadecimal digits and the text after them. -/
def hex4? : Text → Option (Nat × Text)
  | a :: b :: c :: d :: rest => do
    let a ← Text.hexValue? a
    let b ← Text.hexValue? b
    let c ← Text.hexValue? c
    let d ← Text.hexValue? d
    pure (4096 * a + 256 * b + 16 * c + d, rest)
  | _ => none

/-- The character of a one-letter escape. -/
def simpleEscape? : Char → Option Char
  | '"' => some '"'
  | '\\' => some '\\'
  | '/' => some '/'
  | 'b' => some (Char.ofNat 8)
  | 'f' => some (Char.ofNat 12)
  | 'n' => some '\n'
  | 'r' => some '\r'
  | 't' => some '\t'
  | _ => none

/-- The character of a `\u` escape whose four digits have the value
`unit` and are followed by `rest`. A high surrogate takes the escape
after it into account; `none` in the first place is half a pair. -/
def unicodeEscape (unit : Nat) (rest : Text) : Option Char × Text :=
  if 0xD800 ≤ unit ∧ unit ≤ 0xDBFF then
    match rest with
    | '\\' :: 'u' :: rest' =>
      match hex4? rest' with
      | some (low, rest'') =>
        if 0xDC00 ≤ low ∧ low ≤ 0xDFFF then
          (Text.charOfNat? (0x10000 + (unit - 0xD800) * 0x400 + (low - 0xDC00)), rest'')
        else (none, rest)
      | none => (none, rest)
    | _ => (none, rest)
  else (Text.charOfNat? unit, rest)

/-- Reads the inside of a string up to its closing quote. The result is
the string, reversed before it is given back, or `meaningless`, with the
text after the quote; none when the string is malformed. -/
def readString (acc : Text) (sound : Bool) : Nat → Text → Option (Source × Text)
  | 0, _ => none
  | _, [] => none
  | fuel + 1, c :: rest =>
    match c with
    | '"' => some (if sound then .text acc.reverse else .meaningless, rest)
    | '\\' =>
      match rest with
      | [] => none
      | 'u' :: rest =>
        match hex4? rest with
        | none => none
        | some (unit, rest) =>
          match unicodeEscape unit rest with
          | (some c, rest) => readString (c :: acc) sound fuel rest
          | (none, rest) => readString acc false fuel rest
      | e :: rest =>
        match simpleEscape? e with
        | none => none
        | some c => readString (c :: acc) sound fuel rest
    | c => if c.toNat < 0x20 then none else readString (c :: acc) sound fuel rest

/-- The largest natural number that is kept exactly. -/
def maxNatural : Nat := Nat.pow 2 64 - 1

/-- The digits of a number as far as they are read into 64 bits, and how
many more digits follow those. -/
def significand : Nat → Text → Nat × Nat
  | n, [] => (n, 0)
  | n, d :: ds =>
    let n' := 10 * n + (d.toNat - '0'.toNat)
    if n' ≤ maxNatural then significand n' ds else (n, ds.length + 1)

/-- The binary fraction `significand * 10 ^ exponent`, computed by one
multiplication or by divisions of at most 308 places each. -/
def scaleByTen? (fuel : Nat) (b : Decimal.Binary) (exponent : Int) : Option Decimal.Binary :=
  let power? := Decimal.Binary.ofQuotient? (Nat.pow 10 (min exponent.natAbs 308)) 1
  match power? with
  | none => none
  | some power =>
    if exponent.natAbs ≤ 308 then if 0 ≤ exponent then b.mul? power else b.div? power
    else if b.mantissa = 0 then some b
    else if 0 ≤ exponent then none
    else
      match fuel, b.div? power with
      | fuel + 1, some b => scaleByTen? fuel b (exponent + 308)
      | _, b? => b?

/-- The number written by an integer part, the digits after the point
and an exponent. -/
def numberOf (isNegative : Bool) (whole fraction : Text) (exponent : Option Int) : Source :=
  let (n, dropped) := significand 0 whole
  let asInteger := fraction.isEmpty && exponent.isNone && dropped == 0
  if asInteger && !isNegative then .number (.natural n)
  else if asInteger && 0 < n && n ≤ Nat.pow 2 63 then .number (.negative n)
  else
    let (n, unread) := if dropped = 0 then significand n fraction else (n, fraction.length)
    let places := fraction.length - unread
    let e : Int := (exponent.getD 0) + dropped - places
    match (Decimal.Binary.ofQuotient? n 1).bind fun b => scaleByTen? e.natAbs b e with
    | none => .meaningless
    | some b =>
      let shown := b.shortest.text
      .number (.fraction (if isNegative then '-' :: shown else shown))

/-- The exponent part of a number, when the text begins with one; `none`
in front when it begins with a malformed one. -/
def readExponent (t : Text) : Option (Option Int × Text) :=
  match t with
  | e :: rest =>
    if e == 'e' || e == 'E' then
      let (isNegative, rest) :=
        match rest with
        | '-' :: r => (true, r)
        | '+' :: r => (false, r)
        | r => (false, r)
      let (digits, rest) := rest.span Text.isDigit
      if digits.isEmpty then none
      else
        -- beyond four digits the size no longer matters
        let significant := digits.dropWhile (· == '0')
        let n : Nat := if 5 < significant.length then 100000 else Text.natOfDigits significant
        some (some (if isNegative then -n else n), rest)
    else some (none, t)
  | [] => some (none, [])

/-- Reads a number without its sign. -/
def readNumber (isNegative : Bool) (t : Text) : Option (Source × Text) := do
  let (whole, rest) := t.span Text.isDigit
  guard (!whole.isEmpty)
  guard (whole.length == 1 || whole.head? != some '0')
  let (fraction, rest) ←
    match rest with
    | '.' :: r =>
      let (digits, r) := r.span Text.isDigit
      if digits.isEmpty then none else some (digits, r)
    | r => some ([], r)
  let (exponent, rest) ← readExponent rest
  pure (numberOf isNegative whole fraction exponent, rest)

/-! ### Values -/

mutual

/-- Reads a value. There is no rest after a text that went wrong. -/
def readValue : Nat → Text → Source × Option Text
  | 0, _ => (.broken, none)
  | fuel + 1, t =>
    match skipSpace t with
    | 'n' :: 'u' :: 'l' :: 'l' :: rest => (.null, some rest)
    | 't' :: 'r' :: 'u' :: 'e' :: rest => (.bool true, some rest)
    | 'f' :: 'a' :: 'l' :: 's' :: 'e' :: rest => (.bool false, some rest)
    | '"' :: rest =>
      match readString [] true (rest.length + 1) rest with
      | some (s, rest) => (s, some rest)
      | none => (.broken, none)
    | '-' :: rest =>
      match readNumber true rest with
      | some (s, rest) => (s, some rest)
      | none => (.broken, none)
    | '[' :: rest =>
      match skipSpace rest with
      | ']' :: rest => (.array [] true, some rest)
      | rest => readItems fuel [] rest
    | '{' :: rest =>
      match skipSpace rest with
      | '}' :: rest => (.object [] true, some rest)
      | rest => readMembers fuel [] rest
    | rest =>
      match readNumber false rest with
      | some (s, rest) => (s, some rest)
      | none => (.broken, none)

/-- Reads the items of an array from the first one on; the items read
before are kept reversed. -/
def readItems : Nat → List Source → Text → Source × Option Text
  | 0, acc, _ => (.array acc.reverse false, none)
  | fuel + 1, acc, t =>
    match readValue fuel t with
    | (.broken, _) => (.array acc.reverse false, none)
    | (v, none) => (.array (v :: acc).reverse false, none)
    | (v, some rest) =>
      match skipSpace rest with
      | ']' :: rest => (.array (v :: acc).reverse true, some rest)
      | ',' :: rest => readItems fuel (v :: acc) rest
      | _ => (.array (v :: acc).reverse false, none)

/-- Reads the members of an object from the first name on; the members
read before are kept reversed. -/
def readMembers : Nat → List (Text × Source) → Text → Source × Option Text
  | 0, acc, _ => (.object acc.reverse false, none)
  | fuel + 1, acc, t =>
    match skipSpace t with
    | '"' :: rest =>
      match readString [] true (rest.length + 1) rest with
      | some (.text name, rest) =>
        match skipSpace rest with
        | ':' :: rest =>
          match readValue fuel rest with
          | (v, none) => (.object ((name, v) :: acc).reverse false, none)
          | (v, some rest) =>
            match skipSpace rest with
            | '}' :: rest => (.object ((name, v) :: acc).reverse true, some rest)
            | ',' :: rest => readMembers fuel ((name, v) :: acc) rest
            | _ => (.object ((name, v) :: acc).reverse false, none)
        | _ => (.object ((name, .broken) :: acc).reverse false, none)
      | _ => (.object acc.reverse false, none)
    | _ => (.object acc.reverse false, none)

end

/-- A whole JSON text: what it holds and whether nothing but white space
follows. -/
structure Document where
  /-- What stands at the beginning. -/
  root : Source
  /-- Whether the text ends there. -/
  complete : Bool
  deriving Repr

/-- Reads a whole text. -/
def Document.ofText (t : Text) : Document :=
  match readValue (2 * t.length + 2) t with
  | (root, some rest) => ⟨root, (skipSpace rest).isEmpty⟩
  | (root, none) => ⟨root, false⟩

/-! ### From sources to values and back -/

mutual

/-- The value that stands in a source, when nothing in it is wrong and
it is nested at most `depth` deep. -/
def Source.value? (depth : Nat) : Source → Option Json
  | .null => some .null
  | .bool b => some (.bool b)
  | .number n => some (.number n)
  | .text t => some (.text t)
  | .array items true =>
    match depth with
    | 0 => none
    | depth + 1 => (Source.values? depth items).map .array
  | .object members true =>
    match depth with
    | 0 => none
    | depth + 1 => (Source.memberValues? depth members).map .object
  | _ => none

/-- The values of a list of sources. -/
def Source.values? (depth : Nat) : List Source → Option (List Json)
  | [] => some []
  | s :: ss => do
    let v ← Source.value? depth s
    let vs ← Source.values? depth ss
    pure (v :: vs)

/-- The values of a list of members. -/
def Source.memberValues? (depth : Nat) : List (Text × Source) → Option (List (Text × Json))
  | [] => some []
  | (k, s) :: ss => do
    let v ← Source.value? depth s
    let vs ← Source.memberValues? depth ss
    pure ((k, v) :: vs)

end

mutual

/-- A value as a source in which nothing is wrong. -/
def Source.ofValue : Json → Source
  | .null => .null
  | .bool b => .bool b
  | .number n => .number n
  | .text t => .text t
  | .array items => .array (Source.ofValues items) true
  | .object members => .object (Source.ofMembers members) true

/-- Values as sources. -/
def Source.ofValues : List Json → List Source
  | [] => []
  | v :: vs => Source.ofValue v :: Source.ofValues vs

/-- Members as sources. -/
def Source.ofMembers : List (Text × Json) → List (Text × Source)
  | [] => []
  | (k, v) :: vs => (k, Source.ofValue v) :: Source.ofMembers vs

end

mutual

/-- Whether a source is well formed to its end. Strings and numbers that
denote nothing are. -/
def Source.isWellFormed : Source → Bool
  | .broken => false
  | .array items closed => closed && Source.areWellFormed items
  | .object members closed => closed && Source.membersWellFormed members
  | _ => true

/-- Whether all of a list are well formed. -/
def Source.areWellFormed : List Source → Bool
  | [] => true
  | s :: ss => Source.isWellFormed s && Source.areWellFormed ss

/-- Whether all members of a list are well formed. -/
def Source.membersWellFormed : List (Text × Source) → Bool
  | [] => true
  | (_, s) :: ss => Source.isWellFormed s && Source.membersWellFormed ss

end

/-- How deep the values of a text may be nested. -/
def maxDepth : Nat := 127

/-- The value of a whole text, when it is one. -/
def parse? (t : Text) : Option Json :=
  let d := Document.ofText t
  if d.complete then d.root.value? maxDepth else none

end ScriptGate.Json
