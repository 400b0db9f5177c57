import ScriptGate.Url.Host

/-!
# `ScriptGate.Url.Check`: whether a text is an absolute address

An absolute address begins with a scheme. What follows depends on it:
the well-known network schemes need a host whatever the number of
slashes, files may have one, and any other scheme has one only after two
slashes. Control characters and spaces around the text do not count, nor
do tabs and line ends inside it.
-/

set_option autoImplicit false

namespace ScriptGate.Url

/-- How the part after the scheme is read. -/
inductive SchemeKind where
  /-- A well-known scheme of the network. -/
  | network
  /-- The scheme of local files. -/
  | file
  /-- Any other scheme. -/
  | other
  deriving DecidableEq, Repr

/-- The kind of a scheme in lower case. -/
def SchemeKind.ofName (name : Text) : SchemeKind :=
  match String.ofList name with
  | "http" | "https" | "ws" | "wss" | "ftp" => .network
  | "file" => .file
  | _ => .other

/-- Whether `c` may stand in a scheme. -/
def isSchemeChar (c : Char) : Bool := c.isAlphanum || c = '+' || c = '-' || c = '.'

/-- The scheme of an address in lower case, and the text after its
colon. -/
def scheme? (t : Text) : Option (Text × Text) :=
  let name := t.takeWhile isSchemeChar
  match name, t.drop name.length with
  | c :: _, ':' :: rest => if c.isAlpha then some (Text.asciiLower name, rest) else none
  | _, _ => none

/-- The characters of an address that count. -/
def significant (t : Text) : Text :=
  let isOuter (c : Char) : Bool := c.toNat ≤ 0x20
  let inner := ((t.dropWhile isOuter).reverse.dropWhile isOuter).reverse
  inner.filter fun c => c != '\t' && c != '\n' && c != '\r'

/-- Whether `c` is a slash; the network schemes and files know two of
them. -/
def isSlash (kind : SchemeKind) (c : Char) : Bool := c = '/' || (kind != .other && c = '\\')

/-- Whether `c` ends the authority of an address. -/
def endsAuthority (kind : SchemeKind) (c : Char) : Bool :=
  isSlash kind c || c = '?' || c = '#'

/-- Splits an authority at its last `@`. -/
def userAndRest (authority : Text) : Option (Text × Text) :=
  let r := authority.reverse
  let host := r.takeWhile (· != '@')
  match r.drop host.length with
  | _ :: user => some (user.reverse, host.reverse)
  | [] => none

/-- Splits the host from the port: at the first colon outside
brackets. -/
def hostAndPort (inside : Bool) (acc : Text) : Text → Text × Option Text
  | [] => (acc.reverse, none)
  | c :: rest =>
    if c = ':' && !inside then (acc.reverse, some rest)
    else hostAndPort (if c = '[' then true else if c = ']' then false else inside) (c :: acc) rest

/-- The defect of a port, read digit by digit. A backslash ends it as
well as the authority. -/
def portDefect? (n : Nat) : Text → Option Defect
  | [] => none
  | c :: rest =>
    if Text.isDigit c then
      let n := 10 * n + (c.toNat - '0'.toNat)
      if 65535 < n then some .invalidPort else portDefect? n rest
    else if c = '\\' then none
    else some .invalidPort

/-- The defect of a host and a port. `named` tells whether a user stands
before them. -/
def hostDefect? (kind : SchemeKind) (named : Bool) (t : Text) : Option Defect :=
  let (host, port) := hostAndPort false [] t
  let defect :=
    if kind = .other then Host.opaqueDefect? host
    else if host.isEmpty then some .emptyHost
    else Host.defect? host
  match defect with
  | some d => some d
  | none =>
    if host.isEmpty && port.isSome then some .emptyHost
    else
      match port.bind (portDefect? 0) with
      | some d => some d
      | none => if host.isEmpty && named then some .emptyHost else none

/-- The defect of what follows the slashes of an address. -/
def authorityDefect? (kind : SchemeKind) (t : Text) : Option Defect :=
  let authority := t.takeWhile fun c => !endsAuthority kind c
  match userAndRest authority with
  | none => hostDefect? kind false authority
  | some ([], rest) =>
    if rest.isEmpty && authority.length < t.length then some .emptyHost
    else hostDefect? kind false rest
  | some (user, rest) => hostDefect? kind (user != [':']) rest

/-- Whether a text is the letter of a drive. -/
def isDriveLetter : Text → Bool
  | [c, d] => c.isAlpha && (d = ':' || d = '|')
  | _ => false

/-- The defect of what follows the scheme of a file. -/
def fileDefect? : Text → Option Defect
  | a :: b :: rest =>
    if isSlash .file a && isSlash .file b then
      let host := rest.takeWhile fun c => !endsAuthority .file c
      if host.isEmpty || isDriveLetter host then none else Host.defect? host
    else none
  | _ => none

/-- What is wrong with a text that should be an absolute address. -/
def defect? (t : Text) : Option Defect :=
  match scheme? (significant t) with
  | none => some .relative
  | some (name, rest) =>
    match SchemeKind.ofName name with
    | .file => fileDefect? rest
    | .network => authorityDefect? .network (rest.dropWhile (isSlash .network))
    | .other =>
      match rest with
      | '/' :: '/' :: rest => authorityDefect? .other rest
      | _ => none

end ScriptGate.Url
