import ScriptGate.Text.Blank
import ScriptGate.Text.Percent

/-!
# `ScriptGate.Url.Host`: the hosts of addresses

The host of an address with a well-known scheme is an IPv6 address in
brackets, an IPv4 address or a domain name. Any other scheme takes every
name without delimiters for its host.

`Defect` lists what can be wrong with an address. The functions here
return the defect of a host, or nothing when there is none.
-/

set_option autoImplicit false

namespace ScriptGate.Url

/-- What is wrong with an address. -/
inductive Defect where
  /-- It has no scheme. -/
  | relative
  /-- It needs a host and has none. -/
  | emptyHost
  /-- The port is no number up to 65535. -/
  | invalidPort
  /-- The host ends in a number and is no IPv4 address. -/
  | invalidIpv4
  /-- What stands in brackets is no IPv6 address. -/
  | invalidIpv6
  /-- The host is no domain name. -/
  | invalidDomain
  /-- The host has a character that delimits parts of addresses. -/
  | delimiterInHost
  deriving DecidableEq, Repr

/-- How a defect is described. -/
def Defect.message : Defect → String
  | relative => "relative URL without a base"
  | emptyHost => "empty host"
  | invalidPort => "invalid port number"
  | invalidIpv4 => "invalid IPv4 address"
  | invalidIpv6 => "invalid IPv6 address"
  | invalidDomain => "invalid international domain name"
  | delimiterInHost => "invalid domain character"

namespace Host

/-! ### IPv4 -/

/-- The value of digits in a base, when all of them belong to it. -/
def valueInBase? (base : Nat) (digits : Text) : Option Nat :=
  digits.foldlM
    (fun n c =>
      match Text.hexValue? c with
      | some d => if d < base then some (base * n + d) else none
      | none => none)
    0

/-- The value of one part of an IPv4 address, which may be hexadecimal
or octal. -/
def ipv4Part? : Text → Option Nat
  | [] => none
  | '0' :: 'x' :: digits | '0' :: 'X' :: digits => valueInBase? 16 digits
  | '0' :: d :: digits => valueInBase? 8 (d :: digits)
  | digits => valueInBase? 10 digits

/-- `parts` without an empty one at the end. -/
def dropEmptyEnd (parts : List Text) : List Text :=
  if parts.getLast? = some [] then parts.dropLast else parts

/-- Whether the last part of a domain is a number. A single dot at the
end does not count. -/
def endsInNumber (domain : Text) : Bool :=
  match (dropEmptyEnd (domain.splitOn '.')).getLast? with
  | none => false
  | some last => (!last.isEmpty && last.all Text.isDigit) || (ipv4Part? last).isSome

/-- Whether these are the parts of an IPv4 address. The last part fills
all bytes that are left. -/
def isIpv4 (parts : List Text) : Bool :=
  match parts.mapM ipv4Part? with
  | none => false
  | some values =>
    1 ≤ values.length && values.length ≤ 4 && values.dropLast.all (· ≤ 255) &&
      values.getLast?.any (· < Nat.pow 256 (5 - values.length))

/-! ### IPv6 -/

/-- The number of a part of the IPv4 address at the end of an IPv6
address: no leading zeros and at most 255. -/
def isByteText (digits : Text) : Bool :=
  digits.all Text.isDigit && !digits.isEmpty && (digits.length == 1 || digits.head? != some '0') &&
    Text.natOfDigits digits ≤ 255

/-- Whether a text is four bytes in decimal between dots. -/
def isDottedBytes (t : Text) : Bool :=
  let parts := t.splitOn '.'
  parts.length == 4 && parts.all isByteText

/-- Reads pieces of an IPv6 address after `pieces` of them. `compressed`
tells whether the empty piece has been seen. -/
def readPieces (pieces : Nat) (compressed : Bool) : Nat → Text → Bool
  | _, [] => compressed || pieces = 8
  | 0, _ => false
  | fuel + 1, c :: rest =>
    if pieces = 8 then false
    else if c = ':' then
      if compressed then false else readPieces (pieces + 1) true fuel rest
    else
      let t := c :: rest
      let digits := (t.take 4).takeWhile fun c => (Text.hexValue? c).isSome
      match t.drop digits.length with
      | [] => readPieces (pieces + 1) compressed fuel []
      | '.' :: _ =>
        !digits.isEmpty && pieces ≤ 6 && isDottedBytes t && (compressed || pieces = 6)
      | ':' :: rest =>
        if rest.isEmpty then false else readPieces (pieces + 1) compressed fuel rest
      | _ => false

/-- Whether a text is an IPv6 address. -/
def isIpv6 (t : Text) : Bool :=
  match t with
  | ':' :: ':' :: rest => readPieces 1 true t.length rest
  | ':' :: _ => false
  | [_] => false
  | [] => false
  | t => readPieces 0 false t.length t

/-- The text between brackets around all of `t`. -/
def bracketed? (t : Text) : Option Text :=
  match t with
  | '[' :: rest => if rest.getLast? = some ']' then some rest.dropLast else none
  | _ => none

/-! ### Domain names -/

/-- A character of a domain name as it counts: the wide forms of ASCII
characters stand for these, ideographic full stops for dots, and every
blank for a space. -/
def mapped (c : Char) : Char :=
  let n := c.toNat
  if n = 0x3002 ∨ n = 0xFF61 then '.'
  else if 0xFF01 ≤ n ∧ n ≤ 0xFF5E then Char.ofNat (n - 0xFEE0)
  else if 0x80 ≤ n && Text.isBlank c then ' '
  else c.toLower

/-- The characters that no domain name may have. -/
def isForbidden (c : Char) : Bool :=
  c.toNat ≤ 0x20 || c.toNat = 0x7F || "%#/:<>?@[\\]^|".toList.contains c

/-- The defect of the host of an address with a well-known scheme. -/
def defect? (host : Text) : Option Defect :=
  match host with
  | '[' :: _ => if (bracketed? host).any isIpv6 then none else some .invalidIpv6
  | _ =>
    match Text.percentDecoded? host with
    | none => some .invalidDomain
    | some t =>
      let domain := t.map mapped
      if domain.any isForbidden then some .invalidDomain
      else if domain.isEmpty then some .emptyHost
      else if endsInNumber domain && !isIpv4 (dropEmptyEnd (domain.splitOn '.')) then
        some .invalidIpv4
      else none

/-- The characters that no host may have, whatever the scheme. -/
def isDelimiter (c : Char) : Bool :=
  c.toNat = 0 || "\t\n\r #/:<>?@[\\]^|".toList.contains c

/-- The defect of the host of an address with any other scheme. -/
def opaqueDefect? (host : Text) : Option Defect :=
  match host with
  | '[' :: _ => if (bracketed? host).any isIpv6 then none else some .invalidIpv6
  | _ => if host.any isDelimiter then some .delimiterInHost else none

end Host
end ScriptGate.Url
