import ScriptGate.Text.Basic

/-!
# `ScriptGate.Http.MediaType`: which content is JSON

A media type is a type, a slash, a subtype and parameters. Content is
JSON when its type is `application` and its subtype is `json` or ends in
`+json`. A media type with malformed parameters is none.
-/

set_option autoImplicit false

namespace ScriptGate.Http.MediaType

/-- The characters of names in a media type. -/
def isTokenChar (c : Char) : Bool :=
  c.isAlphanum || "!#$%&*+-.^_|~".toList.contains c || c.toNat = 0x27 || c.toNat = 0x60

/-- The characters of quoted values. -/
def isQuotedChar (c : Char) : Bool := 0x20 ≤ c.toNat && c.toNat != 0x7F

/-- The text behind a quoted value, which has at least one character and
whose quote has been opened. -/
def quotedRest? (t : Text) : Option Text :=
  match t with
  | [] => none
  | c :: rest =>
    if !isQuotedChar c then none
    else
      match rest.dropWhile fun c => isQuotedChar c && c != '"' with
      | '"' :: rest =>
        match rest.dropWhile (· == ' ') with
        | [] => some []
        | ';' :: rest => some rest
        | _ => none
      | _ => none

/-- The text behind a plain value. An empty one may only stand at the
end. -/
def plainRest? (t : Text) : Option Text :=
  match t.dropWhile isTokenChar with
  | [] => some []
  | ';' :: rest => if (t.takeWhile isTokenChar).isEmpty then none else some rest
  | _ => none

/-- The text behind a parameter. -/
def parameterRest? (t : Text) : Option Text :=
  let t := t.dropWhile (· == ' ')
  match t with
  | [] => some []
  | _ =>
    match (t.takeWhile isTokenChar).isEmpty, t.dropWhile isTokenChar with
    | false, '=' :: '"' :: rest => quotedRest? rest
    | false, '=' :: rest => plainRest? rest
    | _, _ => none

/-- Whether `t` is a row of parameters. -/
def areParameters : Nat → Text → Bool
  | _, [] => true
  | 0, _ => false
  | fuel + 1, t =>
    match parameterRest? t with
    | none => false
    | some rest => areParameters fuel rest

/-- A subtype around its last plus sign: the main part and the part
after the sign. A plus sign in front separates nothing. -/
def splitSuffix (subtype : Text) : Text × Option Text :=
  let r := subtype.reverse
  let after := r.takeWhile (· != '+')
  match r.drop after.length with
  | [] => (subtype, none)
  | [_] => (subtype, none)
  | _ :: before => (before.reverse, some after.reverse)

/-- Whether a media type says JSON. -/
def isJson (t : Text) : Bool :=
  let type := t.takeWhile isTokenChar
  match t.drop type.length with
  | '/' :: rest =>
    let subtype := rest.takeWhile isTokenChar
    let parametersOk :=
      match rest.drop subtype.length with
      | [] => true
      | ';' :: parameters => !subtype.isEmpty && areParameters parameters.length parameters
      | _ => false
    let json := "json".toList
    let (main, suffix) := splitSuffix (Text.asciiLower subtype)
    parametersOk && Text.asciiLower type == "application".toList &&
      (main == json || suffix == some json)
  | _ => false

end ScriptGate.Http.MediaType
