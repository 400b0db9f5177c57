import ScriptGate.Json.Value

/-!
# `ScriptGate.Json.Printer`: compact JSON

Values are written without spaces. In strings the quote, the backslash
and the control characters below U+0020 are escaped, by their short
escape where there is one; every other character stands for itself.
-/

set_option autoImplicit false

namespace ScriptGate.Json

/-- A character as it stands inside a string. -/
def escapeChar (c : Char) : Text :=
  match c with
  | '"' => ['\\', '"']
  | '\\' => ['\\', '\\']
  | '\n' => ['\\', 'n']
  | '\r' => ['\\', 'r']
  | '\t' => ['\\', 't']
  | c =>
    if c.toNat = 8 then ['\\', 'b']
    else if c.toNat = 12 then ['\\', 'f']
    else if c.toNat < 0x20 then
      '\\' :: 'u' :: (List.replicate (4 - (Text.hexadecimal c.toNat).length) '0' ++
        Text.hexadecimal c.toNat)
    else [c]

/-- A string with its quotes. -/
def printText (t : Text) : Text := '"' :: (t.flatMap escapeChar ++ ['"'])

mutual

/-- The compact text of a value. -/
def print : Json → Text
  | .null => "null".toList
  | .bool true => "true".toList
  | .bool false => "false".toList
  | .number n => n.text
  | .text t => printText t
  | .array items => '[' :: (List.intercalate [','] (printItems items) ++ [']'])
  | .object members => '{' :: (List.intercalate [','] (printMembers members) ++ ['}'])

/-- The texts of the items of an array. -/
def printItems : List Json → List Text
  | [] => []
  | v :: vs => print v :: printItems vs

/-- The texts of the members of an object. -/
def printMembers : List (Text × Json) → List Text
  | [] => []
  | (k, v) :: ms => (printText k ++ ':' :: print v) :: printMembers ms

end

end ScriptGate.Json
