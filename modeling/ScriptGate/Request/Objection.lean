import ScriptGate.Json.Source
import ScriptGate.Text.Quoted
import ScriptGate.Uuid

/-!
# `ScriptGate.Request.Objection`: why JSON is no request

Either the text is no JSON, or what it holds has the wrong shape. Then
the objection names what was found and what was wanted.
-/

set_option autoImplicit false

namespace ScriptGate.Request

open Json (Source)

/-- Why a JSON text is no request. -/
inductive Objection where
  /-- The text is no JSON. -/
  | malformed
  /-- A value of one type stands where another is wanted. -/
  | wrongType (found : Text) (wanted : String)
  /-- A value is of the right type but out of range. -/
  | wrongValue (found : Text) (wanted : String)
  /-- A list has too few or too many items. -/
  | wrongLength (found : Nat) (wanted : Text)
  /-- A needed member is missing. -/
  | missingField (name : String)
  /-- A member stands twice. -/
  | duplicateField (name : String)
  /-- A name is no kind of script. -/
  | unknownKind (name : Text)
  /-- A string is no identifier. -/
  | invalidUuid (defect : Uuid.Defect)
  deriving DecidableEq, Repr

/-- A text between backticks. -/
def ticked (t : Text) : Text := Char.ofNat 0x60 :: (t ++ [Char.ofNat 0x60])

/-- How an objection is worded. -/
def Objection.message : Objection → Text
  | malformed => []
  | wrongType found wanted =>
    "invalid type: ".toList ++ found ++ ", expected ".toList ++ wanted.toList
  | wrongValue found wanted =>
    "invalid value: ".toList ++ found ++ ", expected ".toList ++ wanted.toList
  | wrongLength found wanted =>
    "invalid length ".toList ++ Text.decimal found ++ ", expected ".toList ++ wanted
  | missingField name => "missing field ".toList ++ ticked name.toList
  | duplicateField name => "duplicate field ".toList ++ ticked name.toList
  | unknownKind name =>
    "unknown variant ".toList ++ ticked name ++ ", expected ".toList ++
      ticked "user_script".toList ++ " or ".toList ++ ticked "library".toList
  | invalidUuid defect => "UUID parsing failed: ".toList ++ defect.message

/-- How an objection calls what it found; nothing where the text itself
is wrong. -/
def shown? : Source → Option Text
  | .null => some "null".toList
  | .bool b => some ("boolean ".toList ++ ticked (if b then "true" else "false").toList)
  | .number n =>
    match n with
    | .fraction _ => some ("floating point ".toList ++ ticked n.text)
    | _ => some ("integer ".toList ++ ticked n.text)
  | .text t => some ("string ".toList ++ Text.quoted t)
  | .array _ _ => some "sequence".toList
  | .object _ _ => some "map".toList
  | .meaningless | .broken => none

/-- The objection to `s` where something else is wanted. -/
def objection (s : Source) (wanted : String) : Objection :=
  match shown? s with
  | some found => .wrongType found wanted
  | none => .malformed

end ScriptGate.Request
