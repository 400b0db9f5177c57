import ScriptGate.Text.Basic

/-!
# `ScriptGate.Json.Value`: JSON values

Objects keep the order of their members. Numbers are the naturals and
integers of 64 bits; any other number is kept by the text that shows it,
because no setting and no request holds one.
-/

set_option autoImplicit false

namespace ScriptGate

/-- A JSON number. -/
inductive JsonNumber where
  /-- A natural number. -/
  | natural (n : Nat)
  /-- The negative of a positive number. -/
  | negative (n : Nat)
  /-- Any other number, by the decimal that shows it. -/
  | fraction (shown : Text)
  deriving DecidableEq, Repr

/-- The decimal that shows a number. -/
def JsonNumber.text : JsonNumber → Text
  | natural n => Text.decimal n
  | negative n => '-' :: Text.decimal n
  | fraction shown => shown

/-- A JSON value. -/
inductive Json where
  /-- The value `null`. -/
  | null
  /-- A truth value. -/
  | bool (b : Bool)
  /-- A number. -/
  | number (n : JsonNumber)
  /-- A string. -/
  | text (t : Text)
  /-- A list of values. -/
  | array (items : List Json)
  /-- Named values in their order. -/
  | object (members : List (Text × Json))
  deriving Repr

namespace Json

/-- A natural number as a value. -/
def nat (n : Nat) : Json := .number (.natural n)

/-- A literal string as a value. -/
def str (s : String) : Json := .text s.toList

/-- A text or `null`. -/
def optText : Option Text → Json
  | none => .null
  | some t => .text t

/-- A value or `null`. -/
def opt {α : Type} (f : α → Json) : Option α → Json
  | none => .null
  | some a => f a

/-- An object with literal names. -/
def record (members : List (String × Json)) : Json :=
  .object (members.map fun (k, v) => (k.toList, v))

/-- The member called `name`. Of several the last one counts. -/
def member? (name : String) : Json → Option Json
  | .object members =>
    (members.reverse.find? fun m => m.1 == name.toList).map Prod.snd
  | _ => none

/-- The members in the order of their names, each name once and with its
last value. -/
def sortMembers (members : List (Text × Json)) : List (Text × Json) :=
  let sorted := members.mergeSort fun a b => List.compareLex Ord.compare a.1 b.1 != .gt
  sorted.foldr
    (fun m rest =>
      match rest with
      | [] => [m]
      | n :: _ => if m.1 = n.1 then rest else m :: rest)
    []

mutual

/-- The value with the members of all its objects in the order of their
names. -/
def sorted : Json → Json
  | .array items => .array (sortedItems items)
  | .object members => .object (sortMembers (sortedMembers members))
  | v => v

/-- `sorted` for the items of an array. -/
def sortedItems : List Json → List Json
  | [] => []
  | v :: vs => sorted v :: sortedItems vs

/-- `sorted` for the members of an object. -/
def sortedMembers : List (Text × Json) → List (Text × Json)
  | [] => []
  | (k, v) :: ms => (k, sorted v) :: sortedMembers ms

end

end Json
end ScriptGate
