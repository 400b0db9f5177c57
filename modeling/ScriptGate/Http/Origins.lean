import ScriptGate.Text.Basic

/-!
# `ScriptGate.Http.Origins`: whose pages may call the service

Browsers let a page call the service only when the answer names the
origin of the page, or all origins. The service names an origin that is
on its list, and all of them when its list is empty. Origins with
characters that cannot stand in a header are left out of the list
beforehand, and the sign for all origins may not stand on it.
-/

set_option autoImplicit false

namespace ScriptGate.Http

/-- Whose pages may call the service. -/
inductive Origins where
  /-- Everybody's. -/
  | every
  /-- Those of these origins. -/
  | only (origins : List Text)
  deriving DecidableEq, Repr

namespace Origins

/-- The sign for all origins. -/
def wildcard : Text := ['*']

/-- Whether a text can stand in a header. -/
def isHeaderText (t : Text) : Bool :=
  t.all fun c => c = '\t' || (0x20 ≤ c.toNat && c.toNat < 0x7F)

/-- The origins on a list; none when the sign for all of them is on
it. -/
def ofList? (list : List Text) : Option Origins :=
  let usable := list.filter isHeaderText
  if usable.isEmpty then some .every
  else if usable.contains wildcard then none
  else some (.only usable)

/-- The origin that an answer names, given the origin of the caller. -/
def named? (o : Origins) (caller : Option Text) : Option Text :=
  match o with
  | every => some wildcard
  | only origins => caller.filter origins.contains

end Origins
end ScriptGate.Http
