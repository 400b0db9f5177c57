import ScriptGate.Text.Basic

/-!
# `ScriptGate.Namespace`: where a namespace comes from

A script keeps its namespace across revisions. A candidate that
declares none inherits the one of the previous revision, or gets a
default for its owner where the submitter asked for it.
-/

set_option autoImplicit false

namespace ScriptGate

/-- The namespace of a candidate by its origin. -/
inductive NamespaceOrigin where
  /-- The header declares it. -/
  | declared (name : Text)
  /-- It is copied from the previous revision. -/
  | inherited (name : Text)
  /-- It is made up for the owner. -/
  | defaulted (name : Text)
  /-- There is none. -/
  | missing
  deriving DecidableEq, Repr

namespace NamespaceOrigin

/-- The namespace, when there is one. -/
def value? : NamespaceOrigin → Option Text
  | declared name | inherited name | defaulted name => some name
  | missing => none

end NamespaceOrigin

/-- The default namespace of an owner below `baseUrl`, whose slashes at
the end do not count. -/
def defaultNamespace (baseUrl : Text) (owner : Nat) : Text :=
  (baseUrl.reverse.dropWhile (· == '/')).reverse ++ "/users/".toList ++ Text.decimal owner

/-- The namespace of a candidate: declared, else inherited, else the
owner's default when `addMissing` asks for it. -/
def resolveNamespace (declared previous : Option Text) (addMissing : Bool) (owner : Nat)
    (baseUrl : Text) : NamespaceOrigin :=
  match declared, previous with
  | some name, _ => .declared name
  | none, some name => .inherited name
  | none, none => if addMissing then .defaulted (defaultNamespace baseUrl owner) else .missing

end ScriptGate
