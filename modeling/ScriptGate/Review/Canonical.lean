import ScriptGate.Header.Metadata
import ScriptGate.Header.Rewrite
import ScriptGate.Review.Finding
import ScriptGate.Review.Policy

/-!
# `ScriptGate.Review.Canonical`: the text that is stored and served

The canonical text of a revision is its code with the settled version
and namespace written into the header and without forbidden directives.
-/

set_option autoImplicit false

namespace ScriptGate.Review

open Header (Edits Metadata)

/-- The edits that write a version. -/
def versionEdits (version : Option Text) (e : Edits) : Edits :=
  version.elim e (e.replace Header.versionKey)

/-- The edits that add a version where the header has none left. -/
def versionAddition (version : Option Text) (e : Edits) : Edits :=
  version.elim e (e.addIfMissing Header.versionKey)

/-- The edits that write a namespace. A declared one stays, and a blank
one counts as undeclared. -/
def namespaceEdits (m : Metadata) (name : Option Text) (e : Edits) : Edits :=
  match name with
  | none => e
  | some name =>
    let e :=
      if (m.firstNonBlank Header.namespaceKey).isNone then e.replace Header.namespaceKey name
      else e
    e.addIfMissing Header.namespaceKey name

/-- The edits that make a header canonical. Forbidden directives are
removed after the version was replaced and before it is added. -/
def canonicalEdits (p : Policy) (m : Metadata) (version name : Option Text) : Edits :=
  namespaceEdits m name
    (versionAddition version
      (p.forbiddenKeys.foldl Edits.remove (versionEdits version Edits.empty)))

/-- One correction for each forbidden directive that the header has. -/
def removals (p : Policy) (m : Metadata) : List Correction :=
  (p.forbiddenKeys.filter m.contains).map .directiveRemoved

/-- The canonical text of `code`. -/
def canonical (p : Policy) (m : Metadata) (version name : Option Text) (code : Text) : Text :=
  Header.rewrite code (canonicalEdits p m version name)

end ScriptGate.Review
