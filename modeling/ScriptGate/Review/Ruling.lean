import ScriptGate.Header.Metadata
import ScriptGate.Namespace
import ScriptGate.Review.Candidate
import ScriptGate.Review.Finding
import ScriptGate.Review.Policy
import ScriptGate.Version.Generated
import ScriptGate.Version.Successor

/-!
# `ScriptGate.Review.Ruling`: the identity of a revision

Version, namespace, description and name of a revision come from its
header, from the previous revision, from the clock or from the
submitter. Each of the four is settled by a function of its own, whose
`Ruling` carries the value with the failures and corrections that led
to it.
-/

set_option autoImplicit false

namespace ScriptGate.Review

open Header (Metadata)

/-- A value with what there is to say about it. -/
structure Ruling (α : Type) where
  /-- What was settled. -/
  value : α
  /-- Why it is refused. -/
  failures : List Failure
  /-- How it was corrected. -/
  corrections : List Correction
  deriving DecidableEq, Repr

namespace Ruling

variable {α : Type}

/-- A value about which there is nothing to say. -/
def plain (value : α) : Ruling α := ⟨value, [], []⟩

/-- A value that is refused. -/
def refused (value : α) (failure : Failure) : Ruling α := ⟨value, [failure], []⟩

/-- A value that comes from a correction. -/
def corrected (value : α) (correction : Correction) : Ruling α := ⟨value, [], [correction]⟩

end Ruling

/-! ### The version -/

/-- The version that a candidate brings: the declared one, or one made
from the clock where the submitter asks for it or the previous revision
had such a version too. -/
def proposedVersion (m : Metadata) (c : Candidate) (previous : Option Text) :
    Ruling (Option Text) :=
  match m.firstNonBlank Header.versionKey with
  | some declared => .plain (some declared)
  | none =>
    if c.options.addMissingVersion || previous.any Version.isGenerated then
      let made := Version.generated c.submittedAt
      .corrected (some made) (.versionGenerated made)
    else .refused none .versionMissing

/-- A version measured against the previous one. One that does not
advance is kept where the submitter wants that, raised where corrections
are welcome, and else refused. -/
def advancedVersion (o : Options) (previous : Option Text) (version : Text) :
    Ruling (Option Text) :=
  match previous with
  | none => .plain (some version)
  | some previous =>
    if Version.isNewer version previous || o.keepVersion then .plain (some version)
    else if o.lenient then
      let raised := Version.next previous
      .corrected (some raised) (.versionAdvanced version raised)
    else .refused (some version) (.versionNotAdvanced previous version)

/-- The version of a candidate. -/
def settleVersion (m : Metadata) (c : Candidate) (previous : Option Previous) :
    Ruling (Option Text) :=
  let before := previous.map Previous.version
  let proposed := proposedVersion m c before
  match proposed.value with
  | none => proposed
  | some version =>
    let advanced := advancedVersion c.options before version
    ⟨advanced.value, proposed.failures ++ advanced.failures,
      proposed.corrections ++ advanced.corrections⟩

/-! ### The namespace -/

/-- Where the namespace of a candidate comes from. -/
def namespaceOrigin (p : Policy) (m : Metadata) (c : Candidate) (previous : Option Text) :
    NamespaceOrigin :=
  resolveNamespace (m.firstNonBlank Header.namespaceKey) previous c.options.addMissingNamespace
    c.owner p.namespaceBase

/-- The namespace of a candidate. A declared one has to be the previous
one unless the submitter wants to change it. -/
def settleNamespace (p : Policy) (m : Metadata) (c : Candidate) (previous : Option Previous) :
    Ruling (Option Text) :=
  let before := previous.bind Previous.namespaceName
  match namespaceOrigin p m c before with
  | .declared name =>
    match before with
    | none => .plain (some name)
    | some before =>
      if name = before || c.options.changeNamespace then .plain (some name)
      else .refused (some name) (.namespaceMismatch before name)
  | .inherited name => .corrected (some name) (.namespaceInherited name)
  | .defaulted name => .corrected (some name) (.namespaceDefaulted name)
  | .missing => .refused none .namespaceMissing

/-! ### The description and the name -/

/-- The description of a candidate: the declared or else the previous
one. One beyond the limit is cut off where corrections are welcome. -/
def settleDescription (p : Policy) (m : Metadata) (o : Options) (previous : Option Previous) :
    Ruling (Option Text) :=
  match (m.firstNonBlank Header.descriptionKey).or (previous.bind Previous.description) with
  | none => .plain none
  | some description =>
    if description.length ≤ p.descriptionLimit then .plain (some description)
    else if o.lenient then
      .corrected (some (description.take p.descriptionLimit))
        (.descriptionTruncated p.descriptionLimit)
    else .refused (some description) (.descriptionTooLong p.descriptionLimit)

/-- The name that the submitter of a library typed, unless it is
blank. -/
def typedName (c : Candidate) : Option Text :=
  match c.kind with
  | .userScript => none
  | .library => (c.displayName.map Text.trim).filter (fun name => !name.isEmpty)

/-- The name of a candidate: the declared, else the typed, else the
previous one. -/
def settleName (m : Metadata) (c : Candidate) (previous : Option Previous) : Option Text :=
  ((m.firstNonBlank Header.nameKey).or (typedName c)).or (previous.bind Previous.name)

/-- Which identity fields lack a value. -/
def missingIdentity (name description : Option Text) : List Failure :=
  (if name.isNone then [.identityMissing .name] else []) ++
    (if description.isNone then [.identityMissing .description] else [])

end ScriptGate.Review
