import ScriptGate.Keyed
import ScriptGate.Review.Candidate
import ScriptGate.Store.Archive
import ScriptGate.Uuid

/-!
# `ScriptGate.Store.Registry`: scripts and their revisions

Every script has a record and a history. The record says what the script
is now, and the history lists its accepted revisions, oldest first. A
commit adds one revision to one history and brings the record up to
date. It names the revision that it was reviewed against and fails when
that is no longer the latest, so of two commits against one revision at
most the first succeeds.
-/

set_option autoImplicit false

namespace ScriptGate.Store

open Review (Kind Previous)

/-- What a script is now. -/
structure Record where
  /-- The identifier of the script. -/
  id : Uuid
  /-- What it is for. -/
  kind : Kind
  /-- Its authors. -/
  authors : List Nat
  /-- Its name. -/
  name : Text
  /-- Its description. -/
  description : Text
  /-- Its version. -/
  version : Text
  /-- Its namespace. -/
  namespaceName : Option Text
  /-- Its latest revision. -/
  latestRevision : Uuid
  /-- When its first revision was accepted. -/
  createdAt : Instant
  /-- When its latest revision was accepted. -/
  updatedAt : Instant
  deriving DecidableEq, Repr

/-- What the review of the next revision sees of a record. -/
def Record.previous (r : Record) : Previous :=
  ⟨r.version, r.namespaceName, some r.name, some r.description⟩

/-- An accepted revision. Its code is in the archive. -/
structure Revision where
  /-- The identifier of the revision. -/
  id : Uuid
  /-- The script that it belongs to. -/
  script : Uuid
  /-- The code as it was submitted. -/
  rawCode : CodeId
  /-- The code as it is served. -/
  canonicalCode : CodeId
  /-- Its version. -/
  version : Text
  /-- Its namespace. -/
  namespaceName : Option Text
  /-- When it was accepted. -/
  acceptedAt : Instant
  deriving DecidableEq, Repr

/-- An accepted revision on its way into the registry. -/
structure Commit where
  /-- The script that it continues; none for a new script. -/
  script : Option Uuid
  /-- The latest revision when it was reviewed. -/
  expected : Option Uuid
  /-- The kind of a new script. -/
  kind : Kind
  /-- The authors of a new script. -/
  authors : List Nat
  /-- The name. -/
  name : Text
  /-- The description. -/
  description : Text
  /-- The version. -/
  version : Text
  /-- The namespace. -/
  namespaceName : Option Text
  /-- The code as it was submitted. -/
  rawCode : CodeId
  /-- The code as it is served. -/
  canonicalCode : CodeId
  /-- When it was accepted. -/
  acceptedAt : Instant
  deriving DecidableEq, Repr

/-- Why a commit fails. -/
inductive CommitError where
  /-- There is no such script. -/
  | unknownScript (id : Uuid)
  /-- The script has a later revision than the expected one. -/
  | superseded (id : Uuid)
  deriving DecidableEq, Repr

/-- The records and histories of all scripts. -/
structure Registry where
  /-- What each script is now. -/
  records : Keyed Uuid Record
  /-- The revisions of each script, oldest first. -/
  histories : Keyed Uuid (List Revision)

namespace Registry

/-- The registry without scripts. -/
def empty : Registry := ⟨.empty, .empty⟩

/-- The record of a script. -/
def record? (r : Registry) (id : Uuid) : Option Record := r.records.get? id

/-- The revisions of a script, oldest first. -/
def history? (r : Registry) (id : Uuid) : Option (List Revision) := r.histories.get? id

/-- All records, the oldest script first. Scripts that were made at the same
time stand in the order in which they came. Nobody may rely on that: only
the order of the times is promised. -/
def list (r : Registry) : List Record :=
  r.records.values.mergeSort fun a b => a.createdAt.le b.createdAt

/-- The revision that a commit makes of a script. -/
def revisionOf (c : Commit) (script id : Uuid) : Revision :=
  { id, script, rawCode := c.rawCode, canonicalCode := c.canonicalCode, version := c.version
    namespaceName := c.namespaceName, acceptedAt := c.acceptedAt }

/-- The record of a new script with its first revision. -/
def newRecord (c : Commit) (script revision : Uuid) : Record :=
  { id := script, kind := c.kind, authors := c.authors, name := c.name
    description := c.description, version := c.version, namespaceName := c.namespaceName
    latestRevision := revision, createdAt := c.acceptedAt, updatedAt := c.acceptedAt }

/-- A record after the next revision. Kind, authors and the time of
creation stay. -/
def updatedRecord (old : Record) (c : Commit) (revision : Uuid) : Record :=
  { old with
    name := c.name, description := c.description, version := c.version
    namespaceName := c.namespaceName, latestRevision := revision, updatedAt := c.acceptedAt }

/-- The registry with a record and one more revision of its script. -/
def append (r : Registry) (script : Uuid) (record : Record) (revision : Revision) : Registry :=
  { records := r.records.put script record
    histories := r.histories.put script ((r.history? script).getD [] ++ [revision]) }

/-- The record that a commit continues. A new script has none, and an
old one has to be known and at the expected revision. -/
def base? (r : Registry) (c : Commit) : Except CommitError (Option Record) :=
  match c.script with
  | none => .ok none
  | some id =>
    match r.record? id with
    | none => .error (.unknownScript id)
    | some old =>
      if some old.latestRevision = c.expected then .ok (some old) else .error (.superseded id)

/-- Accepts a revision. A new script gets the identifier `freshScript`,
and the revision gets `freshRevision`. -/
def commit (r : Registry) (c : Commit) (freshScript freshRevision : Uuid) :
    Except CommitError (Registry × Record × Revision) := do
  let base ← r.base? c
  let script := c.script.getD freshScript
  let revision := revisionOf c script freshRevision
  let record :=
    match base with
    | some old => updatedRecord old c freshRevision
    | none => newRecord c script freshRevision
  pure (r.append script record revision, record, revision)

end Registry
end ScriptGate.Store
