import ScriptGate.Header.Blanked
import ScriptGate.Review.Verdict
import ScriptGate.Service.Refusal
import ScriptGate.Store.Registry
import ScriptGate.Store.Trail

/-!
# `ScriptGate.Service.Basic`: the service and what it can be asked

A service has rules, which never change, and a state: the archive of
code, the registry of scripts and the trail of submissions. The
functions here only read the state; `ScriptGate.Service.Submission`
changes it.
-/

set_option autoImplicit false

namespace ScriptGate.Service

open Review (Candidate Checks Policy Verdict)
open Store (Archive CodeId Record Registry Revision Trail)

/-- What of the archive is out of order. -/
structure Outage where
  /-- It takes no code. -/
  writing : Bool := false
  /-- It finds no code. -/
  reading : Bool := false
  deriving DecidableEq, Repr

/-- The rules of a service. -/
structure Rules where
  /-- The limits and lists of its reviews. -/
  policy : Policy
  /-- What its reviews consult. -/
  checks : Checks
  /-- What of its archive is out of order. -/
  outage : Outage := {}

/-- What a service knows. -/
structure State where
  /-- The code. -/
  archive : Archive
  /-- The scripts. -/
  registry : Registry
  /-- What became of submissions. -/
  trail : Trail

/-- What a service knows when it starts. -/
def State.empty : State := ⟨.empty, .empty, .empty⟩

namespace State

/-- The record of a script. -/
def record (s : State) (id : Uuid) : Except Refusal Record :=
  match s.registry.record? id with
  | some r => .ok r
  | none => .error (.unknownScript id)

/-- The record of the script that a submission continues; none for a new
script. -/
def target (s : State) : Option Uuid → Except Refusal (Option Record)
  | none => .ok none
  | some id => (s.record id).map some

/-- The revisions of a script, oldest first. -/
def revisions (s : State) (id : Uuid) : Except Refusal (List Revision) :=
  match s.registry.history? id with
  | some rs => .ok rs
  | none => .error (.unknownScript id)

/-- The latest revision of a script. -/
def latestRevision (s : State) (id : Uuid) : Except Refusal Revision := do
  match (← s.revisions id).getLast? with
  | some r => pure r
  | none => throw (.noRevision id)

end State

namespace Rules

/-- Stores a text, unless the archive takes none. -/
def store (rules : Rules) (a : Archive) (code : Text) : Except Refusal (CodeId × Archive) :=
  if rules.outage.writing then .error .archiveClosed
  else .ok (CodeId.ofCode code, a.store code)

/-- The text with a digest, unless the archive finds none. -/
def load? (rules : Rules) (a : Archive) (id : CodeId) : Option Text :=
  if rules.outage.reading then none else a.load? id

/-- The code of a script as it is served. -/
def latestCode (rules : Rules) (s : State) (id : Uuid) : Except Refusal Text := do
  let revision ← s.latestRevision id
  match rules.load? s.archive revision.canonicalCode with
  | some code => pure code
  | none => throw (.codeMissing revision.canonicalCode id)

/-- The header of a script as it is served. -/
def latestHeader (rules : Rules) (s : State) (id : Uuid) : Except Refusal Text := do
  match Header.metaBlock (← rules.latestCode s id) with
  | some header => pure header
  | none => throw (.headerMissing id)

/-- What replaces a script once it is deleted. -/
def blanked (rules : Rules) (s : State) (id : Uuid) : Except Refusal Text := do
  let p := rules.policy
  match Header.blanked (← rules.latestCode s id) p.deletionNotice p.dependencyKeys with
  | some header => pure header
  | none => throw (.headerMissing id)

/-- The candidate that a request makes. Kind and authors of a script
stay what they are. -/
def candidate (existing : Option Record) (r : Request) (now : Instant) : Candidate :=
  { code := r.code
    kind := existing.elim r.kind Record.kind
    authors := existing.elim [r.author] Record.authors
    owner := r.author
    displayName := r.displayName
    options := r.options
    submittedAt := now }

/-- The verdict on a request. -/
def review (rules : Rules) (existing : Option Record) (r : Request) (now : Instant) : Verdict :=
  Review.review rules.policy rules.checks (candidate existing r now)
    (existing.map Record.previous)

/-- What would become of a request now. -/
def preview (rules : Rules) (s : State) (t : Trial) (now : Instant) : Except Refusal Verdict := do
  let complaints := t.request.complaints
  if !complaints.isEmpty then throw (.invalidTrial complaints)
  let existing ← s.target t.script
  pure (rules.review existing t.request now)

end Rules
end ScriptGate.Service
