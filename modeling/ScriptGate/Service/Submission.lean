import ScriptGate.Service.Basic

/-!
# `ScriptGate.Service.Submission`: how a revision is accepted

A submission goes through several steps, and each step is one look at
the state or one change to it:

* `start` checks the fields of the request and takes a snapshot of the
  script that it continues;
* the request is reviewed against the snapshot;
* a refused revision is recorded in the trail, and the code of an
  accepted one is stored in the archive;
* the revision is committed to the registry, which fails when the
  snapshot is out of date;
* what became of it is recorded in the trail.

`Progress` says how far a submission has come, and `advance` is one
step. Steps of several submissions may alternate in any order; `submit`
is a submission that runs on its own.
-/

set_option autoImplicit false

namespace ScriptGate.Service

open Review (Correction Failure Verdict)
open Store (Action CodeId Commit Entry Record Registry Revision)

/-- A request and the script that it continues; none for a new
script. -/
structure Submission where
  /-- The script. -/
  script : Option Uuid
  /-- The request. -/
  request : Request
  deriving DecidableEq, Repr

/-- What an accepted submission is told. -/
structure Receipt where
  /-- The script as it is now. -/
  record : Record
  /-- The accepted revision. -/
  revision : Revision
  /-- What the review corrected. -/
  corrections : List Correction
  deriving DecidableEq, Repr

/-- What a step takes from outside: the time, and identifiers that are
not in use. -/
structure Moment where
  /-- The time. -/
  now : Instant
  /-- An identifier for a script. -/
  freshScript : Uuid
  /-- An identifier for a revision. -/
  freshRevision : Uuid
  /-- An identifier for an entry of the trail. -/
  freshEntry : Uuid
  deriving DecidableEq, Repr

/-- Where a submission stands that is not over. -/
inductive Stage where
  /-- The snapshot has been taken. -/
  | found (existing : Option Record)
  /-- The request has been reviewed. -/
  | reviewed (existing : Option Record) (submittedAt : Instant) (verdict : Verdict)
  /-- The code of the accepted revision has been stored. -/
  | stored (existing : Option Record) (submittedAt : Instant) (verdict : Verdict)
    (rawCode canonicalCode : CodeId)
  /-- The revision has been committed. -/
  | committed (verdict : Verdict) (record : Record) (revision : Revision)
  /-- Another revision of the script was faster. -/
  | outrun (existing : Option Record) (verdict : Verdict) (script : Uuid)

/-- How far a submission has come. -/
inductive Progress where
  /-- It is not over. -/
  | underway (stage : Stage)
  /-- It is over. -/
  | done (answer : Except Refusal Receipt)

/-- The most steps that a submission still takes. -/
def Progress.remaining : Progress → Nat
  | underway (.found _) => 4
  | underway (.reviewed _ _ _) => 3
  | underway (.stored _ _ _ _ _) => 2
  | underway (.committed _ _ _) => 1
  | underway (.outrun _ _ _) => 1
  | done _ => 0

/-- An entry of the trail about a reviewed request. -/
def entryFor (r : Request) (v : Verdict) (m : Moment) (script revision : Option Uuid)
    (action : Action) : Entry :=
  { id := m.freshEntry, script, revision, author := r.author, action, version := v.version
    failures := v.failures.map Failure.code, corrections := v.corrections, recordedAt := m.now }

/-- The code of the failure to commit in time. -/
def conflictCode : String := "CONFLICT"

/-- A settled value, which an accepted revision cannot lack. -/
def needed (field : Needed) : Option Text → Except Refusal Text
  | some value => .ok value
  | none => .error (.unresolved field)

/-- The commit of an accepted revision. -/
def commitFor (existing : Option Record) (r : Request) (v : Verdict) (submittedAt : Instant)
    (rawCode canonicalCode : CodeId) : Except Refusal Commit := do
  let name ← needed .name v.name
  let description ← needed .description v.description
  let version ← needed .version v.version
  pure
    { script := existing.map Record.id
      expected := existing.map Record.latestRevision
      kind := r.kind
      authors := [r.author]
      name, description, version
      namespaceName := v.namespaceName
      rawCode, canonicalCode
      acceptedAt := submittedAt }

namespace Rules

/-- Checks the fields of a request and takes a snapshot of the script
that it continues. -/
def start (s : State) (sub : Submission) : Progress :=
  let complaints := sub.request.complaints
  if !complaints.isEmpty then .done (.error (.invalidRequest complaints))
  else
    match s.target sub.script with
    | .ok existing => .underway (.found existing)
    | .error e => .done (.error e)

/-- Records that a revision was refused, or stores the code of an
accepted one. -/
def afterReview (rules : Rules) (sub : Submission) (m : Moment) (s : State)
    (existing : Option Record) (submittedAt : Instant) (v : Verdict) : State × Progress :=
  if !v.isAccepted then
    ({ s with trail := s.trail.add (entryFor sub.request v m sub.script none .rejected) },
      .done (.error (.rejected v.failures)))
  else
    match rules.store s.archive sub.request.code with
    | .error e => (s, .done (.error e))
    | .ok (rawCode, a) =>
      match rules.store a v.canonical with
      | .error e => ({ s with archive := a }, .done (.error e))
      | .ok (canonicalCode, a) =>
        ({ s with archive := a },
          .underway (.stored existing submittedAt v rawCode canonicalCode))

/-- Commits a revision whose code has been stored. -/
def afterStoring (sub : Submission) (m : Moment) (s : State) (existing : Option Record)
    (submittedAt : Instant) (v : Verdict) (rawCode canonicalCode : CodeId) : State × Progress :=
  match commitFor existing sub.request v submittedAt rawCode canonicalCode with
  | .error e => (s, .done (.error e))
  | .ok commit =>
    match s.registry.commit commit m.freshScript m.freshRevision with
    | .ok (registry, record, revision) =>
      ({ s with registry }, .underway (.committed v record revision))
    | .error (.unknownScript id) => (s, .done (.error (.unknownScript id)))
    | .error (.superseded id) => (s, .underway (.outrun existing v id))

/-- One step of a submission. -/
def advance (rules : Rules) (sub : Submission) (m : Moment) (s : State) :
    Stage → State × Progress
  | .found existing =>
    (s, .underway (.reviewed existing m.now (rules.review existing sub.request m.now)))
  | .reviewed existing submittedAt v => rules.afterReview sub m s existing submittedAt v
  | .stored existing submittedAt v rawCode canonicalCode =>
    afterStoring sub m s existing submittedAt v rawCode canonicalCode
  | .committed v record revision =>
    let entry := entryFor sub.request v m (some record.id) (some revision.id) .accepted
    ({ s with trail := s.trail.add entry }, .done (.ok ⟨record, revision, v.corrections⟩))
  | .outrun existing v id =>
    let entry := entryFor sub.request v m (existing.map Record.id) none .rejected
    let entry := { entry with failures := entry.failures ++ [conflictCode] }
    ({ s with trail := s.trail.add entry }, .done (.error (.superseded id)))

/-- Every step brings a submission nearer to its end. -/
theorem remaining_advance (rules : Rules) (sub : Submission) (m : Moment) (s : State)
    (stage : Stage) :
    (rules.advance sub m s stage).2.remaining < (Progress.underway stage).remaining := by
  cases stage with
  | found => simp [advance, Progress.remaining]
  | reviewed =>
    simp only [advance, afterReview]
    repeat' split
    all_goals simp [Progress.remaining]
  | stored =>
    simp only [advance, afterStoring]
    repeat' split
    all_goals simp [Progress.remaining]
  | committed => simp [advance, Progress.remaining]
  | outrun => simp [advance, Progress.remaining]

/-- A submission from some point to its end, when no other one
interferes. -/
def finish (rules : Rules) (sub : Submission) (m : Moment) (s : State) :
    Progress → State × Except Refusal Receipt
  | .done answer => (s, answer)
  | .underway stage =>
    match _h : rules.advance sub m s stage with
    | (s', p') => finish rules sub m s' p'
termination_by p => p.remaining
decreasing_by
  have hlt := remaining_advance rules sub m s stage
  rwa [_h] at hlt

/-- A submission on its own. -/
def submit (rules : Rules) (s : State) (sub : Submission) (m : Moment) :
    State × Except Refusal Receipt :=
  rules.finish sub m s (start s sub)

end Rules
end ScriptGate.Service
