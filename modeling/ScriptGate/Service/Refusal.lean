import ScriptGate.Json.Value
import ScriptGate.Request.Basic
import ScriptGate.Review.Finding
import ScriptGate.Store.Archive

/-!
# `ScriptGate.Service.Refusal`: why the service does not do something

A refusal belongs to one of five classes. The class decides the status
of the answer and the code in it; the cause decides the words. Causes of
the last class are faults of the service, and their words are kept apart
from the message.
-/

set_option autoImplicit false

namespace ScriptGate.Service

open Review (Failure IdentityField)
open Store (CodeId)

/-- A value that an accepted revision has to have. -/
inductive Needed where
  /-- The name. -/
  | name
  /-- The description. -/
  | description
  /-- The version. -/
  | version
  deriving DecidableEq, Repr

/-- The name of a needed value. -/
def Needed.text : Needed → String
  | name => "name"
  | description => "description"
  | version => "version"

/-- Why the service does not do something. -/
inductive Refusal where
  /-- The review refused a revision. -/
  | rejected (failures : List Failure)
  /-- Fields of a request are out of range. -/
  | invalidRequest (complaints : List Complaint)
  /-- Fields of the request in a trial are out of range. -/
  | invalidTrial (complaints : List Complaint)
  /-- There is no such script. -/
  | unknownScript (id : Uuid)
  /-- The script has no revision. -/
  | noRevision (id : Uuid)
  /-- Another revision was accepted since this one was reviewed. -/
  | superseded (id : Uuid)
  /-- The archive takes no code. -/
  | archiveClosed
  /-- The archive does not have the code of a script. -/
  | codeMissing (code : CodeId) (script : Uuid)
  /-- The code of a script has no header. -/
  | headerMissing (script : Uuid)
  /-- An accepted revision lacks a value. -/
  | unresolved (field : Needed)
  deriving DecidableEq, Repr

/-- The classes of refusals. -/
inductive RefusalClass where
  /-- The review refused a revision. -/
  | rejected
  /-- The request is out of range. -/
  | validation
  /-- What was asked for does not exist. -/
  | notFound
  /-- Somebody else was faster. -/
  | conflict
  /-- The service itself is at fault. -/
  | internal
  deriving DecidableEq, Repr

namespace RefusalClass

/-- The status of an answer. -/
def status : RefusalClass → Nat
  | rejected => 422
  | validation => 400
  | notFound => 404
  | conflict => 409
  | internal => 500

/-- The name under which programs know a class. -/
def code : RefusalClass → String
  | rejected => "SUBMISSION_REJECTED"
  | validation => "VALIDATION_ERROR"
  | notFound => "NOT_FOUND"
  | conflict => "CONFLICT"
  | internal => "INTERNAL_ERROR"

/-- What the description of a refusal begins with. -/
def title : RefusalClass → String
  | rejected => "Submission rejected"
  | validation => "Validation error"
  | notFound => "Not found"
  | conflict => "Conflict"
  | internal => "Internal error"

end RefusalClass

namespace Refusal

/-- The class of a refusal. -/
def classOf : Refusal → RefusalClass
  | rejected _ => .rejected
  | invalidRequest _ | invalidTrial _ => .validation
  | unknownScript _ | noRevision _ => .notFound
  | superseded _ => .conflict
  | archiveClosed | codeMissing _ _ | headerMissing _ | unresolved _ => .internal

/-- The cause in words. -/
def cause : Refusal → Text
  | rejected failures => Failure.summary failures
  | invalidRequest complaints => Request.complaintText complaints
  | invalidTrial complaints => Trial.complaintText complaints
  | unknownScript id => "Script ".toList ++ id.text ++ " not found".toList
  | noRevision id => "Script ".toList ++ id.text ++ " has no revisions".toList
  | superseded id =>
    "Script ".toList ++ id.text ++ " changed while the revision was being validated".toList
  | archiveClosed => "store failed".toList
  | codeMissing code script =>
    "Code ".toList ++ code.text ++ " of script ".toList ++ script.text ++ " is missing".toList
  | headerMissing script => "Script ".toList ++ script.text ++ " has no meta block".toList
  | unresolved field => "Accepted revision has no ".toList ++ field.text.toList

/-- The description of a refusal: its class and its cause. -/
def description (r : Refusal) : Text :=
  r.classOf.title.toList ++ ':' :: ' ' :: r.cause

/-- The message that goes out. Of a fault of the service it tells
nothing. -/
def message (r : Refusal) : Text :=
  match r.classOf with
  | .internal => "An internal error occurred".toList
  | _ => r.cause

/-- The details that go out besides the message. -/
def details : Refusal → List (String × Json)
  | rejected failures => [("failures", .array (failures.map Failure.report))]
  | r =>
    match r.classOf with
    | .internal => [("error", .text r.cause)]
    | _ => []

/-- The answer to a request that is refused. -/
def report (r : Refusal) : Json :=
  .record ([("success", .bool false), ("message", .text r.message),
    ("code", .str r.classOf.code)] ++ r.details)

end Refusal
end ScriptGate.Service
