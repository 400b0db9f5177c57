import ScriptGate.Review.Candidate
import ScriptGate.Uuid

/-!
# `ScriptGate.Request.Basic`: what submitters send

A request carries the code of a revision and what its submitter says
about it. A trial request asks what would become of it, and may name the
script whose next revision it would be.

A request can be well formed and still have fields out of range.
`Request.complaints` lists these fields.
-/

set_option autoImplicit false

namespace ScriptGate

open Review (Kind Options)

/-- A revision as its submitter sends it. -/
structure Request where
  /-- The code. -/
  code : Text
  /-- The submitting author. -/
  author : Nat
  /-- What the script is for. -/
  kind : Kind
  /-- The name that the submitter typed. -/
  displayName : Option Text
  /-- The wishes of the submitter. -/
  options : Options
  deriving DecidableEq, Repr

/-- A request that is only reviewed. -/
structure Trial where
  /-- The script whose next revision it would be. -/
  script : Option Uuid
  /-- The request. -/
  request : Request
  deriving DecidableEq, Repr

/-- A field of a request that is out of range. -/
inductive Complaint where
  /-- The author has no positive number. -/
  | author
  /-- The code is empty or too long. -/
  | code
  /-- The typed name is empty or too long. -/
  | displayName
  deriving DecidableEq, Repr

/-- The name of the field and what is wrong with it. -/
def Complaint.message : Complaint → Text
  | author => "author_id: Author id must be positive".toList
  | code => "code: Code must be between 1 and 2000000 characters".toList
  | displayName => "display_name: Display name must be between 1 and 100 characters".toList

namespace Request

/-- The most characters that code may have. -/
def maxCodeLength : Nat := 2000000

/-- The most characters that a typed name may have. -/
def maxNameLength : Nat := 100

/-- Whether a length is positive and at most `limit`. -/
def inRange (limit n : Nat) : Bool := 1 ≤ n && n ≤ limit

/-- The fields that are out of range. They are collected by name, so no
order of them is promised; here it is that of the names. -/
def complaints (r : Request) : List Complaint :=
  (if 1 ≤ r.author then [] else [.author]) ++
    (if inRange maxCodeLength r.code.length then [] else [.code]) ++
    (if r.displayName.all (fun name => inRange maxNameLength name.length) then []
      else [.displayName])

/-- The complaints about a request, one a line. Where there are several,
their order is that of `complaints`, which is one of those possible. -/
def complaintText (cs : List Complaint) : Text :=
  List.intercalate ['\n'] (cs.map Complaint.message)

end Request

/-- The complaints about the request inside a trial, which are not
separated. -/
def Trial.complaintText (cs : List Complaint) : Text :=
  cs.flatMap fun c => "submission.".toList ++ c.message

end ScriptGate
