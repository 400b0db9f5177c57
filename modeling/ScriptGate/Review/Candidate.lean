import ScriptGate.Calendar

/-!
# `ScriptGate.Review.Candidate`: what is reviewed

A candidate is the code of a revision that somebody wants to publish,
with what the submitter said about it. The revision before it takes part
in the review as far as its identity goes.
-/

set_option autoImplicit false

namespace ScriptGate.Review

/-- What a script is for. -/
inductive Kind where
  /-- A script that users install. -/
  | userScript
  /-- Code that other scripts load. -/
  | library
  deriving DecidableEq, Repr

/-- The name of a kind. -/
def Kind.text : Kind → String
  | userScript => "user_script"
  | library => "library"

/-- The wishes of a submitter. None of them outlives the review. -/
structure Options where
  /-- A version that does not advance the previous one is fine. -/
  keepVersion : Bool := false
  /-- A namespace that differs from the previous one is fine. -/
  changeNamespace : Bool := false
  /-- Make a version where none is declared. -/
  addMissingVersion : Bool := false
  /-- Use the owner's default where there is no namespace. -/
  addMissingNamespace : Bool := false
  /-- Minified code is intended. -/
  confirmMinified : Bool := false
  /-- Correct a version or description rather than refuse it. -/
  lenient : Bool := false
  deriving DecidableEq, Repr

/-- The code of a revision and what its submitter said about it. -/
structure Candidate where
  /-- The code as it was submitted. -/
  code : Text
  /-- What the script is for. -/
  kind : Kind
  /-- The authors of the script. -/
  authors : List Nat
  /-- The submitting author, who owns the default namespace. -/
  owner : Nat
  /-- The name that the submitter typed; only libraries use it. -/
  displayName : Option Text
  /-- The wishes of the submitter. -/
  options : Options
  /-- When the code was submitted. -/
  submittedAt : Instant
  deriving DecidableEq, Repr

/-- What a review sees of the last accepted revision. -/
structure Previous where
  /-- Its version. -/
  version : Text
  /-- Its namespace. -/
  namespaceName : Option Text
  /-- Its name. -/
  name : Option Text
  /-- Its description. -/
  description : Option Text
  deriving DecidableEq, Repr

end ScriptGate.Review
