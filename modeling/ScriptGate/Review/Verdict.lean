import ScriptGate.Fingerprint
import ScriptGate.Grammar.Check
import ScriptGate.Header.Span
import ScriptGate.Review.Canonical
import ScriptGate.Review.Ruling

/-!
# `ScriptGate.Review.Verdict`: whether a candidate is accepted

A review looks at the external code that a candidate names, at known
fingerprints, at its grammar and at its lines, and settles its identity.
`review` collects what the checks say, in this order, together with the
canonical text. A candidate is accepted when no check fails.

A candidate without a header is refused without another look.
-/

set_option autoImplicit false

namespace ScriptGate.Review

open Header (Metadata)

/-- A mistake in a program and the line where it is. -/
structure Mistake where
  /-- The line, counted from one. -/
  line : Nat
  /-- What is wrong. -/
  message : Text
  deriving DecidableEq, Repr

/-- The mistake that a grammar check finds. -/
def Mistake.find? (code : Text) : Option Mistake :=
  (Grammar.check code).map fun d => ⟨d.line, d.complaint.message.toList⟩

/-- What a review consults besides its policy. It knows nothing of how they
come to their answers, and each can be exchanged. -/
structure Checks where
  /-- The first mistake in a program, if there is one. -/
  mistake? : Text → Option Mistake
  /-- The known code in a body, if there is some. -/
  hit? : Text → Option Fingerprint.Hit
  /-- Whether external code is approved. -/
  isApproved : Text → Bool

/-- The checks with these fingerprints of known code. -/
def Checks.knowing (checks : Checks) (fs : List Fingerprint) : Checks :=
  { checks with hit? := Fingerprint.scan fs }

/-- The checks that belong to a policy, given the content of its
signature file. -/
def Checks.ofPolicy (p : Policy) (signatures : Option (Text × Text)) : Except SetupError Checks := do
  let fingerprints ←
    match signatures with
    | none => .ok []
    | some (path, content) => Fingerprint.ofFile path content
  let dependencies ← AllowList.ofTexts p.approvedPatterns
  pure ⟨Mistake.find?, Fingerprint.scan fingerprints, dependencies.isApproved⟩

/-! ### The checks of the code -/

/-- One failure for each directive that names unapproved code. -/
def dependencyFailures (p : Policy) (isApproved : Text → Bool) (m : Metadata) : List Failure :=
  p.dependencyKeys.flatMap fun key =>
    ((m.all key).filter (fun value => !isApproved value)).map (.unapprovedDependency key)

/-- What the scanner's answer says about code of these authors. -/
def fingerprintFailures (hit? : Text → Option Fingerprint.Hit) (authors : List Nat)
    (body : Text) : List Failure :=
  match hit? body with
  | none => []
  | some hit =>
    if hit.originatingAuthors.isEmpty then [.disallowedSignature hit.id]
    else if hit.originatingAuthors.any authors.contains then []
    else [.unauthorizedCopy]

/-- The failure of code that is no program. -/
def grammarFailures (mistake? : Text → Option Mistake) (code : Text) : List Failure :=
  match mistake? code with
  | none => []
  | some mistake =>
    [.ungrammatical ("line ".toList ++ Text.decimal mistake.line ++
      ':' :: ' ' :: mistake.message)]

/-- Whether a body with lines of these lengths looks minified: one of
them is too long, or the body is long and so are its lines on
average. -/
def looksMinified (p : Policy) (lengths : List Nat) : Bool :=
  let total := lengths.foldl (· + ·) 0
  lengths.any (p.lineLimit < ·) ||
    (!lengths.isEmpty && p.longBodyLength ≤ total &&
      p.averageLineLimit < total / lengths.length)

/-- The failure of a minified body, unless the submitter stands by
it. -/
def minificationFailures (p : Policy) (o : Options) (body : Text) : List Failure :=
  if !o.confirmMinified && looksMinified p ((Text.lineContents body).map List.length) then
    [.appearsMinified]
  else []

/-! ### The verdict -/

/-- The result of a review. -/
structure Verdict where
  /-- Why the candidate is refused, in the order of the checks. -/
  failures : List Failure
  /-- What was corrected. -/
  corrections : List Correction
  /-- The text to store and serve. -/
  canonical : Text
  /-- The settled version. -/
  version : Option Text
  /-- The settled namespace. -/
  namespaceName : Option Text
  /-- The settled name. -/
  name : Option Text
  /-- The settled description. -/
  description : Option Text
  deriving DecidableEq, Repr

namespace Verdict

/-- A candidate is accepted when nothing speaks against it. -/
def isAccepted (v : Verdict) : Bool := v.failures.isEmpty

/-- The verdict on code without a header. -/
def headless (code : Text) : Verdict := ⟨[.headerMissing], [], code, none, none, none, none⟩

/-- A verdict as submitters get it. -/
def report (v : Verdict) : Json :=
  .record [("accepted", .bool v.isAccepted), ("failures", .array (v.failures.map Failure.report)),
    ("corrections", .array (v.corrections.map Correction.report)),
    ("rewrittenCode", .text v.canonical), ("version", .optText v.version),
    ("namespace", .optText v.namespaceName), ("name", .optText v.name),
    ("description", .optText v.description)]

end Verdict

/-- The verdict on a candidate whose code has a header. -/
def judge (p : Policy) (checks : Checks) (c : Candidate) (previous : Option Previous) : Verdict :=
  let m := Metadata.ofSource c.code
  let body := Header.body c.code
  let version := settleVersion m c previous
  let namespaceName := settleNamespace p m c previous
  let description := settleDescription p m c.options previous
  let name := settleName m c previous
  { failures :=
      dependencyFailures p checks.isApproved m ++
        fingerprintFailures checks.hit? c.authors body ++
        grammarFailures checks.mistake? c.code ++ minificationFailures p c.options body ++
        version.failures ++ namespaceName.failures ++ description.failures ++
        missingIdentity name description.value
    corrections :=
      version.corrections ++ namespaceName.corrections ++ description.corrections ++ removals p m
    canonical := canonical p m version.value namespaceName.value c.code
    version := version.value
    namespaceName := namespaceName.value
    name := name
    description := description.value }

/-- The verdict on a candidate, seen against the previous revision if
there is one. -/
def review (p : Policy) (checks : Checks) (c : Candidate) (previous : Option Previous) : Verdict :=
  match Header.locate c.code with
  | none => .headless c.code
  | some _ => judge p checks c previous

end ScriptGate.Review
