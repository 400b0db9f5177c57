import ScriptGate.Json.Value

/-!
# `ScriptGate.Review.Finding`: what a review has to say

A failure is a reason to refuse a candidate; it has a stable code and a
message. A correction is a change that the review made to the candidate
instead of refusing it.
-/

set_option autoImplicit false

namespace ScriptGate.Review

/-- A field without which a script has no identity. -/
inductive IdentityField where
  /-- The displayed name. -/
  | name
  /-- The displayed description. -/
  | description
  deriving DecidableEq, Repr

/-- The key of an identity field. -/
def IdentityField.text : IdentityField → String
  | name => "name"
  | description => "description"

/-- Why a candidate is refused. -/
inductive Failure where
  /-- The code has no header. -/
  | headerMissing
  /-- A directive names external code that is not approved. -/
  | unapprovedDependency (key value : Text)
  /-- The body matches a fingerprint that nobody may publish. Its name
  is for the operators only. -/
  | disallowedSignature (fingerprint : Text)
  /-- The body matches a fingerprint of other authors. -/
  | unauthorizedCopy
  /-- The code is no program. -/
  | ungrammatical (message : Text)
  /-- The body looks minified. -/
  | appearsMinified
  /-- The version is not greater than the previous one. -/
  | versionNotAdvanced (previous candidate : Text)
  /-- No version is declared. -/
  | versionMissing
  /-- The namespace differs from the previous one. -/
  | namespaceMismatch (previous candidate : Text)
  /-- There is no namespace. -/
  | namespaceMissing
  /-- The description has more characters than the limit. -/
  | descriptionTooLong (limit : Nat)
  /-- An identity field has no value. -/
  | identityMissing (field : IdentityField)
  deriving DecidableEq, Repr

namespace Failure

/-- The name under which programs know a failure. -/
def code : Failure → String
  | headerMissing => "HEADER_MISSING"
  | unapprovedDependency _ _ => "UNAPPROVED_DEPENDENCY"
  | disallowedSignature _ => "DISALLOWED_SIGNATURE"
  | unauthorizedCopy => "UNAUTHORIZED_COPY"
  | ungrammatical _ => "SYNTAX_ERROR"
  | appearsMinified => "APPEARS_MINIFIED"
  | versionNotAdvanced _ _ => "VERSION_NOT_ADVANCED"
  | versionMissing => "VERSION_MISSING"
  | namespaceMismatch _ _ => "NAMESPACE_MISMATCH"
  | namespaceMissing => "NAMESPACE_MISSING"
  | descriptionTooLong _ => "DESCRIPTION_TOO_LONG"
  | identityMissing _ => "IDENTITY_MISSING"

/-- What the submitter reads. -/
def message : Failure → Text
  | headerMissing => "code is missing the ==UserScript== meta block".toList
  | unapprovedDependency key value =>
    "uses an unapproved external script: @".toList ++ key ++ ' ' :: value
  | disallowedSignature _ => "Exception 403001".toList
  | unauthorizedCopy => "appears to be an unauthorized copy".toList
  | ungrammatical message => "contains errors: ".toList ++ message
  | appearsMinified =>
    "appears to be minified; confirm the submission to keep minified code".toList
  | versionNotAdvanced previous candidate =>
    "@version must be greater than the previous version (".toList ++ previous ++
      "), got ".toList ++ candidate
  | versionMissing => "code is missing @version".toList
  | namespaceMismatch previous candidate =>
    "@namespace must stay ".toList ++ previous ++ ", got ".toList ++ candidate
  | namespaceMissing => "code is missing @namespace".toList
  | descriptionTooLong limit =>
    "@description is too long (maximum is ".toList ++ Text.decimal limit ++
      " characters)".toList
  | identityMissing field => "code is missing @".toList ++ field.text.toList

/-- The details of a failure. The name of a fingerprint is not among
them. -/
def details : Failure → Json
  | headerMissing => .record [("kind", .str "header_missing")]
  | unapprovedDependency key value =>
    .record [("kind", .str "unapproved_dependency"), ("directive", .text key),
      ("value", .text value)]
  | disallowedSignature _ => .record [("kind", .str "disallowed_signature")]
  | unauthorizedCopy => .record [("kind", .str "unauthorized_copy")]
  | ungrammatical message =>
    .record [("kind", .str "syntax_error"), ("message", .text message)]
  | appearsMinified => .record [("kind", .str "appears_minified")]
  | versionNotAdvanced previous candidate =>
    .record [("kind", .str "version_not_advanced"), ("previous", .text previous),
      ("candidate", .text candidate)]
  | versionMissing => .record [("kind", .str "version_missing")]
  | namespaceMismatch previous candidate =>
    .record [("kind", .str "namespace_mismatch"), ("previous", .text previous),
      ("candidate", .text candidate)]
  | namespaceMissing => .record [("kind", .str "namespace_missing")]
  | descriptionTooLong limit =>
    .record [("kind", .str "description_too_long"), ("limit", .nat limit)]
  | identityMissing field =>
    .record [("kind", .str "identity_missing"), ("field", .str field.text)]

/-- A failure as submitters get it. -/
def report (f : Failure) : Json :=
  .record [("code", .str f.code), ("message", .text f.message), ("failure", f.details)]

/-- The messages of some failures in one line. -/
def summary (fs : List Failure) : Text :=
  List.intercalate [';', ' '] (fs.map message)

end Failure

/-- A change that a review made. -/
inductive Correction where
  /-- A version was made from the clock. -/
  | versionGenerated (version : Text)
  /-- The version was raised above the previous one. -/
  | versionAdvanced (declared raised : Text)
  /-- The namespace of the previous revision was taken over. -/
  | namespaceInherited (name : Text)
  /-- The owner's default namespace was used. -/
  | namespaceDefaulted (name : Text)
  /-- The description was cut off at the limit. -/
  | descriptionTruncated (limit : Nat)
  /-- A forbidden directive was taken out. -/
  | directiveRemoved (key : Text)
  deriving DecidableEq, Repr

/-- A correction as submitters get it. -/
def Correction.report : Correction → Json
  | versionGenerated version =>
    .record [("kind", .str "version_generated"), ("version", .text version)]
  | versionAdvanced declared raised =>
    .record [("kind", .str "version_advanced"), ("from", .text declared), ("to", .text raised)]
  | namespaceInherited name =>
    .record [("kind", .str "namespace_inherited"), ("namespace", .text name)]
  | namespaceDefaulted name =>
    .record [("kind", .str "namespace_defaulted"), ("namespace", .text name)]
  | descriptionTruncated limit =>
    .record [("kind", .str "description_truncated"), ("limit", .nat limit)]
  | directiveRemoved key =>
    .record [("kind", .str "directive_removed"), ("directive", .text key)]

end ScriptGate.Review
