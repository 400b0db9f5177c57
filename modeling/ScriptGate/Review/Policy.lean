import ScriptGate.Text.Basic

/-!
# `ScriptGate.Review.Policy`: the limits and lists of a review

A policy is fixed when the service starts. `Policy.standard` is what
holds where nothing else is configured.
-/

set_option autoImplicit false

namespace ScriptGate.Review

/-- The limits and lists that every review uses. -/
structure Policy where
  /-- The most characters that a description may have. -/
  descriptionLimit : Nat
  /-- A body line with more characters marks the code as minified. -/
  lineLimit : Nat
  /-- A long body whose lines have more characters than this on average
  counts as minified. -/
  averageLineLimit : Nat
  /-- Bodies with fewer characters are too short for an average. -/
  longBodyLength : Nat
  /-- The address below which owners have their default namespaces. -/
  namespaceBase : Text
  /-- Patterns of approved external code. -/
  approvedPatterns : List Text
  /-- Directives that are taken out of every revision. -/
  forbiddenKeys : List Text
  /-- Directives whose values name external code. -/
  dependencyKeys : List Text
  /-- The file of disallowed fingerprints. -/
  signatureFile : Option Text
  /-- What describes a script that was deleted. -/
  deletionNotice : Text
  deriving DecidableEq, Repr

/-- The policy that holds where nothing else is configured. -/
def Policy.standard : Policy where
  descriptionLimit := 500
  lineLimit := 5000
  averageLineLimit := 250
  longBodyLength := 5000
  namespaceBase := "http://localhost/".toList
  approvedPatterns :=
    ["https?://ajax\\.googleapis\\.com/ajax/libs/.*".toList,
      "https?://code\\.jquery\\.com/.*".toList]
  forbiddenKeys := ["updateURL".toList, "downloadURL".toList]
  dependencyKeys := ["require".toList]
  signatureFile := none
  deletionNotice := "This script was deleted".toList

end ScriptGate.Review
