import Mathlib.Data.List.Forall2
import ScriptGate.Proofs.Review.Fingerprints

/-!
# `ScriptGate.Proofs.Review.Anonymity`: reviews do not read names

Fingerprints have names, which are for the operators. A failure carries
the name in the scanner's answer, so two services whose fingerprints have
other names come to different verdicts. `anonymous` takes the names away,
from the answers of the scanner and from failures, and the two commute
with everything else: a review whose scanner keeps names to itself is the
review with its failures made anonymous (`review_anonymous`). What a
failure or a verdict shows to submitters does not change when it is made
anonymous (`Failure.report_anonymous`, `Verdict.report_anonymous`).

Only one check asks the scanner. That the others say nothing that has a
name is what the lemmas about known code say of them. Two lists of
fingerprints that differ in names alone make scanners that are the same
without names (`Fingerprint.SameButNames.scan_eq`).
-/

set_option autoImplicit false

namespace ScriptGate

namespace Fingerprint

/-- The scanner's answer without the name in it. -/
def Hit.anonymous (h : Hit) : Hit := { h with id := [] }

/-- The fingerprints come in the same order and say the same. Only their
names may differ. -/
def SameButNames (fs gs : List Fingerprint) : Prop :=
  List.Forall₂
    (fun f g => f.pattern = g.pattern ∧ f.originatingAuthors = g.originatingAuthors) fs gs

/-- Both scanners find the same place, whatever the names. -/
theorem SameButNames.scan_eq {fs gs : List Fingerprint} (h : SameButNames fs gs) (body : Text) :
    (scan fs body).map Hit.anonymous = (scan gs body).map Hit.anonymous := by
  induction h with
  | nil => rfl
  | @cons f g fs gs hsame _ ih =>
      simp only [scan, List.findSome?_cons] at ih ⊢
      rw [hsame.1]
      cases g.pattern.findSpan? body with
      | none => exact ih
      | some span =>
          -- The first of both lists match, so the answers differ in the name alone.
          show some (f.hit span).anonymous = some (g.hit span).anonymous
          rw [Hit.anonymous, Hit.anonymous, hit, hit, hsame.2]

end Fingerprint

namespace Review

/-! ### Failures and verdicts without names -/

/-- The failure without the name of a fingerprint. -/
def Failure.anonymous : Failure → Failure
  | .disallowedSignature _ => .disallowedSignature []
  | f => f

/-- The verdict without names of fingerprints. -/
def Verdict.anonymous (v : Verdict) : Verdict :=
  { v with failures := v.failures.map Failure.anonymous }

/-- The checks, whose scanner now keeps names to itself. -/
def Checks.anonymous (checks : Checks) : Checks :=
  { checks with hit? := fun body => (checks.hit? body).map Fingerprint.Hit.anonymous }

/-- The code of a failure is not the name in it. -/
@[simp] theorem Failure.code_anonymous (f : Failure) : f.anonymous.code = f.code := by
  cases f <;> rfl

/-- The message of a failure does not tell the name. -/
@[simp] theorem Failure.message_anonymous (f : Failure) : f.anonymous.message = f.message := by
  cases f <;> rfl

/-- What submitters get of a failure has no name. -/
@[simp] theorem Failure.report_anonymous (f : Failure) : f.anonymous.report = f.report := by
  cases f <;> rfl

/-- The messages of a list of failures do not tell names either. -/
@[simp] theorem Failure.summary_anonymous (fs : List Failure) :
    Failure.summary (fs.map Failure.anonymous) = Failure.summary fs := by
  simp only [Failure.summary, List.map_map, Function.comp_def, Failure.message_anonymous]

/-- A candidate is accepted with or without names. -/
@[simp] theorem Verdict.isAccepted_anonymous (v : Verdict) :
    v.anonymous.isAccepted = v.isAccepted := by
  rw [Verdict.isAccepted, Verdict.isAccepted, Verdict.anonymous, List.isEmpty_map]

/-- What submitters get of a verdict has no names. -/
@[simp] theorem Verdict.report_anonymous (v : Verdict) : v.anonymous.report = v.report := by
  rw [Verdict.report, Verdict.report, Verdict.isAccepted_anonymous]
  simp only [Verdict.anonymous, List.map_map, Function.comp_def, Failure.report_anonymous]

/-! ### Checks -/

/-- Failures that are not about known code have no names. -/
theorem map_anonymous_of_not_known {fs : List Failure}
    (h : fs.filter Failure.isAboutKnownCode = []) : fs.map Failure.anonymous = fs := by
  rw [List.filter_eq_nil_iff] at h
  refine (List.map_congr_left fun f hf => ?_).trans (List.map_id fs)
  cases f with
  | disallowedSignature id => exact absurd rfl (h _ hf)
  | _ => rfl

/-- The check of the fingerprints reads no names, and repeats the one in the
scanner's answer. -/
theorem fingerprintFailures_anonymous (hit? : Text → Option Fingerprint.Hit) (authors : List Nat)
    (body : Text) :
    fingerprintFailures (fun t => (hit? t).map Fingerprint.Hit.anonymous) authors body
      = (fingerprintFailures hit? authors body).map Failure.anonymous := by
  rw [fingerprintFailures, fingerprintFailures]
  cases hit? body with
  | none => rfl
  | some hit =>
      show (if hit.originatingAuthors.isEmpty then [Failure.disallowedSignature []]
          else if hit.originatingAuthors.any authors.contains then []
          else [Failure.unauthorizedCopy])
        = (if hit.originatingAuthors.isEmpty then [Failure.disallowedSignature hit.id]
          else if hit.originatingAuthors.any authors.contains then []
          else [Failure.unauthorizedCopy]).map Failure.anonymous
      split
      · rfl
      · split
        · rfl
        · rfl

/-- A judgement asks the scanner once and repeats the name it gets. Every
other check says nothing that has a name. -/
theorem judge_anonymous (p : Policy) (checks : Checks) (c : Candidate)
    (previous : Option Previous) :
    judge p checks.anonymous c previous = (judge p checks c previous).anonymous := by
  simp only [judge, Verdict.anonymous, Checks.anonymous, List.map_append,
    fingerprintFailures_anonymous, map_anonymous_of_not_known (not_known_dependencyFailures _ _ _),
    map_anonymous_of_not_known ((atMostOne_grammarFailures _ _).not_known (by decide)),
    map_anonymous_of_not_known ((atMostOne_minificationFailures _ _ _).not_known (by decide)),
    map_anonymous_of_not_known ((atMostOne_settleVersion _ _ _).not_known (by decide)),
    map_anonymous_of_not_known ((atMostOne_settleNamespace _ _ _ _).not_known (by decide)),
    map_anonymous_of_not_known ((atMostOne_settleDescription _ _ _ _).not_known (by decide)),
    map_anonymous_of_not_known (not_known_missingIdentity _ _)]

/-- **Reviews do not read names.** When the scanner keeps them to itself, a
review comes to the same verdict without the names in it. -/
theorem review_anonymous (p : Policy) (checks : Checks) (c : Candidate)
    (previous : Option Previous) :
    review p checks.anonymous c previous = (review p checks c previous).anonymous := by
  rw [review, review]
  cases Header.locate c.code with
  | none => rfl
  | some span => exact judge_anonymous p checks c previous

end Review
end ScriptGate
