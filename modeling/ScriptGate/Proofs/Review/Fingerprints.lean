import ScriptGate.Proofs.Review.Failures

/-!
# `ScriptGate.Proofs.Review.Fingerprints`: what a review says about known code

A review judges the one answer of its scanner, whatever that scanner is
(`fingerprintFailures_eq_nil_iff`). `Fingerprint.scan` answers with the
first fingerprint of its list that matches the body (`forall_scan_iff`).
`no_objection_iff` puts the two together for every list of fingerprints: a
review does not object to known code if and only if the first fingerprint
that matches, if one does, belongs to one of the authors.

So the order of the list matters. `entitled_match_hides_forbidden` is a
candidate whose body matches a fingerprint that nobody may publish. The
review does not object, because a fingerprint of the author stands before
it.
-/

set_option autoImplicit false

namespace ScriptGate

namespace Fingerprint

/-- The fingerprint matches somewhere in `body`. -/
def Matches (f : Fingerprint) (body : Text) : Prop := f.pattern.isMatch body = true

/-- `f` is the first of the fingerprints that matches in `body`. -/
def FirstMatch (fs : List Fingerprint) (body : Text) (f : Fingerprint) : Prop :=
  ∃ before after, fs = before ++ f :: after ∧ (∀ g ∈ before, ¬ g.Matches body) ∧ f.Matches body

/-- A fingerprint matches if and only if the scanner finds a place for
it. -/
theorem matches_iff_findSpan? (f : Fingerprint) (body : Text) :
    f.Matches body ↔ ∃ span, f.pattern.findSpan? body = some span := by
  rw [Matches, Pattern.isMatch, Pattern.findSpan?, Option.isSome_iff_exists]
  constructor
  · rintro ⟨place, hp⟩
    exact ⟨_, by rw [hp, Option.map_some]⟩
  · rintro ⟨span, hs⟩
    obtain ⟨place, hp, -⟩ := Option.map_eq_some_iff.mp hs
    exact ⟨place, hp⟩

/-- It matches nowhere if and only if the scanner finds no place. -/
theorem not_matches_iff_findSpan? (f : Fingerprint) (body : Text) :
    ¬ f.Matches body ↔ f.pattern.findSpan? body = none := by
  rw [matches_iff_findSpan?, Option.eq_none_iff_forall_ne_some, not_exists]

/-- What the scanner reports is the first match. -/
theorem firstMatch_of_scan {fs : List Fingerprint} {body : Text} {hit : Hit}
    (h : scan fs body = some hit) : ∃ f span, FirstMatch fs body f ∧ hit = f.hit span := by
  -- The scanner finds no place for the fingerprints before the hit.
  obtain ⟨before, f, after, hfs, hf, hbefore⟩ := List.findSome?_eq_some_iff.mp h
  obtain ⟨span, hspan, rfl⟩ := Option.map_eq_some_iff.mp hf
  refine ⟨f, span, ⟨before, after, hfs, fun g hg => ?_, ?_⟩, rfl⟩
  · rw [not_matches_iff_findSpan?]
    exact Option.map_eq_none_iff.mp (hbefore g hg)
  · rw [matches_iff_findSpan?]
    exact ⟨span, hspan⟩

/-- The scanner reports nothing only if nothing matches. -/
theorem not_firstMatch_of_scan {fs : List Fingerprint} {body : Text} (h : scan fs body = none)
    (f : Fingerprint) : ¬ FirstMatch fs body f := by
  rintro ⟨before, after, rfl, -, hf⟩
  have hnone := List.findSome?_eq_none_iff.mp h f (by simp)
  exact (not_matches_iff_findSpan? f body).mpr (Option.map_eq_none_iff.mp hnone) hf

/-- There is at most one first match. -/
theorem FirstMatch.unique {fs : List Fingerprint} {body : Text} {f g : Fingerprint}
    (hf : FirstMatch fs body f) (hg : FirstMatch fs body g) : f = g := by
  obtain ⟨bf, af, rfl, hbf, hmf⟩ := hf
  obtain ⟨bg, ag, heq, hbg, hmg⟩ := hg
  -- The shorter of the two beginnings is the beginning of the other one.
  rcases List.append_eq_append_iff.mp heq with ⟨l, rfl, hl⟩ | ⟨l, rfl, hl⟩
  · cases l with
    | nil => exact (List.cons.inj hl).1
    | cons x l =>
        rw [List.cons_append, List.cons.injEq] at hl
        exact absurd hmf (hbg f (by rw [hl.1]; simp))
  · cases l with
    | nil => exact (List.cons.inj hl).1.symm
    | cons x l =>
        rw [List.cons_append, List.cons.injEq] at hl
        exact absurd hmg (hbf g (by rw [hl.1]; simp))

/-- What holds of the authors in the scanner's answer holds of those of the
first match. -/
theorem forall_scan_iff (fs : List Fingerprint) (body : Text) (P : List Nat → Prop) :
    (∀ hit, scan fs body = some hit → P hit.originatingAuthors) ↔
      ∀ f, FirstMatch fs body f → P f.originatingAuthors := by
  constructor
  · intro h f hf
    cases hscan : scan fs body with
    | none => exact absurd hf (not_firstMatch_of_scan hscan f)
    | some hit =>
        obtain ⟨g, span, hg, rfl⟩ := firstMatch_of_scan hscan
        rw [hf.unique hg]
        exact h _ hscan
  · intro h hit hscan
    obtain ⟨f, span, hf, rfl⟩ := firstMatch_of_scan hscan
    exact h f hf

end Fingerprint

namespace Review

open Header (Metadata)

/-! ### Which check objects to known code -/

/-- The failure is about known code. -/
def Failure.isAboutKnownCode : Failure → Bool
  | .disallowedSignature _ => true
  | .unauthorizedCopy => true
  | _ => false

/-- Known code has a place of its own. -/
theorem isAboutKnownCode_iff (f : Failure) : f.isAboutKnownCode = true ↔ f.place = 2 := by
  cases f with
  | identityMissing field => cases field <;> decide
  | _ => simp [Failure.isAboutKnownCode, Failure.place]

/-- Failures at other places than that of the fingerprints are about
something else. -/
theorem not_known_of_place {fs : List Failure} (h : ∀ f ∈ fs, f.place ≠ 2) :
    fs.filter Failure.isAboutKnownCode = [] := by
  rw [List.filter_eq_nil_iff]
  exact fun f hf hknown => h f hf ((isAboutKnownCode_iff f).mp hknown)

/-- The check of the dependencies is not about known code. -/
theorem not_known_dependencyFailures (p : Policy) (isApproved : Text → Bool) (m : Metadata) :
    (dependencyFailures p isApproved m).filter Failure.isAboutKnownCode = [] := by
  refine not_known_of_place fun f hf => ?_
  rw [place_dependencyFailures hf]
  decide

/-- The checks at other places are about something else. -/
theorem AtMostOne.not_known {n : Nat} {fs : List Failure} (h : AtMostOne n fs) (hn : n ≠ 2) :
    fs.filter Failure.isAboutKnownCode = [] :=
  not_known_of_place fun _ hf => h.place hf ▸ hn

/-- What is said about absent fields is not about known code. -/
theorem not_known_missingIdentity (name description : Option Text) :
    (missingIdentity name description).filter Failure.isAboutKnownCode = [] := by
  rw [missingIdentity, List.filter_append, (atMostOne_missing .name name).not_known (by decide),
    (atMostOne_missing .description description).not_known (by decide), List.nil_append]

/-- Of the checks of a judgement, only that of the fingerprints is about
known code. -/
theorem known_failures_judge (p : Policy) (checks : Checks) (c : Candidate)
    (previous : Option Previous) :
    (judge p checks c previous).failures.filter Failure.isAboutKnownCode
      = (fingerprintFailures checks.hit? c.authors (Header.body c.code)).filter
          Failure.isAboutKnownCode := by
  simp only [judge, List.filter_append, not_known_dependencyFailures,
    (atMostOne_grammarFailures _ _).not_known, (atMostOne_minificationFailures _ _ _).not_known,
    (atMostOne_settleVersion _ _ _).not_known, (atMostOne_settleNamespace _ _ _ _).not_known,
    (atMostOne_settleDescription _ _ _ _).not_known, not_known_missingIdentity, List.nil_append,
    List.append_nil, ne_eq, Nat.reduceEqDiff, not_false_eq_true]

/-! ### When it does -/

/-- The check of the fingerprints is silent if and only if what the scanner
recognises, if anything, belongs to one of the authors. -/
theorem fingerprintFailures_eq_nil_iff (hit? : Text → Option Fingerprint.Hit) (authors : List Nat)
    (body : Text) :
    fingerprintFailures hit? authors body = [] ↔
      ∀ hit, hit? body = some hit → ∃ a ∈ hit.originatingAuthors, a ∈ authors := by
  unfold fingerprintFailures
  cases hit? body with
  | none =>
      simp only [true_iff]
      exact fun hit h => by cases h
  | some hit =>
      simp only [Option.some.injEq, forall_eq']
      split
      · rename_i hempty
        rw [List.isEmpty_iff.mp hempty]
        simp only [List.cons_ne_nil, List.not_mem_nil, false_and, exists_false]
      · split
        · rename_i hany
          obtain ⟨a, ha, hin⟩ := List.any_eq_true.mp hany
          simp only [true_iff]
          exact ⟨a, ha, List.contains_iff_mem.mp hin⟩
        · rename_i hany
          simp only [List.cons_ne_nil, false_iff]
          rintro ⟨a, ha, hin⟩
          exact hany (List.any_eq_true.mpr ⟨a, ha, List.contains_iff_mem.mpr hin⟩)

/-- All that the check of the fingerprints says is about known code. -/
theorem known_fingerprintFailures (hit? : Text → Option Fingerprint.Hit) (authors : List Nat)
    (body : Text) :
    (fingerprintFailures hit? authors body).filter Failure.isAboutKnownCode
      = fingerprintFailures hit? authors body := by
  unfold fingerprintFailures
  cases hit? body with
  | none => rfl
  | some hit =>
      simp only
      split
      · rfl
      · split
        · rfl
        · rfl

/-- The two failures that are about known code, spelled out. -/
theorem filter_known_eq_nil_iff (failures : List Failure) :
    failures.filter Failure.isAboutKnownCode = [] ↔
      (∀ id, .disallowedSignature id ∉ failures) ∧ .unauthorizedCopy ∉ failures := by
  rw [List.filter_eq_nil_iff]
  constructor
  · intro h
    exact ⟨fun id hid => h _ hid rfl, fun hcopy => h _ hcopy rfl⟩
  · rintro ⟨hsignature, hcopy⟩ failure hf hknown
    cases failure with
    | disallowedSignature id => exact hsignature id hf
    | unauthorizedCopy => exact hcopy hf
    | _ => cases hknown

/-- A review does not object to known code if and only if the first
fingerprint of the list that matches the body, if one does, has an author
in common with the candidate. -/
theorem no_objection_iff (p : Policy) (checks : Checks) (fs : List Fingerprint) (c : Candidate)
    (previous : Option Previous) (hheader : Header.locate c.code ≠ none) :
    ((∀ id, .disallowedSignature id ∉ (review p (checks.knowing fs) c previous).failures) ∧
        .unauthorizedCopy ∉ (review p (checks.knowing fs) c previous).failures) ↔
      ∀ f, Fingerprint.FirstMatch fs (Header.body c.code) f →
        ∃ a ∈ f.originatingAuthors, a ∈ c.authors := by
  rw [review_eq_judge p (checks.knowing fs) hheader, ← filter_known_eq_nil_iff,
    known_failures_judge, known_fingerprintFailures, fingerprintFailures_eq_nil_iff]
  exact Fingerprint.forall_scan_iff fs (Header.body c.code) fun owners =>
    ∃ a ∈ owners, a ∈ c.authors

/-! ### The order of the list -/

/-- A fingerprint of code that the author 1 may publish. -/
def ownFingerprint : Fingerprint := ⟨['a'], .char (.single 'x'), [1]⟩

/-- A fingerprint of code that nobody may publish. -/
def forbiddenFingerprint : Fingerprint := ⟨['b'], .char (.single 'y'), []⟩

/-- Both, that of the author first. -/
def orderedFingerprints : List Fingerprint := [ownFingerprint, forbiddenFingerprint]

/-- Checks that know both and find nothing else. -/
def orderedChecks : Checks :=
  Checks.knowing ⟨fun _ => none, fun _ => none, fun _ => false⟩ orderedFingerprints

/-- A small script of the author 1 whose body matches both. -/
def knownCandidate : Candidate where
  code :=
    ("// ==UserScript==\n// @name n\n// @description d\n// @namespace s\n// @version 1\n" ++
      "// ==/UserScript==\nx = y;\n").toList
  kind := .userScript
  authors := [1]
  owner := 1
  displayName := none
  options := {}
  submittedAt := .ofSeconds 0

/-- The candidate has a header. -/
theorem locate_knownCandidate : Header.locate knownCandidate.code ≠ none := by decide +kernel

/-- The first match is that of the author, so the review does not
object. -/
theorem no_objection_to_known :
    Header.locate knownCandidate.code ≠ none ∧
      (∀ id, .disallowedSignature id ∉
        (review .standard orderedChecks knownCandidate none).failures) ∧
      .unauthorizedCopy ∉ (review .standard orderedChecks knownCandidate none).failures := by
  refine ⟨locate_knownCandidate, (no_objection_iff .standard orderedChecks orderedFingerprints
    knownCandidate none locate_knownCandidate).mpr ?_⟩
  intro f hf
  have hfirst : Fingerprint.FirstMatch orderedFingerprints
      (Header.body knownCandidate.code) ownFingerprint :=
    ⟨[], [forbiddenFingerprint], rfl, fun g hg => (by cases hg), by
      show ownFingerprint.pattern.isMatch (Header.body knownCandidate.code) = true
      decide +kernel⟩
  rw [hf.unique hfirst]
  exact ⟨1, by decide, by decide⟩

/-- The candidate is accepted, and its body matches a fingerprint that
nobody may publish. -/
theorem entitled_match_hides_forbidden :
    Header.locate knownCandidate.code ≠ none ∧
      (∀ id, .disallowedSignature id ∉
        (review .standard orderedChecks knownCandidate none).failures) ∧
      .unauthorizedCopy ∉ (review .standard orderedChecks knownCandidate none).failures ∧
      ∃ f ∈ orderedFingerprints, f.Matches (Header.body knownCandidate.code) ∧
        f.originatingAuthors = [] := by
  have haccepted : (review .standard orderedChecks knownCandidate none).failures = [] := by
    decide +kernel
  rw [haccepted]
  refine ⟨locate_knownCandidate, fun _ h => (by cases h), fun h => (by cases h),
    forbiddenFingerprint, by decide, ?_, rfl⟩
  show forbiddenFingerprint.pattern.isMatch (Header.body knownCandidate.code) = true
  decide +kernel

end Review
end ScriptGate
