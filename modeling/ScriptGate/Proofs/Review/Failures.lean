import ScriptGate.Proofs.Header.Pairs
import ScriptGate.Proofs.Review.Ruling

/-!
# `ScriptGate.Proofs.Review.Failures`: the failures of a review, in order

Every failure comes from one check, and `Failure.place` numbers the checks
in the order in which a review makes them. What a check may say in place of
something else has the same place. `failuresAt` lists the failures of one
place, and `failures_judge` puts these lists one after the other.

The check of the dependencies looks at values grouped by their keys.
`dependencyFailures_eq_unapproved` says the same of the directives, as they
stand in the header: there is one failure for each pair of a configured key
and a directive that is not approved. All other checks fail at most once
(`AtMostOne`), so the failures after those of the dependencies have places
that increase.

`failures_in_order` adds that a part of the identity is absent from the
verdict if and only if its failure is there.
-/

set_option autoImplicit false

namespace ScriptGate.Review

open Header (Directive Metadata)

/-- The place of the check that a failure comes from. -/
def Failure.place : Failure → Nat
  | .headerMissing => 0
  | .unapprovedDependency _ _ => 1
  | .disallowedSignature _ => 2
  | .unauthorizedCopy => 2
  | .ungrammatical _ => 3
  | .appearsMinified => 4
  | .versionNotAdvanced _ _ => 5
  | .versionMissing => 5
  | .namespaceMismatch _ _ => 6
  | .namespaceMissing => 6
  | .descriptionTooLong _ => 7
  | .identityMissing .name => 8
  | .identityMissing .description => 9

/-! ### The dependencies -/

/-- One failure for each pair of a configured key and a directive of this
key that is not approved. -/
def unapproved (p : Policy) (isApproved : Text → Bool) (ds : List Directive) : List Failure :=
  p.dependencyKeys.flatMap fun key =>
    (ds.filter fun d => d.key == key && !isApproved d.value).map fun d =>
      .unapprovedDependency d.key d.value

/-- Grouping the directives by key changes nothing for their check. -/
theorem dependencyFailures_eq_unapproved (p : Policy) (isApproved : Text → Bool) (code : Text) :
    dependencyFailures p isApproved (Metadata.ofSource code)
      = unapproved p isApproved (Header.directives code) := by
  refine congrArg (List.flatMap · p.dependencyKeys) (funext fun key => ?_)
  rw [Metadata.ofSource, Metadata.ofDirectives, Header.all_ofPairs, Header.valuesOf]
  simp only [List.filter_map, List.map_map, List.filter_filter, Function.comp_def, Bool.and_comm]
  -- Every directive that is left has the key in question.
  refine List.map_congr_left fun d hd => ?_
  have hkey : (d.key == key) = true := by
    have hd := (List.mem_filter.mp hd).2
    rw [Bool.and_eq_true] at hd
    exact hd.1
  rw [beq_iff_eq.mp hkey]

/-- Whatever the check of the dependencies says has the first place. -/
theorem place_dependencyFailures {p : Policy} {isApproved : Text → Bool} {m : Metadata}
    {f : Failure} (h : f ∈ dependencyFailures p isApproved m) : f.place = 1 := by
  obtain ⟨key, -, h⟩ := List.mem_flatMap.mp h
  obtain ⟨value, -, rfl⟩ := List.mem_map.mp h
  rfl

/-! ### Checks that fail once -/

/-- There is no failure, or one, and that one comes from the check at the
place `n`. -/
def AtMostOne (n : Nat) (fs : List Failure) : Prop := fs = [] ∨ ∃ f, fs = [f] ∧ f.place = n

namespace AtMostOne

variable {n : Nat} {fs : List Failure}

/-- A check that says nothing. -/
theorem nil (n : Nat) : AtMostOne n [] := Or.inl rfl

/-- A check that says one thing. -/
theorem singleton (f : Failure) : AtMostOne f.place [f] := Or.inr ⟨f, rfl, rfl⟩

/-- A failure of a check has the place of the check. -/
theorem place (h : AtMostOne n fs) {f : Failure} (hf : f ∈ fs) : f.place = n := by
  rcases h with rfl | ⟨g, rfl, hg⟩
  · cases hf
  · rw [List.mem_singleton.mp hf, hg]

/-- One failure is in any order with itself. -/
theorem pairwise (h : AtMostOne n fs) (R : Failure → Failure → Prop) : fs.Pairwise R := by
  rcases h with rfl | ⟨g, rfl, -⟩
  · exact List.Pairwise.nil
  · exact List.pairwise_singleton R g

end AtMostOne

/-- Known code is forbidden or copied. It is not both. -/
theorem atMostOne_fingerprintFailures (hit? : Text → Option Fingerprint.Hit) (authors : List Nat)
    (body : Text) : AtMostOne 2 (fingerprintFailures hit? authors body) := by
  unfold fingerprintFailures
  cases hit? body with
  | none => exact .nil 2
  | some hit =>
      simp only
      split
      · exact .singleton (.disallowedSignature _)
      · split
        · exact .nil 2
        · exact .singleton .unauthorizedCopy

/-- The grammar has one mistake to report, the first. -/
theorem atMostOne_grammarFailures (mistake? : Text → Option Mistake) (code : Text) :
    AtMostOne 3 (grammarFailures mistake? code) := by
  unfold grammarFailures
  split
  · exact .nil 3
  · exact .singleton (.ungrammatical _)

/-- A body looks minified only once, however many of its lines are long. -/
theorem atMostOne_minificationFailures (p : Policy) (o : Options) (body : Text) :
    AtMostOne 4 (minificationFailures p o body) := by
  unfold minificationFailures
  split
  · exact .singleton .appearsMinified
  · exact .nil 4

/-- A version that is measured is there, and all that can be wrong with it
is that it does not advance. -/
theorem advancedVersion_failures_cases (o : Options) (previous : Option Text) (version : Text) :
    (advancedVersion o previous version).value ≠ none ∧
      ((advancedVersion o previous version).failures = [] ∨
        ∃ before, (advancedVersion o previous version).failures
          = [.versionNotAdvanced before version]) := by
  constructor
  · rcases advancedVersion_value o previous version with h | ⟨before, -, h⟩
    · rw [h]
      exact Option.some_ne_none _
    · rw [h]
      exact Option.some_ne_none _
  · cases previous with
    | none => exact Or.inl rfl
    | some before =>
        rw [advancedVersion]
        split
        · exact Or.inl rfl
        · split
          · exact Or.inl rfl
          · exact Or.inr ⟨before, rfl⟩

/-- A version is missing, or it is there and was measured. -/
theorem settleVersion_failures_cases (m : Metadata) (c : Candidate) (previous : Option Previous) :
    (settleVersion m c previous).value = none ∧
        (settleVersion m c previous).failures = [.versionMissing] ∨
      (settleVersion m c previous).value ≠ none ∧
        ((settleVersion m c previous).failures = [] ∨
          ∃ before version, (settleVersion m c previous).failures
            = [.versionNotAdvanced before version]) := by
  cases hd : m.firstNonBlank Header.versionKey with
  | some declared =>
      rw [settleVersion_of_declared hd]
      obtain ⟨hvalue, hfailures⟩ := advancedVersion_failures_cases c.options
        (previous.map Previous.version) declared
      exact Or.inr ⟨hvalue, hfailures.imp_right fun ⟨before, h⟩ => ⟨before, declared, h⟩⟩
  | none =>
      cases hmake : c.options.addMissingVersion ||
          (previous.map Previous.version).any Version.isGenerated with
      | false =>
          rw [settleVersion_of_missing hd hmake]
          exact Or.inl ⟨rfl, rfl⟩
      | true =>
          rw [settleVersion_of_made hd hmake]
          obtain ⟨hvalue, hfailures⟩ := advancedVersion_failures_cases c.options
            (previous.map Previous.version) (Version.generated c.submittedAt)
          exact Or.inr ⟨hvalue, hfailures.imp_right fun ⟨before, h⟩ => ⟨before, _, h⟩⟩

/-- A namespace is missing, or it is there and perhaps not the previous
one. -/
theorem settleNamespace_failures_cases (p : Policy) (m : Metadata) (c : Candidate)
    (previous : Option Previous) :
    (settleNamespace p m c previous).value = none ∧
        (settleNamespace p m c previous).failures = [.namespaceMissing] ∨
      (settleNamespace p m c previous).value ≠ none ∧
        ((settleNamespace p m c previous).failures = [] ∨
          ∃ before name, (settleNamespace p m c previous).failures
            = [.namespaceMismatch before name]) := by
  unfold settleNamespace
  simp only
  cases namespaceOrigin p m c (previous.bind Previous.namespaceName) with
  | declared name =>
      cases previous.bind Previous.namespaceName with
      | none => exact Or.inr ⟨Option.some_ne_none _, Or.inl rfl⟩
      | some before =>
          simp only
          split
          · exact Or.inr ⟨Option.some_ne_none _, Or.inl rfl⟩
          · exact Or.inr ⟨Option.some_ne_none _, Or.inr ⟨before, name, rfl⟩⟩
  | inherited name => exact Or.inr ⟨Option.some_ne_none _, Or.inl rfl⟩
  | defaulted name => exact Or.inr ⟨Option.some_ne_none _, Or.inl rfl⟩
  | missing => exact Or.inl ⟨rfl, rfl⟩

/-- A description that is absent is not too long. -/
theorem settleDescription_failures_cases (p : Policy) (m : Metadata) (o : Options)
    (previous : Option Previous) :
    (settleDescription p m o previous).failures = [] ∨
      (settleDescription p m o previous).value ≠ none ∧
        (settleDescription p m o previous).failures
          = [.descriptionTooLong p.descriptionLimit] := by
  unfold settleDescription
  split
  · exact Or.inl rfl
  · split
    · exact Or.inl rfl
    · split
      · exact Or.inl rfl
      · exact Or.inr ⟨Option.some_ne_none _, rfl⟩

/-- A version that is missing cannot fail to advance. -/
theorem atMostOne_settleVersion (m : Metadata) (c : Candidate) (previous : Option Previous) :
    AtMostOne 5 (settleVersion m c previous).failures := by
  rcases settleVersion_failures_cases m c previous with ⟨-, h⟩ | ⟨-, h | ⟨before, version, h⟩⟩
  · exact h ▸ .singleton .versionMissing
  · exact h ▸ .nil 5
  · exact h ▸ .singleton (.versionNotAdvanced before version)

/-- A namespace that is missing cannot be the wrong one. -/
theorem atMostOne_settleNamespace (p : Policy) (m : Metadata) (c : Candidate)
    (previous : Option Previous) : AtMostOne 6 (settleNamespace p m c previous).failures := by
  rcases settleNamespace_failures_cases p m c previous with ⟨-, h⟩ | ⟨-, h | ⟨before, name, h⟩⟩
  · exact h ▸ .singleton .namespaceMissing
  · exact h ▸ .nil 6
  · exact h ▸ .singleton (.namespaceMismatch before name)

/-- There is one limit that a description can exceed. -/
theorem atMostOne_settleDescription (p : Policy) (m : Metadata) (o : Options)
    (previous : Option Previous) : AtMostOne 7 (settleDescription p m o previous).failures := by
  rcases settleDescription_failures_cases p m o previous with h | ⟨-, h⟩
  · exact h ▸ .nil 7
  · exact h ▸ .singleton (.descriptionTooLong _)

/-- The failure of a field that is absent. -/
theorem atMostOne_missing (field : IdentityField) (value : Option Text) :
    AtMostOne (Failure.identityMissing field).place
      (if value.isNone then [.identityMissing field] else []) := by
  split
  · exact .singleton (.identityMissing field)
  · exact .nil _

/-! ### All checks -/

section Judge

variable (p : Policy) (checks : Checks) (c : Candidate) (previous : Option Previous)

/-- The failures that come from the check at a place. -/
def failuresAt : Nat → List Failure
  | 1 => dependencyFailures p checks.isApproved (Metadata.ofSource c.code)
  | 2 => fingerprintFailures checks.hit? c.authors (Header.body c.code)
  | 3 => grammarFailures checks.mistake? c.code
  | 4 => minificationFailures p c.options (Header.body c.code)
  | 5 => (settleVersion (Metadata.ofSource c.code) c previous).failures
  | 6 => (settleNamespace p (Metadata.ofSource c.code) c previous).failures
  | 7 => (settleDescription p (Metadata.ofSource c.code) c.options previous).failures
  | 8 =>
    if (settleName (Metadata.ofSource c.code) c previous).isNone then [.identityMissing .name]
    else []
  | 9 =>
    if (settleDescription p (Metadata.ofSource c.code) c.options previous).value.isNone then
      [.identityMissing .description]
    else []
  | _ => []

/-- The checks after that of the dependencies, by their places. -/
def laterPlaces : List Nat := [2, 3, 4, 5, 6, 7, 8, 9]

/-- The failures of a judgement are those of its checks. -/
theorem failures_judge :
    (judge p checks c previous).failures
      = failuresAt p checks c previous 1 ++ laterPlaces.flatMap (failuresAt p checks c previous) := by
  simp only [judge, missingIdentity, laterPlaces, failuresAt, List.flatMap_cons, List.flatMap_nil,
    List.append_nil, List.append_assoc]

variable {p checks c previous}

/-- Every later check fails at most once. -/
theorem atMostOne_failuresAt {n : Nat} (h : n ∈ laterPlaces) :
    AtMostOne n (failuresAt p checks c previous n) := by
  simp only [laterPlaces, List.mem_cons, List.not_mem_nil, or_false] at h
  rcases h with rfl | rfl | rfl | rfl | rfl | rfl | rfl | rfl
  · exact atMostOne_fingerprintFailures _ _ _
  · exact atMostOne_grammarFailures _ _
  · exact atMostOne_minificationFailures _ _ _
  · exact atMostOne_settleVersion _ _ _
  · exact atMostOne_settleNamespace _ _ _ _
  · exact atMostOne_settleDescription _ _ _ _
  · exact atMostOne_missing .name _
  · exact atMostOne_missing .description _

/-- The failures of the later checks have places that increase. -/
theorem pairwise_later :
    (laterPlaces.flatMap (failuresAt p checks c previous)).Pairwise
      fun f g => f.place < g.place := by
  have hincreasing : laterPlaces.Pairwise (· < ·) := by decide
  rw [List.pairwise_flatMap]
  refine ⟨fun n hn => (atMostOne_failuresAt hn).pairwise _, ?_⟩
  refine hincreasing.imp_of_mem fun {m n} hm hn hlt f hf g hg => ?_
  rw [(atMostOne_failuresAt hm).place hf, (atMostOne_failuresAt hn).place hg]
  exact hlt

/-- A failure of a later check is one of the judgement if and only if it is
one of that check. -/
theorem mem_failures_judge_iff {f : Failure} (h : f.place ∈ laterPlaces) :
    f ∈ (judge p checks c previous).failures ↔ f ∈ failuresAt p checks c previous f.place := by
  rw [failures_judge, List.mem_append, List.mem_flatMap]
  constructor
  · rintro (hf | ⟨n, hn, hf⟩)
    · rw [place_dependencyFailures hf] at h
      exact absurd h (by decide)
    · rwa [(atMostOne_failuresAt hn).place hf]
  · exact fun hf => Or.inr ⟨f.place, h, hf⟩

/-- A header is missing before the judgement or not at all. -/
theorem headerMissing_not_mem_judge :
    .headerMissing ∉ (judge p checks c previous).failures := by
  rw [failures_judge, List.mem_append, List.mem_flatMap]
  rintro (hf | ⟨n, hn, hf⟩)
  · cases place_dependencyFailures hf
  · rw [← (atMostOne_failuresAt hn).place hf] at hn
    exact absurd hn (by decide)

/-! ### What is absent -/

/-- The version is absent exactly if it is missing. -/
theorem version_judge_eq_none_iff :
    (judge p checks c previous).version = none ↔
      .versionMissing ∈ (judge p checks c previous).failures := by
  rw [mem_failures_judge_iff (by decide)]
  show (settleVersion _ c previous).value = none ↔ _ ∈ (settleVersion _ c previous).failures
  rcases settleVersion_failures_cases (Metadata.ofSource c.code) c previous with
    ⟨hvalue, h⟩ | ⟨hvalue, h | ⟨before, version, h⟩⟩
  · simp [hvalue, h]
  · simp [hvalue, h]
  · simp [hvalue, h]

/-- The namespace is absent exactly if it is missing. -/
theorem namespaceName_judge_eq_none_iff :
    (judge p checks c previous).namespaceName = none ↔
      .namespaceMissing ∈ (judge p checks c previous).failures := by
  rw [mem_failures_judge_iff (by decide)]
  show (settleNamespace p _ c previous).value = none ↔ _ ∈ (settleNamespace p _ c previous).failures
  rcases settleNamespace_failures_cases p (Metadata.ofSource c.code) c previous with
    ⟨hvalue, h⟩ | ⟨hvalue, h | ⟨before, name, h⟩⟩
  · simp [hvalue, h]
  · simp [hvalue, h]
  · simp [hvalue, h]

/-- The check of a field objects if and only if the field is absent. -/
theorem mem_missing_iff (field : IdentityField) (value : Option Text) :
    .identityMissing field ∈ (if value.isNone then [Failure.identityMissing field] else []) ↔
      value = none := by
  cases value with
  | none => simp
  | some value => simp

/-- The name is absent exactly if it is missing. -/
theorem name_judge_eq_none_iff :
    (judge p checks c previous).name = none ↔
      .identityMissing .name ∈ (judge p checks c previous).failures := by
  rw [mem_failures_judge_iff (by decide)]
  exact (mem_missing_iff .name _).symm

/-- The description is absent exactly if it is missing. -/
theorem description_judge_eq_none_iff :
    (judge p checks c previous).description = none ↔
      .identityMissing .description ∈ (judge p checks c previous).failures := by
  rw [mem_failures_judge_iff (by decide)]
  exact (mem_missing_iff .description _).symm

/-- A description that is too long is there. -/
theorem description_of_tooLong {n : Nat}
    (h : .descriptionTooLong n ∈ (judge p checks c previous).failures) :
    (judge p checks c previous).description ≠ none := by
  have hplace : (Failure.descriptionTooLong n).place ∈ laterPlaces := by
    show 7 ∈ laterPlaces
    decide
  rw [mem_failures_judge_iff hplace] at h
  rcases settleDescription_failures_cases p (Metadata.ofSource c.code) c.options previous with
    hnil | ⟨hvalue, -⟩
  · replace h : _ ∈ (settleDescription p _ c.options previous).failures := h
    rw [hnil] at h
    cases h
  · exact hvalue

end Judge

/-- **The failures of a review.** Without a header there is one failure and
nothing else. With a header, first every directive fails that names
unapproved code, in the order of the configured keys. After them each check
fails at most once, in the order of the places, and what is missing is not
too long. Each part of the identity is absent if and only if its failure or
that of the header is there. -/
theorem failures_in_order (p : Policy) (checks : Checks) (c : Candidate)
    (previous : Option Previous) :
    let v := review p checks c previous
    (v.failures = [.headerMissing] ↔ Header.locate c.code = none) ∧
    (Header.locate c.code ≠ none → ∃ others,
      v.failures = unapproved p checks.isApproved (Header.directives c.code) ++ others ∧
      (∀ f ∈ others, f.place ∈ laterPlaces) ∧
      others.Pairwise (fun f g => f.place < g.place) ∧
      ∀ n, .descriptionTooLong n ∈ others → .identityMissing .description ∉ others) ∧
    (v.version = none ↔ .versionMissing ∈ v.failures ∨ .headerMissing ∈ v.failures) ∧
    (v.namespaceName = none ↔ .namespaceMissing ∈ v.failures ∨ .headerMissing ∈ v.failures) ∧
    (v.name = none ↔ .identityMissing .name ∈ v.failures ∨ .headerMissing ∈ v.failures) ∧
    (v.description = none ↔
      .identityMissing .description ∈ v.failures ∨ .headerMissing ∈ v.failures) := by
  rcases review_cases p checks c previous with ⟨hlocate, hr⟩ | ⟨⟨span, hlocate⟩, hr⟩
  · rw [hr, hlocate]
    simp [Verdict.headless]
  · have hheader := @headerMissing_not_mem_judge p checks c previous
    rw [hr]
    simp only [hheader, or_false, version_judge_eq_none_iff, namespaceName_judge_eq_none_iff,
      name_judge_eq_none_iff, description_judge_eq_none_iff, and_true]
    refine ⟨⟨fun h => absurd (h ▸ List.mem_singleton_self _) hheader, fun h => ?_⟩, fun _ => ?_⟩
    · rw [hlocate] at h
      cases h
    · refine ⟨laterPlaces.flatMap (failuresAt p checks c previous), ?_, ?_, pairwise_later, ?_⟩
      · rw [failures_judge, ← dependencyFailures_eq_unapproved]
        rfl
      · intro f hf
        obtain ⟨n, hn, hf⟩ := List.mem_flatMap.mp hf
        rwa [(atMostOne_failuresAt hn).place hf]
      · intro n hlong hmissing
        -- What is too long is there, and what is missing is not.
        have hjudge : ∀ f ∈ laterPlaces.flatMap (failuresAt p checks c previous),
            f ∈ (judge p checks c previous).failures := by
          intro f hf
          rw [failures_judge]
          exact List.mem_append_right _ hf
        exact description_of_tooLong (hjudge _ hlong)
          (description_judge_eq_none_iff.mpr (hjudge _ hmissing))

/-- A policy that reads the keys of dependencies in another order than the
header below has them, one of them twice, and that allows next to
nothing. -/
def strictPolicy : Policy :=
  { Policy.standard with
    dependencyKeys := ["resource".toList, "require".toList, "resource".toList]
    lineLimit := 3
    descriptionLimit := 4 }

/-- Checks that approve of `a` alone, know the character `x` and find a
mistake in every program. -/
def strictChecks : Checks :=
  ⟨fun _ => some ⟨1, "m".toList⟩, Fingerprint.scan [⟨"f".toList, .char (.single 'x'), [2]⟩],
    AllowList.isApproved
      ⟨[.seq (.assert .textStart) (.seq (.char (.single 'a')) (.assert .textEnd))]⟩⟩

/-- A candidate of the author 1 against which every check has
something. -/
def refusedCandidate : Candidate where
  code :=
    ("// ==UserScript==\n// @require b\n// @name\n// @version 1\n// @resource c\n" ++
      "// @namespace s\n// @require a\n// @require d\n// @description words\n" ++
      "// ==/UserScript==\nx = y;\n").toList
  kind := .userScript
  authors := [1]
  owner := 1
  displayName := none
  options := {}
  submittedAt := .ofSeconds 0

/-- The revision before it, which has another namespace and a greater
version. -/
def refusedPrevious : Previous := ⟨"2".toList, some "t".toList, none, none⟩

/-- What the directives of the candidate name and nobody approved. -/
def refusedDependencies : List Failure :=
  [.unapprovedDependency "resource".toList "c".toList,
    .unapprovedDependency "require".toList "b".toList,
    .unapprovedDependency "require".toList "d".toList,
    .unapprovedDependency "resource".toList "c".toList]

/-- All checks fail, in their order. The approved dependency is passed over,
and that of the repeated key counts twice. The version is there, and the name
is not. -/
theorem failures_in_order_refused :
    let v := review strictPolicy strictChecks refusedCandidate (some refusedPrevious)
    Header.locate refusedCandidate.code ≠ none ∧
      v.failures = refusedDependencies ++
        [.unauthorizedCopy, .ungrammatical "line 1: m".toList, .appearsMinified,
          .versionNotAdvanced "2".toList "1".toList,
          .namespaceMismatch "t".toList "s".toList, .descriptionTooLong 4,
          .identityMissing .name] ∧
      (∃ others,
        v.failures = unapproved strictPolicy strictChecks.isApproved
          (Header.directives refusedCandidate.code) ++ others ∧
        others.Pairwise (fun f g => f.place < g.place) ∧
        (.descriptionTooLong 4 ∈ others → .identityMissing .description ∉ others)) ∧
      v.version ≠ none ∧ v.name = none := by
  have hheader : Header.locate refusedCandidate.code ≠ none := by decide +kernel
  have hfailures : (review strictPolicy strictChecks refusedCandidate
      (some refusedPrevious)).failures = refusedDependencies ++
        [.unauthorizedCopy, .ungrammatical "line 1: m".toList, .appearsMinified,
          .versionNotAdvanced "2".toList "1".toList,
          .namespaceMismatch "t".toList "s".toList, .descriptionTooLong 4,
          .identityMissing .name] := by decide +kernel
  obtain ⟨-, hshape, hversion, -, hname, -⟩ :=
    failures_in_order strictPolicy strictChecks refusedCandidate (some refusedPrevious)
  obtain ⟨others, hothers, -, hpairwise, hlong⟩ := hshape hheader
  refine ⟨hheader, hfailures, ⟨others, hothers, hpairwise, hlong 4⟩, ?_, ?_⟩
  · rw [ne_eq, hversion, hfailures]
    decide
  · rw [hname, hfailures]
    decide

end ScriptGate.Review
