import ScriptGate.Proofs.Version.Successor
import ScriptGate.Review.Verdict

/-!
# `ScriptGate.Proofs.Review.Ruling`: what an accepted review settles

A review fails when one of its checks does, so each ruling of an
accepted one has no failure. `settleVersion_of_accepted` and
`settleNamespace_of_accepted` say what that means for the values.

* The version is there. It is newer than the previous one, or the
  submitter asked to keep it. A raised version is the successor of the
  previous one, and `isNewer_next_self` says that it is newer.
* The namespace is there. It is the previous one, if there was one, or
  the submitter asked to change it.

Accepted or not, a settled value was declared, made or taken from the
previous revision. `settleVersion_induction` and
`settleNamespace_induction` reduce what is to be shown of it to these
cases.

A candidate is accepted if it `Passes` every check, and
`settled_of_accepted` puts both together for a whole review.
`complete_of_accepted` adds that name and description are there too.
-/

set_option autoImplicit false

namespace ScriptGate.Review

open Header (Metadata)

/-! ### The version -/

/-- A declared version is only measured against the previous one. -/
theorem settleVersion_of_declared {m : Metadata} {declared : Text}
    (h : m.firstNonBlank Header.versionKey = some declared) (c : Candidate)
    (previous : Option Previous) :
    settleVersion m c previous
      = advancedVersion c.options (previous.map Previous.version) declared := by
  have hp : proposedVersion m c (previous.map Previous.version) = .plain (some declared) := by
    rw [proposedVersion, h]
  simp only [settleVersion, hp, Ruling.plain, List.nil_append]

/-- Without a declared version, one is made from the clock where that is
wanted. -/
theorem settleVersion_of_made {m : Metadata} (h : m.firstNonBlank Header.versionKey = none)
    {c : Candidate} {previous : Option Previous}
    (hmake : (c.options.addMissingVersion ||
      (previous.map Previous.version).any Version.isGenerated) = true) :
    settleVersion m c previous =
      let advanced := advancedVersion c.options (previous.map Previous.version)
        (Version.generated c.submittedAt)
      ⟨advanced.value, advanced.failures,
        .versionGenerated (Version.generated c.submittedAt) :: advanced.corrections⟩ := by
  have hp : proposedVersion m c (previous.map Previous.version)
      = .corrected (some (Version.generated c.submittedAt))
          (.versionGenerated (Version.generated c.submittedAt)) := by
    rw [proposedVersion, h]
    simp only [hmake, if_true]
  simp only [settleVersion, hp, Ruling.corrected, List.nil_append, List.singleton_append]

/-- Where that is not wanted, the version is missing. -/
theorem settleVersion_of_missing {m : Metadata} (h : m.firstNonBlank Header.versionKey = none)
    {c : Candidate} {previous : Option Previous}
    (hmake : (c.options.addMissingVersion ||
      (previous.map Previous.version).any Version.isGenerated) = false) :
    settleVersion m c previous = .refused none .versionMissing := by
  have hp : proposedVersion m c (previous.map Previous.version) = .refused none .versionMissing := by
    rw [proposedVersion, h]
    simp only [hmake, Bool.false_eq_true, if_false]
  simp only [settleVersion, hp, Ruling.refused]

/-- A version that was measured stays as it is, or it was raised. -/
theorem advancedVersion_value (o : Options) (previous : Option Text) (version : Text) :
    (advancedVersion o previous version).value = some version ∨
    ∃ before, previous = some before ∧
      (advancedVersion o previous version).value = some (Version.next before) := by
  cases previous with
  | none => exact Or.inl rfl
  | some before =>
      rw [advancedVersion]
      split
      · exact Or.inl rfl
      · split
        · exact Or.inr ⟨before, rfl, rfl⟩
        · exact Or.inl rfl

/-- A version that is not refused advances the previous one, or is
kept. -/
theorem advancedVersion_of_accepted {o : Options} {previous : Option Text} {version : Text}
    (h : (advancedVersion o previous version).failures = []) :
    ∃ settled, (advancedVersion o previous version).value = some settled ∧
      ∀ before, previous = some before →
        Version.isNewer settled before = true ∨ o.keepVersion = true := by
  cases previous with
  | none => exact ⟨version, rfl, fun _ hb => by cases hb⟩
  | some before =>
      rw [advancedVersion] at h ⊢
      split at h
      · rename_i hnew
        refine ⟨version, by rw [if_pos hnew]; rfl, ?_⟩
        rintro _ ⟨⟩
        simpa [Bool.or_eq_true] using hnew
      · rename_i hold
        split at h
        · rename_i hlenient
          -- The raised version is the successor of the previous one.
          refine ⟨Version.next before, by rw [if_neg hold, if_pos hlenient]; rfl, ?_⟩
          rintro _ ⟨⟩
          exact Or.inl (Version.isNewer_next_self before)
        · cases h

/-- The version of an accepted review. -/
theorem settleVersion_of_accepted {m : Metadata} {c : Candidate} {previous : Option Previous}
    (h : (settleVersion m c previous).failures = []) :
    ∃ settled, (settleVersion m c previous).value = some settled ∧
      ∀ before, previous = some before →
        Version.isNewer settled before.version = true ∨ c.options.keepVersion = true := by
  -- Measured against the previous version, whatever was proposed.
  have key : ∀ version,
      (advancedVersion c.options (previous.map Previous.version) version).failures = [] →
      ∃ settled,
        (advancedVersion c.options (previous.map Previous.version) version).value
          = some settled ∧
        ∀ before, previous = some before →
          Version.isNewer settled before.version = true ∨ c.options.keepVersion = true := by
    intro version hv
    obtain ⟨settled, hval, hnew⟩ := advancedVersion_of_accepted hv
    exact ⟨settled, hval, fun before hb => hnew before.version (by rw [hb]; rfl)⟩
  cases hd : m.firstNonBlank Header.versionKey with
  | some declared =>
      rw [settleVersion_of_declared hd] at h ⊢
      exact key declared h
  | none =>
      cases hmake : c.options.addMissingVersion ||
          (previous.map Previous.version).any Version.isGenerated with
      | false =>
          rw [settleVersion_of_missing hd hmake] at h
          cases h
      | true =>
          rw [settleVersion_of_made hd hmake] at h ⊢
          exact key _ h

/-- What is true of the declared version, of one from the clock and of the
successor of the previous one is true of the settled one. -/
theorem settleVersion_induction {Q : Text → Prop} {m : Metadata} {c : Candidate}
    {previous : Option Previous}
    (hdeclared : ∀ v, m.firstNonBlank Header.versionKey = some v → Q v)
    (hmade : Q (Version.generated c.submittedAt))
    (hnext : ∀ before, previous = some before → Q (Version.next before.version)) {v : Text}
    (h : (settleVersion m c previous).value = some v) : Q v := by
  have hmeasured : ∀ version, Q version →
      (advancedVersion c.options (previous.map Previous.version) version).value = some v → Q v := by
    intro version hversion hv
    -- The version is the proposed one, or the successor of the previous one.
    rcases advancedVersion_value c.options (previous.map Previous.version) version with
      hkept | ⟨before, hbefore, hraised⟩
    · rw [hkept] at hv
      cases hv
      exact hversion
    · obtain ⟨old, hold, rfl⟩ := Option.map_eq_some_iff.mp hbefore
      rw [hraised] at hv
      cases hv
      exact hnext old hold
  cases hd : m.firstNonBlank Header.versionKey with
  | some declared =>
      rw [settleVersion_of_declared hd] at h
      exact hmeasured declared (hdeclared declared hd) h
  | none =>
      cases hmake : c.options.addMissingVersion ||
          (previous.map Previous.version).any Version.isGenerated with
      | true =>
          rw [settleVersion_of_made hd hmake] at h
          exact hmeasured _ hmade h
      | false =>
          rw [settleVersion_of_missing hd hmake] at h
          cases h

/-! ### The namespace -/

/-- A declared namespace is what was settled, and there is no
correction. -/
theorem declared_of_settleNamespace (p : Policy) {m : Metadata} (c : Candidate)
    (previous : Option Previous) {n : Text} (h : m.firstNonBlank Header.namespaceKey = some n) :
    (settleNamespace p m c previous).value = some n ∧
      (settleNamespace p m c previous).corrections = [] := by
  simp only [settleNamespace, namespaceOrigin, h, resolveNamespace]
  cases previous.bind Previous.namespaceName with
  | none => exact ⟨rfl, rfl⟩
  | some before =>
      simp only []
      split
      · exact ⟨rfl, rfl⟩
      · exact ⟨rfl, rfl⟩

/-- The namespace of an accepted review. -/
theorem settleNamespace_of_accepted {p : Policy} {m : Metadata} {c : Candidate}
    {previous : Option Previous} (h : (settleNamespace p m c previous).failures = []) :
    ∃ settled, (settleNamespace p m c previous).value = some settled ∧
      ∀ before, previous.bind Previous.namespaceName = some before →
        settled = before ∨ c.options.changeNamespace = true := by
  unfold settleNamespace namespaceOrigin at h ⊢
  cases hd : m.firstNonBlank Header.namespaceKey with
  | some declared =>
      cases hb : previous.bind Previous.namespaceName with
      | none => exact ⟨declared, rfl, fun _ hn => by cases hn⟩
      | some before =>
          simp only [hd, hb, resolveNamespace] at h ⊢
          split at h
          · rename_i hsame
            refine ⟨declared, by rw [if_pos hsame]; rfl, ?_⟩
            rintro _ ⟨⟩
            simpa [Bool.or_eq_true] using hsame
          · cases h
  | none =>
      cases hb : previous.bind Previous.namespaceName with
      | some before =>
          refine ⟨before, rfl, ?_⟩
          rintro _ ⟨⟩
          exact Or.inl rfl
      | none =>
          simp only [hd, hb, resolveNamespace] at h ⊢
          cases hadd : c.options.addMissingNamespace with
          | false =>
              rw [hadd] at h
              cases h
          | true => exact ⟨_, rfl, fun _ hn => by cases hn⟩

/-- What is true of the declared namespace, of the previous one and of the
default one is true of the settled one. -/
theorem settleNamespace_induction {Q : Text → Prop} {p : Policy} {m : Metadata} {c : Candidate}
    {previous : Option Previous}
    (hdeclared : ∀ n, m.firstNonBlank Header.namespaceKey = some n → Q n)
    (hprevious : ∀ n, previous.bind Previous.namespaceName = some n → Q n)
    (hdefault : Q (defaultNamespace p.namespaceBase c.owner)) {n : Text}
    (h : (settleNamespace p m c previous).value = some n) : Q n := by
  cases hd : m.firstNonBlank Header.namespaceKey with
  | some declared =>
      rw [(declared_of_settleNamespace p c previous hd).1] at h
      rw [← Option.some.inj h]
      exact hdeclared declared hd
  | none =>
      simp only [settleNamespace, namespaceOrigin, hd] at h
      cases hbefore : previous.bind Previous.namespaceName with
      | some before =>
          simp only [hbefore, resolveNamespace] at h
          rw [← Option.some.inj h]
          exact hprevious before hbefore
      | none =>
          simp only [hbefore, resolveNamespace] at h
          cases hadd : c.options.addMissingNamespace with
          | true =>
              simp only [hadd, if_true] at h
              cases h
              exact hdefault
          | false =>
              simp only [hadd, Bool.false_eq_true, if_false] at h
              cases h

/-! ### The whole review -/

/-- A review refuses code without a header, and judges all other
code. -/
theorem review_cases (p : Policy) (checks : Checks) (c : Candidate)
    (previous : Option Previous) :
    (Header.locate c.code = none ∧ review p checks c previous = .headless c.code) ∨
    (∃ span, Header.locate c.code = some span) ∧
      review p checks c previous = judge p checks c previous := by
  rw [review]
  cases h : Header.locate c.code with
  | none => exact Or.inl ⟨rfl, rfl⟩
  | some span => exact Or.inr ⟨⟨span, rfl⟩, rfl⟩

/-- A candidate with a header is judged. -/
theorem review_eq_judge (p : Policy) (checks : Checks) {c : Candidate}
    (hheader : Header.locate c.code ≠ none) (previous : Option Previous) :
    review p checks c previous = judge p checks c previous := by
  rcases review_cases p checks c previous with ⟨hnone, -⟩ | ⟨-, hr⟩
  · exact absurd hnone hheader
  · exact hr

/-- A candidate to which no check objects. -/
structure Passes (p : Policy) (checks : Checks) (c : Candidate) (previous : Option Previous) :
    Prop where
  dependencies : dependencyFailures p checks.isApproved (Metadata.ofSource c.code) = []
  fingerprints :
    fingerprintFailures checks.hit? c.authors (Header.body c.code) = []
  grammar : grammarFailures checks.mistake? c.code = []
  lines : minificationFailures p c.options (Header.body c.code) = []
  version : (settleVersion (Metadata.ofSource c.code) c previous).failures = []
  namespaceName : (settleNamespace p (Metadata.ofSource c.code) c previous).failures = []
  description :
    (settleDescription p (Metadata.ofSource c.code) c.options previous).failures = []
  identity :
    missingIdentity (settleName (Metadata.ofSource c.code) c previous)
      (settleDescription p (Metadata.ofSource c.code) c.options previous).value = []

/-- A judgement accepts a candidate if and only if every check passes. -/
theorem isAccepted_judge_iff (p : Policy) (checks : Checks) (c : Candidate)
    (previous : Option Previous) :
    (judge p checks c previous).isAccepted = true ↔ Passes p checks c previous := by
  rw [Verdict.isAccepted, List.isEmpty_iff]
  simp only [judge, List.append_eq_nil_iff]
  constructor
  · rintro ⟨⟨⟨⟨⟨⟨⟨hdependencies, hfingerprints⟩, hgrammar⟩, hlines⟩, hversion⟩, hnamespace⟩,
      hdescription⟩, hidentity⟩
    exact ⟨hdependencies, hfingerprints, hgrammar, hlines, hversion, hnamespace, hdescription,
      hidentity⟩
  · intro h
    exact ⟨⟨⟨⟨⟨⟨⟨h.dependencies, h.fingerprints⟩, h.grammar⟩, h.lines⟩, h.version⟩,
      h.namespaceName⟩, h.description⟩, h.identity⟩

/-- An accepted review settles a version and a namespace that go with the
previous revision, as far as the submitter does not ask otherwise. -/
theorem settled_of_accepted {p : Policy} {checks : Checks} {c : Candidate}
    {previous : Option Previous} (h : (review p checks c previous).isAccepted = true) :
    ∃ version name, (review p checks c previous).version = some version ∧
      (review p checks c previous).namespaceName = some name ∧
      ∀ before, previous = some before →
        (Version.isNewer version before.version = true ∨ c.options.keepVersion = true) ∧
        ∀ old, before.namespaceName = some old →
          name = old ∨ c.options.changeNamespace = true := by
  rcases review_cases p checks c previous with ⟨-, hr⟩ | ⟨-, hr⟩
  · rw [hr] at h
    cases h
  · rw [hr] at h ⊢
    have hpasses := (isAccepted_judge_iff p checks c previous).mp h
    obtain ⟨version, hversion, hnewer⟩ := settleVersion_of_accepted hpasses.version
    obtain ⟨name, hname, hsame⟩ := settleNamespace_of_accepted hpasses.namespaceName
    refine ⟨version, name, hversion, hname, fun before hb => ⟨hnewer before hb, ?_⟩⟩
    intro old hold
    exact hsame old (by rw [hb, Option.bind_some, hold])

/-- An accepted review has settled all that a revision needs. -/
theorem complete_of_accepted {p : Policy} {checks : Checks} {c : Candidate}
    {previous : Option Previous} (h : (review p checks c previous).isAccepted = true) :
    ∃ version namespaceName name description,
      (review p checks c previous).version = some version ∧
      (review p checks c previous).namespaceName = some namespaceName ∧
      (review p checks c previous).name = some name ∧
      (review p checks c previous).description = some description := by
  obtain ⟨version, namespaceName, hversion, hnamespace, -⟩ := settled_of_accepted h
  rcases review_cases p checks c previous with ⟨-, hr⟩ | ⟨-, hr⟩
  · rw [hr] at h
    cases h
  · rw [hr] at h hversion hnamespace ⊢
    have hidentity := ((isAccepted_judge_iff p checks c previous).mp h).identity
    -- What is missing would be a failure.
    rw [missingIdentity, List.append_eq_nil_iff] at hidentity
    cases hname : settleName (Metadata.ofSource c.code) c previous with
    | none =>
        rw [hname] at hidentity
        cases hidentity.1
    | some name =>
        cases hdescription :
            (settleDescription p (Metadata.ofSource c.code) c.options previous).value with
        | none =>
            rw [hdescription] at hidentity
            cases hidentity.2
        | some description =>
            exact ⟨version, namespaceName, name, description, hversion, hnamespace, hname,
              hdescription⟩

end ScriptGate.Review
