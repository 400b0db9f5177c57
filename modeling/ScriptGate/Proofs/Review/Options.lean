import ScriptGate.Proofs.Review.FixedPoint

/-!
# `ScriptGate.Proofs.Review.Options`: wishes only relax a review

The wishes of a submitter are flags, and two reviews of the same candidate
may differ in them. `wishes_only_relax` compares the two.

* With more wishes there are no more failures. Not every failure of the
  second review is one of the first: a script without a version fails as
  such, and the version that it gets on request may be too old. But each
  check has at most one failure that depends on wishes, and it passes
  where it passed with fewer of them.
* A candidate that is accepted without corrections being welcome gets the
  same verdict, down to the text, when they are. What they are for is
  looked at only after everything else failed.

Both are shown ruling by ruling: first for the version that is measured
(`advancedVersion`), then for the one that is settled.
-/

set_option autoImplicit false

namespace ScriptGate.Review

open Header (Metadata)

/-- Every wish of the first submitter is one of the second. -/
structure Options.Within (o o' : Options) : Prop where
  keepVersion : o.keepVersion = true → o'.keepVersion = true
  changeNamespace : o.changeNamespace = true → o'.changeNamespace = true
  addMissingVersion : o.addMissingVersion = true → o'.addMissingVersion = true
  addMissingNamespace : o.addMissingNamespace = true → o'.addMissingNamespace = true
  confirmMinified : o.confirmMinified = true → o'.confirmMinified = true
  lenient : o.lenient = true → o'.lenient = true

/-- The options with corrections welcome. -/
def Options.forgiving (o : Options) : Options := { o with lenient := true }

/-- The candidate with other wishes. -/
def Candidate.wishing (c : Candidate) (o : Options) : Candidate := { c with options := o }

section Wishing

variable (c : Candidate) (o : Options)

/-- Wishes leave the code alone. -/
@[simp] theorem code_wishing : (c.wishing o).code = c.code := rfl

/-- Wishes leave the authors alone. -/
@[simp] theorem authors_wishing : (c.wishing o).authors = c.authors := rfl

/-- The wishes are the ones that were asked for. -/
@[simp] theorem options_wishing : (c.wishing o).options = o := rfl

/-- Wishes leave the time alone. -/
@[simp] theorem submittedAt_wishing : (c.wishing o).submittedAt = c.submittedAt := rfl

/-- The name does not depend on wishes. -/
@[simp] theorem settleName_wishing (m : Metadata) (previous : Option Previous) :
    settleName m (c.wishing o) previous = settleName m c previous := rfl

end Wishing

/-- `r'` has no more failures than `r`, so it refuses nothing that `r` lets
pass. -/
def Ruling.Relaxes {α : Type} (r' r : Ruling α) : Prop :=
  r'.failures.length ≤ r.failures.length

/-- A failure that more wishes can only take away. -/
theorem length_ite_le {a b : Bool} (h : a = true → b = true) (x y : Failure) :
    (if b then [] else [x]).length ≤ (if a then [] else [y]).length := by
  cases a with
  | true =>
      rw [h rfl]
      exact Nat.le_refl _
  | false =>
      cases b with
      | true => exact Nat.zero_le _
      | false => exact Nat.le_refl _

/-! ### The version -/

/-- A version is refused if it is not newer, is not to be kept and is not
to be raised. -/
theorem failures_advancedVersion (o : Options) (before version : Text) :
    (advancedVersion o (some before) version).failures
      = if Version.isNewer version before || o.keepVersion || o.lenient then []
        else [.versionNotAdvanced before version] := by
  rw [advancedVersion]
  cases Version.isNewer version before || o.keepVersion with
  | true => rfl
  | false =>
      cases o.lenient with
      | true => rfl
      | false => rfl

/-- Measuring has at most one failure. -/
theorem length_failures_advancedVersion_le (o : Options) (previous : Option Text)
    (version : Text) : (advancedVersion o previous version).failures.length ≤ 1 := by
  cases previous with
  | none => exact Nat.zero_le 1
  | some before =>
      rw [failures_advancedVersion]
      split
      · exact Nat.zero_le 1
      · exact Nat.le_refl 1

section Version

variable {o o' : Options} {c : Candidate} {m : Metadata} {previous : Option Previous}

/-- A version that may stay or may be raised still may with more wishes. -/
theorem advancedVersion_relaxes (h : o.Within o') (previous : Option Text) (version : Text) :
    (advancedVersion o' previous version).Relaxes (advancedVersion o previous version) := by
  cases previous with
  | none => exact Nat.le_refl _
  | some before =>
      rw [Ruling.Relaxes, failures_advancedVersion, failures_advancedVersion]
      refine length_ite_le (fun hpass => ?_) _ _
      simp only [Bool.or_eq_true] at hpass ⊢
      exact hpass.imp (Or.imp_right h.keepVersion) h.lenient

/-- More wishes settle a version with no more failures. A version that is
made only on the second submitter's request can fail where there was a
failure before. -/
theorem settleVersion_relaxes (h : o.Within o') :
    (settleVersion m (c.wishing o') previous).Relaxes
      (settleVersion m (c.wishing o) previous) := by
  cases hd : m.firstNonBlank Header.versionKey with
  | some declared =>
      rw [settleVersion_of_declared hd, settleVersion_of_declared hd]
      exact advancedVersion_relaxes h _ _
  | none =>
      have hmake : (o.addMissingVersion ||
          (previous.map Previous.version).any Version.isGenerated) = true →
          (o'.addMissingVersion ||
            (previous.map Previous.version).any Version.isGenerated) = true := by
        simp only [Bool.or_eq_true]
        exact Or.imp_left h.addMissingVersion
      cases hmade : o.addMissingVersion ||
          (previous.map Previous.version).any Version.isGenerated with
      | true =>
          rw [settleVersion_of_made (c := c.wishing o) hd hmade,
            settleVersion_of_made (c := c.wishing o') hd (hmake hmade)]
          exact advancedVersion_relaxes h _ _
      | false =>
          rw [settleVersion_of_missing (c := c.wishing o) hd hmade]
          cases hmade' : o'.addMissingVersion ||
              (previous.map Previous.version).any Version.isGenerated with
          | true =>
              rw [settleVersion_of_made (c := c.wishing o') hd hmade']
              exact length_failures_advancedVersion_le _ _ _
          | false =>
              rw [settleVersion_of_missing (c := c.wishing o') hd hmade']
              exact Nat.le_refl _

/-- A version that passes is not corrected on request. -/
theorem advancedVersion_forgiving {previous : Option Text} {version : Text}
    (hstrict : o.lenient = false) (h : (advancedVersion o previous version).failures = []) :
    advancedVersion o.forgiving previous version = advancedVersion o previous version := by
  cases previous with
  | none => rfl
  | some before =>
      rw [failures_advancedVersion, hstrict, Bool.or_false] at h
      cases hpass : Version.isNewer version before || o.keepVersion with
      | false =>
          rw [hpass] at h
          cases h
      | true =>
          rw [advancedVersion, advancedVersion, if_pos hpass]
          exact if_pos hpass

/-- A version that is settled without a failure is settled the same where
corrections are welcome. -/
theorem settleVersion_forgiving (hstrict : o.lenient = false)
    (h : (settleVersion m (c.wishing o) previous).failures = []) :
    settleVersion m (c.wishing o.forgiving) previous
      = settleVersion m (c.wishing o) previous := by
  cases hd : m.firstNonBlank Header.versionKey with
  | some declared =>
      rw [settleVersion_of_declared hd] at h ⊢
      rw [settleVersion_of_declared hd]
      exact advancedVersion_forgiving hstrict h
  | none =>
      cases hmade : o.addMissingVersion ||
          (previous.map Previous.version).any Version.isGenerated with
      | true =>
          rw [settleVersion_of_made (c := c.wishing o) hd hmade] at h ⊢
          rw [settleVersion_of_made (c := c.wishing o.forgiving) hd hmade]
          simp only [options_wishing, submittedAt_wishing] at h ⊢
          rw [advancedVersion_forgiving hstrict h]
      | false =>
          rw [settleVersion_of_missing (c := c.wishing o) hd hmade] at h
          cases h

end Version

/-! ### The namespace, the description and the lines -/

section Others

variable {o o' : Options} {p : Policy} {c : Candidate} {m : Metadata} {previous : Option Previous}

/-- A declared namespace is refused if it is not the previous one and may
not change. -/
theorem failures_settleNamespace_of_declared {declared before : Text}
    (hd : m.firstNonBlank Header.namespaceKey = some declared)
    (hb : previous.bind Previous.namespaceName = some before) :
    (settleNamespace p m c previous).failures
      = if declared = before || c.options.changeNamespace then []
        else [.namespaceMismatch before declared] := by
  simp only [settleNamespace, namespaceOrigin, hd, hb, resolveNamespace]
  split
  · rfl
  · rfl

/-- Where there is none to take over, a namespace is refused if it may not
be made up. -/
theorem failures_settleNamespace_of_missing
    (hd : m.firstNonBlank Header.namespaceKey = none)
    (hb : previous.bind Previous.namespaceName = none) :
    (settleNamespace p m c previous).failures
      = if c.options.addMissingNamespace then [] else [.namespaceMissing] := by
  rw [settleNamespace, namespaceOrigin, hd, hb, resolveNamespace]
  by_cases hadd : c.options.addMissingNamespace = true
  · rw [if_pos hadd, if_pos hadd]
    rfl
  · rw [if_neg hadd, if_neg hadd]
    rfl

/-- A namespace that may change or may be made up still may with more wishes. -/
theorem settleNamespace_relaxes (h : o.Within o') :
    (settleNamespace p m (c.wishing o') previous).Relaxes
      (settleNamespace p m (c.wishing o) previous) := by
  rw [Ruling.Relaxes]
  cases hd : m.firstNonBlank Header.namespaceKey with
  | some declared =>
      cases hb : previous.bind Previous.namespaceName with
      | none =>
          simp only [settleNamespace, namespaceOrigin, hd, hb, resolveNamespace]
          exact Nat.le_refl _
      | some before =>
          rw [failures_settleNamespace_of_declared hd hb, failures_settleNamespace_of_declared hd hb]
          refine length_ite_le (fun hpass => ?_) _ _
          simp only [options_wishing, Bool.or_eq_true] at hpass ⊢
          exact hpass.imp_right h.changeNamespace
  | none =>
      cases hb : previous.bind Previous.namespaceName with
      | some before =>
          simp only [settleNamespace, namespaceOrigin, hd, hb, resolveNamespace]
          exact Nat.le_refl _
      | none =>
          rw [failures_settleNamespace_of_missing hd hb, failures_settleNamespace_of_missing hd hb]
          exact length_ite_le h.addMissingNamespace _ _

/-- The namespace does not depend on whether corrections are welcome. -/
theorem settleNamespace_forgiving :
    settleNamespace p m (c.wishing o.forgiving) previous
      = settleNamespace p m (c.wishing o) previous := rfl

/-- A long description is refused unless it may be cut off. -/
theorem settleDescription_relaxes (h : o.Within o') :
    (settleDescription p m o' previous).Relaxes (settleDescription p m o previous) := by
  rw [Ruling.Relaxes, settleDescription, settleDescription]
  split
  · exact Nat.le_refl _
  · split
    · exact Nat.le_refl _
    · -- The description is too long for both.
      cases ho : o.lenient with
      | true => exact Nat.le_of_eq (by rw [h.lenient ho])
      | false =>
          cases o'.lenient with
          | true => exact Nat.zero_le _
          | false => exact Nat.le_refl _

/-- Whether there is a description does not depend on wishes. -/
theorem isNone_settleDescription (p : Policy) (m : Metadata) (o : Options)
    (previous : Option Previous) :
    (settleDescription p m o previous).value.isNone
      = ((m.firstNonBlank Header.descriptionKey).or
          (previous.bind Previous.description)).isNone := by
  rw [settleDescription]
  split
  · rename_i hnone
    rw [hnone]
    rfl
  · rename_i hsome
    rw [hsome]
    split
    · rfl
    · split
      · rfl
      · rfl

/-- A description that passes is not cut off on request. -/
theorem settleDescription_forgiving (hstrict : o.lenient = false)
    (h : (settleDescription p m o previous).failures = []) :
    settleDescription p m o.forgiving previous = settleDescription p m o previous := by
  rw [settleDescription, settleDescription]
  rw [settleDescription] at h
  cases hd : (m.firstNonBlank Header.descriptionKey).or (previous.bind Previous.description) with
  | none => rfl
  | some description =>
      simp only [hd, hstrict, Bool.false_eq_true, if_false] at h ⊢
      by_cases hshort : description.length ≤ p.descriptionLimit
      · rw [if_pos hshort, if_pos hshort]
      · rw [if_neg hshort] at h
        cases h

/-- Minified lines are a failure unless they are intended. -/
theorem length_minificationFailures_le (h : o.Within o') (body : Text) :
    (minificationFailures p o' body).length ≤ (minificationFailures p o body).length := by
  rw [minificationFailures, minificationFailures]
  cases ho : o.confirmMinified with
  | true => exact Nat.le_of_eq (by rw [h.confirmMinified ho])
  | false =>
      cases o'.confirmMinified with
      | true => exact Nat.zero_le _
      | false => exact Nat.le_refl _

end Others

/-! ### The whole review -/

section Review

variable {o o' : Options} (p : Policy) (checks : Checks) (c : Candidate)
  (previous : Option Previous)

/-- With more wishes there are no more failures. -/
theorem length_failures_review_le (h : o.Within o') :
    (review p checks (c.wishing o') previous).failures.length
      ≤ (review p checks (c.wishing o) previous).failures.length := by
  rcases review_cases p checks (c.wishing o) previous with ⟨hnone, -⟩ | ⟨⟨span, hspan⟩, -⟩
  · -- Without a header wishes are not looked at.
    have hnone' : Header.locate c.code = none := hnone
    simp only [review, Candidate.wishing, hnone']
    exact Nat.le_refl _
  · have hheader : Header.locate c.code ≠ none := fun hn => by
      have hspan' : Header.locate c.code = some span := hspan
      rw [hn] at hspan'
      cases hspan'
    rw [review_eq_judge p checks (c := c.wishing o) hheader,
      review_eq_judge p checks (c := c.wishing o') hheader]
    have hversion : (settleVersion (Metadata.ofSource c.code) (c.wishing o') previous).Relaxes
        (settleVersion (Metadata.ofSource c.code) (c.wishing o) previous) :=
      settleVersion_relaxes h
    have hnamespace : (settleNamespace p (Metadata.ofSource c.code) (c.wishing o') previous).Relaxes
        (settleNamespace p (Metadata.ofSource c.code) (c.wishing o) previous) :=
      settleNamespace_relaxes h
    have hdescription : (settleDescription p (Metadata.ofSource c.code) o' previous).Relaxes
        (settleDescription p (Metadata.ofSource c.code) o previous) :=
      settleDescription_relaxes h
    have hlines := length_minificationFailures_le (p := p) h (Header.body c.code)
    -- What is missing is missing in both.
    have hidentity : missingIdentity (settleName (Metadata.ofSource c.code) c previous)
          (settleDescription p (Metadata.ofSource c.code) o' previous).value
        = missingIdentity (settleName (Metadata.ofSource c.code) c previous)
          (settleDescription p (Metadata.ofSource c.code) o previous).value := by
      rw [missingIdentity, missingIdentity, isNone_settleDescription, isNone_settleDescription]
    simp only [Ruling.Relaxes] at hversion hnamespace hdescription
    simp only [judge, code_wishing, authors_wishing, options_wishing, settleName_wishing, hidentity,
      List.length_append]
    omega

/-- A candidate that is accepted as it is gets the same verdict where
corrections are welcome. -/
theorem review_forgiving (hstrict : o.lenient = false)
    (h : (review p checks (c.wishing o) previous).isAccepted = true) :
    review p checks (c.wishing o.forgiving) previous = review p checks (c.wishing o) previous := by
  rcases review_cases p checks (c.wishing o) previous with ⟨-, hr⟩ | ⟨⟨span, hspan⟩, hr⟩
  · rw [hr] at h
    cases h
  · have hheader : Header.locate (c.wishing o.forgiving).code ≠ none := by
      rw [show (c.wishing o.forgiving).code = (c.wishing o).code from rfl, hspan]
      exact Option.some_ne_none _
    rw [hr] at h ⊢
    rw [review_eq_judge p checks hheader]
    have hpasses := (isAccepted_judge_iff p checks (c.wishing o) previous).mp h
    have hversion := settleVersion_forgiving hstrict hpasses.version
    have hnamespace :
        settleNamespace p (Metadata.ofSource c.code) (c.wishing o.forgiving) previous
          = settleNamespace p (Metadata.ofSource c.code) (c.wishing o) previous :=
      settleNamespace_forgiving
    have hdescription := settleDescription_forgiving hstrict hpasses.description
    rw [code_wishing] at hversion hdescription
    simp only [judge, code_wishing, authors_wishing, options_wishing, settleName_wishing, hversion,
      hnamespace, hdescription]
    rfl

end Review

/-- **Wishes.** Two reviews that differ in the wishes of the submitter. More
of them lead to no more failures, so what was accepted stays accepted; and
a candidate that is accepted without corrections being welcome gets the
same verdict when they are. -/
theorem wishes_only_relax (p : Policy) (checks : Checks) (c : Candidate)
    (previous : Option Previous) (o : Options) :
    (∀ o' : Options, o.Within o' →
      (review p checks (c.wishing o') previous).failures.length
          ≤ (review p checks (c.wishing o) previous).failures.length ∧
        ((review p checks (c.wishing o) previous).isAccepted = true →
          (review p checks (c.wishing o') previous).isAccepted = true)) ∧
    (o.lenient = false → (review p checks (c.wishing o) previous).isAccepted = true →
      review p checks (c.wishing o.forgiving) previous
        = review p checks (c.wishing o) previous) := by
  refine ⟨fun o' h => ?_, fun hstrict haccepted => ?_⟩
  · have hle := length_failures_review_le p checks c previous h
    refine ⟨hle, fun haccepted => ?_⟩
    rw [Verdict.isAccepted, List.isEmpty_iff_length_eq_zero] at haccepted ⊢
    omega
  · exact review_forgiving p checks c previous hstrict haccepted

/-- The stale candidate has one failure less where it may be corrected.
Where its version may stay, it is not corrected. -/
theorem wishes_only_relax_stale :
    Options.Within {} { lenient := true } ∧
      (review .standard easyChecks (staleCandidate.wishing {}) (some acceptedBefore)).failures
        = [.versionNotAdvanced "1.9".toList "1.9".toList] ∧
      (review .standard easyChecks (staleCandidate.wishing { lenient := true })
        (some acceptedBefore)).failures.length ≤ 1 ∧
      (review .standard easyChecks (staleCandidate.wishing { keepVersion := true })
        (some acceptedBefore)).isAccepted = true ∧
      review .standard easyChecks (staleCandidate.wishing { keepVersion := true, lenient := true })
          (some acceptedBefore)
        = review .standard easyChecks (staleCandidate.wishing { keepVersion := true })
          (some acceptedBefore) := by
  have hwithin : Options.Within {} { lenient := true } := by
    constructor <;> exact fun h => by cases h
  have hstrict : (review .standard easyChecks (staleCandidate.wishing {})
      (some acceptedBefore)).failures = [.versionNotAdvanced "1.9".toList "1.9".toList] := by
    decide +kernel
  have hkept : (review .standard easyChecks (staleCandidate.wishing { keepVersion := true })
      (some acceptedBefore)).isAccepted = true := by
    decide +kernel
  have hfewer := ((wishes_only_relax .standard easyChecks staleCandidate (some acceptedBefore)
    {}).1 _ hwithin).1
  rw [hstrict] at hfewer
  exact ⟨hwithin, hstrict, hfewer, hkept, (wishes_only_relax .standard easyChecks staleCandidate
    (some acceptedBefore) { keepVersion := true }).2 rfl hkept⟩

end ScriptGate.Review
