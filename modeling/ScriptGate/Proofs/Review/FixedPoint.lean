import ScriptGate.Proofs.Review.Canonical
import ScriptGate.Proofs.Review.Ruling
import ScriptGate.Proofs.Review.Values

/-!
# `ScriptGate.Proofs.Review.FixedPoint`: reviewing a canonical text again

Take the canonical text of a candidate, and review it again with the
same wishes against the same previous revision, at any later time.
`canonical_is_fixed` proves that nothing changes: the text stays, and so
do version, namespace, name and description. If the first review accepts
the candidate and the grammar check has no objection to the canonical
text, then the second review accepts it too. All that it still corrects
is a long description, because the description is not written back.

The review has to be able to read what it wrote. `Rereadable` says that
the policy does not forbid the directives that identify a script, and
that the texts which can get into the header are values that a header
can declare.

The settled version and namespace are declared in the canonical text. So
the second review neither makes nor inherits them. A raised version is
newer than the previous one, so it is not raised twice.
-/

set_option autoImplicit false

namespace ScriptGate.Review

open Header (IsValue Layout Metadata ReturnsEndLines namespaceKey versionKey)

/-! ### Values that are settled again -/

/-- A ruling that settles the value of `r` once more, and has nothing to
say about it unless `r` refuses it. -/
structure Ruling.Confirms {α : Type} (again r : Ruling α) : Prop where
  value : again.value = r.value
  accepted : r.failures = [] → again.failures = [] ∧ again.corrections = []

/-- The same ruling confirms itself, unless it corrects something. -/
theorem Ruling.confirms_of_eq {α : Type} {again r : Ruling α} (heq : again = r)
    (h : r.corrections = []) : again.Confirms r := by
  refine ⟨by rw [heq], fun hf => ?_⟩
  rw [heq]
  exact ⟨hf, h⟩

/-- A version that was measured is not raised again. -/
theorem advancedVersion_again {o : Options} {previous : Option Text} {version settled : Text}
    (h : (advancedVersion o previous version).value = some settled) :
    (advancedVersion o previous settled).Confirms (advancedVersion o previous version) := by
  cases previous with
  | none =>
      cases h
      exact Ruling.confirms_of_eq rfl rfl
  | some before =>
      rw [advancedVersion] at h ⊢
      split at h
      · rename_i hnew
        cases h
        rw [advancedVersion, if_pos hnew]
        exact Ruling.confirms_of_eq rfl rfl
      · rename_i hold
        split at h
        · -- The successor of the previous version is newer.
          rename_i hlenient
          cases h
          have hnewer : (Version.isNewer (Version.next before) before || o.keepVersion) = true := by
            rw [Version.isNewer_next_self, Bool.true_or]
          rw [advancedVersion, if_pos hnewer, if_neg hold, if_pos hlenient]
          exact ⟨rfl, fun _ => ⟨rfl, rfl⟩⟩
        · rename_i hstrict
          cases h
          rw [advancedVersion, if_neg hold, if_neg hstrict]
          exact ⟨rfl, fun hf => (by cases hf)⟩

section Again

variable {p : Policy} {m m' : Metadata} {c c' : Candidate} {previous : Option Previous}

/-- A version is settled again from the header that declares it. -/
theorem settleVersion_again (hoptions : c'.options = c.options)
    (hsome : ∀ v, (settleVersion m c previous).value = some v →
      m'.firstNonBlank versionKey = some v)
    (hnone : (settleVersion m c previous).value = none →
      m'.firstNonBlank versionKey = m.firstNonBlank versionKey) :
    (settleVersion m' c' previous).Confirms (settleVersion m c previous) := by
  -- The version `version` was measured, and what came out is declared.
  have hmeasured : ∀ version,
      (settleVersion m c previous).value
        = (advancedVersion c.options (previous.map Previous.version) version).value →
      (settleVersion m c previous).failures
        = (advancedVersion c.options (previous.map Previous.version) version).failures →
      (settleVersion m' c' previous).Confirms (settleVersion m c previous) := by
    intro version hvalue hfailures
    -- Something came out of it, accepted or not.
    obtain ⟨settled, hsettled⟩ : ∃ settled,
        (advancedVersion c.options (previous.map Previous.version) version).value
          = some settled := by
      rcases advancedVersion_value c.options (previous.map Previous.version) version with
        h | ⟨before, -, h⟩
      · exact ⟨version, h⟩
      · exact ⟨Version.next before, h⟩
    have hdeclared := hsome settled (hvalue.trans hsettled)
    have hagain := advancedVersion_again hsettled
    rw [settleVersion_of_declared hdeclared, hoptions]
    refine ⟨hagain.value.trans hvalue.symm, fun hf => hagain.accepted ?_⟩
    rw [← hfailures]
    exact hf
  cases hdeclared : m.firstNonBlank versionKey with
  | some declared =>
      refine hmeasured declared ?_ ?_
      · rw [settleVersion_of_declared hdeclared]
      · rw [settleVersion_of_declared hdeclared]
  | none =>
      cases hmake : c.options.addMissingVersion ||
          (previous.map Previous.version).any Version.isGenerated with
      | true =>
          refine hmeasured (Version.generated c.submittedAt) ?_ ?_
          · rw [settleVersion_of_made hdeclared hmake]
          · rw [settleVersion_of_made hdeclared hmake]
      | false =>
          have hmissing := settleVersion_of_missing hdeclared hmake
          rw [hmissing] at hnone ⊢
          have hdeclared' := (hnone rfl).trans hdeclared
          rw [← hoptions] at hmake
          exact Ruling.confirms_of_eq (settleVersion_of_missing hdeclared' hmake) rfl

/-- A declared namespace is only measured against the previous one. -/
theorem settleNamespace_of_declared (p : Policy) (previous : Option Previous) {n : Text}
    (h : m.firstNonBlank namespaceKey = some n) (h' : m'.firstNonBlank namespaceKey = some n)
    (hoptions : c'.options = c.options) :
    settleNamespace p m' c' previous = settleNamespace p m c previous := by
  simp only [settleNamespace, namespaceOrigin, h, h', resolveNamespace, hoptions]

/-- A namespace is settled again from the header that declares it. -/
theorem settleNamespace_again (hoptions : c'.options = c.options)
    (hsome : ∀ n, (settleNamespace p m c previous).value = some n →
      m'.firstNonBlank namespaceKey = some n)
    (hnone : (settleNamespace p m c previous).value = none →
      m'.firstNonBlank namespaceKey = m.firstNonBlank namespaceKey) :
    (settleNamespace p m' c' previous).Confirms (settleNamespace p m c previous) := by
  cases hdeclared : m.firstNonBlank namespaceKey with
  | some n =>
      obtain ⟨hvalue, hcorrections⟩ := declared_of_settleNamespace p c previous hdeclared
      have hdeclared' := hsome n hvalue
      exact Ruling.confirms_of_eq
        (settleNamespace_of_declared p previous hdeclared hdeclared' hoptions) hcorrections
  | none =>
      simp only [settleNamespace, namespaceOrigin, hdeclared] at hsome hnone ⊢
      cases hbefore : previous.bind Previous.namespaceName with
      | some before =>
          -- The inherited namespace is the previous one.
          simp only [hbefore, resolveNamespace] at hsome ⊢
          have hdeclared' := hsome before rfl
          simp only [hdeclared', decide_true, Bool.true_or, if_true]
          exact ⟨rfl, fun _ => ⟨rfl, rfl⟩⟩
      | none =>
          simp only [hbefore, resolveNamespace] at hsome hnone ⊢
          cases hadd : c.options.addMissingNamespace with
          | true =>
              simp only [hadd, if_true] at hsome ⊢
              have hdeclared' := hsome _ rfl
              simp only [hdeclared']
              exact ⟨rfl, fun _ => ⟨rfl, rfl⟩⟩
          | false =>
              simp only [hadd, Bool.false_eq_true, if_false] at hnone ⊢
              have hdeclared' := hnone rfl
              simp only [hdeclared', hoptions, hadd, Bool.false_eq_true, if_false]
              exact ⟨rfl, fun hf => (by cases hf)⟩

/-- A description is settled again from the same values. -/
theorem settleDescription_again
    (h : m'.firstNonBlank Header.descriptionKey = m.firstNonBlank Header.descriptionKey)
    (o : Options) : settleDescription p m' o previous = settleDescription p m o previous := by
  simp only [settleDescription, h]

/-- So is a name. -/
theorem settleName_again
    (h : m'.firstNonBlank Header.nameKey = m.firstNonBlank Header.nameKey)
    (hkind : c'.kind = c.kind) (hname : c'.displayName = c.displayName) :
    settleName m' c' previous = settleName m c previous := by
  simp only [settleName, typedName, h, hkind, hname]

/-- All that can happen to a description is that it is cut off. -/
theorem correction_of_settleDescription {o : Options} {x : Correction}
    (h : x ∈ (settleDescription p m o previous).corrections) :
    x = .descriptionTruncated p.descriptionLimit := by
  rw [settleDescription] at h
  split at h
  · cases h
  · split at h
    · cases h
    · split at h
      · exact List.mem_singleton.mp h
      · cases h

end Again

/-! ### Values that are read back -/

/-- The keys that identify a script. -/
def identityKeys : List Text :=
  [Header.nameKey, namespaceKey, versionKey, Header.descriptionKey]

/-- The name identifies a script. -/
theorem nameKey_mem : Header.nameKey ∈ identityKeys := by simp [identityKeys]

/-- The namespace identifies a script. -/
theorem namespaceKey_mem : namespaceKey ∈ identityKeys := by simp [identityKeys]

/-- The version identifies a script. -/
theorem versionKey_mem : versionKey ∈ identityKeys := by simp [identityKeys]

/-- The description identifies a script. -/
theorem descriptionKey_mem : Header.descriptionKey ∈ identityKeys := by simp [identityKeys]

/-- A candidate whose canonical text gives back what a review wrote into
it. -/
structure Rereadable (p : Policy) (c : Candidate) (previous : Option Previous) : Prop where
  /-- What identifies a script is not taken out. -/
  forbidden : ∀ key ∈ identityKeys, key ∉ p.forbiddenKeys
  /-- It does not name external code. -/
  dependency : ∀ key ∈ identityKeys, key ∉ p.dependencyKeys
  /-- Default namespaces can be declared. -/
  base : IsValue p.namespaceBase
  /-- So can the previous version. -/
  version : ∀ before, previous = some before → IsValue before.version
  /-- So can the previous namespace. -/
  namespaceName : ∀ before n, previous = some before → before.namespaceName = some n → IsValue n
  /-- A carriage return only stands in front of a line feed. -/
  returns : ReturnsEndLines c.code

section Settled

variable {p : Policy} {m : Metadata} {c : Candidate} {previous : Option Previous}

/-- A settled version can be declared. -/
theorem isValue_settleVersion (hdeclared : ∀ v, m.firstNonBlank versionKey = some v → IsValue v)
    (hprevious : ∀ before, previous = some before → IsValue before.version) {v : Text}
    (h : (settleVersion m c previous).value = some v) : IsValue v :=
  settleVersion_induction hdeclared (isValue_generated c.submittedAt)
    (fun before hbefore => isValue_next (hprevious before hbefore)) h

/-- A settled namespace can be declared. -/
theorem isValue_settleNamespace (hdeclared : ∀ n, m.firstNonBlank namespaceKey = some n → IsValue n)
    (hprevious : ∀ n, previous.bind Previous.namespaceName = some n → IsValue n)
    (hbase : IsValue p.namespaceBase) {n : Text}
    (h : (settleNamespace p m c previous).value = some n) : IsValue n :=
  settleNamespace_induction hdeclared hprevious (isValue_defaultNamespace hbase c.owner) h

end Settled

/-! ### The second review -/

/-- The candidate with a canonical text for its code, at another time. -/
def Candidate.resubmitted (c : Candidate) (canonical : Text) (t : Instant) : Candidate :=
  { c with code := canonical, submittedAt := t }

section Second

variable {p : Policy} {c : Candidate} {previous : Option Previous}

/-- What the second review finds in the header. -/
structure Reread (p : Policy) (m m' : Metadata) (version name : Option Text) : Prop where
  /-- The header is canonical. -/
  canonical : IsCanonical p m' version name
  /-- A version that was not settled is as it was. -/
  version : version = none → m'.all versionKey = m.all versionKey
  /-- So is a namespace. -/
  namespaceName : name = none → m'.all namespaceKey = m.all namespaceKey
  /-- Other directives are as they were, or they are gone. -/
  other : ∀ key, key ≠ namespaceKey → key ≠ versionKey →
    m'.all key = if key ∈ p.forbiddenKeys then [] else m.all key

/-- The canonical text of a rereadable candidate. -/
theorem exists_reread (hheader : Header.locate c.code ≠ none) (h : Rereadable p c previous)
    (checks : Checks) :
    ∃ l : Layout, l.text = (judge p checks c previous).canonical ∧
      Header.body l.text = Header.body c.code ∧
      Reread p (Metadata.ofSource c.code) (Metadata.ofSource l.text)
        (judge p checks c previous).version (judge p checks c previous).namespaceName := by
  obtain ⟨span, hspan⟩ := Option.ne_none_iff_exists'.mp hheader
  obtain ⟨l, hl⟩ := Header.exists_layout hspan
  -- What the code declares can be declared again.
  have hdeclared : ∀ key v,
      (Metadata.ofSource c.code).firstNonBlank key = some v → IsValue v := by
    intro key v hv
    have hreturns := h.returns
    rw [← hl] at hv hreturns
    rw [l.ofSource_text] at hv
    exact isValue_of_declared hreturns hv
  have hv : ∀ v, (judge p checks c previous).version = some v → IsValue v := fun v hv =>
    isValue_settleVersion (hdeclared versionKey) h.version hv
  have hn : ∀ n, (judge p checks c previous).namespaceName = some n → IsValue n := by
    refine fun n hn => isValue_settleNamespace (hdeclared namespaceKey) ?_ h.base hn
    intro n hbefore
    obtain ⟨before, hprevious, hname⟩ := Option.bind_eq_some_iff.mp hbefore
    exact h.namespaceName before n hprevious hname
  have hversion : versionKey ∉ p.forbiddenKeys := h.forbidden _ versionKey_mem
  have hname : namespaceKey ∉ p.forbiddenKeys := h.forbidden _ namespaceKey_mem
  obtain ⟨l', htext, hsplit, hall⟩ := exists_canonical hversion hname
    (fun v hsome => (hv v hsome).toRepresentable) (fun n hsome => (hn n hsome).toRepresentable) l
  rw [hl] at htext hsplit hall
  refine ⟨l', htext, by rw [Header.body, Header.body, hsplit], ?_, ?_, ?_, ?_⟩
  · refine isCanonical_canonical hversion hname hall (fun v hsome => (hv v hsome).notBlank)
      (fun n hsome => (hn n hsome).notBlank) ?_
    exact fun n hsome => (declared_of_settleNamespace p c previous hsome).1
  · intro hnone
    rw [hall, hnone, canonicalValues_version_none hversion]
  · intro hnone
    rw [hall, hnone, canonicalValues_namespace_none]
  · intro key hne hne'
    rw [hall, canonicalValues_of_ne hne hne']

section Rulings

variable {m m' : Metadata} {version name : Option Text}

/-- Of a directive that is left alone, the same value counts as before. -/
theorem Reread.firstNonBlank_of_not_forbidden (h : Reread p m m' version name) {key : Text}
    (hname : key ≠ namespaceKey) (hversion : key ≠ versionKey) (hkey : key ∉ p.forbiddenKeys) :
    m'.firstNonBlank key = m.firstNonBlank key := by
  rw [Metadata.firstNonBlank, h.other key hname hversion, if_neg hkey, Metadata.firstNonBlank]

/-- Where no version was settled, the canonical text declares the one that
the code declares. -/
theorem Reread.firstNonBlank_version (h : Reread p m m' version name) (hnone : version = none) :
    m'.firstNonBlank versionKey = m.firstNonBlank versionKey := by
  rw [Metadata.firstNonBlank, h.version hnone, Metadata.firstNonBlank]

/-- Where no namespace was settled, the canonical text declares the one that
the code declares. -/
theorem Reread.firstNonBlank_namespace (h : Reread p m m' version name) (hnone : name = none) :
    m'.firstNonBlank namespaceKey = m.firstNonBlank namespaceKey := by
  rw [Metadata.firstNonBlank, h.namespaceName hnone, Metadata.firstNonBlank]

/-- The second review finds no external code that the first did not
find. -/
theorem Reread.dependencyFailures_eq_nil (h : Reread p m m' version name)
    {isApproved : Text → Bool} (hversion : versionKey ∉ p.dependencyKeys)
    (hname : namespaceKey ∉ p.dependencyKeys)
    (hnil : dependencyFailures p isApproved m = []) : dependencyFailures p isApproved m' = [] := by
  rw [dependencyFailures, List.flatMap_eq_nil_iff] at hnil ⊢
  intro key hkey
  have hne : key ≠ namespaceKey := fun heq => hname (heq ▸ hkey)
  have hne' : key ≠ versionKey := fun heq => hversion (heq ▸ hkey)
  rw [h.other key hne hne']
  split
  · rfl
  · exact hnil key hkey

/-- There is no forbidden directive left to take out. -/
theorem Reread.removals_eq_nil {l : Layout} (h : Reread p m (Metadata.ofSource l.text) version name) :
    removals p (Metadata.ofSource l.text) = [] := by
  rw [removals, List.map_eq_nil_iff, List.filter_eq_nil_iff]
  intro key hkey hcontains
  rw [l.ofSource_text, Header.contains_ofPairs] at hcontains
  have hnil := h.canonical.forbidden key hkey
  rw [l.ofSource_text, Header.all_ofPairs] at hnil
  exact hcontains hnil

end Rulings

section Again

variable {checks : Checks} {l : Layout}
  (hreread : Reread p (Metadata.ofSource c.code) (Metadata.ofSource l.text)
    (judge p checks c previous).version (judge p checks c previous).namespaceName)
  (t : Instant)

include hreread

/-- The second review confirms the version. -/
theorem Reread.settleVersion :
    (Review.settleVersion (Metadata.ofSource l.text) (c.resubmitted l.text t) previous).Confirms
      (Review.settleVersion (Metadata.ofSource c.code) c previous) :=
  settleVersion_again rfl (fun _ hv => hreread.canonical.firstNonBlank hv)
    hreread.firstNonBlank_version

/-- The second review confirms the namespace. -/
theorem Reread.settleNamespace :
    (Review.settleNamespace p (Metadata.ofSource l.text) (c.resubmitted l.text t)
        previous).Confirms
      (Review.settleNamespace p (Metadata.ofSource c.code) c previous) :=
  settleNamespace_again rfl (fun n hn => hreread.canonical.namespaceName n hn)
    hreread.firstNonBlank_namespace

/-- The second review comes to the same ruling on the description. -/
theorem Reread.settleDescription (hkey : Header.descriptionKey ∉ p.forbiddenKeys) (o : Options) :
    Review.settleDescription p (Metadata.ofSource l.text) o previous
      = Review.settleDescription p (Metadata.ofSource c.code) o previous :=
  settleDescription_again (hreread.firstNonBlank_of_not_forbidden (by decide +kernel)
    (by decide +kernel) hkey) o

/-- The second review finds the same name. -/
theorem Reread.settleName (hkey : Header.nameKey ∉ p.forbiddenKeys) :
    Review.settleName (Metadata.ofSource l.text) (c.resubmitted l.text t) previous
      = Review.settleName (Metadata.ofSource c.code) c previous :=
  settleName_again (hreread.firstNonBlank_of_not_forbidden (by decide +kernel)
    (by decide +kernel) hkey) rfl rfl

/-- The canonical text stays. -/
theorem Reread.canonical_eq :
    (judge p checks (c.resubmitted l.text t) previous).canonical = l.text := by
  have hversion := (hreread.settleVersion t).value
  have hname := (hreread.settleNamespace t).value
  show Review.canonical p (Metadata.ofSource l.text)
    (Review.settleVersion (Metadata.ofSource l.text) (c.resubmitted l.text t) previous).value
    (Review.settleNamespace p (Metadata.ofSource l.text) (c.resubmitted l.text t) previous).value
    l.text = l.text
  rw [hversion, hname]
  exact canonical_eq_self l hreread.canonical

/-- No check that let the candidate pass objects to its canonical
text. -/
theorem Reread.passes (h : Rereadable p c previous) (hbody : Header.body l.text = Header.body c.code)
    (hfirst : Passes p checks c previous) (hprogram : checks.mistake? l.text = none) :
    Passes p checks (c.resubmitted l.text t) previous where
  dependencies := hreread.dependencyFailures_eq_nil (h.dependency _ versionKey_mem)
    (h.dependency _ namespaceKey_mem) hfirst.dependencies
  fingerprints := by
    show fingerprintFailures checks.hit? c.authors (Header.body l.text) = []
    rw [hbody]
    exact hfirst.fingerprints
  grammar := by
    show grammarFailures checks.mistake? l.text = []
    rw [grammarFailures, hprogram]
  lines := by
    show minificationFailures p c.options (Header.body l.text) = []
    rw [hbody]
    exact hfirst.lines
  version := ((hreread.settleVersion t).accepted hfirst.version).1
  namespaceName := ((hreread.settleNamespace t).accepted hfirst.namespaceName).1
  description := by
    have hsame := hreread.settleDescription (h.forbidden _ descriptionKey_mem) c.options
    exact (congrArg Ruling.failures hsame).trans hfirst.description
  identity := by
    show missingIdentity
      (Review.settleName (Metadata.ofSource l.text) (c.resubmitted l.text t) previous)
      (Review.settleDescription p (Metadata.ofSource l.text) c.options previous).value = []
    rw [hreread.settleName t (h.forbidden _ nameKey_mem),
      hreread.settleDescription (h.forbidden _ descriptionKey_mem) c.options]
    exact hfirst.identity

/-- All that is left to correct is the description. -/
theorem Reread.corrections (hfirst : Passes p checks c previous) {x : Correction}
    (hx : x ∈ (judge p checks (c.resubmitted l.text t) previous).corrections) :
    x = .descriptionTruncated p.descriptionLimit := by
  have hversion := ((hreread.settleVersion t).accepted hfirst.version).2
  have hname := ((hreread.settleNamespace t).accepted hfirst.namespaceName).2
  simp only [judge, List.mem_append] at hx
  rcases hx with ((hx | hx) | hx) | hx
  · exact absurd (hversion ▸ hx) List.not_mem_nil
  · exact absurd (hname ▸ hx) List.not_mem_nil
  · exact correction_of_settleDescription hx
  · exact absurd (hreread.removals_eq_nil ▸ hx) List.not_mem_nil

end Again

/-- **Fixed points.** The review of a canonical text settles the same
values and changes nothing. If the first review accepts the candidate and
the canonical text is a program, the second one accepts it too, and at
most cuts off the description. -/
theorem canonical_is_fixed (p : Policy) (checks : Checks) (c : Candidate)
    (previous : Option Previous) (hheader : Header.locate c.code ≠ none)
    (h : Rereadable p c previous) (t : Instant) :
    let first := review p checks c previous
    let second := review p checks (c.resubmitted first.canonical t) previous
    second.canonical = first.canonical ∧ second.version = first.version ∧
      second.namespaceName = first.namespaceName ∧ second.name = first.name ∧
      second.description = first.description ∧
      (first.isAccepted = true → checks.mistake? first.canonical = none →
        second.isAccepted = true ∧
          ∀ x ∈ second.corrections, x = .descriptionTruncated p.descriptionLimit) := by
  obtain ⟨l, htext, hbody, hreread⟩ := exists_reread hheader h checks
  have hheader' : Header.locate (c.resubmitted l.text t).code ≠ none := by
    rw [Candidate.resubmitted, l.locate_text]
    exact Option.some_ne_none _
  -- Both texts have a header, so both are judged.
  rw [review_eq_judge p checks hheader]
  simp only [← htext]
  rw [review_eq_judge p checks hheader']
  refine ⟨hreread.canonical_eq t, (hreread.settleVersion t).value,
    (hreread.settleNamespace t).value, ?_, ?_, ?_⟩
  · exact hreread.settleName t (h.forbidden _ nameKey_mem)
  · exact congrArg Ruling.value
      (hreread.settleDescription (h.forbidden _ descriptionKey_mem) c.options)
  · intro haccepted hprogram
    have hfirst := (isAccepted_judge_iff p checks c previous).mp haccepted
    refine ⟨(isAccepted_judge_iff _ _ _ _).mpr ?_, fun x hx => hreread.corrections t hfirst hx⟩
    exact hreread.passes t h hbody hfirst hprogram

end Second

/-! ### A stale candidate -/

/-- A revision that was accepted. -/
def acceptedBefore : Previous where
  version := "1.9".toList
  namespaceName := some "s".toList
  name := some "n".toList
  description := some "d".toList

/-- A candidate with an old version, a blank namespace and a forbidden
directive. -/
def staleCandidate : Candidate where
  code :=
    ("// ==UserScript==\n// @name n\n// @namespace\n// @version 1.9\n// @version 1\n" ++
      "// @updateURL u\n// ==/UserScript==\nf();\n").toList
  kind := .userScript
  authors := [1]
  owner := 1
  displayName := none
  options := { lenient := true }
  submittedAt := .ofSeconds 0

/-- Checks that object to nothing. -/
def easyChecks : Checks := ⟨fun _ => none, fun _ => none, fun _ => false⟩

/-- Nothing that a review writes into the stale candidate is lost. -/
theorem rereadable_staleCandidate :
    Rereadable .standard staleCandidate (some acceptedBefore) where
  forbidden := by decide +kernel
  dependency := by decide +kernel
  base := isValue_of_forall (by decide) fun _ hc => Header.isBlank_of_all (by decide) hc
  version := by
    rintro _ ⟨⟩
    exact isValue_of_forall (by decide) fun _ hc => Header.isBlank_of_all (by decide) hc
  namespaceName := by
    rintro _ _ ⟨⟩ ⟨⟩
    exact isValue_of_forall (by decide) fun _ hc => Header.isBlank_of_all (by decide) hc
  returns := Header.returnsEndLines_of_not_mem (by decide +kernel)

/-- Its version is raised and its namespace inherited, once. -/
theorem stale_canonical_is_fixed :
    Header.locate staleCandidate.code ≠ none ∧
      Rereadable .standard staleCandidate (some acceptedBefore) ∧
      let first := review .standard easyChecks staleCandidate (some acceptedBefore)
      let second := review .standard easyChecks
        (staleCandidate.resubmitted first.canonical (.ofSeconds 1)) (some acceptedBefore)
      first.corrections = [.versionAdvanced "1.9".toList "1.9.0.1".toList,
        .namespaceInherited "s".toList, .directiveRemoved "updateURL".toList] ∧
        second.canonical = first.canonical ∧ second.isAccepted = true := by
  have hheader : Header.locate staleCandidate.code ≠ none := by decide +kernel
  obtain ⟨haccepted, hcorrections⟩ :
      (review .standard easyChecks staleCandidate (some acceptedBefore)).isAccepted = true ∧
        (review .standard easyChecks staleCandidate (some acceptedBefore)).corrections
          = [.versionAdvanced "1.9".toList "1.9.0.1".toList, .namespaceInherited "s".toList,
            .directiveRemoved "updateURL".toList] := by
    decide +kernel
  obtain ⟨hcanonical, -, -, -, -, hsecond⟩ := canonical_is_fixed .standard easyChecks
    staleCandidate (some acceptedBefore) hheader rereadable_staleCandidate (.ofSeconds 1)
  exact ⟨hheader, rereadable_staleCandidate, hcorrections, hcanonical,
    (hsecond haccepted rfl).1⟩

end ScriptGate.Review
