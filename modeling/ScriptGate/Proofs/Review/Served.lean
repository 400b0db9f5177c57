import ScriptGate.Proofs.Review.Canonical
import ScriptGate.Proofs.Review.Ruling
import ScriptGate.Proofs.Review.Values

/-!
# `ScriptGate.Proofs.Review.Served`: what an accepted text declares

A review settles a version and a namespace and writes them into the
header. Whoever reads the canonical text finds them there
(`givenBack_of_accepted`), with one exception. A settled value may end in
a carriage return, when it was declared on a line that has two of them in
front of its line feed, or was taken over from a revision that declared
it so. Written into a line that ends in a line feed alone, it loses this
carriage return to the terminator of the line (`GivenBack`).

The proof reads the header as if all values were given back first. Such
a header is canonical (`isCanonical_canonical`), so it declares both
values. Then it goes over to what is really read, value by value
(`Header.forall₂_valuesOf`). A carriage return is blank, so the first
value that is not blank stays the first.
-/

set_option autoImplicit false

namespace ScriptGate.Review

open Header (Declarable Layout Metadata Returned namespaceKey versionKey)
open Text (isBlank)

/-- The header gives back the value `v`, but for a carriage return at its
end. -/
def GivenBack (m : Metadata) (key v : Text) : Prop :=
  m.firstNonBlank key = some v ∨ ∃ w, v = w ++ ['\r'] ∧ m.firstNonBlank key = some w

/-- The first value that is not blank, where all values are given back but
for a carriage return. -/
theorem find?_returned {read written : List Text} (h : List.Forall₂ Returned read written)
    {v : Text} (hv : written.find? (fun v => !Text.allBlank v) = some v) :
    ∃ w, read.find? (fun v => !Text.allBlank v) = some w ∧ Returned w v := by
  induction h with
  | nil => cases hv
  | @cons r w rs ws hone _ ih =>
      rw [List.find?_cons] at hv ⊢
      rw [Header.allBlank_of_returned hone]
      cases hblank : Text.allBlank w with
      | true =>
          rw [hblank] at hv
          exact ih hv
      | false =>
          rw [hblank] at hv
          cases hv
          exact ⟨r, rfl, hone⟩

/-- The canonical text gives version and namespace back. -/
theorem givenBack_canonical {p : Policy} (hversionKey : versionKey ∉ p.forbiddenKeys)
    (hnamespaceKey : namespaceKey ∉ p.forbiddenKeys) (l : Layout) {version name : Text}
    (hversion : Declarable version) (hname : Declarable name)
    (hdeclared : ∀ n, (Metadata.ofSource l.text).firstNonBlank namespaceKey = some n → name = n) :
    GivenBack
        (Metadata.ofSource
          (canonical p (Metadata.ofSource l.text) (some version) (some name) l.text))
        versionKey version ∧
      GivenBack
        (Metadata.ofSource
          (canonical p (Metadata.ofSource l.text) (some version) (some name) l.text))
        namespaceKey name := by
  have hedits : (canonicalEdits p (Metadata.ofSource l.text) (some version)
      (some name)).ReadAs Returned := by
    refine readAs_canonicalEdits p _ _ _ ?_ ?_
    · rintro _ ⟨⟩
      exact hversion.toWritable.readAs
    · rintro _ ⟨⟩
      exact hname.toWritable.readAs
  obtain ⟨l', htext, hpairs⟩ := l.exists_rewritten Returned.refl hedits
  -- The header that gives all values back.
  have hall : ∀ key, (Metadata.ofPairs (l.editedPairs (canonicalEdits p (Metadata.ofSource l.text)
      (some version) (some name)))).all key
        = canonicalValues p (some version) (some name) key
            ((Metadata.ofSource l.text).all key) := by
    intro key
    rw [← valuesAfter_canonicalEdits hversionKey hnamespaceKey, Header.all_ofPairs,
      l.valuesOf_editedPairs, ← Header.all_ofPairs, ← l.ofSource_text]
  have hideal := isCanonical_canonical hversionKey hnamespaceKey hall
    (by rintro _ ⟨⟩; exact hversion.notBlank) (by rintro _ ⟨⟩; exact hname.notBlank)
    (fun n hn => congrArg some (hdeclared n hn))
  -- What is read in place of it.
  have hread : ∀ key v, (Metadata.ofPairs (l.editedPairs (canonicalEdits p
      (Metadata.ofSource l.text) (some version) (some name)))).firstNonBlank key = some v →
      GivenBack (Metadata.ofSource l'.text) key v := by
    intro key v hv
    rw [Metadata.firstNonBlank, Header.all_ofPairs] at hv
    obtain ⟨w, hw, hreturned⟩ := find?_returned (Header.forall₂_valuesOf hpairs key) hv
    have hfirst : (Metadata.ofSource l'.text).firstNonBlank key = some w := by
      rw [l'.ofSource_text, Metadata.firstNonBlank, Header.all_ofPairs]
      exact hw
    rcases hreturned with rfl | hv
    · exact Or.inl hfirst
    · exact Or.inr ⟨w, hv, hfirst⟩
  rw [canonical, ← htext]
  exact ⟨hread _ _ (hideal.firstNonBlank rfl), hread _ _ (hideal.namespaceName name rfl)⟩

/-- The values that the review of the next revision compares with can be
declared. -/
structure Previous.Declarable (previous : Previous) : Prop where
  version : Header.Declarable previous.version
  namespaceName : ∀ n, previous.namespaceName = some n → Header.Declarable n

/-- **Accepted texts.** The canonical text of an accepted candidate gives
its version and its namespace back, and both can be declared again. -/
theorem givenBack_of_accepted {p : Policy} (hversionKey : versionKey ∉ p.forbiddenKeys)
    (hnamespaceKey : namespaceKey ∉ p.forbiddenKeys) (hbase : Header.IsValue p.namespaceBase)
    {checks : Checks} {c : Candidate} {previous : Option Previous}
    (hprevious : ∀ before, previous = some before → before.Declarable)
    (h : (review p checks c previous).isAccepted = true) :
    ∃ version name, (review p checks c previous).version = some version ∧
      (review p checks c previous).namespaceName = some name ∧
      Declarable version ∧ Declarable name ∧
      GivenBack (Metadata.ofSource (review p checks c previous).canonical) versionKey version ∧
      GivenBack (Metadata.ofSource (review p checks c previous).canonical) namespaceKey name := by
  obtain ⟨version, name, hversion, hname, -⟩ := settled_of_accepted h
  rcases review_cases p checks c previous with ⟨-, hr⟩ | ⟨⟨span, hspan⟩, hr⟩
  · rw [hr] at h
    cases h
  rw [hr] at hversion hname ⊢
  obtain ⟨l, hl⟩ := Header.exists_layout hspan
  have hdeclared : ∀ key v, (Metadata.ofSource c.code).firstNonBlank key = some v →
      Declarable v := by
    intro key v hv
    rw [← hl, l.ofSource_text] at hv
    exact declarable_of_declared hv
  have hv : Declarable version :=
    settleVersion_induction (hdeclared versionKey) (isValue_generated c.submittedAt).declarable
      (fun before hbefore => declarable_next (hprevious before hbefore).version) hversion
  have hn : Declarable name := by
    refine settleNamespace_induction (hdeclared namespaceKey) (fun n hn => ?_)
      (isValue_defaultNamespace hbase c.owner).declarable hname
    obtain ⟨before, hbefore, hn⟩ := Option.bind_eq_some_iff.mp hn
    exact (hprevious before hbefore).namespaceName n hn
  have hcanonical : (judge p checks c previous).canonical
      = canonical p (Metadata.ofSource c.code) (some version) (some name) c.code := by
    rw [← hversion, ← hname]
    rfl
  refine ⟨version, name, hversion, hname, hv, hn, ?_⟩
  rw [hcanonical, ← hl]
  refine givenBack_canonical hversionKey hnamespaceKey l hv hn fun n hn' => ?_
  -- A declared namespace is the settled one.
  rw [hl] at hn'
  exact Option.some.inj (hname.symm.trans (declared_of_settleNamespace p c previous hn').1)

end ScriptGate.Review
