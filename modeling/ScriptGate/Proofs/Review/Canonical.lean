import ScriptGate.Proofs.Header.ReadBack
import ScriptGate.Review.Canonical

/-!
# `ScriptGate.Proofs.Review.Canonical`: what a canonical text declares

The canonical text of a script has the settled version and namespace in
its header, and no forbidden directive. `exists_canonical` says this for
all keys at once: `canonicalValues` are the values that a key has then.
It holds as long as version and namespace are not forbidden themselves
and a header can hold their values. The text around the header stays.

A header that declares what a review would write into it is canonical
(`IsCanonical`). `isCanonical_canonical` says that the canonical text has
such a header, and `canonical_eq_self` that there is nothing left to do
for a text that has one.
-/

set_option autoImplicit false

namespace ScriptGate.Review

open Header (Edits Layout Metadata Representable namespaceKey valuesOf versionKey)

/-! ### The edits -/

/-- Version and namespace are declared under different keys. -/
theorem versionKey_ne_namespaceKey : versionKey ≠ namespaceKey := by decide +kernel

/-- The version is all that its edits change. -/
theorem get?_versionEdits (version : Option Text) (key : Text) :
    (versionEdits version Edits.empty).changes.get? key
      = if versionKey = key then version.map some else none := by
  cases version with
  | none => rw [Option.map_none, ite_self]; rfl
  | some v => exact Keyed.get?_put _ _ _ _

section Edits

variable (p : Policy) (m : Metadata) (version name : Option Text)

/-- What the canonical text changes of a key. -/
theorem changes_canonicalEdits (key : Text) :
    (canonicalEdits p m version name).changes.get? key
      = if key = namespaceKey ∧ name.isSome ∧ (m.firstNonBlank namespaceKey).isNone then some name
        else if key ∈ p.forbiddenKeys then some none
        else if versionKey = key then version.map some else none := by
  -- The namespace is put last and overwrites nothing else.
  have hbefore : (versionAddition version
      (p.forbiddenKeys.foldl Edits.remove (versionEdits version Edits.empty))).changes.get? key
        = if key ∈ p.forbiddenKeys then some none
          else if versionKey = key then version.map some else none := by
    rw [← get?_versionEdits, ← Edits.get?_foldl_remove]
    cases version with
    | none => rfl
    | some v => rfl
  unfold canonicalEdits namespaceEdits
  cases name with
  | none => simp [hbefore]
  | some n =>
      cases hdeclared : (m.firstNonBlank namespaceKey).isNone with
      | false =>
          simp only [Bool.false_eq_true, and_false, if_false]
          exact hbefore
      | true =>
          rw [← hbefore]
          refine (Keyed.get?_put _ _ _ _).trans ?_
          by_cases hkey : key = namespaceKey
          · simp [hkey]
          · simp [hkey, Ne.symm hkey]

/-- What the canonical text adds for a key. -/
theorem additions_canonicalEdits (key : Text) :
    (canonicalEdits p m version name).additions.get? key
      = if key = namespaceKey ∧ name.isSome then name
        else if versionKey = key then version else none := by
  have hbefore : (versionAddition version
      (p.forbiddenKeys.foldl Edits.remove (versionEdits version Edits.empty))).additions.get? key
        = if versionKey = key then version else none := by
    cases version with
    | none =>
        rw [ite_self]
        show (p.forbiddenKeys.foldl Edits.remove Edits.empty).additions.get? key = none
        rw [Edits.additions_foldl_remove]
        rfl
    | some v =>
        refine (Keyed.get?_put _ _ _ _).trans ?_
        rw [Edits.additions_foldl_remove]
        rfl
  unfold canonicalEdits namespaceEdits
  cases name with
  | none => simp [hbefore]
  | some n =>
      refine (Keyed.get?_put _ _ _ _).trans ?_
      have hsame : ∀ e : Edits, (if (m.firstNonBlank namespaceKey).isNone = true
          then e.replace namespaceKey n else e).additions = e.additions := by
        intro e
        split
        · rfl
        · rfl
      rw [hsame, hbefore]
      by_cases hkey : key = namespaceKey
      · simp [hkey]
      · simp [hkey, Ne.symm hkey]

/-- The canonical text loses only forbidden directives. -/
theorem change_ne_none {key : Text} (hkey : key ∉ p.forbiddenKeys) :
    (canonicalEdits p m version name).changes.get? key ≠ some none := by
  intro hnone
  rw [changes_canonicalEdits, if_neg hkey] at hnone
  split at hnone
  · rename_i hsome
    rw [Option.some.inj hnone] at hsome
    cases hsome.2.1
  · split at hnone
    · obtain ⟨v, -, hv⟩ := Option.map_eq_some_iff.mp hnone
      cases hv
    · cases hnone

/-- The edits write nothing else than the version and the namespace. -/
theorem value_of_change {key value : Text}
    (h : (key, some value) ∈ (canonicalEdits p m version name).changes.entries) :
    version = some value ∨ name = some value := by
  rw [Keyed.mem_entries_iff, changes_canonicalEdits] at h
  split at h
  · exact Or.inr (Option.some.inj h)
  · split at h
    · cases h
    · split at h
      · obtain ⟨v, hv, hsome⟩ := Option.map_eq_some_iff.mp h
        cases hsome
        exact Or.inl hv
      · cases h

/-- What is added is the version or the namespace, under its own key. -/
theorem value_of_addition {key value : Text}
    (h : (key, value) ∈ (canonicalEdits p m version name).additions.entries) :
    (key = namespaceKey ∨ key = versionKey) ∧ (version = some value ∨ name = some value) := by
  rw [Keyed.mem_entries_iff, additions_canonicalEdits] at h
  split at h
  · rename_i hkey
    exact ⟨Or.inl hkey.1, Or.inr h⟩
  · split at h
    · rename_i hkey
      exact ⟨Or.inr hkey.symm, Or.inl h⟩
    · cases h

/-- The keys of what is added are without blanks. -/
theorem key_of_addition {key value : Text}
    (h : (key, value) ∈ (canonicalEdits p m version name).additions.entries) :
    key ≠ [] ∧ ∀ c ∈ key, Text.isBlank c = false := by
  rcases (value_of_addition p m version name h).1 with rfl | rfl
  · exact ⟨by decide +kernel, fun c hc => Header.isBlank_of_all (by decide +kernel) hc⟩
  · exact ⟨by decide +kernel, fun c hc => Header.isBlank_of_all (by decide +kernel) hc⟩

/-- The edits write values that are read back. -/
theorem representable_canonicalEdits (hversion : ∀ v, version = some v → Representable v)
    (hname : ∀ n, name = some n → Representable n) :
    (canonicalEdits p m version name).Representable where
  changes _ value h := (value_of_change p m version name h).elim (hversion value) (hname value)
  additions _ value h :=
    (value_of_addition p m version name h).2.elim (hversion value) (hname value)
  keys _ _ h := key_of_addition p m version name h

/-- They are read back as their values are. -/
theorem readAs_canonicalEdits {R : Text → Text → Prop}
    (hversion : ∀ v, version = some v → Header.ReadAs R v)
    (hname : ∀ n, name = some n → Header.ReadAs R n) :
    (canonicalEdits p m version name).ReadAs R where
  changes _ value h := (value_of_change p m version name h).elim (hversion value) (hname value)
  additions _ value h :=
    (value_of_addition p m version name h).2.elim (hversion value) (hname value)
  keys _ _ h := key_of_addition p m version name h

end Edits

/-! ### The values -/

/-- The values that a key has in the canonical text, given those that it
has in the code. -/
def canonicalValues (p : Policy) (version name : Option Text) (key : Text) (vs : List Text) :
    List Text :=
  if key = namespaceKey then
    match name with
    | none => vs
    | some n => if (vs.find? fun v => !Text.allBlank v).isNone then n :: vs.tail else vs
  else if key ∈ p.forbiddenKeys then []
  else if versionKey = key then
    match version with
    | none => vs
    | some v => v :: vs.tail
  else vs

section Values

variable {p : Policy} {version name : Option Text}

/-- The edits lead to these values. -/
theorem valuesAfter_canonicalEdits (hversion : versionKey ∉ p.forbiddenKeys)
    (hname : namespaceKey ∉ p.forbiddenKeys) (m : Metadata) (key : Text) :
    (canonicalEdits p m version name).valuesAfter key (m.all key)
      = canonicalValues p version name key (m.all key) := by
  simp only [Edits.valuesAfter, changes_canonicalEdits, additions_canonicalEdits, canonicalValues]
  by_cases hkey : key = namespaceKey
  · subst hkey
    simp only [hname, versionKey_ne_namespaceKey, if_true, if_false, true_and,
      Metadata.firstNonBlank]
    cases name with
    | none =>
        cases m.all namespaceKey with
        | nil => rfl
        | cons v vs => rfl
    | some n =>
        -- The namespace is the first value, or it is declared already.
        cases m.all namespaceKey with
        | nil => rfl
        | cons v vs =>
            by_cases hblank : ((v :: vs).find? fun v => !Text.allBlank v).isNone = true
            · simp [hblank]
            · simp [hblank]
  · simp only [hkey, false_and, if_false]
    by_cases hforbidden : key ∈ p.forbiddenKeys
    · -- A forbidden key is not the version, so nothing adds it again.
      have hne : versionKey ≠ key := fun heq => hversion (heq ▸ hforbidden)
      simp only [hforbidden, hne, if_true, if_false, Option.toList_none]
    · simp only [hforbidden, if_false]
      by_cases hversionKey : versionKey = key
      · simp only [hversionKey, if_true]
        cases version with
        | none =>
            cases m.all key with
            | nil => rfl
            | cons v vs => rfl
        | some v =>
            cases m.all key with
            | nil => rfl
            | cons v vs => rfl
      · simp only [hversionKey, if_false]
        cases m.all key with
        | nil => rfl
        | cons v vs => rfl

/-- **Canonical texts.** The canonical text of a script has these values,
and what stands around its header stays. -/
theorem exists_canonical (hversion : versionKey ∉ p.forbiddenKeys)
    (hname : namespaceKey ∉ p.forbiddenKeys) (hv : ∀ v, version = some v → Representable v)
    (hn : ∀ n, name = some n → Representable n) (l : Layout) :
    ∃ l' : Layout, l'.text = canonical p (Metadata.ofSource l.text) version name l.text ∧
      Header.split l'.text = Header.split l.text ∧
      ∀ key, (Metadata.ofSource l'.text).all key
        = canonicalValues p version name key ((Metadata.ofSource l.text).all key) := by
  have he := representable_canonicalEdits p (Metadata.ofSource l.text) version name hv hn
  refine ⟨l.edited _ he, l.text_edited he, l.split_edited he, fun key => ?_⟩
  rw [← valuesAfter_canonicalEdits hversion hname, Layout.ofSource_text, Header.all_ofPairs,
    l.valuesOf_edited, ← Header.all_ofPairs, ← l.ofSource_text]

/-- Keys other than version and namespace only lose their directives if
they are forbidden. -/
theorem canonicalValues_of_ne {key : Text} (hname : key ≠ namespaceKey) (hversion : key ≠ versionKey)
    (vs : List Text) :
    canonicalValues p version name key vs = if key ∈ p.forbiddenKeys then [] else vs := by
  simp only [canonicalValues, hname, Ne.symm hversion, if_false]

/-- Without a settled version the declared ones stay. -/
theorem canonicalValues_version_none (hversion : versionKey ∉ p.forbiddenKeys) (vs : List Text) :
    canonicalValues p none name versionKey vs = vs := by
  simp only [canonicalValues, versionKey_ne_namespaceKey, hversion, if_true, if_false]

/-- Without a settled namespace the declared ones stay. -/
theorem canonicalValues_namespace_none (vs : List Text) :
    canonicalValues p version none namespaceKey vs = vs := by
  simp only [canonicalValues, if_true]

end Values

/-! ### Canonical headers -/

/-- A header that declares what a review would write into it. -/
structure IsCanonical (p : Policy) (m : Metadata) (version name : Option Text) : Prop where
  /-- The version comes first among the versions. -/
  version : ∀ v, version = some v →
    (m.all versionKey).head? = some v ∧ Text.allBlank v = false
  /-- The namespace is declared. -/
  namespaceName : ∀ n, name = some n → m.firstNonBlank namespaceKey = some n
  /-- There is no forbidden directive. -/
  forbidden : ∀ key ∈ p.forbiddenKeys, m.all key = []

section Canonical

variable {p : Policy} {m m' : Metadata} {version name : Option Text}

/-- If the first value of a key is not blank, it is the one that counts. -/
theorem firstNonBlank_of_head? {key v : Text} (h : (m.all key).head? = some v)
    (hv : Text.allBlank v = false) : m.firstNonBlank key = some v := by
  obtain ⟨vs, hvs⟩ := List.head?_eq_some_iff.mp h
  rw [Metadata.firstNonBlank, hvs, List.find?_cons_of_pos (by rw [hv]; rfl)]

/-- The first version that is not blank is the settled one. -/
theorem IsCanonical.firstNonBlank (h : IsCanonical p m version name) {v : Text}
    (hv : version = some v) : m.firstNonBlank versionKey = some v :=
  firstNonBlank_of_head? (h.version v hv).1 (h.version v hv).2

/-- The canonical text has a canonical header, if a declared namespace
was settled. -/
theorem isCanonical_canonical (hversion : versionKey ∉ p.forbiddenKeys)
    (hname : namespaceKey ∉ p.forbiddenKeys)
    (hall : ∀ key, m'.all key = canonicalValues p version name key (m.all key))
    (hv : ∀ v, version = some v → Text.allBlank v = false)
    (hn : ∀ n, name = some n → Text.allBlank n = false)
    (hdeclared : ∀ n, m.firstNonBlank namespaceKey = some n → name = some n) :
    IsCanonical p m' version name where
  version := by
    intro v hsome
    refine ⟨?_, hv v hsome⟩
    rw [hall]
    simp only [canonicalValues, versionKey_ne_namespaceKey, hversion, hsome, if_true, if_false,
      List.head?_cons]
  namespaceName := by
    intro n hsome
    have hall' := hall namespaceKey
    simp only [canonicalValues, if_true, hsome] at hall'
    split at hall'
    · refine firstNonBlank_of_head? ?_ (hn n hsome)
      rw [hall', List.head?_cons]
    · rename_i hfound
      rw [Option.isNone_iff_eq_none, ← ne_eq, Option.ne_none_iff_exists'] at hfound
      -- A declared namespace is the settled one.
      obtain ⟨n', hn'⟩ := hfound
      have hsame := (hdeclared n' hn').symm.trans hsome
      rw [Metadata.firstNonBlank, hall', hn', hsame]
  forbidden := by
    intro key hmem
    have hkey : key ≠ namespaceKey := fun heq => hname (heq ▸ hmem)
    rw [hall]
    simp only [canonicalValues, hkey, hmem, if_true, if_false]

/-- **Fixed points.** A text with a canonical header is its own canonical
text. -/
theorem canonical_eq_self (l : Layout)
    (h : IsCanonical p (Metadata.ofSource l.text) version name) :
    canonical p (Metadata.ofSource l.text) version name l.text = l.text := by
  have hall : ∀ key, (Metadata.ofSource l.text).all key = Header.valuesOf key l.pairs := by
    intro key
    rw [l.ofSource_text, Header.all_ofPairs]
  refine l.rewrite_eq_self ?_ ?_
  · intro key change hchange v hv
    rw [← hall] at hv
    rw [changes_canonicalEdits] at hchange
    split at hchange
    · -- The namespace is declared, so it is not replaced.
      rename_i hkey
      obtain ⟨-, hsome, hnone⟩ := hkey
      obtain ⟨n, hn⟩ := Option.isSome_iff_exists.mp hsome
      rw [h.namespaceName n hn] at hnone
      cases hnone
    · split at hchange
      · rename_i hforbidden
        rw [h.forbidden key hforbidden] at hv
        cases hv
      · split at hchange
        · rename_i hkey
          obtain ⟨v', hv', rfl⟩ := Option.map_eq_some_iff.mp hchange
          obtain ⟨hhead, hblank⟩ := h.version v' hv'
          rw [hkey, hv] at hhead
          cases hhead
          refine ⟨fun hnil => ?_, rfl⟩
          rw [hnil] at hblank
          cases hblank
        · cases hchange
  · intro key value hvalue
    -- What would be added is there.
    have hne : (Metadata.ofSource l.text).all key ≠ [] := by
      intro hnil
      rw [additions_canonicalEdits] at hvalue
      split at hvalue
      · rename_i hkey
        have hn := h.namespaceName value hvalue
        rw [Metadata.firstNonBlank, ← hkey.1, hnil] at hn
        cases hn
      · split at hvalue
        · rename_i hkey
          have hv := (h.version value hvalue).1
          rw [hkey, hnil] at hv
          cases hv
        · cases hvalue
    rw [← hall]
    exact ⟨hne, change_ne_none _ _ _ _ fun hforbidden => hne (h.forbidden key hforbidden)⟩

end Canonical

end ScriptGate.Review
