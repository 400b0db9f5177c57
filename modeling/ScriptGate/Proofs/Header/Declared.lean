import ScriptGate.Proofs.Header.ReadBack

/-!
# `ScriptGate.Proofs.Header.Declared`: rewriting edits the declarations

What a script declares are the keys and values of its directives, in the
order of the lines. `Edits.pairsAfter` says what edits do to such a list,
one thing after the other: they drop the pairs of removed keys, replace
the value in the first pair of each replaced key, and append what is
missing then.

`rewriting_edits_declarations` says that a rewritten script declares just
that, for all edits that are representable. A rewriting splices texts into
a text, which then has to be read anew; so this is where keys without a
value, white space of all kinds and both terminators come together. What
is before and after the header stays as it is.
-/

set_option autoImplicit false

namespace ScriptGate.Header

/-- The keys and values that a script declares. -/
def declared (source : Text) : List (Text × Text) :=
  (directives source).map fun d => (d.key, d.value)

/-- The first value of a key is that of its first directive. -/
theorem lookup_declared (source key : Text) :
    (declared source).lookup key
      = ((directives source).find? fun d => d.key == key).map (·.value) := by
  rw [declared]
  induction directives source with
  | nil => rfl
  | cons d ds ih =>
      rw [List.map_cons, List.lookup_cons, List.find?_cons, ih]
      by_cases hkey : d.key = key
      · subst hkey
        simp only [beq_self_eq_true, Option.map_some]
      · rw [beq_eq_false_iff_ne.mpr hkey, beq_eq_false_iff_ne.mpr (Ne.symm hkey)]

/-- What the text of a layout declares are the pairs of its inner lines. -/
theorem Layout.declared_text (l : Layout) : declared l.text = l.pairs := by
  rw [declared, l.directives_text]
  exact map_placed (fun d => (d.key, d.value)) _ l.inner

/-! ### Edits of a list of pairs -/

/-- The pairs with another value in the first one of `key`. -/
def replaceFirst (key value : Text) : List (Text × Text) → List (Text × Text)
  | [] => []
  | p :: ps => if p.1 = key then (key, value) :: ps else p :: replaceFirst key value ps

/-- The pairs with other values in the first ones of some keys. -/
def replaceEach (replacements pairs : List (Text × Text)) : List (Text × Text) :=
  replacements.foldl (fun ps r => replaceFirst r.1 r.2 ps) pairs

/-- The changes that replace a value. -/
def replacementsOf (changes : List (Text × Option Text)) : List (Text × Text) :=
  changes.filterMap fun c => c.2.map (c.1, ·)

namespace Edits

variable (e : Edits)

/-- The pairs whose key is not removed. -/
def kept (pairs : List (Text × Text)) : List (Text × Text) :=
  pairs.filter fun p => e.changes.get? p.1 ≠ some none

/-- The additions whose key is absent after the removals. -/
def missing (pairs : List (Text × Text)) : List (Text × Text) :=
  e.additions.entries.filter fun a => !((e.kept pairs).map Prod.fst).contains a.1

/-- What edits make of some pairs. -/
def pairsAfter (pairs : List (Text × Text)) : List (Text × Text) :=
  replaceEach (replacementsOf e.changes.entries) (e.kept pairs) ++ e.missing pairs

/-- A key is kept if it is declared and not removed. -/
theorem mem_keys_kept {pairs : List (Text × Text)} {key : Text} :
    key ∈ (e.kept pairs).map Prod.fst ↔
      valuesOf key pairs ≠ [] ∧ e.changes.get? key ≠ some none := by
  rw [← mem_map_fst_iff, List.mem_map, List.mem_map]
  constructor
  · rintro ⟨p, hp, rfl⟩
    obtain ⟨hp, hkept⟩ := List.mem_filter.mp hp
    exact ⟨⟨p, hp, rfl⟩, of_decide_eq_true hkept⟩
  · rintro ⟨⟨p, hp, rfl⟩, hkept⟩
    exact ⟨p, List.mem_filter.mpr ⟨hp, decide_eq_true hkept⟩, rfl⟩

/-- What is missing is the key of no pair that is kept. -/
theorem not_contains_kept {pairs : List (Text × Text)} {key : Text} :
    (!((e.kept pairs).map Prod.fst).contains key) = true ↔
      ¬ (valuesOf key pairs ≠ [] ∧ e.changes.get? key ≠ some none) := by
  rw [Bool.not_eq_true', ← Bool.not_eq_true, List.contains_iff_mem, mem_keys_kept]

end Edits

/-- Where nothing is declared, nothing is replaced. -/
theorem replaceEach_nil (rs : List (Text × Text)) : replaceEach rs [] = [] := by
  induction rs with
  | nil => rfl
  | cons r rs ih => exact ih

/-- Replacements are made one after the other. -/
theorem replaceEach_append (rs qs ps : List (Text × Text)) :
    replaceEach (rs ++ qs) ps = replaceEach qs (replaceEach rs ps) :=
  List.foldl_append

/-- A pair whose key is not replaced stays in front. -/
theorem replaceEach_cons_of_not_mem {rs : List (Text × Text)} {p : Text × Text}
    (h : ∀ r ∈ rs, r.1 ≠ p.1) (ps : List (Text × Text)) :
    replaceEach rs (p :: ps) = p :: replaceEach rs ps := by
  induction rs generalizing ps with
  | nil => rfl
  | cons r rs ih =>
      have hr : replaceFirst r.1 r.2 (p :: ps) = p :: replaceFirst r.1 r.2 ps :=
        if_neg (h r List.mem_cons_self).symm
      show replaceEach rs (replaceFirst r.1 r.2 (p :: ps)) = _
      rw [hr, ih fun x hx => h x (List.mem_cons_of_mem _ hx)]
      rfl

/-- The first pair of a replaced key takes its value, and the others are
left to the other replacements. -/
theorem replaceEach_cons_of_mem {rs qs : List (Text × Text)} {key value : Text}
    (hrs : ∀ r ∈ rs, r.1 ≠ key) (hqs : ∀ r ∈ qs, r.1 ≠ key) (old : Text)
    (ps : List (Text × Text)) :
    replaceEach (rs ++ (key, value) :: qs) ((key, old) :: ps)
      = (key, value) :: replaceEach (rs ++ qs) ps := by
  have hfirst : replaceFirst key value ((key, old) :: replaceEach rs ps)
      = (key, value) :: replaceEach rs ps := if_pos rfl
  rw [replaceEach_append, replaceEach_cons_of_not_mem hrs]
  show replaceEach qs (replaceFirst key value ((key, old) :: replaceEach rs ps)) = _
  rw [hfirst, replaceEach_cons_of_not_mem hqs, replaceEach_append]

/-- Replacements come from changes, so a key without a change has none. -/
theorem ne_of_mem_replacementsOf {changes : List (Text × Option Text)} {key : Text}
    (h : ∀ c ∈ changes, c.1 ≠ key) : ∀ r ∈ replacementsOf changes, r.1 ≠ key := by
  intro r hr
  obtain ⟨c, hc, hcr⟩ := List.mem_filterMap.mp hr
  obtain ⟨v, -, rfl⟩ := Option.map_eq_some_iff.mp hcr
  exact h c hc

/-- Changes that are made line by line, or one after the other, make the
same of the pairs. -/
theorem editPairs_eq_replaceEach {changes : List (Text × Option Text)}
    (hkeys : (changes.map Prod.fst).Nodup) (pairs : List (Text × Text)) :
    editPairs changes pairs
      = replaceEach (replacementsOf changes)
          (pairs.filter fun p => changes.lookup p.1 ≠ some none) := by
  induction pairs generalizing changes with
  | nil => exact (replaceEach_nil _).symm
  | cons p pairs ih =>
      obtain ⟨key, old⟩ := p
      rw [editPairs]
      rcases hlookup : changes.lookup key with _ | _ | value
      · -- No change has this key.
        have hne : ∀ c ∈ changes, c.1 ≠ key :=
          fun c hc => (bne_iff_ne.mp (List.lookup_eq_none_iff.mp hlookup c hc)).symm
        rw [List.filter_cons_of_pos (by simp [hlookup]),
          replaceEach_cons_of_not_mem (ne_of_mem_replacementsOf hne), ← ih hkeys]
      · rw [List.filter_cons_of_neg (by simp [hlookup])]
        exact ih hkeys
      · obtain ⟨es, fs, rfl, hes⟩ := List.lookup_eq_some_iff.mp hlookup
        have hes' : ∀ c ∈ es, c.1 ≠ key := fun c hc => (bne_iff_ne.mp (hes c hc)).symm
        have hfs' : ∀ c ∈ fs, c.1 ≠ key := by
          rw [List.map_append, List.map_cons, List.nodup_append, List.nodup_cons] at hkeys
          intro c hc heq
          exact hkeys.2.1.1 (List.mem_map.mpr ⟨c, hc, heq⟩)
        -- The other changes are left for the pairs that follow.
        have hothers : (es ++ (key, some value) :: fs).filter (fun c => c.1 != key) = es ++ fs := by
          rw [List.filter_append, List.filter_cons_of_neg (by simp),
            List.filter_eq_self.mpr fun c hc => bne_iff_ne.mpr (hes' c hc),
            List.filter_eq_self.mpr fun c hc => bne_iff_ne.mpr (hfs' c hc)]
        have hreplacements : replacementsOf (es ++ (key, some value) :: fs)
            = replacementsOf es ++ (key, value) :: replacementsOf fs := by
          rw [replacementsOf, List.filterMap_append, List.filterMap_cons_some (by rfl)]
          rfl
        have hfilter : pairs.filter (fun p => (es ++ fs).lookup p.1 ≠ some none)
            = pairs.filter fun p => (es ++ (key, some value) :: fs).lookup p.1 ≠ some none := by
          refine List.filter_congr fun p _ => ?_
          rw [← hothers, lookup_filter_ne]
          by_cases hp : p.1 = key
          · rw [if_pos hp, hp, hlookup]
            rfl
          · rw [if_neg hp]
        have hkeys' : ((es ++ fs).map Prod.fst).Nodup := by
          rw [← hothers]
          exact hkeys.sublist (List.filter_sublist.map _)
        rw [List.filter_cons_of_pos (by simp [hlookup]), hreplacements,
          replaceEach_cons_of_mem (ne_of_mem_replacementsOf hes')
            (ne_of_mem_replacementsOf hfs')]
        simp only []
        rw [hothers, ih hkeys', replacementsOf, List.filterMap_append, hfilter]
        rfl

namespace Layout

variable (l : Layout) (e : Edits)

/-- The keys that are missing after the removals are the ones that get a
line. -/
theorem missingAdditions_eq :
    missingAdditions ((l.pairs.map Prod.fst).filter fun key => !e.removedKeys.contains key)
      e.additions.entries = e.missing l.pairs := by
  have hkept : (l.pairs.map Prod.fst).filter (fun key => !e.removedKeys.contains key)
      = (e.kept l.pairs).map Prod.fst := by
    rw [List.filter_map, Edits.kept]
    exact congrArg _ (List.filter_congr fun p _ => not_contains_removedKeys e p.1)
  rw [hkept]
  rfl

/-- There is a line for each addition that is missing. -/
theorem addedLines_eq_map :
    l.addedLines e = (e.missing l.pairs).map (addedLine (Text.endingOf l.opening)) := by
  rw [addedLines, l.keys_eq, l.missingAdditions_eq]

/-- What the header declares after edits, in these words. -/
theorem editedPairs_eq : l.editedPairs e = e.pairsAfter l.pairs := by
  rw [editedPairs, l.missingAdditions_eq, editPairs_eq_replaceEach e.changes.keys_nodup]
  simp only [e.changes.lookup_entries]
  rfl

end Layout

/-! ### Rewritten scripts -/

/-- **Declarations.** A script with a header, rewritten with representable
edits, declares what the edits make of its declarations, and the text on
both sides of the header stays as it is. -/
theorem rewriting_edits_declarations {source : Text} (hheader : locate source ≠ none) {e : Edits}
    (he : e.Representable) :
    declared (rewrite source e) = e.pairsAfter (declared source) ∧
      locate (rewrite source e) ≠ none ∧ split (rewrite source e) = split source := by
  obtain ⟨span, hspan⟩ := Option.ne_none_iff_exists'.mp hheader
  obtain ⟨l, rfl⟩ := exists_layout hspan
  rw [← l.text_edited he, Layout.declared_text, Layout.declared_text, l.pairs_edited,
    l.editedPairs_eq, Layout.locate_text]
  exact ⟨rfl, Option.some_ne_none _, l.split_edited he⟩

/-- A header with a key that stands alone, a key that stands twice, white
space other than a space and both terminators. -/
def mixedSource : Text :=
  "x\n// ==UserScript==\r\n// @a\n// @b\u2003 1\r\n// -\n// @a 2\n// @c 3\n".toList ++
    "// ==/UserScript==\r\ny".toList

/-- Edits that replace a value, and remove a key and add it again. -/
def mixedEdits : Edits :=
  ((((Edits.empty.replace "a".toList "ä".toList).remove "c".toList).addIfMissing "c".toList
    "4".toList).addIfMissing "a".toList "5".toList).addIfMissing "d".toList []

/-- The second line of the key keeps its value, and the key is not
added. -/
theorem rewriting_edits_declarations_mixed :
    locate mixedSource ≠ none ∧ mixedEdits.Representable ∧
    declared (rewrite mixedSource mixedEdits)
      = [(['a'], ['ä']), (['b'], ['1']), (['a'], ['2']), (['c'], ['4']), (['d'], [])] ∧
    locate (rewrite mixedSource mixedEdits) ≠ none ∧
    split (rewrite mixedSource mixedEdits) = split mixedSource := by
  have hheader : locate mixedSource ≠ none := by decide +kernel
  have he : mixedEdits.Representable := by decide +kernel
  obtain ⟨hdeclared, hlocate, hsplit⟩ := rewriting_edits_declarations hheader he
  have hpairs : mixedEdits.pairsAfter (declared mixedSource)
      = [(['a'], ['ä']), (['b'], ['1']), (['a'], ['2']), (['c'], ['4']), (['d'], [])] := by
    decide +kernel
  exact ⟨hheader, he, hdeclared.trans hpairs, hlocate, hsplit⟩

end ScriptGate.Header
