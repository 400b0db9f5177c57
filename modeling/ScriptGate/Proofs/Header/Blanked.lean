import ScriptGate.Header.Blanked
import ScriptGate.Proofs.Header.Markers
import ScriptGate.Proofs.Header.Repeated
import ScriptGate.Proofs.Header.Standalone
import ScriptGate.Proofs.Review.Values

/-!
# `ScriptGate.Proofs.Header.Blanked`: what is left of a deleted script

A deleted script leaves its header, and no byte of its body. The header
declares what it did, apart from three things: the directives that name
external code are gone, the description is the notice, and the version is
newer (`blankedPairs`). `blanking_leaves_header` says so for every script
with a header, and that there is no result for the others.

The version that is written is the successor of the declared one, but it
need not be the version that is read. A version that ends in a carriage
return has a successor that may end in one too, and a line that ends in a
line feed alone takes it away. So the changes are followed as they are
read back (`exists_editPairs`), and what is left of a successor is newer
still (`Version.isNewer_of_next_eq_concat`).
-/

set_option autoImplicit false

namespace ScriptGate.Header

open Text (IsEnding IsLine isBlank)

/-! ### Lists of pairs -/

/-- The pairs with `value` in the first one of `key`, which is added where
there is none. -/
def putFirst (key value : Text) (pairs : List (Text × Text)) : List (Text × Text) :=
  if valuesOf key pairs = [] then pairs ++ [(key, value)] else replaceFirst key value pairs

/-- What a blanked header declares: nothing with one of the keys, `version`
in the first version line, and the notice for its description. -/
def blankedPairs (notice : Text) (version : Option Text) (keys : List Text)
    (pairs : List (Text × Text)) : List (Text × Text) :=
  let kept := pairs.filter fun p => !keys.contains p.1
  putFirst descriptionKey notice (version.elim kept fun v => replaceFirst versionKey v kept)

section Pairs

variable {key k value : Text} {pairs : List (Text × Text)}

/-- A replaced value is the first one. -/
theorem valuesOf_replaceFirst :
    valuesOf key (replaceFirst k value pairs)
      = if k = key ∧ valuesOf key pairs ≠ [] then value :: (valuesOf key pairs).tail
        else valuesOf key pairs := by
  induction pairs with
  | nil => simp [replaceFirst]
  | cons p pairs ih =>
      obtain ⟨k', old⟩ := p
      rw [replaceFirst]
      by_cases hk' : k' = k
      · subst hk'
        rw [if_pos rfl, valuesOf_cons, valuesOf_cons]
        by_cases hkey : k' = key
        · simp [hkey]
        · simp [hkey]
      · rw [if_neg hk', valuesOf_cons, valuesOf_cons, ih]
        by_cases hkey : k' = key
        · have hne : k ≠ key := fun heq => hk' (hkey.trans heq.symm)
          simp [hkey, hne]
        · simp [hkey]

/-- A value that is put first comes first. -/
theorem head?_valuesOf_putFirst : (valuesOf key (putFirst key value pairs)).head? = some value := by
  rw [putFirst]
  split
  · rename_i habsent
    rw [valuesOf_append, habsent, valuesOf_cons, if_pos rfl, List.nil_append, List.head?_cons]
  · rename_i hpresent
    rw [valuesOf_replaceFirst, if_pos ⟨rfl, hpresent⟩, List.head?_cons]

/-- Other keys keep their values. -/
theorem valuesOf_putFirst_of_ne (h : k ≠ key) :
    valuesOf key (putFirst k value pairs) = valuesOf key pairs := by
  rw [putFirst]
  split
  · rw [valuesOf_append, valuesOf_cons, if_neg h, valuesOf_nil, List.append_nil]
  · rw [valuesOf_replaceFirst, if_neg fun hand => h hand.1]

/-- Without a pair of its key, a value replaces nothing. -/
theorem replaceFirst_eq_self (h : valuesOf key pairs = []) :
    replaceFirst key value pairs = pairs := by
  rw [valuesOf_eq_nil_iff] at h
  induction pairs with
  | nil => rfl
  | cons p pairs ih =>
      rw [replaceFirst, if_neg (h p List.mem_cons_self),
        ih fun q hq => h q (List.mem_cons_of_mem _ hq)]

/-- Putting a value first is replacing one and adding a missing one. -/
theorem putFirst_eq_append :
    putFirst key value pairs
      = replaceFirst key value pairs ++ if valuesOf key pairs = [] then [(key, value)] else [] := by
  rw [putFirst]
  split
  · rename_i habsent
    rw [replaceFirst_eq_self habsent]
  · rw [List.append_nil]

/-- Of the keys that are taken out nothing is left, and the others keep their
values. -/
theorem valuesOf_filter_not_contains (keys : List Text) :
    valuesOf key (pairs.filter fun p => !keys.contains p.1)
      = if key ∈ keys then [] else valuesOf key pairs := by
  rw [valuesOf, List.filter_filter]
  split
  · rename_i hmem
    rw [List.map_eq_nil_iff, List.filter_eq_nil_iff]
    rintro p - hp
    rw [Bool.and_eq_true, beq_iff_eq, Bool.not_eq_true', List.contains_eq_mem,
      decide_eq_false_iff_not] at hp
    exact hp.2 (hp.1 ▸ hmem)
  · rename_i hmem
    rw [valuesOf]
    congr 1
    refine List.filter_congr fun p _ => ?_
    by_cases hp : p.1 = key
    · simp [hp, hmem]
    · simp [hp]

/-- A change that replaces a value can be made after all others. -/
theorem editPairs_of_replaced {changes : List (Text × Option Text)}
    (h : changes.lookup key = some (some value)) :
    editPairs changes pairs
      = replaceFirst key value (editPairs (changes.filter fun e => e.1 != key) pairs) := by
  induction pairs generalizing changes with
  | nil => rfl
  | cons p pairs ih =>
      obtain ⟨k, old⟩ := p
      rw [editPairs, editPairs, lookup_filter_ne]
      by_cases hk : k = key
      · subst hk
        rw [h, if_pos rfl]
        simp only [replaceFirst, if_true]
      · rw [if_neg hk]
        rcases hlookup : changes.lookup k with _ | _ | v
        · simp only [replaceFirst, hk, if_false]
          rw [ih h]
        · exact ih h
        · simp only [replaceFirst, hk, if_false]
          have hrest : (changes.filter fun e => e.1 != k).lookup key = some (some value) := by
            rw [lookup_filter_ne, if_neg (Ne.symm hk), h]
          rw [ih hrest, List.filter_filter, List.filter_filter]
          simp only [Bool.and_comm]

/-- Removals drop the pairs of their keys. -/
theorem editPairs_of_removed {changes : List (Text × Option Text)} {keys : List Text}
    (h : ∀ key, changes.lookup key = if key ∈ keys then some none else none) :
    editPairs changes pairs = pairs.filter fun p => !keys.contains p.1 := by
  induction pairs with
  | nil => rfl
  | cons p pairs ih =>
      obtain ⟨k, old⟩ := p
      rw [editPairs, h k]
      by_cases hk : k ∈ keys
      · rw [if_pos hk, List.filter_cons_of_neg (by simp [hk]), ← ih]
      · rw [if_neg hk, List.filter_cons_of_pos (by simp [hk]), ← ih]

end Pairs

/-! ### The edits -/

/-- The version and the description are different directives. -/
theorem versionKey_ne_descriptionKey : versionKey ≠ descriptionKey := by decide +kernel

section Edits

variable (m : Metadata) (notice : Text) (keys : List Text)

/-- What blanking changes of a key. -/
theorem changes_blankingEdits (key : Text) :
    (blankingEdits m notice keys).changes.get? key
      = if key ∈ keys then some none
        else if versionKey = key then
          (m.firstNonBlank versionKey).map fun v => some (Version.next v)
        else if descriptionKey = key then some (some notice) else none := by
  have hdescribed : (Edits.empty.replace descriptionKey notice).changes.get? key
      = if descriptionKey = key then some (some notice) else none := Keyed.get?_put _ _ _ _
  rw [blankingEdits]
  refine (Edits.get?_foldl_remove keys _ key).trans ?_
  congr 1
  cases m.firstNonBlank versionKey with
  | none =>
      refine hdescribed.trans ?_
      by_cases hkey : versionKey = key
      · rw [if_pos hkey, ← hkey, if_neg (Ne.symm versionKey_ne_descriptionKey)]
        rfl
      · rw [if_neg hkey]
  | some v =>
      refine (Keyed.get?_put _ _ _ _).trans ?_
      rw [hdescribed]
      rfl

/-- The notice is all that blanking adds. -/
theorem additions_blankingEdits :
    (blankingEdits m notice keys).additions.entries = [(descriptionKey, notice)] := by
  have hempty : ∀ e : Edits, e.additions = Keyed.empty →
      ((keys.foldl Edits.remove e).addIfMissing descriptionKey notice).additions.entries
        = [(descriptionKey, notice)] := by
    intro e he
    show ((keys.foldl Edits.remove e).additions.put descriptionKey notice).entries = _
    rw [Edits.additions_foldl_remove, he]
    rfl
  refine hempty _ ?_
  split
  · rfl
  · rfl

variable {m notice keys}

/-- What blanking writes fits into a line. -/
theorem readAs_blankingEdits (hnotice : Representable notice)
    (hm : ∀ v, m.firstNonBlank versionKey = some v → Declarable v) :
    (blankingEdits m notice keys).ReadAs Returned where
  changes key value h := by
    rw [Keyed.mem_entries_iff, changes_blankingEdits] at h
    split at h
    · cases h
    · split at h
      · obtain ⟨v, hv, hnext⟩ := Option.map_eq_some_iff.mp h
        rw [← Option.some.inj hnext]
        exact (Review.declarable_next (hm v hv)).toWritable.readAs
      · split at h
        · rw [← Option.some.inj (Option.some.inj h)]
          exact hnotice.writable.readAs
        · cases h
  additions key value h := by
    rw [additions_blankingEdits, List.mem_singleton, Prod.mk.injEq] at h
    rw [h.2]
    exact hnotice.writable.readAs
  keys key value h := by
    rw [additions_blankingEdits, List.mem_singleton, Prod.mk.injEq] at h
    rw [h.1]
    exact ⟨by decide +kernel, by decide +kernel⟩

/-- The notice is added to a header without a description. -/
theorem missing_blankingEdits (hdescription : descriptionKey ∉ keys) (pairs : List (Text × Text)) :
    (blankingEdits m notice keys).missing pairs
      = if valuesOf descriptionKey pairs = [] then [(descriptionKey, notice)] else [] := by
  have hkept : (blankingEdits m notice keys).changes.get? descriptionKey ≠ some none := by
    rw [changes_blankingEdits, if_neg hdescription, if_neg versionKey_ne_descriptionKey,
      if_pos rfl]
    simp
  have hmissing : (!(((blankingEdits m notice keys).kept pairs).map Prod.fst).contains
        descriptionKey) = true ↔
      ¬ (valuesOf descriptionKey pairs ≠ [] ∧
        (blankingEdits m notice keys).changes.get? descriptionKey ≠ some none) :=
    (blankingEdits m notice keys).not_contains_kept
  rw [Edits.missing, additions_blankingEdits]
  split
  · rename_i habsent
    exact List.filter_cons_of_pos (hmissing.mpr fun h => h.1 habsent)
  · rename_i hpresent
    exact List.filter_cons_of_neg fun h => hmissing.mp h ⟨hpresent, hkept⟩

/-- What changes like those of blanking make of the pairs. -/
theorem editPairs_of_blanking {changes : List (Text × Option Text)} {version : Option Text}
    (hversion : versionKey ∉ keys) (hdescription : descriptionKey ∉ keys)
    (h : ∀ key, changes.lookup key
      = if key ∈ keys then some none
        else if versionKey = key then version.map some
        else if descriptionKey = key then some (some notice) else none)
    (pairs : List (Text × Text)) :
    editPairs changes pairs
      = replaceFirst descriptionKey notice
          (version.elim (pairs.filter fun p => !keys.contains p.1) fun v =>
            replaceFirst versionKey v (pairs.filter fun p => !keys.contains p.1)) := by
  have hnotice : changes.lookup descriptionKey = some (some notice) := by
    rw [h, if_neg hdescription, if_neg versionKey_ne_descriptionKey, if_pos rfl]
  -- The description and the version are replaced, and all other changes remove.
  rw [editPairs_of_replaced hnotice]
  congr 1
  cases version with
  | none =>
      refine editPairs_of_removed fun key => ?_
      rw [lookup_filter_ne, h]
      grind
  | some v =>
      have hv : (changes.filter fun c => c.1 != descriptionKey).lookup versionKey
          = some (some v) := by
        rw [lookup_filter_ne, if_neg versionKey_ne_descriptionKey, h, if_neg hversion, if_pos rfl]
        rfl
      rw [editPairs_of_replaced hv]
      refine congrArg (replaceFirst versionKey v) (editPairs_of_removed fun key => ?_)
      rw [lookup_filter_ne, lookup_filter_ne, h]
      grind

/-- Of all values that blanking writes, only the version can be read back
as another one. -/
theorem exists_lookup_blanking {changes : List (Text × Option Text)}
    (hnotice : Representable notice) (hversion : versionKey ∉ keys)
    (h : ∀ key, SameChange Returned (changes.lookup key)
      ((blankingEdits m notice keys).changes.get? key)) :
    ∃ version : Option Text,
      (∀ key, changes.lookup key
        = if key ∈ keys then some none
          else if versionKey = key then version.map some
          else if descriptionKey = key then some (some notice) else none) ∧
      Option.Rel Returned version ((m.firstNonBlank versionKey).map Version.next) := by
  simp only [changes_blankingEdits] at h
  -- The version is whatever is written under its key.
  obtain ⟨version, hlookup, hrel⟩ : ∃ version : Option Text,
      changes.lookup versionKey = version.map some ∧
      Option.Rel Returned version ((m.firstNonBlank versionKey).map Version.next) := by
    have hkey := h versionKey
    rw [if_neg hversion, if_pos rfl] at hkey
    cases hv : m.firstNonBlank versionKey with
    | none =>
        rw [hv] at hkey
        exact ⟨none, hkey.eq_none, .none⟩
    | some v =>
        rw [hv] at hkey
        obtain ⟨w, hw, hreturned⟩ := hkey.eq_replaced
        exact ⟨some w, hw, .some hreturned⟩
  refine ⟨version, fun key => ?_, hrel⟩
  have hkey := h key
  by_cases hmem : key ∈ keys
  · rw [if_pos hmem] at hkey ⊢
    exact hkey.eq_removed
  · rw [if_neg hmem] at hkey ⊢
    by_cases hk : versionKey = key
    · rw [if_pos hk, ← hk, hlookup]
    · rw [if_neg hk] at hkey ⊢
      by_cases hd : descriptionKey = key
      · rw [if_pos hd] at hkey ⊢
        obtain ⟨w, hw, hreturned⟩ := hkey.eq_replaced
        rw [hw, hnotice.readAs.back w hreturned]
      · rw [if_neg hd] at hkey ⊢
        exact hkey.eq_none

end Edits

/-! ### The header -/

namespace Layout

variable (l : Layout) {notice : Text} {keys : List Text}

/-- The edits that blank the script are read back but for a carriage
return. -/
theorem readAs_blanking (hnotice : Representable notice) (keys : List Text) :
    (blankingEdits (Metadata.ofSource l.text) notice keys).ReadAs Returned :=
  readAs_blankingEdits hnotice fun v hv => by
    rw [l.ofSource_text] at hv
    exact Review.declarable_of_declared hv

/-- The script that replaces it. -/
def blanked (hnotice : Representable notice) (keys : List Text) : Layout :=
  (l.rewritten (l.readAs_blanking hnotice keys)).standalone

/-- Blanking the text of a layout gives the text of the blanked layout. -/
theorem text_blanked (hnotice : Representable notice) (keys : List Text) :
    Header.blanked l.text notice keys = some (l.blanked hnotice keys).text := by
  rw [Header.blanked, ← l.text_rewritten (l.readAs_blanking hnotice keys), metaBlock_eq_standalone]
  rfl

/-- A header on its own is blanked as in its script. -/
theorem text_blanked_standalone (hnotice : Representable notice) (keys : List Text) :
    Header.blanked l.standalone.text notice keys = some (l.blanked hnotice keys).text := by
  have hsource : Metadata.ofSource l.standalone.text = Metadata.ofSource l.text := by
    rw [ofSource_text, ofSource_text]
    rfl
  have htext : rewrite l.standalone.text (blankingEdits (Metadata.ofSource l.text) notice keys)
      = (l.blanked hnotice keys).text := by
    rw [← l.standalone.text_rewritten (l.readAs_blanking hnotice keys)]
    rfl
  rw [Header.blanked, hsource, htext, metaBlock_eq_standalone]
  exact congrArg some (l.rewritten (l.readAs_blanking hnotice keys)).standalone_standalone

/-- The lines that blanking adds declare what is missing. -/
theorem pair?_addedLines_blanking (hnotice : Representable notice) (keys : List Text) :
    (l.addedLines (blankingEdits (Metadata.ofSource l.text) notice keys)).filterMap pair?
      = (blankingEdits (Metadata.ofSource l.text) notice keys).missing l.pairs := by
  rw [l.addedLines_eq_map]
  refine filterMap_pair?_addedLines (fun a ha => ?_) l.isLine_opening.ending.1
  have hentry := List.mem_of_mem_filter ha
  refine ⟨?_, (l.readAs_blanking hnotice keys).keys a.1 a.2 hentry⟩
  rw [additions_blankingEdits, List.mem_singleton] at hentry
  rw [hentry]
  exact hnotice

/-- What it declares, with the version as it is read back. -/
theorem pairs_blanked (hnotice : Representable notice) (hversion : versionKey ∉ keys)
    (hdescription : descriptionKey ∉ keys) :
    ∃ version : Option Text,
      (l.blanked hnotice keys).pairs = blankedPairs notice version keys l.pairs ∧
      Option.Rel Returned version
        (((Metadata.ofSource l.text).firstNonBlank versionKey).map Version.next) := by
  obtain ⟨changes, hsame, hpairs⟩ := exists_editPairs (l.readAs_blanking hnotice keys).changes
    fun c hc => l.isLine_inner hc
  simp only [Keyed.lookup_entries] at hsame
  obtain ⟨version, hlookup, hrel⟩ := exists_lookup_blanking hnotice hversion hsame
  refine ⟨version, ?_, hrel⟩
  -- Descriptions stay when dependencies go and a version comes.
  have hpresent : valuesOf descriptionKey (version.elim (l.pairs.filter fun p => !keys.contains p.1)
        fun v => replaceFirst versionKey v (l.pairs.filter fun p => !keys.contains p.1))
      = valuesOf descriptionKey l.pairs := by
    cases version with
    | none => exact (valuesOf_filter_not_contains keys).trans (if_neg hdescription)
    | some v =>
        refine valuesOf_replaceFirst.trans ?_
        rw [if_neg fun h => versionKey_ne_descriptionKey h.1, valuesOf_filter_not_contains,
          if_neg hdescription]
  calc (l.blanked hnotice keys).pairs
      = (editLines (blankingEdits (Metadata.ofSource l.text) notice keys).changes.entries
            l.inner).filterMap pair? ++
          (l.addedLines (blankingEdits (Metadata.ofSource l.text) notice keys)).filterMap
            pair? := List.filterMap_append ..
    _ = editPairs changes l.pairs ++
          if valuesOf descriptionKey l.pairs = [] then [(descriptionKey, notice)] else [] := by
        rw [l.pair?_addedLines_blanking hnotice, missing_blankingEdits hdescription, hpairs]
        rfl
    _ = blankedPairs notice version keys l.pairs := by
        rw [editPairs_of_blanking hversion hdescription hlookup, blankedPairs, putFirst_eq_append,
          hpresent]

/-- All that is left of the body is the terminator behind the header. -/
theorem body_blanked (hnotice : Representable notice) (keys : List Text) :
    body (l.blanked hnotice keys).text = leadingTerminator (split l.text).2 := by
  rw [l.split_text]
  exact (l.rewritten (l.readAs_blanking hnotice keys)).body_standalone

end Layout

/-! ### Deleted scripts -/

/-- What is left of `code`, where `keys` name external code. -/
structure Blanks (code notice : Text) (keys : List Text) (b : Text) : Prop where
  /-- It is a header, with the line terminator that follows the header of
  `code`, if one does. -/
  headerOnly : ∃ span, locate b = some span ∧ span.start = 0 ∧ b = span.text b ++ body b ∧
    body b = leadingTerminator (split code).2 ∧ (body b = [] ∨ IsEnding (body b))
  /-- The body has no part in it. -/
  blind : ∀ header, metaBlock code = some header → blanked header notice keys = some b
  /-- Its description is the notice. -/
  described : (Metadata.ofSource b).first descriptionKey = some notice
  /-- It names no external code. -/
  independent : ∀ key ∈ keys, (Metadata.ofSource b).contains key = false
  /-- Its version is newer, and whatever else it declares is as it was. -/
  advanced : ∀ v, (Metadata.ofSource code).firstNonBlank versionKey = some v →
    ∃ w, (Metadata.ofSource b).firstNonBlank versionKey = some w ∧
      Version.isNewer w v = true ∧
      declared b = blankedPairs notice (some w) keys (declared code)
  /-- A script without a version does not get one. -/
  unversioned : (Metadata.ofSource code).firstNonBlank versionKey = none →
    declared b = blankedPairs notice none keys (declared code)

/-- A successor is newer as it is read back. -/
theorem isNewer_of_returned {v w : Text} (h : Returned w (Version.next v)) :
    Version.isNewer w v = true := by
  rcases h with rfl | h
  · exact Version.isNewer_next_self v
  · exact Version.isNewer_of_next_eq_concat (by decide) h

/-- The values of a key other than the description in a blanked header. -/
theorem valuesOf_blankedPairs {notice key : Text} {version : Option Text} {keys : List Text}
    {pairs : List (Text × Text)} (hkey : descriptionKey ≠ key) :
    valuesOf key (blankedPairs notice version keys pairs)
      = if key ∈ keys then []
        else if versionKey = key ∧ valuesOf key pairs ≠ [] then
          version.elim (valuesOf key pairs) fun v => v :: (valuesOf key pairs).tail
        else valuesOf key pairs := by
  rw [blankedPairs, valuesOf_putFirst_of_ne hkey]
  cases version with
  | none =>
      refine (valuesOf_filter_not_contains keys).trans ?_
      rw [Option.elim_none, ite_self]
  | some v =>
      refine valuesOf_replaceFirst.trans ?_
      rw [valuesOf_filter_not_contains]
      by_cases hmem : key ∈ keys
      · rw [if_pos hmem, if_pos hmem, if_neg fun h => h.2 rfl]
      · rw [if_neg hmem, if_neg hmem, Option.elim_some]

/-- A version that is written into a header with a version counts, unless
it is blank. -/
theorem firstNonBlank_blankedPairs {notice w : Text} {keys : List Text}
    {pairs : List (Text × Text)} (hversion : versionKey ∉ keys)
    (hpresent : valuesOf versionKey pairs ≠ []) (hw : Text.allBlank w = false) :
    (Metadata.ofPairs (blankedPairs notice (some w) keys pairs)).firstNonBlank versionKey
      = some w := by
  rw [Metadata.firstNonBlank, all_ofPairs,
    valuesOf_blankedPairs (Ne.symm versionKey_ne_descriptionKey), if_neg hversion,
    if_pos ⟨rfl, hpresent⟩, Option.elim_some, List.find?_cons_of_pos (by rw [hw]; rfl)]

namespace Layout

variable (l : Layout) {notice : Text} {keys : List Text}

/-- What replaces a script is what it should be. -/
theorem blanks (hnotice : Representable notice) (hversion : versionKey ∉ keys)
    (hdescription : descriptionKey ∉ keys) :
    Blanks l.text notice keys (l.blanked hnotice keys).text := by
  obtain ⟨version, hpairs, hrel⟩ := l.pairs_blanked hnotice hversion hdescription
  have hdeclared : declared (l.blanked hnotice keys).text
      = blankedPairs notice version keys (declared l.text) := by
    rw [declared_text, declared_text, hpairs]
  constructor
  case headerOnly =>
    refine ⟨(l.blanked hnotice keys).span, (l.blanked hnotice keys).locate_text,
      (l.rewritten (l.readAs_blanking hnotice keys)).start_span_standalone, ?_,
      l.body_blanked hnotice keys, ?_⟩
    · rw [text_span, body_text, text, top, rest_eq]
      show [] ++ _ ++ _ ++ _ = _ ++ ([] ++ _)
      simp only [List.append_assoc, List.nil_append]
    · rw [l.body_blanked hnotice keys]
      exact leadingTerminator_cases _
  case blind =>
    intro header hheader
    -- The header on its own leads to the same text.
    rw [l.metaBlock_eq_standalone, Option.some.injEq] at hheader
    rw [← hheader]
    exact l.text_blanked_standalone hnotice keys
  case described =>
    rw [ofSource_text, Metadata.first, all_ofPairs, hpairs]
    exact head?_valuesOf_putFirst
  case independent =>
    intro key hkey
    rw [ofSource_text, ← Bool.not_eq_true, contains_ofPairs, not_not, hpairs,
      valuesOf_blankedPairs fun h => hdescription (h ▸ hkey), if_pos hkey]
  case advanced =>
    intro v hv
    rw [hv, Option.map_some] at hrel
    cases hrel with
    | some hreturned =>
      rename_i w
      refine ⟨w, ?_, isNewer_of_returned hreturned, hdeclared⟩
      rw [l.ofSource_text] at hv
      -- A version line was there, so the new version stands on it.
      have hpresent : valuesOf versionKey l.pairs ≠ [] := by
        rw [Metadata.firstNonBlank, all_ofPairs] at hv
        exact List.ne_nil_of_mem (List.mem_of_find?_eq_some hv)
      rw [ofSource_text, hpairs]
      refine firstNonBlank_blankedPairs hversion hpresent ?_
      rw [allBlank_of_returned hreturned]
      exact (Review.declarable_next (Review.declarable_of_declared hv)).notBlank
  case unversioned =>
    intro hnone
    rw [hnone, Option.map_none] at hrel
    cases hrel with
    | none => exact hdeclared

end Layout

/-- **Deleted scripts.** A script has a replacement if and only if it has a
header, and then that is all the replacement has. It declares the notice,
a newer version and no external code, and the rest as it was. -/
theorem blanking_leaves_header (code : Text) {notice : Text} {keys : List Text}
    (hnotice : Representable notice) (hversion : versionKey ∉ keys)
    (hdescription : descriptionKey ∉ keys) :
    (blanked code notice keys = none ↔ locate code = none) ∧
      ∀ b, blanked code notice keys = some b → Blanks code notice keys b := by
  cases hheader : locate code with
  | none =>
      have hnone : blanked code notice keys = none := by
        rw [blanked, rewrite, hheader, metaBlock, hheader]
        rfl
      rw [hnone]
      exact ⟨by simp, fun b hb => by cases hb⟩
  | some span =>
      obtain ⟨l, rfl⟩ := exists_layout hheader
      rw [l.text_blanked hnotice keys]
      refine ⟨by simp, fun b hb => ?_⟩
      rw [← Option.some.inj hb]
      exact l.blanks hnotice hversion hdescription

/-- A script whose first version is blank, and whose version ends in a
carriage return. -/
def returningSource : Text :=
  "x\n// ==UserScript==\n// @version\n// @version 1.1.1.1\r\r\n// @require a\n// @name n\n".toList
    ++ "// ==/UserScript==\r\nf();\n".toList

/-- Its version is written into the blank line, where it loses the
carriage return. -/
theorem blanking_leaves_header_returning :
    Representable "gone".toList ∧ versionKey ∉ ["require".toList] ∧
    descriptionKey ∉ ["require".toList] ∧
    blanked returningSource "gone".toList ["require".toList]
      = some ("// ==UserScript==\n// @version 1.1.1.2\r\n// @version 1.1.1.1\r\r\n".toList ++
          "// @name n\n// @description gone\n// ==/UserScript==\r\n".toList) ∧
    Blanks returningSource "gone".toList ["require".toList]
      ("// ==UserScript==\n// @version 1.1.1.2\r\n// @version 1.1.1.1\r\r\n".toList ++
        "// @name n\n// @description gone\n// ==/UserScript==\r\n".toList) := by
  have hnotice : Representable "gone".toList := by decide +kernel
  have hversion : versionKey ∉ ["require".toList] := by decide +kernel
  have hdescription : descriptionKey ∉ ["require".toList] := by decide +kernel
  have hblanked : blanked returningSource "gone".toList ["require".toList]
      = some ("// ==UserScript==\n// @version 1.1.1.2\r\n// @version 1.1.1.1\r\r\n".toList ++
          "// @name n\n// @description gone\n// ==/UserScript==\r\n".toList) := by
    rw [blanked, rewrite_eq_rewriteLines]
    decide +kernel
  exact ⟨hnotice, hversion, hdescription, hblanked,
    (blanking_leaves_header returningSource hnotice hversion hdescription).2 _ hblanked⟩

end ScriptGate.Header
