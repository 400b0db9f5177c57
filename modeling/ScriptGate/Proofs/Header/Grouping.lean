import Mathlib.Algebra.GroupWithZero.Nat
import Mathlib.Data.List.Induction
import Mathlib.Data.List.Nodup
import Mathlib.Data.List.TakeWhile
import ScriptGate.Proofs.Header.Pairs
import ScriptGate.Proofs.Header.Values

/-!
# `ScriptGate.Proofs.Header.Grouping`: directives grouped by key

`Metadata.ofDirectives` takes directives in one after the other. A
directive goes to the values of its key, or opens a new entry behind all
others. `Metadata.Groups` says what this leaves of the directives: every
key once, in the place of its first directive, with the values of all its
directives in their order, and no value that is not one of these.

Keys and sizes follow the directives from the first to the last, so their
proofs are inductions on the directives from the back, with one step lemma
each (`keys_insert`, `length_insert`). The values of a key need no such
induction any more (`all_ofPairs`).

What the header grammar reads for a value does not begin with white space,
so it is blank only if it is empty (`firstNonBlank_ofSource`).
-/

set_option autoImplicit false

namespace ScriptGate

open Text (isBlank)

/-! ### Blank texts -/

/-- Nothing is left of a text by trimming it if and only if it is blank. -/
theorem Text.trim_eq_nil_iff (t : Text) : Text.trim t = [] ↔ ∀ c ∈ t, isBlank c = true := by
  rw [Text.trim, Text.trimEnd, List.reverse_eq_nil_iff, List.dropWhile_eq_nil_iff]
  constructor
  · intro h
    cases hstart : Text.trimStart t with
    | nil => exact List.dropWhile_eq_nil_iff.mp hstart
    | cons c r =>
        -- The text begins visibly after its blanks, so there is no such rest.
        have hc : isBlank c = false := Header.head?_dropWhile (t := t) (by
          show (Text.trimStart t).head? = some c
          rw [hstart, List.head?_cons])
        have hblank := h c (by rw [hstart]; simp)
        rw [hc] at hblank
        cases hblank
  · intro h c hc
    exact h c ((List.dropWhile_sublist _).subset (List.mem_reverse.mp hc))

namespace Header

namespace Metadata

/-- The directives `ds`, sorted by key. -/
structure Groups (ds : List Directive) (m : Metadata) : Prop where
  keys_nodup : m.keys.Nodup
  /-- A key stands where its first directive does. -/
  keys_eq : m.keys = (ds.map (·.key)).eraseDups
  all_eq : ∀ key, m.all key = (ds.filter fun d => d.key = key).map (·.value)
  contains_iff : ∀ key, m.contains key = true ↔ m.all key ≠ []
  first_eq : ∀ key, m.first key = (m.all key).head?
  /-- A value counts as soon as it has a character other than white space. -/
  firstNonBlank_eq : ∀ key,
    m.firstNonBlank key = (m.all key).find? fun v => v.any fun c => !isBlank c
  /-- It is the same to ask what trimming leaves of it. -/
  firstNonBlank_trim : ∀ key, m.firstNonBlank key = (m.all key).find? fun v => Text.trim v ≠ []
  /-- All values belong to directives. -/
  sizes : (m.entries.map fun e => e.2.length).sum = ds.length

/-! ### One directive more -/

/-- A new key stands behind all others. -/
theorem keys_insert (key value : Text) (es : List (Text × List Text)) :
    (insert key value es).map Prod.fst
      = if key ∈ es.map Prod.fst then es.map Prod.fst else es.map Prod.fst ++ [key] := by
  induction es with
  | nil => simp [insert]
  | cons e es ih =>
      obtain ⟨k, vs⟩ := e
      by_cases hk : k = key
      · simp [insert, hk]
      · have hk' : key ≠ k := fun h => hk h.symm
        simp only [insert, hk, if_false, List.map_cons, ih, List.mem_cons, hk', false_or]
        split
        · rfl
        · rfl

/-- One value is added, whatever its key. -/
theorem length_insert (key value : Text) (es : List (Text × List Text)) :
    ((insert key value es).map fun e => e.2.length).sum
      = (es.map fun e => e.2.length).sum + 1 := by
  induction es with
  | nil => rfl
  | cons e es ih =>
      obtain ⟨k, vs⟩ := e
      by_cases hk : k = key
      · simp only [insert, hk, if_true, List.map_cons, List.sum_cons, List.length_append,
          List.length_singleton]
        omega
      · simp only [insert, hk, if_false, List.map_cons, List.sum_cons, ih]
        omega

/-- The last pair is inserted last. -/
theorem ofPairs_concat (pairs : List (Text × Text)) (p : Text × Text) :
    ofPairs (pairs ++ [p]) = ⟨insert p.1 p.2 (ofPairs pairs).entries⟩ := by
  rw [ofPairs, List.foldl_append]
  rfl

/-! ### All directives -/

/-- No key stands twice, however often it is declared. -/
theorem nodup_keys_ofPairs (pairs : List (Text × Text)) : (ofPairs pairs).keys.Nodup := by
  induction pairs using List.reverseRecOn with
  | nil => exact List.nodup_nil
  | append_singleton pairs p ih =>
      rw [keys] at ih
      rw [ofPairs_concat, keys, keys_insert]
      split
      · exact ih
      · -- Only a key that is not there yet is added.
        rename_i hnew
        exact List.nodup_append.mpr
          ⟨ih, List.nodup_singleton _, fun a ha b hb hab => hnew (by
            rw [← List.mem_singleton.mp hb, ← hab]
            exact ha)⟩

/-- The keys in the order in which they are seen first. -/
theorem keys_ofPairs (pairs : List (Text × Text)) :
    (ofPairs pairs).keys = (pairs.map Prod.fst).eraseDups := by
  induction pairs using List.reverseRecOn with
  | nil => rfl
  | append_singleton pairs p ih =>
      rw [keys] at ih
      rw [ofPairs_concat, keys, keys_insert, ih, List.map_append, List.eraseDups_append,
        List.map_singleton, List.removeAll]
      simp only [List.mem_eraseDups]
      -- The last key is one of those before, or it is new.
      split
      · rename_i hseen
        rw [List.filter_cons_of_neg (by simpa using hseen), List.filter_nil,
          List.eraseDups_nil, List.append_nil]
      · rename_i hnew
        rw [List.filter_cons_of_pos (by simpa using hnew), List.filter_nil]
        rfl

/-- There are as many values as pairs. -/
theorem length_ofPairs (pairs : List (Text × Text)) :
    ((ofPairs pairs).entries.map fun e => e.2.length).sum = pairs.length := by
  induction pairs using List.reverseRecOn with
  | nil => rfl
  | append_singleton pairs p ih =>
      rw [ofPairs_concat, length_insert, ih, List.length_append, List.length_singleton]

/-- The first value that is not blank is the first one with a character that
is no white space. -/
theorem firstNonBlank_eq_find? (m : Metadata) (key : Text) :
    m.firstNonBlank key = (m.all key).find? fun v => v.any fun c => !isBlank c := by
  have htest : (fun v => !Text.allBlank v) = fun v => v.any fun c => !isBlank c := by
    funext v
    exact List.not_all_eq_any_not
  rw [firstNonBlank, htest]

/-- It is also the first one of which trimming leaves something. -/
theorem firstNonBlank_eq_find?_trim (m : Metadata) (key : Text) :
    m.firstNonBlank key = (m.all key).find? fun v => Text.trim v ≠ [] := by
  have htest : (fun v => !Text.allBlank v) = fun v => decide (Text.trim v ≠ []) := by
    funext v
    rw [Bool.eq_iff_iff, decide_eq_true_eq, ne_eq, Text.trim_eq_nil_iff, Bool.not_eq_true',
      ← Bool.not_eq_true, Text.allBlank, List.all_eq_true]
  rw [firstNonBlank, htest]

/-- Metadata groups its directives, whatever they are. -/
theorem groups_ofDirectives (ds : List Directive) : Groups ds (ofDirectives ds) where
  keys_nodup := nodup_keys_ofPairs _
  keys_eq := by
    rw [ofDirectives, keys_ofPairs, List.map_map]
    rfl
  all_eq key := by
    rw [ofDirectives, all_ofPairs, valuesOf, List.filter_map, List.map_map]
    refine congrArg (List.map _) (List.filter_congr fun d _ => ?_)
    show (d.key == key) = decide (d.key = key)
    rw [Bool.eq_iff_iff, beq_iff_eq, decide_eq_true_eq]
  contains_iff key := by
    rw [ofDirectives, contains_ofPairs, all_ofPairs]
  first_eq key := rfl
  firstNonBlank_eq key := firstNonBlank_eq_find? _ key
  firstNonBlank_trim key := firstNonBlank_eq_find?_trim _ key
  sizes := by
    rw [ofDirectives, length_ofPairs, List.length_map]

/-- The value of a directive in a script is blank only if it is empty. -/
theorem firstNonBlank_ofSource (source key : Text) :
    (ofSource source).firstNonBlank key = ((ofSource source).all key).find? (· ≠ []) := by
  rw [firstNonBlank_eq_find?, ← List.head?_filter, ← List.head?_filter]
  refine congrArg List.head? (List.filter_congr fun v hv => ?_)
  rw [Bool.eq_iff_iff, List.any_eq_true, decide_eq_true_eq]
  constructor
  · rintro ⟨c, hc, -⟩ rfl
    cases hc
  · intro hne
    -- The value stands behind white space, so it does not begin with any.
    rw [ofSource, (groups_ofDirectives _).all_eq] at hv
    obtain ⟨d, hd, rfl⟩ := List.mem_map.mp hv
    have hwf := DirectiveText.wellFormed_of_read?
      (read?_of_mem_directives (List.mem_of_mem_filter hd))
    obtain ⟨c, r, hvalue⟩ := List.exists_cons_of_ne_nil hne
    have hc : isBlank c = false := hwf.value c (by rw [hvalue, List.head?_cons])
    refine ⟨c, ?_, ?_⟩
    · rw [hvalue]
      exact List.mem_cons_self
    · rw [hc]
      rfl

end Metadata

/-- **Grouping.** Metadata has the keys of the directives, each once and in
the order in which they are seen first, and under each key the values of
all its directives in their order. So nothing is lost, and as many values
as directives are there. The first value of a header that is not blank is
the first one that is not empty. -/
theorem grouping_loses_nothing :
    (∀ ds : List Directive, Metadata.Groups ds (Metadata.ofDirectives ds)) ∧
    ∀ source key, (Metadata.ofSource source).firstNonBlank key
      = ((Metadata.ofSource source).all key).find? (· ≠ []) :=
  ⟨Metadata.groups_ofDirectives, Metadata.firstNonBlank_ofSource⟩

end Header
end ScriptGate
