import ScriptGate.Header.Metadata

/-!
# `ScriptGate.Proofs.Header.Pairs`: keys with their values

`valuesOf key pairs` are the values that stand with a key, in their
order. `Metadata` groups pairs without losing any of them: `all_ofPairs`
and `contains_ofPairs` say what it knows of a key.

`editPairs` is what changes do to the pairs of a header: a removed key
loses all its pairs, and a replaced key gets its new value in the first
one. `valuesOf_editPairs` says what is left of a key.
-/

set_option autoImplicit false

namespace ScriptGate.Header

/-- The values that stand with `key`. -/
def valuesOf (key : Text) (pairs : List (Text × Text)) : List Text :=
  (pairs.filter fun p => p.1 == key).map Prod.snd

/-- Without pairs there are no values. -/
@[simp] theorem valuesOf_nil (key : Text) : valuesOf key [] = [] := rfl

/-- The value of the first pair comes first, if it stands with the key. -/
theorem valuesOf_cons (key : Text) (p : Text × Text) (pairs : List (Text × Text)) :
    valuesOf key (p :: pairs)
      = if p.1 = key then p.2 :: valuesOf key pairs else valuesOf key pairs := by
  simp only [valuesOf, List.filter_cons, beq_iff_eq]
  split
  · rfl
  · rfl

/-- The values of later pairs come later. -/
@[simp] theorem valuesOf_append (key : Text) (ps qs : List (Text × Text)) :
    valuesOf key (ps ++ qs) = valuesOf key ps ++ valuesOf key qs := by
  rw [valuesOf, List.filter_append, List.map_append, valuesOf, valuesOf]

/-- A key without values is the key of no pair. -/
theorem valuesOf_eq_nil_iff (key : Text) (pairs : List (Text × Text)) :
    valuesOf key pairs = [] ↔ ∀ p ∈ pairs, p.1 ≠ key := by
  rw [valuesOf, List.map_eq_nil_iff, List.filter_eq_nil_iff]
  exact forall₂_congr fun p _ => by rw [beq_iff_eq]

/-- A value of a key stands with it in some pair. -/
theorem mem_valuesOf {key v : Text} {pairs : List (Text × Text)} (h : v ∈ valuesOf key pairs) :
    (key, v) ∈ pairs := by
  obtain ⟨p, hp, rfl⟩ := List.mem_map.mp h
  obtain ⟨hp, hk⟩ := List.mem_filter.mp hp
  rw [← beq_iff_eq.mp hk]
  exact hp

/-- A key is among the keys if it has a value. -/
theorem mem_map_fst_iff (key : Text) (pairs : List (Text × Text)) :
    key ∈ pairs.map Prod.fst ↔ valuesOf key pairs ≠ [] := by
  rw [List.mem_map]
  constructor
  · rintro ⟨p, hp, rfl⟩ h
    exact (valuesOf_eq_nil_iff _ _).mp h p hp rfl
  · intro h
    obtain ⟨v, hv⟩ := List.exists_mem_of_ne_nil _ h
    exact ⟨(key, v), mem_valuesOf hv, rfl⟩

/-- The first value of a key. -/
theorem lookup_eq_head?_valuesOf (key : Text) (pairs : List (Text × Text)) :
    pairs.lookup key = (valuesOf key pairs).head? := by
  induction pairs with
  | nil => rfl
  | cons p pairs ih =>
      obtain ⟨k, v⟩ := p
      rw [valuesOf_cons, List.lookup_cons]
      by_cases hk : k = key
      · subst hk
        rw [beq_self_eq_true, if_pos rfl, List.head?_cons]
      · rw [beq_eq_false_iff_ne.mpr (Ne.symm hk), if_neg hk]
        exact ih

/-! ### Metadata -/

/-- One more pair is one more value of its key, behind the others. -/
theorem all_insert (key k v : Text) (es : List (Text × List Text)) :
    Metadata.all ⟨Metadata.insert k v es⟩ key
      = if k = key then Metadata.all ⟨es⟩ key ++ [v] else Metadata.all ⟨es⟩ key := by
  induction es with
  | nil =>
      by_cases hk : k = key
      · simp [Metadata.insert, Metadata.all, hk]
      · simp [Metadata.insert, Metadata.all, hk]
  | cons e es ih =>
      obtain ⟨k', vs⟩ := e
      simp only [Metadata.all, Metadata.insert] at ih ⊢
      by_cases hk' : k' = k
      · subst hk'
        by_cases hk : k' = key
        · simp [hk]
        · simp [hk]
      · by_cases hkey : k' = key
        · subst hkey
          simp [hk', Ne.symm hk']
        · simp only [hk', if_false, List.find?_cons, beq_eq_false_iff_ne.mpr hkey]
          exact ih

/-- One more pair adds its key and takes none away. -/
theorem contains_insert (key k v : Text) (es : List (Text × List Text)) :
    Metadata.contains ⟨Metadata.insert k v es⟩ key
      = (k == key || Metadata.contains ⟨es⟩ key) := by
  induction es with
  | nil => simp [Metadata.insert, Metadata.contains]
  | cons e es ih =>
      obtain ⟨k', vs⟩ := e
      simp only [Metadata.contains, Metadata.insert] at ih ⊢
      by_cases hk' : k' = k
      · simp [hk']
      · simp only [hk', if_false, List.any_cons, ih]
        rw [Bool.or_left_comm]

/-- Metadata has all values of a key. -/
theorem all_ofPairs (key : Text) (pairs : List (Text × Text)) :
    (Metadata.ofPairs pairs).all key = valuesOf key pairs := by
  -- Induction on the pairs, for whatever was grouped before.
  have hfold : ∀ es : List (Text × List Text),
      Metadata.all ⟨pairs.foldl (fun es p => Metadata.insert p.1 p.2 es) es⟩ key
        = Metadata.all ⟨es⟩ key ++ valuesOf key pairs := by
    induction pairs with
    | nil => intro es; rw [valuesOf_nil, List.append_nil]; rfl
    | cons p pairs ih =>
        intro es
        rw [List.foldl_cons, ih, all_insert, valuesOf_cons]
        by_cases hk : p.1 = key
        · rw [if_pos hk, if_pos hk, List.append_assoc, List.singleton_append]
        · rw [if_neg hk, if_neg hk]
  exact hfold []

/-- Metadata knows a key if it has a value. -/
theorem contains_ofPairs (key : Text) (pairs : List (Text × Text)) :
    (Metadata.ofPairs pairs).contains key = true ↔ valuesOf key pairs ≠ [] := by
  have hfold : ∀ es : List (Text × List Text),
      Metadata.contains ⟨pairs.foldl (fun es p => Metadata.insert p.1 p.2 es) es⟩ key = true ↔
        Metadata.contains ⟨es⟩ key = true ∨ valuesOf key pairs ≠ [] := by
    induction pairs with
    | nil => intro es; simp
    | cons p pairs ih =>
        intro es
        rw [List.foldl_cons, ih, contains_insert, valuesOf_cons]
        by_cases hk : p.1 = key
        · simp [hk]
        · simp [hk]
  have hempty := hfold []
  rw [show Metadata.contains ⟨[]⟩ key = false from rfl] at hempty
  simp only [Bool.false_eq_true, false_or] at hempty
  exact hempty

/-! ### Changes -/

/-- The pairs of a header after changes. -/
def editPairs : List (Text × Option Text) → List (Text × Text) → List (Text × Text)
  | _, [] => []
  | changes, (key, value) :: pairs =>
    match changes.lookup key with
    | none => (key, value) :: editPairs changes pairs
    | some none => editPairs changes pairs
    | some (some value) => (key, value) :: editPairs (changes.filter fun e => e.1 != key) pairs

/-- What is taken out under a key is not found any more. -/
theorem lookup_filter_ne (changes : List (Text × Option Text)) (key k : Text) :
    (changes.filter fun e => e.1 != k).lookup key
      = if key = k then none else changes.lookup key := by
  induction changes with
  | nil => simp
  | cons e changes ih =>
      obtain ⟨k', v⟩ := e
      by_cases hk' : k' = k
      · subst hk'
        rw [List.filter_cons_of_neg (by simp), ih]
        by_cases hkey : key = k'
        · rw [if_pos hkey, if_pos hkey]
        · rw [if_neg hkey, if_neg hkey, List.lookup_cons, beq_eq_false_iff_ne.mpr hkey]
      · rw [List.filter_cons_of_pos (by simpa using hk'), List.lookup_cons, List.lookup_cons, ih]
        by_cases hkey : key = k'
        · subst hkey
          rw [if_neg hk', if_neg hk', beq_self_eq_true]
        · rw [beq_eq_false_iff_ne.mpr hkey]

/-- Changes are looked up, and nothing else is asked of them. -/
theorem editPairs_congr {changes changes' : List (Text × Option Text)}
    (h : ∀ key, changes'.lookup key = changes.lookup key) (pairs : List (Text × Text)) :
    editPairs changes' pairs = editPairs changes pairs := by
  induction pairs generalizing changes changes' with
  | nil => rfl
  | cons p pairs ih =>
      obtain ⟨key, value⟩ := p
      rw [editPairs, editPairs, h key]
      rcases changes.lookup key with _ | _ | v
      · exact congrArg ((key, value) :: ·) (ih h)
      · exact ih h
      · refine congrArg ((key, v) :: ·) (ih fun k => ?_)
        rw [lookup_filter_ne, lookup_filter_ne, h k]

/-- The first pair of a key is replaced, and then the change is done. -/
theorem editPairs_cons_replaced {changes : List (Text × Option Text)} {key value : Text}
    (h : changes.lookup key = none) (old : Text) (pairs : List (Text × Text)) :
    editPairs ((key, some value) :: changes) ((key, old) :: pairs)
      = (key, value) :: editPairs changes pairs := by
  rw [editPairs, List.lookup_cons, beq_self_eq_true]
  refine congrArg ((key, value) :: ·) (editPairs_congr (fun k => ?_) pairs)
  rw [lookup_filter_ne, List.lookup_cons]
  by_cases hk : k = key
  · rw [if_pos hk, hk, h]
  · rw [if_neg hk, beq_eq_false_iff_ne.mpr hk]

/-- What is left of the values of a key. -/
theorem valuesOf_editPairs (key : Text) (changes : List (Text × Option Text))
    (pairs : List (Text × Text)) :
    valuesOf key (editPairs changes pairs)
      = match changes.lookup key, valuesOf key pairs with
        | none, vs => vs
        | some none, _ => []
        | some (some _), [] => []
        | some (some value), _ :: vs => value :: vs := by
  induction pairs generalizing changes with
  | nil =>
      rw [editPairs, valuesOf_nil]
      rcases changes.lookup key with _ | _ | value
      · rfl
      · rfl
      · rfl
  | cons p pairs ih =>
      obtain ⟨k, v⟩ := p
      rw [editPairs, valuesOf_cons]
      by_cases hk : k = key
      · subst hk
        rw [if_pos rfl]
        rcases hlookup : changes.lookup k with _ | _ | value
        · simp only [valuesOf_cons, if_true, ih, hlookup]
        · simp only [ih, hlookup]
        · simp only [valuesOf_cons, if_true, ih, lookup_filter_ne]
      · -- What happens to a pair of another key has no effect on this one.
        rw [if_neg hk]
        rcases hlookup : changes.lookup k with _ | _ | value
        · simp only [valuesOf_cons, hk, if_false, ih]
        · simp only [ih]
        · simp only [valuesOf_cons, hk, if_false, ih, lookup_filter_ne, Ne.symm hk]

end ScriptGate.Header
