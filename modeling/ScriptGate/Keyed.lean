/-!
# `ScriptGate.Keyed`: values by key, in the order of their keys

A `Keyed` table keeps its keys in the order in which they were first
put. Putting a key again overwrites its value in its old place, so no
key stands twice; that is part of the type.

`get?_put` says what a table holds after a key was put, and `keys_put`
which keys it has.
-/

set_option autoImplicit false

namespace ScriptGate

/-- Values by key. -/
structure Keyed (κ α : Type) where
  /-- The keys with their values. -/
  entries : List (κ × α)
  /-- No key stands twice. -/
  keys_nodup : (entries.map Prod.fst).Nodup
  deriving DecidableEq

namespace Keyed

variable {κ α : Type} [DecidableEq κ]

/-- The table without keys. -/
def empty : Keyed κ α := ⟨[], List.nodup_nil⟩

/-- The keys, in the order in which they were first put. -/
def keys (t : Keyed κ α) : List κ := t.entries.map Prod.fst

/-- The values, in the order of their keys. -/
def values (t : Keyed κ α) : List α := t.entries.map Prod.snd

/-- The number of keys. -/
def size (t : Keyed κ α) : Nat := t.entries.length

/-- Whether there is no key. -/
def isEmpty (t : Keyed κ α) : Bool := t.entries.isEmpty

/-- The value under a key. -/
def get? (t : Keyed κ α) (key : κ) : Option α :=
  (t.entries.find? fun e => e.1 = key).map Prod.snd

/-- `entries` with `value` under `key`, in the place of an earlier value
or else at the end. -/
def upsert (key : κ) (value : α) : List (κ × α) → List (κ × α)
  | [] => [(key, value)]
  | (k, v) :: rest => if k = key then (k, value) :: rest else (k, v) :: upsert key value rest

/-- An upsert adds at most its own key, at the end. -/
theorem keys_upsert (key : κ) (value : α) (entries : List (κ × α)) :
    (upsert key value entries).map Prod.fst =
      if key ∈ entries.map Prod.fst then entries.map Prod.fst
      else entries.map Prod.fst ++ [key] := by
  induction entries with
  | nil => simp [upsert]
  | cons e rest ih =>
    obtain ⟨k, v⟩ := e
    by_cases hk : k = key
    · simp [upsert, hk]
    · have hk' : key ≠ k := fun h => hk h.symm
      simp only [upsert, hk, if_false, List.map_cons, ih, List.mem_cons, hk', false_or]
      split <;> simp

/-- An upsert makes no key stand twice. -/
theorem nodup_keys_upsert (key : κ) (value : α) {entries : List (κ × α)}
    (h : (entries.map Prod.fst).Nodup) : ((upsert key value entries).map Prod.fst).Nodup := by
  rw [keys_upsert]
  split
  · exact h
  · rename_i hk
    exact List.nodup_append.mpr
      ⟨h, by simp, fun a ha b hb hab => hk (by simp_all)⟩

/-- The table with `value` under `key`. -/
def put (t : Keyed κ α) (key : κ) (value : α) : Keyed κ α :=
  ⟨upsert key value t.entries, nodup_keys_upsert key value t.keys_nodup⟩

/-- A new key comes last, and a key that was there keeps its place. -/
theorem keys_put (t : Keyed κ α) (key : κ) (value : α) :
    (t.put key value).keys = if key ∈ t.keys then t.keys else t.keys ++ [key] :=
  keys_upsert key value t.entries

/-- After an upsert its key has the new value, and every other key what it
had. -/
theorem find?_upsert (key k : κ) (value : α) (entries : List (κ × α)) :
    ((upsert key value entries).find? fun e => e.1 = k).map Prod.snd =
      if key = k then some value else (entries.find? fun e => e.1 = k).map Prod.snd := by
  induction entries with
  | nil => by_cases h : key = k <;> simp [upsert, h]
  | cons e rest ih =>
    obtain ⟨k', v⟩ := e
    by_cases hk : k' = key
    · subst hk
      by_cases h : k' = k <;> simp [upsert, h]
    · by_cases h : k' = k
      · subst h
        have hk' : key ≠ k' := fun h => hk h.symm
        simp [upsert, hk, hk']
      · simp [upsert, hk, h, ih]

/-- A table holds what was put last. -/
theorem get?_put (t : Keyed κ α) (key k : κ) (value : α) :
    (t.put key value).get? k = if key = k then some value else t.get? k :=
  find?_upsert key k value t.entries

/-- The empty table has nothing under any key. -/
@[simp] theorem get?_empty (key : κ) : (empty : Keyed κ α).get? key = none := rfl

end Keyed
end ScriptGate
