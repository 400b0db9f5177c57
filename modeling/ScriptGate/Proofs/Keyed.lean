import Mathlib.Data.List.Nodup
import ScriptGate.Keyed

/-!
# `ScriptGate.Proofs.Keyed`: what a table holds

`get?` finds the first entry of a key, and a table has no other one. So
looking a key up in the list of entries, having an entry and having a key
all come down to `get?`.
-/

set_option autoImplicit false

namespace ScriptGate.Keyed

variable {κ α : Type} [DecidableEq κ]

/-- Searching the entries of a table finds what the table has. -/
theorem lookup_entries [BEq κ] [LawfulBEq κ] (t : Keyed κ α) (key : κ) :
    t.entries.lookup key = t.get? key := by
  rw [get?]
  induction t.entries with
  | nil => rfl
  | cons e es ih =>
      obtain ⟨k, v⟩ := e
      rw [List.lookup_cons, List.find?_cons]
      by_cases hk : k = key
      · simp [hk]
      · rw [beq_eq_false_iff_ne.mpr (Ne.symm hk), decide_eq_false hk]
        exact ih

/-- A table has an entry if and only if it holds its value. -/
theorem mem_entries_iff (t : Keyed κ α) (key : κ) (value : α) :
    (key, value) ∈ t.entries ↔ t.get? key = some value := by
  rw [← lookup_entries, List.lookup_eq_some_iff]
  constructor
  · intro h
    obtain ⟨es, fs, hes⟩ := List.append_of_mem h
    refine ⟨es, fs, hes, fun p hp => ?_⟩
    -- The key stands in no other entry.
    have hnodup := t.keys_nodup
    rw [hes, List.map_append, List.map_cons, List.nodup_append] at hnodup
    rw [bne_iff_ne]
    exact (hnodup.2.2 p.1 (List.mem_map_of_mem hp) key List.mem_cons_self).symm
  · rintro ⟨es, fs, hes, -⟩
    rw [hes]
    exact List.mem_append_right _ List.mem_cons_self

/-- Putting a key brings no other entry than its own. -/
theorem mem_put {t : Keyed κ α} {key : κ} {value : α} {e : κ × α}
    (h : e ∈ (t.put key value).entries) : e = (key, value) ∨ e ∈ t.entries := by
  have hget := (mem_entries_iff _ e.1 e.2).mp h
  rw [get?_put] at hget
  split at hget
  · rename_i hkey
    rw [Option.some.injEq] at hget
    exact Or.inl (Prod.ext hkey.symm hget.symm)
  · exact Or.inr ((t.mem_entries_iff e.1 e.2).mpr hget)

/-- A table has the keys under which it holds a value. -/
theorem mem_keys_iff (t : Keyed κ α) (key : κ) :
    key ∈ t.keys ↔ ∃ value, t.get? key = some value := by
  rw [keys, List.mem_map]
  constructor
  · rintro ⟨⟨k, value⟩, he, rfl⟩
    exact ⟨value, (t.mem_entries_iff k value).mp he⟩
  · rintro ⟨value, h⟩
    exact ⟨(key, value), (t.mem_entries_iff key value).mpr h, rfl⟩

end ScriptGate.Keyed
