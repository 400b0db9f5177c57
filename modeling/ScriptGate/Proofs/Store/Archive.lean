import ScriptGate.Proofs.Keyed
import ScriptGate.Store.Archive

/-!
# `ScriptGate.Proofs.Store.Archive`: what an archive gives back

An archive keeps a text under its digest, and a text whose digest is
taken is not stored again. So it gives back what was stored as long as no
two of the texts have the same digest (`DistinctDigests`), and all facts
about it assume no more than that of the texts that were stored.

`Archive.Holds` says which texts those are. `Holds.store` keeps it when
one more is stored, and `Holds.load?_ofCode` reads a text back.
-/

set_option autoImplicit false

namespace ScriptGate.Store

/-- No two of the texts have the same digest. -/
def DistinctDigests (texts : List Text) : Prop :=
  ∀ s ∈ texts, ∀ t ∈ texts, CodeId.ofCode s = CodeId.ofCode t → s = t

/-- The same text many times. -/
theorem distinctDigests_of_forall_eq {texts : List Text} {t : Text} (h : ∀ s ∈ texts, s = t) :
    DistinctDigests texts :=
  fun a ha b hb _ => (h a ha).trans (h b hb).symm

/-- Two texts with different digests. -/
theorem distinctDigests_pair {s t : Text} (h : CodeId.ofCode s ≠ CodeId.ofCode t) :
    DistinctDigests [s, t] := by
  intro a ha b hb heq
  rw [List.mem_pair] at ha hb
  rcases ha with rfl | rfl
  · rcases hb with rfl | rfl
    · rfl
    · exact absurd heq h
  · rcases hb with rfl | rfl
    · exact absurd heq.symm h
    · rfl

namespace Archive

/-- What an archive has under a digest after a text was stored. -/
theorem load?_store (a : Archive) (code : Text) (id : CodeId) :
    (a.store code).load? id
      = if CodeId.ofCode code = id ∧ a.load? id = none then some code else a.load? id := by
  cases hcode : a.load? (CodeId.ofCode code) with
  | some t =>
      -- The digest is taken, so nothing is stored.
      have hsame : a.store code = a := if_pos (by rw [show a.blobs.get? _ = some t from hcode]; rfl)
      rw [hsame, if_neg]
      rintro ⟨rfl, hnone⟩
      rw [hcode] at hnone
      cases hnone
  | none =>
      have hput : a.store code = ⟨a.blobs.put (CodeId.ofCode code) code⟩ :=
        if_neg (by rw [show a.blobs.get? _ = none from hcode]; exact Bool.false_ne_true)
      rw [hput]
      refine (Keyed.get?_put _ _ _ _).trans ?_
      by_cases hid : CodeId.ofCode code = id
      · subst hid
        rw [if_pos rfl, if_pos ⟨rfl, hcode⟩]
      · rw [if_neg hid, if_neg fun h => hid h.1]
        rfl

/-- What is in an archive stays there. -/
theorem load?_store_of_some {a : Archive} {id : CodeId} {t : Text} (h : a.load? id = some t)
    (code : Text) : (a.store code).load? id = some t := by
  rw [load?_store, if_neg, h]
  rw [h]
  exact fun hnew => Option.some_ne_none t hnew.2

/-- What an archive gives back was in it before, or is the new text. -/
theorem load?_store_cases {a : Archive} {code t : Text} {id : CodeId}
    (h : (a.store code).load? id = some t) :
    a.load? id = some t ∨ (t = code ∧ CodeId.ofCode code = id) := by
  rw [load?_store] at h
  split at h
  · rename_i hnew
    exact Or.inr ⟨(Option.some.inj h).symm, hnew.1⟩
  · exact Or.inl h

/-- The archive has stored these texts. It has one of them under each
digest of one, and nothing else. -/
structure Holds (a : Archive) (texts : List Text) : Prop where
  /-- A digest of a stored text is taken. -/
  taken : ∀ t ∈ texts, (a.load? (CodeId.ofCode t)).isSome = true
  /-- What stands under a digest was stored and has it. -/
  stored : ∀ id t, a.load? id = some t → t ∈ texts ∧ CodeId.ofCode t = id

/-- An archive without texts holds no texts. -/
theorem holds_empty : Holds empty [] where
  taken := fun _ h => by cases h
  stored := fun _ _ h => by cases h

/-- Storing a text keeps what was stored before. -/
theorem Holds.store {a : Archive} {texts : List Text} (h : Holds a texts) (code : Text) :
    Holds (a.store code) (texts ++ [code]) where
  taken := by
    intro t ht
    rw [load?_store]
    split
    · rfl
    · rename_i hkept
      rcases List.mem_append.mp ht with ht | ht
      · exact h.taken t ht
      · -- The digest of the new text was taken before.
        rw [List.mem_singleton.mp ht] at hkept ⊢
        rw [← Option.ne_none_iff_isSome]
        exact fun hnone => hkept ⟨rfl, hnone⟩
  stored := by
    intro id t ht
    rcases load?_store_cases ht with ht | ⟨rfl, hid⟩
    · obtain ⟨hmem, hid⟩ := h.stored id t ht
      exact ⟨List.mem_append_left _ hmem, hid⟩
    · exact ⟨List.mem_append_right _ (List.mem_singleton_self _), hid⟩

/-- A stored text is found under its digest. -/
theorem Holds.load?_ofCode {a : Archive} {texts : List Text} (h : Holds a texts)
    (hdistinct : DistinctDigests texts) {t : Text} (ht : t ∈ texts) :
    a.load? (CodeId.ofCode t) = some t := by
  obtain ⟨s, hs⟩ := Option.isSome_iff_exists.mp (h.taken t ht)
  obtain ⟨hmem, hid⟩ := h.stored _ s hs
  rw [hs, hdistinct s hmem t ht hid]

end Archive
end ScriptGate.Store
