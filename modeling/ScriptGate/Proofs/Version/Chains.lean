import ScriptGate.Proofs.Version.Order

/-!
# `ScriptGate.Proofs.Version.Chains`: successors of successors

`successors_advance` says what counting versions up comes to. Each
successor is newer than what it follows, and because versions have a place
in a linear order (`orderKey`), the places go up along a whole chain of
successors: none of them ever comes back.

It also says what is written. From four segments on only the last one is
touched, and there only its last number (`CountedUp`): it becomes the next
number in as many digits as before, or in one more where there were only
nines.
-/

set_option autoImplicit false

namespace ScriptGate.Version

open Text (decimalPadded isDigit natOfDigits)

/-- `s'` is the segment `s` with its last digit run counted up, or with a
`1` at its end if it has no digits. -/
def CountedUp (s s' : Text) : Prop :=
  ((∀ c ∈ s, isDigit c = false) ∧ s' = s ++ ['1']) ∨
  ∃ before run after counted, LastRun s before run after ∧ run ≠ [] ∧
    s' = before ++ counted ++ after ∧
    counted = decimalPadded run.length (natOfDigits run + 1) ∧
    counted.length = if run.all (· == '9') then run.length + 1 else run.length

/-- Bumping counts a segment up. -/
theorem countedUp_bump (s : Text) : CountedUp s (bump s) := by
  rcases bump_cases s with ⟨hs, hb⟩ | ⟨before, run, after, hrun, hne, hb⟩
  · exact Or.inl ⟨hs, hb⟩
  · exact Or.inr ⟨before, run, after, increment run, hrun, hne, hb,
      increment_eq_decimalPadded hne hrun.digits, length_increment run⟩

/-- The places of successors go up. -/
theorem strictMono_successors (v : Text) : StrictMono fun n => orderKey (next^[n] v) := by
  refine strictMono_nat_of_lt_succ fun n => ?_
  rw [Function.iterate_succ_apply']
  exact (isNewer_iff _ _).mp (isNewer_next_self _)

/-- **Successors advance.** The successor of a version is newer, and so is
every later one; no version comes back. From four segments on, the
successor differs in the last segment only, which is counted up. -/
theorem successors_advance (v : Text) :
    isNewer (next v) v = true ∧
      (∀ i j, i < j → isNewer (next^[j] v) (next^[i] v) = true ∧ next^[j] v ≠ next^[i] v) ∧
      (4 ≤ (segments v).length → ∃ ss s s', segments v = ss ++ [s] ∧
        segments (next v) = ss ++ [s'] ∧ CountedUp s s') := by
  refine ⟨isNewer_next_self v, fun i j hij => ?_, fun hlen => ?_⟩
  · have hlt : orderKey (next^[i] v) < orderKey (next^[j] v) := strictMono_successors v hij
    refine ⟨(isNewer_iff _ _).mpr hlt, fun heq => ?_⟩
    rw [heq] at hlt
    exact lt_irrefl _ hlt
  · rcases segments_next v with ⟨hlt, -⟩ | ⟨-, ss, s, hv, hn⟩
    · exact absurd hlen (Nat.not_le.mpr hlt)
    · exact ⟨ss, s, bump s, hv, hn, countedUp_bump s⟩

/-- A version with an empty segment and leading zeros, counted up twice. -/
theorem successors_advance_carry :
    4 ≤ (segments "1.0..rc098x".toList).length ∧
      (∃ ss s s', segments "1.0..rc098x".toList = ss ++ [s] ∧
        segments (next "1.0..rc098x".toList) = ss ++ [s'] ∧ CountedUp s s') ∧
      isNewer (next^[2] "1.0..rc098x".toList) "1.0..rc098x".toList = true ∧
      next^[2] "1.0..rc098x".toList = "1.0..rc100x".toList := by
  have hlen : 4 ≤ (segments "1.0..rc098x".toList).length := by decide +kernel
  obtain ⟨-, hchain, hlast⟩ := successors_advance "1.0..rc098x".toList
  exact ⟨hlen, hlast hlen, (hchain 0 2 (by decide)).1, by decide +kernel⟩

end ScriptGate.Version
