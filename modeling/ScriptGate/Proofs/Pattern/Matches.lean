import ScriptGate.Proofs.Pattern.Search

/-!
# `ScriptGate.Proofs.Pattern.Matches`: what a pattern matches

`Matches input p i j` says that `p` matches the stretch of the input from `i`
to `j`. It follows the pattern alone: there is no order of preference in it,
no fuel and no set of places seen. `ends` finds the ends of all matches that
begin at a place (`mem_ends_iff`), so `isMatch` tells whether some stretch
matches (`isMatch_iff`), and whether a given stretch does can be decided.

The bridge is one induction on the pattern, with one lemma per constructor.
Its invariant (`Finds`) carries along that matches go forward and end inside
the input, which the search for repetitions needs (`mem_roundsFrom_iff`).
-/

set_option autoImplicit false

namespace ScriptGate.Pattern

/-- The pattern matches the stretch of the input from one place to the
other. -/
def Matches (input : Input) : Pattern → Nat → Nat → Prop
  | empty, i, j => i = j
  | char s, i, j => j = i + 1 ∧ ∃ c ∈ input[i]?, s.contains c = true
  | assert a, i, j => i = j ∧ holdsAt input i a = true
  | seq p q, i, k => ∃ j, Matches input p i j ∧ Matches input q j k
  | alt p q, i, j => Matches input p i j ∨ Matches input q i j
  | rep least most _ p, i, j =>
    ∃ n, least ≤ n ∧ (∀ m ∈ most, n ≤ max least m) ∧ Rounds (Matches input p) n i j

/-- The pattern matches the whole of a text. -/
def MatchesAll (p : Pattern) (t : Text) : Prop := Matches t.toArray p 0 t.length

/-- `ends` finds the ends of matches, and these do not leave the input. -/
structure Finds (input : Input) (p : Pattern) : Prop where
  forward : Forward input.size (ends input p)
  mem_iff : ∀ {i j}, i ≤ input.size → (j ∈ ends input p i ↔ Matches input p i j)

namespace Finds

variable {input : Input} {p q : Pattern}

/-- The empty pattern ends where it begins. -/
theorem of_empty : Finds input empty where
  forward :=
    { le := fun _ hk => Nat.le_of_eq (List.mem_singleton.mp hk).symm
      le_size := fun hj hk => (List.mem_singleton.mp hk).symm ▸ hj
      nodup := fun _ => List.nodup_singleton _ }
  mem_iff := by
    intro i j _
    rw [ends, Matches, List.mem_singleton]
    exact eq_comm

/-- One character of the set is stepped over. -/
theorem mem_ends_char {s : CharSet} {i j : Nat} :
    j ∈ ends input (char s) i ↔ Matches input (char s) i j := by
  rw [ends, Matches]
  cases input[i]? with
  | none => simp
  | some c => simp [and_comm]

/-- A set matches one character of it. -/
theorem of_char (s : CharSet) : Finds input (char s) where
  forward :=
    { le := fun _ hk => by
        rw [(mem_ends_char.mp hk).1]
        exact Nat.le_succ _
      le_size := fun _ hk => by
        obtain ⟨rfl, c, hc, -⟩ := mem_ends_char.mp hk
        exact (Array.getElem?_eq_some_iff.mp hc).1
      nodup := fun {j} _ => by
        rw [ends]
        split
        · exact List.nodup_nil
        · split
          · exact List.nodup_singleton _
          · exact List.nodup_nil }
  mem_iff := fun _ => mem_ends_char

/-- An assertion that holds ends where it begins. -/
theorem mem_ends_assert {a : Assertion} {i j : Nat} :
    j ∈ ends input (assert a) i ↔ Matches input (assert a) i j := by
  rw [ends, Matches]
  cases holdsAt input i a with
  | false => simp
  | true => simp [eq_comm]

/-- An assertion matches where it holds. -/
theorem of_assert (a : Assertion) : Finds input (assert a) where
  forward :=
    { le := fun _ hk => Nat.le_of_eq (mem_ends_assert.mp hk).1
      le_size := fun hj hk => (mem_ends_assert.mp hk).1 ▸ hj
      nodup := fun {j} _ => by
        rw [ends]
        split
        · exact List.nodup_singleton _
        · exact List.nodup_nil }
  mem_iff := fun _ => mem_ends_assert

/-- Places of the input from `base` on, each kept once. -/
theorem of_distinct {ends' : Nat → List Nat} (heq : ∀ i, ends input p i = distinct i (ends' i))
    (hle : ∀ {i j}, i ≤ input.size → j ∈ ends' i → i ≤ j ∧ j ≤ input.size)
    (hiff : ∀ {i j}, i ≤ input.size → (j ∈ ends' i ↔ Matches input p i j)) : Finds input p := by
  have hmem : ∀ {i j}, i ≤ input.size → (j ∈ ends input p i ↔ j ∈ ends' i) := by
    intro i j hi
    rw [heq, mem_distinct fun k hk => (hle hi hk).1]
  refine ⟨⟨fun hj hk => (hle hj ((hmem hj).mp hk)).1, fun hj hk => (hle hj ((hmem hj).mp hk)).2,
    fun {i} hi => ?_⟩, fun hi => (hmem hi).trans (hiff hi)⟩
  rw [heq]
  exact nodup_distinct fun k hk => (hle hi hk).1

/-- A sequence ends where its second part does, from where the first has
ended. -/
theorem of_seq (hp : Finds input p) (hq : Finds input q) : Finds input (seq p q) := by
  refine of_distinct (fun i => rfl) (fun {i k} hi hk => ?_) (fun {i k} hi => ?_)
  · obtain ⟨j, hj, hk⟩ := List.mem_flatMap.mp hk
    have hij := hp.forward.le hi hj
    have hsize := hp.forward.le_size hi hj
    exact ⟨Nat.le_trans hij (hq.forward.le hsize hk), hq.forward.le_size hsize hk⟩
  · rw [Matches, List.mem_flatMap]
    refine exists_congr fun j => ?_
    rw [hp.mem_iff hi]
    refine and_congr_right fun hj => ?_
    exact hq.mem_iff (hp.forward.le_size hi ((hp.mem_iff hi).mpr hj))

/-- An alternative ends where one of its parts does. -/
theorem of_alt (hp : Finds input p) (hq : Finds input q) : Finds input (alt p q) := by
  refine of_distinct (fun i => rfl) (fun {i j} hi hj => ?_) (fun {i j} hi => ?_)
  · rcases List.mem_append.mp hj with hj | hj
    · exact ⟨hp.forward.le hi hj, hp.forward.le_size hi hj⟩
    · exact ⟨hq.forward.le hi hj, hq.forward.le_size hi hj⟩
  · rw [Matches, List.mem_append, hp.mem_iff hi, hq.mem_iff hi]

/-- Rounds of matches are rounds of the ends found. -/
theorem rounds_iff (hp : Finds input p) {n i j : Nat} (hi : i ≤ input.size) :
    Rounds (LeadsTo (ends input p)) n i j ↔ Rounds (Matches input p) n i j :=
  rounds_congr (fun _ _ h hk => hp.forward.le_size h hk) (fun _ _ h => hp.mem_iff h) hi

/-- The rounds that have to be made come first, then those that may be
made. -/
theorem mem_rounds_iff (hp : Finds input p) {least : Nat} {most : Option Nat} {greedy : Bool}
    {i k : Nat} (hi : i ≤ input.size) :
    (k ∈ (roundsExactly (ends input p) i least [i]).flatMap fun j =>
        roundsFrom (ends input p) (most.map (· - least)) greedy input.size j) ↔
      ∃ n, least ≤ n ∧ (∀ m ∈ most, n ≤ max least m) ∧
        Rounds (LeadsTo (ends input p)) n i k := by
  have hexact : ∀ {j}, j ∈ roundsExactly (ends input p) i least [i] ↔
      Rounds (LeadsTo (ends input p)) least i j := by
    intro j
    rw [hp.forward.mem_roundsExactly (by simp [hi])]
    simp
  have hfrom : ∀ {j}, Rounds (LeadsTo (ends input p)) least i j →
      (k ∈ roundsFrom (ends input p) (most.map (· - least)) greedy input.size j ↔
        ∃ n, (∀ m ∈ most, n ≤ m - least) ∧ Rounds (LeadsTo (ends input p)) n j k) := by
    intro j hj
    rw [mem_roundsFrom_iff hp.forward (hp.forward.rounds_le hi hj).2]
    simp
  rw [List.mem_flatMap]
  constructor
  · rintro ⟨j, hj, hk⟩
    obtain ⟨n, hn, hr⟩ := (hfrom (hexact.mp hj)).mp hk
    refine ⟨least + n, Nat.le_add_right _ _, fun m hm => ?_,
      (rounds_add _ _ _ _ _).mpr ⟨j, hexact.mp hj, hr⟩⟩
    have hle := hn m hm
    omega
  · -- The first rounds are those that have to be made.
    rintro ⟨n, hleast, hmost, hr⟩
    obtain ⟨d, rfl⟩ := Nat.exists_eq_add_of_le hleast
    obtain ⟨j, hj, hr⟩ := (rounds_add _ _ _ _ _).mp hr
    refine ⟨j, hexact.mpr hj, (hfrom hj).mpr ⟨d, fun m hm => ?_, hr⟩⟩
    have hle := hmost m hm
    omega

/-- A repetition ends after a number of rounds that is allowed. -/
theorem of_rep (hp : Finds input p) (least : Nat) (most : Option Nat) (greedy : Bool) :
    Finds input (rep least most greedy p) := by
  refine of_distinct (fun i => rfl) (fun {i k} hi hk => ?_) (fun {i k} hi => ?_)
  · obtain ⟨n, -, -, hr⟩ := (hp.mem_rounds_iff hi).mp hk
    exact hp.forward.rounds_le hi hr
  · rw [Matches]
    refine (hp.mem_rounds_iff hi).trans (exists_congr fun n => ?_)
    rw [hp.rounds_iff hi]

end Finds

/-- The matcher finds what the pattern matches. -/
theorem finds (input : Input) (p : Pattern) : Finds input p := by
  induction p with
  | empty => exact Finds.of_empty
  | char s => exact Finds.of_char s
  | assert a => exact Finds.of_assert a
  | seq p q hp hq => exact hp.of_seq hq
  | alt p q hp hq => exact hp.of_alt hq
  | rep least most greedy p hp => exact hp.of_rep least most greedy

/-- **The ends of matches.** From a place of the input, `ends` leads to the
ends of the matches that begin there, and to nothing else. -/
theorem mem_ends_iff {input : Input} {p : Pattern} {i j : Nat} (hi : i ≤ input.size) :
    j ∈ ends input p i ↔ Matches input p i j := (finds input p).mem_iff hi

/-- A match goes forward and stays in the input. -/
theorem Matches.le {input : Input} {p : Pattern} {i j : Nat} (h : Matches input p i j)
    (hi : i ≤ input.size) : i ≤ j ∧ j ≤ input.size :=
  have hj := (mem_ends_iff hi).mpr h
  ⟨(finds input p).forward.le hi hj, (finds input p).forward.le_size hi hj⟩

instance (p : Pattern) (t : Text) : Decidable (p.MatchesAll t) :=
  decidable_of_iff (t.length ∈ ends t.toArray p 0) (mem_ends_iff (Nat.zero_le _))

/-! ### Matches anywhere -/

/-- The search finds a place from which the pattern matches, if there is one
within its steps. -/
theorem findFrom_isSome_iff {input : Input} {p : Pattern} {n i : Nat} :
    (findFrom p input n i).isSome = true ↔ ∃ k, i ≤ k ∧ k ≤ i + n ∧ ends input p k ≠ [] := by
  induction n generalizing i with
  | zero =>
      rw [findFrom, Option.isSome_map, List.isSome_head?]
      constructor
      · intro h
        exact ⟨i, Nat.le_refl i, Nat.le_refl i, h⟩
      · rintro ⟨k, hik, hki, h⟩
        obtain rfl : k = i := by omega
        exact h
  | succ n ih =>
      rw [findFrom]
      cases hhead : (ends input p i).head? with
      | some j =>
          have hne : ends input p i ≠ [] := fun hnil => by simp [hnil] at hhead
          simp only [Option.isSome_some, true_iff]
          exact ⟨i, Nat.le_refl i, by omega, hne⟩
      | none =>
          have hnil : ends input p i = [] := List.head?_eq_none_iff.mp hhead
          simp only
          rw [ih]
          constructor
          · rintro ⟨k, hik, hki, h⟩
            exact ⟨k, by omega, by omega, h⟩
          · rintro ⟨k, hik, hki, h⟩
            have hne : k ≠ i := fun heq => h (heq ▸ hnil)
            exact ⟨k, by omega, by omega, h⟩

/-- Whether some stretch of the text matches. -/
theorem isMatch_iff {p : Pattern} {t : Text} :
    p.isMatch t = true ↔ ∃ i j, i ≤ t.length ∧ Matches t.toArray p i j := by
  unfold isMatch find?
  rw [findFrom_isSome_iff, List.size_toArray, Nat.zero_add]
  constructor
  · rintro ⟨i, -, hi, hne⟩
    obtain ⟨j, hj⟩ := List.exists_mem_of_ne_nil _ hne
    exact ⟨i, j, hi, (mem_ends_iff hi).mp hj⟩
  · rintro ⟨i, j, hi, h⟩
    exact ⟨i, Nat.zero_le i, hi, List.ne_nil_of_mem ((mem_ends_iff hi).mpr h)⟩

end ScriptGate.Pattern
