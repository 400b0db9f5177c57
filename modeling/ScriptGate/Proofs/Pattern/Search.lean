import Mathlib.Data.Finset.Card
import Mathlib.Data.Finset.Range
import Mathlib.Data.List.Nodup
import ScriptGate.Pattern.Matcher

/-!
# `ScriptGate.Proofs.Pattern.Search`: the search for repetitions

`Rounds R n i j` says that `n` rounds of `R`, one after the other, lead from
`i` to `j`. The matcher finds the places where rounds end by two searches.
`roundsExactly` goes on round by round (`mem_roundsExactly`). `explore` goes
depth first over a stack of visits and marks where it was, so that a round
that stays in its place does no harm (`mem_roundsFrom_iff`).

The second search is followed by an invariant. `Progress` says that all
visits and results belong to places that rounds lead to, and that whatever
follows from a marked visit is marked, found or still on the stack
(`Visit.Covered`). Every visit that is carried out keeps it, so it holds when
the stack is empty, and then an induction on the rounds shows that nothing
was missed (`Progress.mem_of_rounds`). Before that the fuel does not run out:
a visit leaves the stack, or it sets a mark and pushes no more visits than
there are places.
-/

set_option autoImplicit false

namespace ScriptGate.Pattern

/-! ### Sets of places -/

/-- Setting a bit changes no other one. -/
theorem testBit_insert (s k m : Nat) :
    (s ||| 1 <<< k).testBit m = (s.testBit m || decide (k = m)) := by
  rw [Nat.testBit_or, Nat.shiftLeft_eq, Nat.one_mul, Nat.testBit_two_pow]

/-- The places kept so far are those whose bits are set. -/
theorem distinctAux_spec {base : Nat} {js : List Nat} (hjs : ∀ j ∈ js, base ≤ j) {seen : Nat}
    {acc : List Nat} (hseen : ∀ k, base ≤ k → (seen.testBit (k - base) = true ↔ k ∈ acc))
    (hacc : acc.Nodup) :
    (distinctAux base seen acc js).Nodup ∧
      ∀ k, k ∈ distinctAux base seen acc js ↔ k ∈ acc ∨ k ∈ js := by
  induction js generalizing seen acc with
  | nil => simpa [distinctAux] using hacc
  | cons j js ih =>
      have hj := hjs j List.mem_cons_self
      have hjs' : ∀ k ∈ js, base ≤ k := fun k hk => hjs k (List.mem_cons_of_mem _ hk)
      rw [distinctAux]
      split
      · -- The place is known, so it is left out.
        rename_i hbit
        have hmem := (hseen j hj).mp hbit
        obtain ⟨hnodup, hiff⟩ := ih hjs' hseen hacc
        refine ⟨hnodup, fun k => ?_⟩
        rw [hiff, List.mem_cons]
        constructor
        · tauto
        · rintro (h | rfl | h)
          · exact Or.inl h
          · exact Or.inl hmem
          · exact Or.inr h
      · rename_i hbit
        have hnot : j ∉ acc := fun h => hbit ((hseen j hj).mpr h)
        -- Its bit is set as the place is kept.
        have hseen' : ∀ k, base ≤ k →
            ((seen ||| 1 <<< (j - base)).testBit (k - base) = true ↔ k ∈ j :: acc) := by
          intro k hk
          rw [testBit_insert, Bool.or_eq_true, decide_eq_true_eq, hseen k hk, List.mem_cons]
          have heq : j - base = k - base ↔ k = j := by omega
          rw [heq, or_comm]
        obtain ⟨hnodup, hiff⟩ := ih hjs' hseen' (List.nodup_cons.mpr ⟨hnot, hacc⟩)
        refine ⟨hnodup, fun k => ?_⟩
        rw [hiff, List.mem_cons, List.mem_cons]
        tauto

/-- Each place is kept, and none twice. -/
theorem distinct_spec {base : Nat} {js : List Nat} (hjs : ∀ j ∈ js, base ≤ j) :
    (distinct base js).Nodup ∧ ∀ k, k ∈ distinct base js ↔ k ∈ js := by
  unfold distinct
  split
  · simp
  · simp
  · have hseen : ∀ k, base ≤ k → ((0 : Nat).testBit (k - base) = true ↔ k ∈ ([] : List Nat)) := by
      simp
    simpa using distinctAux_spec hjs hseen List.nodup_nil

/-- Each place is kept. -/
theorem mem_distinct {base : Nat} {js : List Nat} (hjs : ∀ j ∈ js, base ≤ j) {k : Nat} :
    k ∈ distinct base js ↔ k ∈ js := (distinct_spec hjs).2 k

/-- Each place is kept once. -/
theorem nodup_distinct {base : Nat} {js : List Nat} (hjs : ∀ j ∈ js, base ≤ j) :
    (distinct base js).Nodup := (distinct_spec hjs).1

/-! ### Rounds -/

/-- `n` rounds of `R`, one after the other, lead from one place to the
other. -/
def Rounds (R : Nat → Nat → Prop) : Nat → Nat → Nat → Prop
  | 0, i, j => i = j
  | n + 1, i, k => ∃ j, R i j ∧ Rounds R n j k

/-- Rounds can be made in two goes. -/
theorem rounds_add (R : Nat → Nat → Prop) (m n i k : Nat) :
    Rounds R (m + n) i k ↔ ∃ j, Rounds R m i j ∧ Rounds R n j k := by
  induction m generalizing i with
  | zero => simp [Rounds]
  | succ m ih =>
      rw [Nat.succ_add]
      simp only [Rounds, ih]
      constructor
      · rintro ⟨a, ha, j, hm, hn⟩
        exact ⟨j, ⟨a, ha, hm⟩, hn⟩
      · rintro ⟨j, ⟨a, ha, hm⟩, hn⟩
        exact ⟨a, ha, j, hm, hn⟩

/-- One more round. -/
theorem Rounds.snoc {R : Nat → Nat → Prop} {n i j k : Nat} (h : Rounds R n i j) (hk : R j k) :
    Rounds R (n + 1) i k :=
  (rounds_add R n 1 i k).mpr ⟨j, h, k, hk, rfl⟩

/-- Relations that agree on the places that they reach have the same
rounds. -/
theorem rounds_congr {R S : Nat → Nat → Prop} {P : Nat → Prop}
    (hstay : ∀ i j, P i → R i j → P j) (hiff : ∀ i j, P i → (R i j ↔ S i j)) {n i j : Nat}
    (hi : P i) : Rounds R n i j ↔ Rounds S n i j := by
  induction n generalizing i with
  | zero => exact Iff.rfl
  | succ n ih =>
      refine exists_congr fun a => ?_
      constructor
      · rintro ⟨ha, hn⟩
        exact ⟨(hiff i a hi).mp ha, (ih (hstay i a hi ha)).mp hn⟩
      · rintro ⟨ha, hn⟩
        have ha' := (hiff i a hi).mpr ha
        exact ⟨ha', (ih (hstay i a hi ha')).mpr hn⟩

/-- Each round goes forward in an input of length `size`, and to no place
twice. -/
structure Forward (size : Nat) (step : Nat → List Nat) : Prop where
  le : ∀ {j k}, j ≤ size → k ∈ step j → j ≤ k
  le_size : ∀ {j k}, j ≤ size → k ∈ step j → k ≤ size
  nodup : ∀ {j}, j ≤ size → (step j).Nodup

/-- The places that a step leads to. -/
def LeadsTo (step : Nat → List Nat) (j k : Nat) : Prop := k ∈ step j

namespace Forward

variable {size : Nat} {step : Nat → List Nat} (h : Forward size step)

include h

/-- Rounds go forward and stay in the input. -/
theorem rounds_le {n j k : Nat} (hj : j ≤ size) (hr : Rounds (LeadsTo step) n j k) :
    j ≤ k ∧ k ≤ size := by
  induction n generalizing j with
  | zero => exact ⟨Nat.le_of_eq hr, hr ▸ hj⟩
  | succ n ih =>
      obtain ⟨a, ha, hr⟩ := hr
      have hle := h.le hj ha
      have hrest := ih (h.le_size hj ha) hr
      omega

/-- Rounds that have to be made. -/
theorem mem_roundsExactly {base n k : Nat} {js : List Nat} (hjs : ∀ j ∈ js, base ≤ j ∧ j ≤ size) :
    k ∈ roundsExactly step base n js ↔ ∃ j ∈ js, Rounds (LeadsTo step) n j k := by
  induction n generalizing js with
  | zero => simp [roundsExactly, Rounds]
  | succ n ih =>
      cases js with
      | nil => simp [roundsExactly]
      | cons j js =>
          have hnext : ∀ x ∈ (j :: js).flatMap step, base ≤ x ∧ x ≤ size := by
            intro x hx
            obtain ⟨a, ha, hx⟩ := List.mem_flatMap.mp hx
            have hle := h.le (hjs a ha).2 hx
            have hbase := (hjs a ha).1
            exact ⟨by omega, h.le_size (hjs a ha).2 hx⟩
          have hmem : ∀ x, x ∈ distinct base ((j :: js).flatMap step) ↔
              x ∈ (j :: js).flatMap step := fun x => mem_distinct fun y hy => (hnext y hy).1
          rw [roundsExactly, ih (fun x hx => hnext x ((hmem x).mp hx))]
          simp only [hmem, List.mem_flatMap, Rounds, LeadsTo]
          constructor
          · rintro ⟨x, ⟨a, ha, hx⟩, hr⟩
            exact ⟨a, ha, x, hx, hr⟩
          · rintro ⟨a, ha, x, hx, hr⟩
            exact ⟨x, ⟨a, ha, hx⟩, hr⟩
          · exact fun hnil => by cases hnil

/-- There are no more next places than places. -/
theorem length_step_le {base j : Nat} (hbase : base ≤ j) (hj : j ≤ size) :
    (step j).length ≤ size + 1 - base := by
  have hsub : step j ⊆ List.range' base (size + 1 - base) := by
    intro k hk
    have hle := h.le hj hk
    have hsize := h.le_size hj hk
    rw [List.mem_range'_1]
    omega
  have hlength := ((h.nodup hj).subperm hsub).length_le
  rwa [List.length_range'] at hlength

end Forward

/-! ### The search, one visit after the other -/

section Explore

variable (step : Nat → List Nat) (most : Option Nat) (greedy : Bool) (base size : Nat)

/-- The bit of a visit. -/
def mark (rounds j : Nat) : Nat := rounds * (size + 1 - base) + (j - base)

/-- The number of bits. -/
def marks : Nat := (most.getD 0 + 1) * (size + 1 - base)

/-- A visit belongs to a place that rounds lead to. Rounds are counted only
where their number is bounded. -/
def Visit.Sound : Visit → Prop
  | .enter rounds j =>
    (most = none → rounds = 0) ∧ (∀ m ∈ most, rounds ≤ m) ∧
      ∃ n, Rounds (LeadsTo step) n base j ∧ (most ≠ none → n = rounds)
  | .leave j => ∃ n, (∀ m ∈ most, n ≤ m) ∧ Rounds (LeadsTo step) n base j

/-- A visit was carried out, or it is on the stack. -/
def Visit.Covered (seen : Nat) (acc : List Nat) (visits : List Visit) : Visit → Prop
  | .enter rounds j => seen.testBit (mark base size rounds j) = true ∨ .enter rounds j ∈ visits
  | .leave j => j ∈ acc ∨ .leave j ∈ visits

/-- The state of the search. -/
structure Progress (seen : Nat) (acc : List Nat) (visits : List Visit) : Prop where
  sound : ∀ v ∈ visits, v.Sound step most base
  found : ∀ j ∈ acc, (Visit.leave j).Sound step most base
  /-- After the last round the search stops. -/
  last : ∀ {rounds j}, base ≤ j → j ≤ size → seen.testBit (mark base size rounds j) = true →
    most = some rounds → j ∈ acc
  /-- Before it, nothing that follows is forgotten. -/
  next : ∀ {rounds j}, base ≤ j → j ≤ size → seen.testBit (mark base size rounds j) = true →
    most ≠ some rounds → ∀ v ∈ visitsAfter most.isSome greedy rounds j (step j),
      v.Covered base size seen acc visits

variable {step most greedy base size}

/-- After a visit the place is left, or one of the next places is entered,
unless it is the same one. -/
theorem mem_visitsAfter {bounded : Bool} {rounds j : Nat} {next : List Nat} {v : Visit} :
    v ∈ visitsAfter bounded greedy rounds j next ↔
      v = .leave j ∨ ∃ k ∈ next, v =
        if bounded then .enter (rounds + 1) k else if k = j then .leave j else .enter 0 k := by
  unfold visitsAfter
  cases greedy with
  | true => simp [eq_comm, or_comm]
  | false => simp [eq_comm]

/-- There is one visit for each next place, and one more. -/
theorem length_visitsAfter (bounded : Bool) (rounds j : Nat) (next : List Nat) :
    (visitsAfter bounded greedy rounds j next).length = next.length + 1 := by
  unfold visitsAfter
  cases greedy with
  | true => simp
  | false => simp

/-- Different visits have different bits. -/
theorem mark_inj {rounds rounds' j j' : Nat} (hj : base ≤ j ∧ j ≤ size) (hj' : base ≤ j' ∧ j' ≤ size)
    (h : mark base size rounds j = mark base size rounds' j') : rounds = rounds' ∧ j = j' := by
  have hlt : j - base < size + 1 - base := by omega
  have hlt' : j' - base < size + 1 - base := by omega
  have hpos : 0 < size + 1 - base := by omega
  unfold mark at h
  have hrounds : rounds = rounds' := by
    have hdiv := congrArg (· / (size + 1 - base)) h
    simpa [Nat.mul_add_div, Nat.mul_comm _ (size + 1 - base), Nat.mul_add_div hpos,
      Nat.div_eq_of_lt hlt, Nat.div_eq_of_lt hlt'] using hdiv
  subst hrounds
  exact ⟨rfl, by omega⟩

/-- Every visit has a bit among the marks. -/
theorem mark_lt {rounds j : Nat} (hj : base ≤ j ∧ j ≤ size) (hbound : ∀ m ∈ most, rounds ≤ m)
    (hfree : most = none → rounds = 0) : mark base size rounds j < marks most base size := by
  have hle : rounds ≤ most.getD 0 := by
    cases most with
    | none => rw [hfree rfl]; exact Nat.zero_le _
    | some m => exact hbound m rfl
  have hmul := Nat.mul_le_mul_right (size + 1 - base) hle
  unfold mark marks
  rw [Nat.add_mul, Nat.one_mul]
  omega

/-- A place that is entered is in the input, and not before the base. -/
theorem Forward.sound_enter (h : Forward size step) (hbase : base ≤ size) {rounds j : Nat}
    (hv : (Visit.enter rounds j).Sound step most base) : base ≤ j ∧ j ≤ size := by
  obtain ⟨-, -, n, hn, -⟩ := hv
  exact h.rounds_le hbase hn

/-- A visit whose rounds are not over goes on to places that rounds lead
to. -/
theorem Visit.Sound.next {rounds j : Nat} (hv : (Visit.enter rounds j).Sound step most base)
    (hmost : most ≠ some rounds) {v : Visit}
    (hmem : v ∈ visitsAfter most.isSome greedy rounds j (step j)) : v.Sound step most base := by
  obtain ⟨hfree, hbound, n, hn, hcount⟩ := hv
  have hleave : ∀ m ∈ most, n ≤ m := by
    intro m hm
    rw [hcount (by rw [hm]; exact Option.some_ne_none m)]
    exact hbound m hm
  rcases mem_visitsAfter.mp hmem with rfl | ⟨k, hk, rfl⟩
  · exact ⟨n, hleave, hn⟩
  · cases most with
    | none =>
        -- Without a bound the rounds are not counted.
        show Visit.Sound step none base (if k = j then .leave j else .enter 0 k)
        split
        · exact ⟨n, hleave, hn⟩
        · exact ⟨fun _ => rfl, fun m hm => (by cases hm), n + 1, hn.snoc hk,
            fun hne => absurd rfl hne⟩
    | some m =>
        have hrounds := hbound m rfl
        have hne : rounds ≠ m := fun heq => hmost (by rw [heq])
        refine ⟨fun hnone => (by cases hnone), ?_, n + 1, hn.snoc hk, fun _ => ?_⟩
        · rintro _ ⟨⟩
          omega
        · rw [hcount (Option.some_ne_none m)]

section Step

variable {seen : Nat} {acc : List Nat} {visits : List Visit} {rounds j : Nat}

/-- The state covers nothing less than the former one. -/
def Keeps (base size seen : Nat) (acc : List Nat) (visits : List Visit) (seen' : Nat)
    (acc' : List Nat) (visits' : List Visit) : Prop :=
  ∀ v : Visit, v.Covered base size seen acc visits → v.Covered base size seen' acc' visits'

/-- A place is left. -/
theorem Progress.leave (h : Progress step most greedy base size seen acc (.leave j :: visits)) :
    Keeps base size seen acc (.leave j :: visits) seen (j :: acc) visits ∧
      Progress step most greedy base size seen (j :: acc) visits := by
  have hkeeps : Keeps base size seen acc (.leave j :: visits) seen (j :: acc) visits := by
    intro v hv
    cases v with
    | enter r k => simpa [Visit.Covered] using hv
    | leave k =>
        simp only [Visit.Covered, List.mem_cons, Visit.leave.injEq] at hv ⊢
        tauto
  refine ⟨hkeeps, fun v hv => h.sound v (List.mem_cons_of_mem _ hv), fun k hk => ?_,
    fun hb hs hbit hm => List.mem_cons_of_mem _ (h.last hb hs hbit hm),
    fun hb hs hbit hm v hv => hkeeps v (h.next hb hs hbit hm v hv)⟩
  rcases List.mem_cons.mp hk with rfl | hk
  · exact h.sound _ List.mem_cons_self
  · exact h.found k hk

/-- A place was entered before. -/
theorem Progress.again
    (h : Progress step most greedy base size seen acc (.enter rounds j :: visits))
    (hbit : seen.testBit (mark base size rounds j) = true) :
    Keeps base size seen acc (.enter rounds j :: visits) seen acc visits ∧
      Progress step most greedy base size seen acc visits := by
  have hkeeps : Keeps base size seen acc (.enter rounds j :: visits) seen acc visits := by
    intro v hv
    cases v with
    | leave k => simpa [Visit.Covered] using hv
    | enter r k =>
        simp only [Visit.Covered, List.mem_cons, Visit.enter.injEq] at hv ⊢
        rcases hv with hv | ⟨rfl, rfl⟩ | hv
        · exact Or.inl hv
        · exact Or.inl hbit
        · exact Or.inr hv
  exact ⟨hkeeps, fun v hv => h.sound v (List.mem_cons_of_mem _ hv), h.found, h.last,
    fun hb hs hbit hm v hv => hkeeps v (h.next hb hs hbit hm v hv)⟩

/-- Entering a place marks it and covers at least what was covered. -/
theorem keeps_insert {acc' : List Nat} {visits' : List Visit} (hacc : acc ⊆ acc')
    (hvisits : visits ⊆ visits') :
    Keeps base size seen acc (.enter rounds j :: visits) (seen ||| 1 <<< mark base size rounds j)
      acc' visits' := by
  intro v hv
  cases v with
  | leave k =>
      simp only [Visit.Covered, List.mem_cons, reduceCtorEq, false_or] at hv ⊢
      exact hv.imp (fun hk => hacc hk) (fun hk => hvisits hk)
  | enter r k =>
      simp only [Visit.Covered, List.mem_cons, Visit.enter.injEq, testBit_insert, Bool.or_eq_true,
        decide_eq_true_eq] at hv ⊢
      rcases hv with hv | ⟨rfl, rfl⟩ | hv
      · exact Or.inl (Or.inl hv)
      · exact Or.inl (Or.inr rfl)
      · exact Or.inr (hvisits hv)

/-- A place is entered after the last round. -/
theorem Progress.stop (hstep : Forward size step) (hbase : base ≤ size)
    (h : Progress step most greedy base size seen acc (.enter rounds j :: visits))
    (hmost : most = some rounds) :
    Keeps base size seen acc (.enter rounds j :: visits) (seen ||| 1 <<< mark base size rounds j)
        (j :: acc) visits ∧
      Progress step most greedy base size (seen ||| 1 <<< mark base size rounds j) (j :: acc)
        visits := by
  have hsound := h.sound _ List.mem_cons_self
  have hj := hstep.sound_enter hbase hsound
  have hkeeps : Keeps base size seen acc (.enter rounds j :: visits)
      (seen ||| 1 <<< mark base size rounds j) (j :: acc) visits :=
    keeps_insert (List.subset_cons_self _ _) (List.Subset.refl _)
  refine ⟨hkeeps, fun v hv => h.sound v (List.mem_cons_of_mem _ hv), fun k hk => ?_,
    fun {r k} hb hs hbit hm => ?_, fun {r k} hb hs hbit hm v hv => ?_⟩
  · -- The new place was reached by these rounds.
    rcases List.mem_cons.mp hk with rfl | hk
    · obtain ⟨-, hbound, n, hn, hcount⟩ := hsound
      refine ⟨n, fun m hm => ?_, hn⟩
      rw [hcount (by rw [hmost]; exact Option.some_ne_none _)]
      exact hbound m hm
    · exact h.found k hk
  · rw [testBit_insert, Bool.or_eq_true, decide_eq_true_eq] at hbit
    rcases hbit with hbit | heq
    · exact List.mem_cons_of_mem _ (h.last hb hs hbit hm)
    · rw [(mark_inj hj ⟨hb, hs⟩ heq).2]
      exact List.mem_cons_self
  · rw [testBit_insert, Bool.or_eq_true, decide_eq_true_eq] at hbit
    rcases hbit with hbit | heq
    · exact hkeeps v (h.next hb hs hbit hm v hv)
    · rw [← (mark_inj hj ⟨hb, hs⟩ heq).1] at hm
      exact absurd hmost hm

/-- A place is entered before the last round. -/
theorem Progress.enter (hstep : Forward size step) (hbase : base ≤ size)
    (h : Progress step most greedy base size seen acc (.enter rounds j :: visits))
    (hmost : most ≠ some rounds) :
    Keeps base size seen acc (.enter rounds j :: visits) (seen ||| 1 <<< mark base size rounds j)
        acc (visitsAfter most.isSome greedy rounds j (step j) ++ visits) ∧
      Progress step most greedy base size (seen ||| 1 <<< mark base size rounds j) acc
        (visitsAfter most.isSome greedy rounds j (step j) ++ visits) := by
  have hsound := h.sound _ List.mem_cons_self
  have hj := hstep.sound_enter hbase hsound
  have hkeeps : Keeps base size seen acc (.enter rounds j :: visits)
      (seen ||| 1 <<< mark base size rounds j) acc
      (visitsAfter most.isSome greedy rounds j (step j) ++ visits) :=
    keeps_insert (List.Subset.refl _) (List.subset_append_right _ _)
  refine ⟨hkeeps, fun v hv => ?_, h.found, fun {r k} hb hs hbit hm => ?_,
    fun {r k} hb hs hbit hm v hv => ?_⟩
  · rcases List.mem_append.mp hv with hv | hv
    · exact hsound.next hmost hv
    · exact h.sound v (List.mem_cons_of_mem _ hv)
  · rw [testBit_insert, Bool.or_eq_true, decide_eq_true_eq] at hbit
    rcases hbit with hbit | heq
    · exact h.last hb hs hbit hm
    · rw [← (mark_inj hj ⟨hb, hs⟩ heq).1] at hm
      exact absurd hm hmost
  · rw [testBit_insert, Bool.or_eq_true, decide_eq_true_eq] at hbit
    rcases hbit with hbit | heq
    · exact hkeeps v (h.next hb hs hbit hm v hv)
    · -- What follows was just pushed.
      obtain ⟨rfl, rfl⟩ := mark_inj hj ⟨hb, hs⟩ heq
      have hpushed := List.mem_append_left visits hv
      cases v with
      | enter r k => exact Or.inr hpushed
      | leave k => exact Or.inr hpushed

end Step

/-! ### The whole search -/

/-- The number of bits below `limit` that are not set. -/
def unseen (limit seen : Nat) : Nat :=
  ((Finset.range limit).filter fun m => seen.testBit m = false).card

/-- No more bits are unset than there are. -/
theorem unseen_le (limit seen : Nat) : unseen limit seen ≤ limit := by
  have h := Finset.card_filter_le (Finset.range limit) fun m => seen.testBit m = false
  rwa [Finset.card_range] at h

/-- Setting a bit leaves fewer of them. -/
theorem unseen_insert_lt {limit seen m : Nat} (hm : m < limit) (hbit : seen.testBit m = false) :
    unseen limit (seen ||| 1 <<< m) < unseen limit seen := by
  refine Finset.card_lt_card (Finset.ssubset_iff_of_subset (fun k hk => ?_) |>.mpr ⟨m, ?_, ?_⟩)
  · simp only [Finset.mem_filter, testBit_insert, Bool.or_eq_false_iff] at hk ⊢
    exact ⟨hk.1, hk.2.1⟩
  · simp [hm, hbit]
  · simp

/-- With enough fuel the search carries out every visit. -/
theorem explore_spec (hstep : Forward size step) (hbase : base ≤ size) {fuel seen : Nat}
    {acc : List Nat} {visits : List Visit}
    (h : Progress step most greedy base size seen acc visits)
    (hfuel : visits.length +
      unseen (marks most base size) seen * (size + 1 - base + 2) ≤ fuel) :
    ∃ seen' acc', explore step most greedy base (size + 1 - base) fuel visits seen acc
        = acc'.reverse ∧
      Keeps base size seen acc visits seen' acc' [] ∧
      Progress step most greedy base size seen' acc' [] := by
  induction fuel generalizing seen acc visits with
  | zero =>
      have hnil : visits = [] := List.length_eq_zero_iff.mp (by omega)
      subst hnil
      exact ⟨seen, acc, by rw [explore], fun _ hv => hv, h⟩
  | succ fuel ih =>
      -- A visit that is carried out leaves a state from which the search goes on.
      have hgo : ∀ {seen' acc' visits'},
          Keeps base size seen acc visits seen' acc' visits' ∧
            Progress step most greedy base size seen' acc' visits' →
          visits'.length + unseen (marks most base size) seen' * (size + 1 - base + 2) ≤ fuel →
          ∃ seen'' acc'', explore step most greedy base (size + 1 - base) fuel visits' seen' acc'
              = acc''.reverse ∧
            Keeps base size seen acc visits seen'' acc'' [] ∧
            Progress step most greedy base size seen'' acc'' [] := by
        rintro seen' acc' visits' ⟨hkeeps, hprogress⟩ hle
        obtain ⟨seen'', acc'', heq, hkeeps', hprogress'⟩ := ih hprogress hle
        exact ⟨seen'', acc'', heq, fun v hv => hkeeps' v (hkeeps v hv), hprogress'⟩
      cases visits with
      | nil =>
          refine ⟨seen, acc, ?_, fun _ hv => hv, h⟩
          simp [explore]
      | cons v visits =>
          rw [List.length_cons] at hfuel
          cases v with
          | leave j =>
              rw [explore]
              exact hgo h.leave (by omega)
          | enter rounds j =>
              have hsound := h.sound _ List.mem_cons_self
              have hj := hstep.sound_enter hbase hsound
              have hmark : rounds * (size + 1 - base) + (j - base) = mark base size rounds j := rfl
              rw [explore]
              simp only [hmark]
              by_cases hbit : seen.testBit (mark base size rounds j) = true
              · rw [if_pos hbit]
                exact hgo (h.again hbit) (by omega)
              · rw [if_neg hbit]
                rw [Bool.not_eq_true] at hbit
                have hlt := unseen_insert_lt (mark_lt hj hsound.2.1 hsound.1) hbit
                have hmul := Nat.mul_le_mul_right (size + 1 - base + 2) hlt
                rw [Nat.succ_mul] at hmul
                by_cases hmost : most = some rounds
                · rw [if_pos (by rw [hmost, beq_self_eq_true])]
                  exact hgo (h.stop hstep hbase hmost) (by omega)
                · rw [if_neg (by rwa [beq_iff_eq])]
                  refine hgo (h.enter hstep hbase hmost) ?_
                  have hnext := hstep.length_step_le hj.1 hj.2
                  rw [List.length_append, length_visitsAfter]
                  omega

/-- When no visit is left, everything that rounds lead to was found. -/
theorem Progress.mem_of_rounds (hstep : Forward size step) {seen : Nat} {acc : List Nat}
    (h : Progress step most greedy base size seen acc []) {n rounds j k : Nat}
    (hbase : base ≤ j) (hsize : j ≤ size)
    (hseen : seen.testBit (mark base size rounds j) = true)
    (hfree : most = none → rounds = 0) (hbound : ∀ m ∈ most, rounds + n ≤ m)
    (hr : Rounds (LeadsTo step) n j k) : k ∈ acc := by
  induction n generalizing rounds j with
  | zero =>
      -- No round is left. The place was found after the last round, or when it was left.
      obtain rfl : j = k := hr
      by_cases hmost : most = some rounds
      · exact h.last hbase hsize hseen hmost
      · have hleave := h.next hbase hsize hseen hmost _ (mem_visitsAfter.mpr (Or.inl rfl))
        simpa [Visit.Covered] using hleave
  | succ n ih =>
      obtain ⟨a, ha, hr⟩ := hr
      have hle := hstep.le hsize ha
      have hle' := hstep.le_size hsize ha
      -- There is a round to come, so these are not all.
      have hmost : most ≠ some rounds := by
        intro hmost
        have hlt := hbound rounds hmost
        omega
      have hnext := h.next hbase hsize hseen hmost _
        (mem_visitsAfter.mpr (Or.inr ⟨a, ha, rfl⟩))
      cases most with
      | none =>
          obtain rfl := hfree rfl
          by_cases haj : a = j
          · -- The round stays where it is.
            subst haj
            exact ih hbase hsize hseen hfree (fun m hm => by cases hm) hr
          · have hcovered : (Visit.enter 0 a).Covered base size seen acc [] := by
              simpa [haj] using hnext
            have hbit : seen.testBit (mark base size 0 a) = true := by
              simpa [Visit.Covered] using hcovered
            exact ih (by omega) hle' hbit hfree (fun m hm => by cases hm) hr
      | some m =>
          -- The place after the next round is entered with one round more.
          have hbit : seen.testBit (mark base size (rounds + 1) a) = true := by
            simpa [Visit.Covered] using hnext
          refine ih (by omega) hle' hbit (fun hnone => by cases hnone) ?_ hr
          · intro m' hm'
            have hlt := hbound m' hm'
            omega

/-- **The search for repetitions.** It finds the places that some number of
rounds up to the bound leads to, and each of them once. -/
theorem mem_roundsFrom_iff (hstep : Forward size step) (hbase : base ≤ size) {k : Nat} :
    k ∈ roundsFrom step most greedy size base ↔
      ∃ n, (∀ m ∈ most, n ≤ m) ∧ Rounds (LeadsTo step) n base k := by
  have hstart : Progress step most greedy base size 0 [] [.enter 0 base] := by
    constructor
    case sound =>
      intro v hv
      rw [List.mem_singleton.mp hv]
      exact ⟨fun _ => rfl, fun m _ => Nat.zero_le m, 0, rfl, fun _ => rfl⟩
    case found => exact fun j hj => by cases hj
    case last => exact fun _ _ hbit _ => by simp at hbit
    case next => exact fun _ _ hbit _ => by simp at hbit
  -- A visit costs fuel when it sets a bit, and there are no more bits than marks.
  have hfuel : [Visit.enter 0 base].length + unseen (marks most base size) 0 *
      (size + 1 - base + 2) ≤ (most.getD 0 + 1) * (size + 1 - base) * (size + 1 - base + 2) + 1 := by
    have hmul := Nat.mul_le_mul_right (size + 1 - base + 2) (unseen_le (marks most base size) 0)
    rw [List.length_singleton]
    unfold marks at hmul ⊢
    omega
  obtain ⟨seen, acc, heq, hkeeps, hprogress⟩ := explore_spec hstep hbase hstart hfuel
  have hfound : ∀ j ∈ acc, ∃ n, (∀ m ∈ most, n ≤ m) ∧ Rounds (LeadsTo step) n base j :=
    hprogress.found
  have hacc : ∀ j ∈ acc.reverse, base ≤ j := by
    intro j hj
    obtain ⟨n, -, hn⟩ := hfound j (List.mem_reverse.mp hj)
    exact (hstep.rounds_le hbase hn).1
  have hentered := hkeeps (.enter 0 base) (Or.inr List.mem_cons_self)
  unfold roundsFrom
  simp only
  rw [heq, mem_distinct hacc, List.mem_reverse]
  constructor
  · exact hfound k
  · rintro ⟨n, hbound, hr⟩
    have hbit : seen.testBit (mark base size 0 base) = true := by
      simpa [Visit.Covered] using hentered
    exact hprogress.mem_of_rounds hstep (Nat.le_refl base) hbase hbit (fun _ => rfl)
      (fun m hm => by rw [Nat.zero_add]; exact hbound m hm) hr

end Explore
end ScriptGate.Pattern
