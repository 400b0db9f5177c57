import Mathlib.Data.Char
import Mathlib.Data.List.Lex
import Mathlib.Data.List.SplitBy
import Mathlib.Data.Sum.Order
import Mathlib.Order.Compare
import Mathlib.Order.PiLex
import ScriptGate.Proofs.Version.Successor

/-!
# `ScriptGate.Proofs.Version.Order`: versions in a linear order

`orderKey` reads a version as an infinite sequence: its segments and then
`0` for ever, each segment as the row of its maximal runs, and each run as
a number or as a word. Words come before numbers, rows are ordered like
words in a dictionary, and so are the sequences. All of this is a linear
order, and `compare_compares` says that `compare` is the order of the keys.

Nothing else is needed for the laws of a preorder: versions are equal if
they have the same key, and otherwise one of them is the smaller one.

`compareSegments` stops after the longer of its two rows, where both
sequences go on with the same zeros. The runs of `runs` are those of
`List.splitBy` (`map_snd_runs`), and `compare_number` compares two of them.
-/

set_option autoImplicit false

namespace ScriptGate.Version

open Ordering (Compares)
open Text (isDigit natOfDigits)

/-! ### Keys -/

/-- What a run counts as: a word, or a number that comes after all
words. -/
def runValue (run : Text) : Lex (Text ⊕ Nat) :=
  if run.all isDigit then toLex (.inr (natOfDigits run)) else toLex (.inl run)

/-- The maximal runs of digits and of other characters. -/
def segmentKey (segment : Text) : List (Lex (Text ⊕ Nat)) :=
  (segment.splitBy fun a b => isDigit a == isDigit b).map runValue

/-- Segments, followed by `0` for ever. -/
def sequenceKey (ss : List Text) : Lex (Nat → List (Lex (Text ⊕ Nat))) :=
  toLex fun i => segmentKey (ss.getD i zeroSegment)

/-- The place of a version in the order of versions. -/
def orderKey (version : Text) : Lex (Nat → List (Lex (Text ⊕ Nat))) :=
  sequenceKey (segments version)

/-! ### Orders of rows and of sequences -/

/-- Rows compare as the rows of what their elements count as. -/
theorem compareLex_compares {α β γ : Type} [LinearOrder γ] {cmp : β → β → Ordering} {g : α → β}
    {f : α → γ} {xs ys : List α}
    (h : ∀ x ∈ xs, ∀ y ∈ ys, (cmp (g x) (g y)).Compares (f x) (f y)) :
    (List.compareLex cmp (xs.map g) (ys.map g)).Compares (xs.map f) (ys.map f) := by
  induction xs generalizing ys with
  | nil =>
      cases ys with
      | nil => exact rfl
      | cons y ys => exact List.Lex.nil
  | cons x xs ih =>
      cases ys with
      | nil => exact List.Lex.nil
      | cons y ys =>
          have hxy := h x List.mem_cons_self y List.mem_cons_self
          have hrest := ih fun a ha b hb =>
            h a (List.mem_cons_of_mem _ ha) b (List.mem_cons_of_mem _ hb)
          simp only [List.map_cons, List.compareLex_cons_cons]
          -- The first elements decide, or else what follows them.
          cases hcmp : cmp (g x) (g y) with
          | lt =>
              rw [hcmp] at hxy
              exact List.Lex.rel hxy
          | gt =>
              rw [hcmp] at hxy
              exact List.Lex.rel hxy
          | eq =>
              rw [hcmp] at hxy
              rw [Ordering.eq_then, show f x = f y from hxy]
              cases hcmp' : List.compareLex cmp (xs.map g) (ys.map g) with
              | lt =>
                  rw [hcmp'] at hrest
                  exact List.Lex.cons hrest
              | gt =>
                  rw [hcmp'] at hrest
                  exact List.Lex.cons hrest
              | eq =>
                  rw [hcmp'] at hrest
                  exact congrArg (f y :: ·) hrest

/-- Sequences compare as their first elements, or else as what follows. -/
theorem then_compares {α : Type} [LinearOrder α] {first others : Ordering} {f g : Nat → α}
    (hfirst : first.Compares (f 0) (g 0))
    (hothers : others.Compares (toLex fun i => f (i + 1)) (toLex fun i => g (i + 1))) :
    (first.then others).Compares (toLex f) (toLex g) := by
  -- A difference further on is the first one if there is none at the start.
  have hlater : ∀ {f g : Nat → α}, f 0 = g 0 →
      toLex (fun i => f (i + 1)) < toLex (fun i => g (i + 1)) → toLex f < toLex g := by
    rintro f g hzero ⟨i, hsame, hlt⟩
    refine ⟨i + 1, fun j hj => ?_, hlt⟩
    cases j with
    | zero => exact hzero
    | succ j => exact hsame j (Nat.lt_of_succ_lt_succ hj)
  have hnone : ∀ j : Nat, ¬ j < 0 := Nat.not_lt_zero
  cases first with
  | lt => exact ⟨0, fun j hj => absurd hj (hnone j), hfirst⟩
  | gt => exact ⟨0, fun j hj => absurd hj (hnone j), hfirst⟩
  | eq =>
      have hzero : f 0 = g 0 := hfirst
      cases others with
      | lt => exact hlater hzero hothers
      | gt => exact hlater hzero.symm hothers
      | eq =>
          refine congrArg toLex (funext fun i => ?_)
          cases i with
          | zero => exact hzero
          | succ i => exact congrFun (toLex.injective hothers) i

/-! ### Segments -/

/-- Cutting a segment into runs loses nothing. -/
theorem flatten_runs (s : Text) : ((runs s).map Prod.snd).flatten = s := by
  induction s with
  | nil => rfl
  | cons c s ih =>
      rcases runs_cons_cases c s with ⟨r, rs, hruns, hcons⟩ | ⟨-, hcons⟩
      · rw [hruns, List.map_cons, List.flatten_cons] at ih
        rw [hcons, List.map_cons, List.flatten_cons, List.cons_append, ih]
      · rw [hcons, List.map_cons, List.flatten_cons, ih, List.singleton_append]

/-- A run has characters, and all of them are of its class. -/
theorem class_of_mem_runs {s r : Text} {k : Bool} (h : (k, r) ∈ runs s) :
    r ≠ [] ∧ ∀ c ∈ r, isDigit c = k := by
  induction s generalizing k r with
  | nil => cases h
  | cons c s ih =>
      rcases runs_cons_cases c s with ⟨r', rs, hruns, hcons⟩ | ⟨-, hcons⟩
      · rw [hcons] at h
        rcases List.mem_cons.mp h with heq | h
        · obtain ⟨rfl, rfl⟩ := Prod.mk.inj heq
          refine ⟨List.cons_ne_nil _ _, fun d hd => ?_⟩
          rcases List.mem_cons.mp hd with rfl | hd
          · rfl
          · exact (ih (by rw [hruns]; exact List.mem_cons_self)).2 d hd
        · exact ih (by rw [hruns]; exact List.mem_cons_of_mem _ h)
      · rw [hcons] at h
        rcases List.mem_cons.mp h with heq | h
        · obtain ⟨rfl, rfl⟩ := Prod.mk.inj heq
          refine ⟨List.cons_ne_nil _ _, fun d hd => ?_⟩
          rw [List.mem_singleton.mp hd]
        · exact ih h

/-- Neighbouring runs are of different classes. -/
theorem isChain_runs (s : Text) : (runs s).IsChain fun x y => x.1 ≠ y.1 := by
  induction s with
  | nil => exact List.isChain_nil
  | cons c s ih =>
      rcases runs_cons_cases c s with ⟨r, rs, hruns, hcons⟩ | ⟨hne, hcons⟩
      · rw [hruns, List.isChain_cons] at ih
        rw [hcons, List.isChain_cons]
        exact ih
      · rw [hcons, List.isChain_cons]
        exact ⟨hne, ih⟩

/-- So they are the maximal runs. -/
theorem map_snd_runs (s : Text) :
    (runs s).map Prod.snd = s.splitBy fun a b => isDigit a == isDigit b := by
  refine (List.splitBy_eq_iff.mpr ⟨(flatten_runs s).symm, ?_, ?_, ?_⟩).symm
  · intro h
    obtain ⟨⟨k, r⟩, hmem, rfl⟩ := List.mem_map.mp h
    exact (class_of_mem_runs hmem).1 rfl
  · intro r h
    obtain ⟨⟨k, r⟩, hmem, rfl⟩ := List.mem_map.mp h
    have hclass := (class_of_mem_runs hmem).2
    refine (List.pairwise_of_forall_mem_list fun a ha b hb => ?_).isChain
    rw [hclass a ha, hclass b hb, beq_self_eq_true]
  · refine (List.isChain_map _).mpr ((isChain_runs s).imp_of_mem_imp ?_)
    intro x y hx hy hne
    obtain ⟨hx', hxclass⟩ := class_of_mem_runs hx
    obtain ⟨hy', hyclass⟩ := class_of_mem_runs hy
    refine ⟨hx', hy', ?_⟩
    rw [hxclass _ (List.getLast_mem hx'), hyclass _ (List.head_mem hy'),
      beq_eq_false_iff_ne.mpr hne]

/-- A run of digits counts as their number. -/
theorem runValue_of_digits {r : Text} (h : ∀ c ∈ r, isDigit c = true) :
    runValue r = toLex (.inr (natOfDigits r)) :=
  if_pos (List.all_eq_true.mpr h)

/-- A run of other characters counts as it is spelled. -/
theorem runValue_of_others {r : Text} (hne : r ≠ []) (h : ∀ c ∈ r, isDigit c = false) :
    runValue r = toLex (.inl r) := by
  obtain ⟨c, hc⟩ := List.exists_mem_of_ne_nil r hne
  refine if_neg fun hall => ?_
  have hdigit := List.all_eq_true.mp hall c hc
  rw [h c hc] at hdigit
  cases hdigit

/-- Words compare by code points. -/
theorem word_compares (a b : Text) : (List.compareLex Ord.compare a b).Compares a b := by
  have h := @compareLex_compares Char Char Char _ Ord.compare id id a b fun c _ d _ =>
    (compare_iff c d).mp rfl
  rwa [List.map_id, List.map_id] at h

/-- Tokens compare as the values of their runs. -/
theorem token_compares {s t : Text} {x y : Bool × Text} (hx : x ∈ runs s) (hy : y ∈ runs t) :
    (Token.compare (tokenOfRun x) (tokenOfRun y)).Compares (runValue x.2) (runValue y.2) := by
  obtain ⟨k, r⟩ := x
  obtain ⟨k', r'⟩ := y
  obtain ⟨hr, hclass⟩ := class_of_mem_runs hx
  obtain ⟨hr', hclass'⟩ := class_of_mem_runs hy
  cases k with
  | true =>
      rw [runValue_of_digits hclass]
      cases k' with
      | true =>
          rw [runValue_of_digits hclass', compare_number hclass hclass']
          exact Sum.Lex.inr_strictMono.compares.mpr ((compare_iff _ _).mp rfl)
      | false =>
          rw [runValue_of_others hr' hclass']
          exact Sum.Lex.inl_lt_inr _ _
  | false =>
      rw [runValue_of_others hr hclass]
      cases k' with
      | true =>
          rw [runValue_of_digits hclass']
          exact Sum.Lex.inl_lt_inr _ _
      | false =>
          rw [runValue_of_others hr' hclass']
          exact Sum.Lex.inl_strictMono.compares.mpr (word_compares r r')

/-- Segments compare as their rows of runs. -/
theorem compareSegment_compares (s t : Text) :
    (compareSegment s t).Compares (segmentKey s) (segmentKey t) := by
  rw [segmentKey, segmentKey, ← map_snd_runs, ← map_snd_runs, List.map_map, List.map_map]
  exact compareLex_compares fun x hx y hy => token_compares hx hy

/-! ### Versions -/

/-- A version that has ended is compared as if zeros followed. -/
theorem compareNil_compares (ss : List Text) :
    (compareNil ss).Compares (sequenceKey []) (sequenceKey ss) := by
  induction ss with
  | nil => exact rfl
  | cons s ss ih => exact then_compares (compareSegment_compares _ _) ih

/-- Rows of segments compare as sequences. -/
theorem compareSegments_compares (ss ts : List Text) :
    (compareSegments ss ts).Compares (sequenceKey ss) (sequenceKey ts) := by
  induction ss generalizing ts with
  | nil =>
      rw [compareSegments]
      exact compareNil_compares ts
  | cons s ss ih =>
      cases ts with
      | nil => exact then_compares (compareSegment_compares _ _) (ih [])
      | cons t ts => exact then_compares (compareSegment_compares _ _) (ih ts)

/-- Versions compare as their places. -/
theorem compare_compares (a b : Text) : (compare a b).Compares (orderKey a) (orderKey b) :=
  compareSegments_compares _ _

/-- Two versions are alike if and only if their keys are equal. -/
theorem compare_eq_eq_iff (a b : Text) : compare a b = .eq ↔ orderKey a = orderKey b :=
  (compare_compares a b).eq_eq

/-- One version does not come after another if and only if its key does not. -/
theorem compare_ne_gt_iff (a b : Text) : compare a b ≠ .gt ↔ orderKey a ≤ orderKey b :=
  (compare_compares a b).ne_gt

/-- A version is newer if and only if its key is larger. -/
theorem isNewer_iff (a b : Text) : isNewer a b = true ↔ orderKey b < orderKey a := by
  rw [isNewer, beq_iff_eq]
  exact (compare_compares a b).eq_gt

/-- **The order of versions.** Versions compare as their keys, which are
linearly ordered. So the comparison is a total preorder, in which equal
versions cannot be told apart. -/
theorem compare_is_total_preorder (a b c : Text) :
    (compare a b).Compares (orderKey a) (orderKey b) ∧
      compare a a = .eq ∧
      compare b a = (compare a b).swap ∧
      (compare a b ≠ .gt → compare b c ≠ .gt → compare a c ≠ .gt) ∧
      Equivalence (fun v w => compare v w = .eq) ∧
      (compare a b = .eq → compare a c = compare b c ∧ compare c a = compare c b) := by
  refine ⟨compare_compares a b, (compare_eq_eq_iff a a).mpr rfl, ?_, ?_, ?_, ?_⟩
  · exact (compare_compares b a).inj (compare_compares a b).swap
  · intro hab hbc
    rw [compare_ne_gt_iff] at hab hbc ⊢
    exact hab.trans hbc
  · simp only [compare_eq_eq_iff]
    exact ⟨fun _ => rfl, fun h => h.symm, fun h h' => h.trans h'⟩
  · intro hab
    have hkey := (compare_eq_eq_iff a b).mp hab
    -- The same key compares in the same way.
    have hleft := compare_compares a c
    have hright := compare_compares c a
    rw [hkey] at hleft hright
    exact ⟨hleft.inj (compare_compares b c), hright.inj (compare_compares c b)⟩

/-- Versions of different lengths, with a number in front of a word and
one behind it. -/
theorem compare_is_total_preorder_padded :
    compare "1".toList "01.0".toList = .eq ∧
      compare "1".toList "1.0.0b2".toList = compare "01.0".toList "1.0.0b2".toList ∧
      compare "01.0".toList "1.0.0b2".toList ≠ .gt ∧
      compare "1.0.0b2".toList "1.0.0b10".toList ≠ .gt ∧
      compare "01.0".toList "1.0.0b10".toList ≠ .gt := by
  have heq : compare "1".toList "01.0".toList = .eq := by decide +kernel
  have hle : compare "01.0".toList "1.0.0b2".toList ≠ .gt := by decide +kernel
  have hle' : compare "1.0.0b2".toList "1.0.0b10".toList ≠ .gt := by decide +kernel
  obtain ⟨-, -, -, -, -, hsame⟩ :=
    compare_is_total_preorder "1".toList "01.0".toList "1.0.0b2".toList
  obtain ⟨-, -, -, htrans, -, -⟩ :=
    compare_is_total_preorder "01.0".toList "1.0.0b2".toList "1.0.0b10".toList
  exact ⟨heq, (hsame heq).1, hle, hle', htrans hle hle'⟩

end ScriptGate.Version
