import Mathlib.Algebra.Order.Field.Rat
import Mathlib.Tactic.NormNum
import ScriptGate.Proofs.Review.Failures

/-!
# `ScriptGate.Proofs.Review.Minified`: when code looks minified

A body looks minified if one of its lines is too long, or if it is long and
so are its lines on average. The average is a quotient of numbers without
fractions, so a limit is exceeded only by an average that is greater by at
least one (`lt_quotient_iff`). `minified_iff` says so for whole reviews, with
the exact average on the right-hand side.

`looksMinified?` makes the same decision one step after the other, with a
quotient that fails where there is nothing to divide by. It does not fail:
a body without lines is settled before (`looksMinified?_eq`).

An average between the limit and the next number exceeds the limit, and
nobody notices. `fractional_average_passes` is a script with such lines.
-/

set_option autoImplicit false

namespace ScriptGate.Review

/-! ### The average -/

/-- The number of characters in each line, terminators excluded. -/
def lineLengths (body : Text) : List Nat := (Text.lineContents body).map List.length

/-- The exact average of some lengths. -/
def average (lengths : List Nat) : Rat := (lengths.sum : Rat) / lengths.length

/-- A quotient without its fraction, which does not exist where nothing is
divided by. -/
def quotient? (total count : Nat) : Option Nat :=
  if count = 0 then none else some (total / count)

/-- The decision on the lengths of some lines, step by step: a line that is
too long decides at once, and so does a body that is empty or too short for
an average. -/
def looksMinified? (p : Policy) (lengths : List Nat) : Option Bool :=
  if lengths.any (p.lineLimit < ·) then some true
  else if lengths.isEmpty || lengths.sum < p.longBodyLength then some false
  else (quotient? lengths.sum lengths.length).map (p.averageLineLimit < ·)

/-- A fraction is cut off, so a limit is exceeded by one at least. -/
theorem lt_quotient_iff {count : Nat} (h : 0 < count) (limit total : Nat) :
    limit < total / count ↔ (limit + 1 : Rat) ≤ total / count := by
  have hcount : (0 : Rat) < count := by exact_mod_cast h
  rw [Nat.lt_iff_add_one_le, Nat.le_div_iff_mul_le h, le_div_iff₀ hcount]
  exact_mod_cast Iff.rfl

/-- The total that the check counts is the sum of the lengths. -/
theorem sum_eq_foldl (lengths : List Nat) : lengths.foldl (· + ·) 0 = lengths.sum := by
  rw [List.sum_eq_foldl]

/-- A body looks minified if a line is too long, or if it is long and its
lines exceed the limit by one on average. -/
theorem looksMinified_iff (p : Policy) (lengths : List Nat) :
    looksMinified p lengths = true ↔
      (∃ n ∈ lengths, p.lineLimit < n) ∨
        lengths ≠ [] ∧ p.longBodyLength ≤ lengths.sum ∧
          (p.averageLineLimit + 1 : Rat) ≤ average lengths := by
  simp only [looksMinified, sum_eq_foldl, Bool.or_eq_true, Bool.and_eq_true, List.any_eq_true,
    decide_eq_true_eq, Bool.not_eq_true', List.isEmpty_eq_false_iff, and_assoc]
  refine or_congr_right (and_congr_right fun hne => and_congr_right fun _ => ?_)
  exact lt_quotient_iff (List.length_pos_iff.mpr hne) _ _

/-- **No division by zero.** The decision is made for every body, step by
step as at once. -/
theorem looksMinified?_eq (p : Policy) (lengths : List Nat) :
    looksMinified? p lengths = some (looksMinified p lengths) := by
  simp only [looksMinified?, looksMinified, sum_eq_foldl]
  cases lengths.any (p.lineLimit < ·) with
  | true => rfl
  | false =>
      by_cases hnil : lengths = []
      · rw [hnil]
        rfl
      · -- There is a line, so there is something to divide by.
        have hlength : lengths.length ≠ 0 := fun h => hnil (List.length_eq_zero_iff.mp h)
        have hempty : lengths.isEmpty = false := List.isEmpty_eq_false_iff.mpr hnil
        rw [quotient?, if_neg hlength, hempty]
        by_cases hshort : lengths.sum < p.longBodyLength
        · simp [hshort]
        · simp [hshort, Nat.not_lt.mp hshort]

/-! ### Reviews -/

/-- The failure of a judgement is the decision on the body. -/
theorem appearsMinified_mem_judge_iff {p : Policy} {checks : Checks} {c : Candidate}
    {previous : Option Previous} (hconfirm : c.options.confirmMinified = false) :
    .appearsMinified ∈ (judge p checks c previous).failures ↔
      looksMinified p (lineLengths (Header.body c.code)) = true := by
  rw [mem_failures_judge_iff (by decide)]
  show _ ∈ minificationFailures p c.options (Header.body c.code) ↔ _
  rw [minificationFailures, hconfirm, Bool.not_false, Bool.true_and, lineLengths]
  split
  · rename_i h
    simp [h]
  · rename_i h
    simp [h]

/-- **Minified code.** Unless the submitter stands by it, code appears
minified if and only if a line of its body is too long, or the body is long
and the exact average of its lines exceeds the limit by one. The decision is
made without a division by zero. -/
theorem minified_iff (p : Policy) (checks : Checks) (c : Candidate) (previous : Option Previous)
    (hheader : Header.locate c.code ≠ none) (hconfirm : c.options.confirmMinified = false) :
    (.appearsMinified ∈ (review p checks c previous).failures ↔
      (∃ n ∈ lineLengths (Header.body c.code), p.lineLimit < n) ∨
        lineLengths (Header.body c.code) ≠ [] ∧
          p.longBodyLength ≤ (lineLengths (Header.body c.code)).sum ∧
          (p.averageLineLimit + 1 : Rat) ≤ average (lineLengths (Header.body c.code))) ∧
    ∃ answer, looksMinified? p (lineLengths (Header.body c.code)) = some answer ∧
      (answer = true ↔ .appearsMinified ∈ (review p checks c previous).failures) := by
  rw [review_eq_judge p checks hheader, ← looksMinified_iff]
  exact ⟨appearsMinified_mem_judge_iff hconfirm, _, looksMinified?_eq p _,
    (appearsMinified_mem_judge_iff hconfirm).symm⟩

/-! ### Averages at the limit -/

/-- A policy under which the lines of a body of three characters may have
one on average. -/
def shortLinePolicy : Policy :=
  { Policy.standard with averageLineLimit := 1, longBodyLength := 3 }

/-- A script of two lines, of which the first is empty. -/
def twoLineCandidate (line : String) : Candidate where
  code :=
    ("// ==UserScript==\n// @name n\n// @description d\n// @namespace s\n// @version 1\n" ++
      "// ==/UserScript==\n" ++ line).toList
  kind := .userScript
  authors := [1]
  owner := 1
  displayName := none
  options := {}
  submittedAt := .ofSeconds 0

/-- Checks that find nothing. -/
def lenientChecks : Checks := ⟨fun _ => none, fun _ => none, fun _ => false⟩

/-- Lines of two characters on average exceed the limit by one. Characters
count, not bytes, and a terminator does not. -/
theorem minified_iff_whole :
    let c := twoLineCandidate "äöüß\r\n"
    Header.locate c.code ≠ none ∧ c.options.confirmMinified = false ∧
      lineLengths (Header.body c.code) = [0, 4] ∧
      .appearsMinified ∈ (review shortLinePolicy lenientChecks c none).failures := by
  intro c
  have hheader : Header.locate c.code ≠ none := by decide +kernel
  have hlengths : lineLengths (Header.body c.code) = [0, 4] := by decide +kernel
  obtain ⟨hiff, -⟩ := minified_iff shortLinePolicy lenientChecks c none hheader rfl
  refine ⟨hheader, rfl, hlengths, hiff.mpr (Or.inr ?_)⟩
  rw [hlengths, average]
  exact ⟨List.cons_ne_nil _ _, by decide, by norm_num [shortLinePolicy]⟩

/-- Lines of one and a half characters on average exceed the limit too, and
the review does not object. -/
theorem fractional_average_passes :
    let c := twoLineCandidate "x;;\n"
    Header.locate c.code ≠ none ∧ c.options.confirmMinified = false ∧
      (lineLengths (Header.body c.code) ≠ [] ∧
        shortLinePolicy.longBodyLength ≤ (lineLengths (Header.body c.code)).sum ∧
        (shortLinePolicy.averageLineLimit : Rat) < average (lineLengths (Header.body c.code))) ∧
      .appearsMinified ∉ (review shortLinePolicy lenientChecks c none).failures := by
  intro c
  have hheader : Header.locate c.code ≠ none := by decide +kernel
  have hlengths : lineLengths (Header.body c.code) = [0, 3] := by decide +kernel
  refine ⟨hheader, rfl, ?_, by decide +kernel⟩
  rw [hlengths, average]
  exact ⟨List.cons_ne_nil _ _, by decide, by norm_num [shortLinePolicy]⟩

end ScriptGate.Review
