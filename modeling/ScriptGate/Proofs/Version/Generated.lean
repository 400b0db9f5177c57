import ScriptGate.Proofs.Calendar
import ScriptGate.Proofs.Version.Successor
import ScriptGate.Version.Generated

/-!
# `ScriptGate.Proofs.Version.Generated`: generated versions and the clock

A generated version ends in what calendar and clock show. In a year of four
digits this is a number of fourteen (`isNumeral_clockDigits`); any other
year has a sign in front, by which the version can be told
(`isGenerated_generated_iff`).

The last segments of two generated versions compare as these numbers,
which `DateTime.number_lt_iff` orders by time. So generated versions
advance with the clock (`generated_advances`).
-/

set_option autoImplicit false

namespace ScriptGate.Version

open Calendar (DateTime)
open Text (IsNumeral isDigit isNumeral_decimalPadded natOfDigits)

/-! ### The digits of the clock -/

/-- The digits are those of date and time. -/
theorem isNumeral_clockDigits {t : Instant}
    (h : 0 ≤ (DateTime.ofInstant t).year ∧ (DateTime.ofInstant t).year ≤ 9999) :
    ∃ n : Nat, IsNumeral (clockDigits t) 14 n ∧ n = (DateTime.ofInstant t).number := by
  obtain ⟨⟨hdate, hhour, hminute, hsecond⟩, -⟩ := DateTime.ofInstant_spec t
  have hmonth := hdate.month_le
  have hday := hdate.day_le_31
  rw [clockDigits]
  generalize DateTime.ofInstant t = d at *
  have hyear : IsNumeral (Calendar.yearText d.year) 4 d.year.toNat := by
    rw [Calendar.yearText, if_pos h]
    exact isNumeral_decimalPadded (by decide) (by omega)
  -- All other fields have two digits.
  have htwo : ∀ n < 100, IsNumeral (Calendar.twoDigits n) 2 n := fun n hn =>
    isNumeral_decimalPadded (by decide) hn
  refine ⟨_, ((((hyear.append (htwo d.month (by omega))).append (htwo d.day (by omega))).append
    (htwo d.hour (by omega))).append (htwo d.minute (by omega))).append
    (htwo d.second (by omega)), ?_⟩
  rw [DateTime.number, Calendar.Date.number]
  omega

/-- A generated version is recognised by its clock digits, if there are
fourteen of them. -/
theorem isGenerated_generated (t : Instant) :
    isGenerated (generated t) = ((clockDigits t).length == 14 && (clockDigits t).all isDigit) := by
  rw [isGenerated, generated, Text.dropStart?_append]

/-- Generated versions are recognized as long as years have four digits. -/
theorem isGenerated_generated_iff (t : Instant) :
    isGenerated (generated t) = true ↔
      0 ≤ (DateTime.ofInstant t).year ∧ (DateTime.ofInstant t).year ≤ 9999 := by
  rw [isGenerated_generated, Bool.and_eq_true, beq_iff_eq, List.all_eq_true]
  refine ⟨fun ⟨_, hdigits⟩ => ?_, fun h => ?_⟩
  · refine Decidable.byContradiction fun hyear => ?_
    -- The sign is not a digit.
    have hsign := hdigits (if (DateTime.ofInstant t).year < 0 then '-' else '+') (by
      simp only [clockDigits, Calendar.yearText, if_neg hyear, List.cons_append]
      exact List.mem_cons_self)
    split at hsign
    · exact absurd hsign (by decide)
    · exact absurd hsign (by decide)
  · obtain ⟨n, hn, -⟩ := isNumeral_clockDigits h
    exact ⟨hn.length, hn.digits⟩

/-! ### The order of generated versions -/

/-- Segments of digits compare as numbers. -/
theorem compareSegment_digits {a b : Text} (hane : a ≠ []) (hbne : b ≠ [])
    (ha : ∀ c ∈ a, isDigit c = true) (hb : ∀ c ∈ b, isDigit c = true) :
    compareSegment a b = Ord.compare (natOfDigits a) (natOfDigits b) := by
  rw [compareSegment, tokens, tokens, runs_of_forall hane ha, runs_of_forall hbne hb,
    List.map_singleton, List.map_singleton, List.compareLex_cons_cons, compare_number ha hb,
    List.compareLex_nil_nil, Ordering.then_eq]

/-- The digits of the clock are the last segment. -/
theorem segments_generated {t : Instant} (h : ∀ c ∈ clockDigits t, isDigit c = true) :
    segments (generated t) = [['0'], ['0'], ['1']] ++ [clockDigits t] := by
  have hdot : '.' ∉ clockDigits t := fun hmem => absurd (h '.' hmem) (by decide)
  have hstem : generatedStem = ['0', '.', '0', '.', '1', '.'] := by decide
  have hjoin : generated t = List.intercalate ['.'] [['0'], ['0'], ['1'], clockDigits t] := by
    rw [generated, hstem]
    simp [List.intercalate]
  rw [hjoin]
  exact segments_intercalate (by simp [hdot]) (List.cons_ne_nil _ _)

/-- Generated versions compare as the numbers of their digits. -/
theorem compare_generated {t₁ t₂ : Instant} {n₁ n₂ : Nat}
    (h₁ : IsNumeral (clockDigits t₁) 14 n₁) (h₂ : IsNumeral (clockDigits t₂) 14 n₂) :
    compare (generated t₁) (generated t₂) = Ord.compare n₁ n₂ := by
  have hne₁ := List.ne_nil_of_length_eq_add_one h₁.length
  have hne₂ := List.ne_nil_of_length_eq_add_one h₂.length
  -- Three segments are alike, and the last ones decide.
  rw [compare, segments_generated h₁.digits, segments_generated h₂.digits,
    compareSegments_append_left, compareSegments, compareSegments, compareNil, Ordering.then_eq,
    compareSegment_digits hne₁ hne₂ h₁.digits h₂.digits, h₁.value, h₂.value]

/-- **Generated versions advance with time.** A version generated in a year
of four digits is recognized, and two of them compare as the whole seconds
of their instants. -/
theorem generated_advances (t₁ t₂ : Instant)
    (h₁ : 0 ≤ (DateTime.ofInstant t₁).year ∧ (DateTime.ofInstant t₁).year ≤ 9999)
    (h₂ : 0 ≤ (DateTime.ofInstant t₂).year ∧ (DateTime.ofInstant t₂).year ≤ 9999) :
    isGenerated (generated t₁) = true ∧ isGenerated (generated t₂) = true ∧
      compare (generated t₁) (generated t₂) = Ord.compare t₁.seconds t₂.seconds := by
  refine ⟨(isGenerated_generated_iff t₁).mpr h₁, (isGenerated_generated_iff t₂).mpr h₂, ?_⟩
  obtain ⟨n₁, hn₁, hnumber₁⟩ := isNumeral_clockDigits h₁
  obtain ⟨n₂, hn₂, hnumber₂⟩ := isNumeral_clockDigits h₂
  have hlt := DateTime.number_lt_iff t₁ t₂
  have hgt := DateTime.number_lt_iff t₂ t₁
  rw [← hnumber₁, ← hnumber₂, Int.ofNat_lt] at hlt hgt
  have heq : n₁ = n₂ ↔ t₁.seconds = t₂.seconds := by omega
  rw [compare_generated hn₁ hn₂]
  show compareOfLessAndEq n₁ n₂ = compareOfLessAndEq t₁.seconds t₂.seconds
  simp only [compareOfLessAndEq, hlt, heq]

/-- The last second before a leap day and the first one after it, and the
ends of the years of four digits. -/
theorem generated_advances_leapDay :
    isGenerated "0.0.1.20240228235959".toList = true ∧
      compare "0.0.1.20240228235959".toList "0.0.1.20240301000000".toList = .lt ∧
      compare "0.0.1.99991231235959".toList "0.0.1.00000101000000".toList = .gt := by
  obtain ⟨hrecognized, -, hleap⟩ := generated_advances (.ofSeconds 1709164799)
    (.ofSeconds 1709251200) (by decide +kernel) (by decide +kernel)
  obtain ⟨-, -, hends⟩ := generated_advances (.ofSeconds 253402300799)
    (.ofSeconds (-62167219200)) (by decide +kernel) (by decide +kernel)
  have hbefore : generated (.ofSeconds 1709164799) = "0.0.1.20240228235959".toList := by
    decide +kernel
  have hafter : generated (.ofSeconds 1709251200) = "0.0.1.20240301000000".toList := by
    decide +kernel
  have hlast : generated (.ofSeconds 253402300799) = "0.0.1.99991231235959".toList := by
    decide +kernel
  have hfirst : generated (.ofSeconds (-62167219200)) = "0.0.1.00000101000000".toList := by
    decide +kernel
  rw [hbefore] at hrecognized
  rw [hbefore, hafter] at hleap
  rw [hlast, hfirst] at hends
  exact ⟨hrecognized, hleap, hends⟩

end ScriptGate.Version
