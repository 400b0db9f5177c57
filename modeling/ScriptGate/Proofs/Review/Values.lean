import ScriptGate.Namespace
import ScriptGate.Proofs.Header.ReadBack
import ScriptGate.Proofs.Version.Successor
import ScriptGate.Version.Generated

/-!
# `ScriptGate.Proofs.Review.Values`: what a review writes can be read

A review writes a version and a namespace into the header. They are
declared there already, or they are made: from the clock, as the
successor of the previous version, or from the address of the service.
Each of them is a value that a header can declare, if the texts that it
is made of are such values (`IsValue`). The same goes for values that fit
into a line of a header (`Declarable`).
-/

set_option autoImplicit false

namespace ScriptGate.Review

open Header (Declarable IsValue Layout Metadata ReturnsEndLines)
open Text (isBlank isDigit)

/-- Digits are not blank. -/
theorem isBlank_of_isDigit {c : Char} (h : isDigit c = true) : isBlank c = false := by
  have hc := (Text.isDigit_iff c).mp h
  rw [← Bool.not_eq_true, Text.isBlank_iff]
  omega

/-- The characters of a decimal number. -/
theorem isBlank_of_mem_decimal {c : Char} {n : Nat} (h : c ∈ Text.decimal n) :
    isBlank c = false :=
  isBlank_of_isDigit (Text.isDigit_of_mem_decimal h)

/-- A text without blanks can be declared. -/
theorem isValue_of_forall {v : Text} (hne : v ≠ []) (h : ∀ c ∈ v, isBlank c = false) :
    IsValue v := by
  have hnot : ∀ c, isBlank c = true → c ∉ v := by
    intro c hc hmem
    rw [h c hmem] at hc
    cases hc
  refine ⟨⟨hnot _ (by decide), fun c hc => h c (List.mem_of_mem_head? hc), fun hlast => ?_⟩, ?_⟩
  · exact hnot _ (by decide) (List.mem_of_getLast? hlast)
  · obtain ⟨c, hc⟩ := List.exists_mem_of_ne_nil v hne
    rw [Text.allBlank, List.all_eq_false]
    exact ⟨c, hc, by rw [h c hc]; exact Bool.false_ne_true⟩

/-! ### Versions from the clock -/

/-- A padded number has no blanks either. -/
theorem isBlank_of_mem_decimalPadded {c : Char} {width n : Nat}
    (h : c ∈ Text.decimalPadded width n) : isBlank c = false :=
  isBlank_of_isDigit (Text.isDigit_of_mem_decimalPadded h)

/-- A year has no blanks, whether it is signed or not. -/
theorem isBlank_of_mem_yearText {c : Char} {year : Int} (h : c ∈ Calendar.yearText year) :
    isBlank c = false := by
  rw [Calendar.yearText] at h
  split at h
  · exact isBlank_of_mem_decimalPadded h
  · rcases List.mem_cons.mp h with rfl | h
    · split
      · decide
      · decide
    · exact isBlank_of_mem_decimalPadded h

/-- A version from the clock can be declared. -/
theorem isValue_generated (t : Instant) : IsValue (Version.generated t) := by
  have hne : Version.generated t ≠ [] := fun h => by
    rw [Version.generated, List.append_eq_nil_iff] at h
    exact absurd h.1 (by decide)
  refine isValue_of_forall hne fun c hc => ?_
  simp only [Version.generated, Version.clockDigits, Calendar.twoDigits, List.mem_append] at hc
  rcases hc with hc | ((((hc | hc) | hc) | hc) | hc) | hc
  · exact Header.isBlank_of_all (t := Version.generatedStem) (by decide) hc
  · exact isBlank_of_mem_yearText hc
  · exact isBlank_of_mem_decimalPadded hc
  · exact isBlank_of_mem_decimalPadded hc
  · exact isBlank_of_mem_decimalPadded hc
  · exact isBlank_of_mem_decimalPadded hc
  · exact isBlank_of_mem_decimalPadded hc

/-! ### Successors -/

/-- A value that begins with a character that is not blank. -/
theorem declarable_of_head {v : Text} {c : Char} (hfeed : '\n' ∉ v) (hhead : v.head? = some c)
    (hc : isBlank c = false) : Declarable v := by
  refine ⟨⟨hfeed, fun x hx => ?_⟩, ?_⟩
  · rw [hhead, Option.some.injEq] at hx
    rw [← hx]
    exact hc
  · rw [Text.allBlank, List.all_eq_false]
    exact ⟨c, List.mem_of_mem_head? hhead, by rw [hc]; exact Bool.false_ne_true⟩

/-- The first character of a value. -/
theorem head_of_declarable {v : Text} (h : Declarable v) :
    ∃ c, v.head? = some c ∧ isBlank c = false := by
  cases v with
  | nil => exact absurd h.notBlank (by decide)
  | cons c v => exact ⟨c, rfl, h.start c rfl⟩

/-- A value that does not end in a carriage return can be declared on any
line. -/
theorem isValue_of_declarable {v : Text} (h : Declarable v) (hstop : v.getLast? ≠ some '\r') :
    IsValue v :=
  ⟨⟨h.oneLine, h.start, hstop⟩, h.notBlank⟩

/-- What a version is extended with ends in `1`. -/
theorem build_eq (k : Nat) :
    ∃ w, List.intercalate ['.'] (List.replicate k Version.zeroSegment ++ [['1']]) = w ++ ['1'] := by
  induction k with
  | zero => exact ⟨[], rfl⟩
  | succ k ih =>
      obtain ⟨w, hw⟩ := ih
      refine ⟨'0' :: '.' :: w, ?_⟩
      rw [List.replicate_succ, List.cons_append, List.intercalate_cons_of_ne_nil (by simp), hw]
      rfl

/-- A segment that was counted up ends in a digit, or as it did. -/
theorem getLast?_bump {s : Text} {c : Char} (h : (Version.bump s).getLast? = some c) :
    isDigit c = true ∨ s.getLast? = some c := by
  rcases Version.bump_cases s with ⟨-, hb⟩ | ⟨before, run, after, hrun, hne, hb⟩
  · rw [hb, List.getLast?_concat, Option.some.injEq] at h
    rw [← h]
    exact Or.inl (by decide)
  · rw [hb, List.getLast?_append] at h
    cases hafter : after.getLast? with
    | some a =>
        rw [hafter, Option.some_or] at h
        refine Or.inr ?_
        rw [hrun.whole, List.getLast?_append, hafter, Option.some_or, h]
    | none =>
        rw [hafter, Option.none_or, List.getLast?_append,
          List.getLast?_eq_some_getLast (Version.increment_ne_nil run), Option.some_or,
          Option.some.injEq] at h
        rw [← h]
        exact Or.inl (Version.isDigit_increment hrun.digits _ (List.getLast_mem _))

/-- The successor of a version that fits into a line fits into it. -/
theorem declarable_next {v : Text} (h : Declarable v) : Declarable (Version.next v) := by
  obtain ⟨c, hhead, hc⟩ := head_of_declarable h
  have hfeed : '\n' ∉ Version.next v := by
    intro hmem
    rcases Version.mem_next hmem with hdigit | hdot | hv
    · exact absurd hdigit (by decide)
    · exact absurd hdot (by decide)
    · exact h.oneLine hv
  -- It begins as the version does, with `u` or with a dot.
  have hhead' : (Version.next v).head? = some c := by
    rcases Version.next_cases v with ⟨k, hk⟩ | ⟨u, s, hv, hn⟩
    · rw [hk, List.head?_append, hhead, Option.some_or]
    · rw [hv] at hhead
      rw [hn]
      cases u with
      | nil => exact hhead
      | cons a u => exact hhead
  exact declarable_of_head hfeed hhead' hc

/-- A successor ends in a carriage return only if the version does. -/
theorem getLast?_next {v : Text} (h : v.getLast? ≠ some '\r') :
    (Version.next v).getLast? ≠ some '\r' := by
  intro hlast
  rcases Version.next_cases v with ⟨k, hk⟩ | ⟨u, s, hv, hn⟩
  · obtain ⟨w, hw⟩ := build_eq k
    rw [hk, hw, List.getLast?_append, ← List.cons_append, List.getLast?_concat, Option.some_or]
      at hlast
    exact absurd hlast (by decide)
  · rw [hn, List.getLast?_append, List.getLast?_cons, Option.some_or, Option.some.injEq] at hlast
    cases hb : (Version.bump s).getLast? with
    | none =>
        rw [hb] at hlast
        exact absurd hlast (by decide)
    | some a =>
        rw [hb, Option.getD_some] at hlast
        subst hlast
        rcases getLast?_bump hb with hdigit | hs
        · exact absurd hdigit (by decide)
        · refine h ?_
          rw [hv, List.getLast?_append, List.getLast?_cons, hs, Option.getD_some, Option.some_or]

/-- The successor of a version that can be declared can be declared. -/
theorem isValue_next {v : Text} (h : IsValue v) : IsValue (Version.next v) :=
  isValue_of_declarable (declarable_next h.declarable) (getLast?_next h.stop)

/-! ### Default namespaces -/

/-- A default namespace can be declared if the address in it can. -/
theorem isValue_users {stem slashes : Text} (h : IsValue (stem ++ slashes)) (owner : Nat) :
    IsValue (stem ++ "/users/".toList ++ Text.decimal owner) := by
  have hfeed := h.oneLine
  rw [List.mem_append, not_or] at hfeed
  have hhead : ∃ c, (stem ++ "/users/".toList ++ Text.decimal owner).head? = some c ∧
      isBlank c = false := by
    cases stem with
    | nil => exact ⟨'/', rfl, by decide⟩
    | cons a stem => exact ⟨a, rfl, h.start a rfl⟩
  obtain ⟨c, hhead, hc⟩ := hhead
  refine isValue_of_declarable (declarable_of_head ?_ hhead hc) fun hlast => ?_
  · rw [List.mem_append, List.mem_append, not_or, not_or]
    refine ⟨⟨hfeed.1, by decide⟩, fun hmem => ?_⟩
    exact absurd (isBlank_of_mem_decimal hmem) (by decide)
  · have hne : Text.decimal owner ≠ [] := Nat.toDigits_ne_nil
    rw [List.getLast?_append, List.getLast?_eq_some_getLast hne, Option.some_or,
      Option.some.injEq] at hlast
    have hblank := isBlank_of_mem_decimal (List.getLast_mem hne)
    rw [hlast] at hblank
    exact absurd hblank (by decide)

/-- The default namespace below an address that can be declared can be
declared. -/
theorem isValue_defaultNamespace {base : Text} (h : IsValue base) (owner : Nat) :
    IsValue (defaultNamespace base owner) := by
  -- The address is what is left of it, and slashes.
  have hbase : base = (base.reverse.dropWhile (· == '/')).reverse ++
      (base.reverse.takeWhile (· == '/')).reverse := by
    rw [← List.reverse_append, List.takeWhile_append_dropWhile, List.reverse_reverse]
  rw [hbase] at h
  exact isValue_users h owner

/-! ### Declared values -/

/-- A declared value that is not blank fits into a line. -/
theorem declarable_of_declared {l : Layout} {key v : Text}
    (h : (Metadata.ofPairs l.pairs).firstNonBlank key = some v) : Declarable v := by
  obtain ⟨hnot, c, hinner, hpair⟩ := Layout.exists_line_of_declared h
  exact ⟨Header.writable_of_pair? (l.isLine_inner hinner) hpair, hnot⟩

/-- The first value of a key that is not blank can be declared, where
carriage returns only end lines. -/
theorem isValue_of_declared {l : Layout} (hreturn : ReturnsEndLines l.text) {key v : Text}
    (h : (Metadata.ofPairs l.pairs).firstNonBlank key = some v) : IsValue v := by
  obtain ⟨hnot, c, hinner, hpair⟩ := Layout.exists_line_of_declared h
  have hline := l.isLine_inner hinner
  obtain ⟨before, after, hsplit⟩ := List.append_of_mem hinner
  have htext : l.text = (l.top ++ before.flatten) ++ c ++ (after.flatten ++ l.rest) := by
    rw [Layout.text, hsplit, List.flatten_append, List.flatten_cons]
    simp only [List.append_assoc]
  exact ⟨Header.representable_of_pair? hline (hreturn.line htext hline) hpair, hnot⟩

end ScriptGate.Review
