import ScriptGate.Header.Metadata
import ScriptGate.Proofs.Text.Chunks

/-!
# `ScriptGate.Proofs.Header.Values`: what a directive line can say

`read?_eq_some_iff` says which texts are directives and that they have
only one reading: a key without white space, white space, and a value
that does not begin with white space.

A line has a terminator, and a carriage return at the end of a value
would become a part of it. `Representable` values are those that a line
gives back (`pair?_write`), though a separator at the end of the line may
lose its carriage return (`read?_line`). Other values that fit into a line lose this
carriage return and nothing else (`returned_pair?_write`).

`IsValue` are the representable values that are not blank, and
`Declarable` all that fit into a line and are not blank.
`isValue_of_declared` says that a header declares no others than the
former, as long as carriage returns only end lines.
-/

set_option autoImplicit false

namespace ScriptGate.Header

open Text (IsEnding IsLine contentOf endingOf isBlank)

/-! ### Directives -/

/-- The parts of a directive that can be told apart. -/
structure DirectiveText.WellFormed (d : DirectiveText) : Prop where
  key_ne : d.key ≠ []
  key : ∀ c ∈ d.key, isBlank c = false
  separator : ∀ c ∈ d.separator, isBlank c = true
  /-- Without a separator there is no value. -/
  separated : d.separator = [] → d.value = []
  value : ∀ c, d.value.head? = some c → isBlank c = false

/-- The longest beginning with a property, where something follows that
does not have it. -/
theorem takeWhile_append {p : Char → Bool} {s t : Text} (hs : ∀ c ∈ s, p c = true)
    (ht : ∀ c, t.head? = some c → p c = false) : (s ++ t).takeWhile p = s := by
  rw [List.takeWhile_append_of_pos hs]
  cases t with
  | nil => rw [List.takeWhile_nil, List.append_nil]
  | cons c t =>
      have hc := ht c rfl
      rw [List.takeWhile_cons_of_neg (by rw [hc]; exact Bool.false_ne_true), List.append_nil]

/-- What is dropped ends where the second text begins. -/
theorem dropWhile_append {p : Char → Bool} {s t : Text} (hs : ∀ c ∈ s, p c = true)
    (ht : ∀ c, t.head? = some c → p c = false) : (s ++ t).dropWhile p = t := by
  rw [List.dropWhile_append_of_pos hs]
  cases t with
  | nil => rfl
  | cons c t =>
      have hc := ht c rfl
      rw [List.dropWhile_cons_of_neg (by rw [hc]; exact Bool.false_ne_true)]

/-- Behind what is dropped, a character comes that is not. -/
theorem head?_dropWhile {p : Char → Bool} {t : Text} {c : Char}
    (h : (t.dropWhile p).head? = some c) : p c = false := by
  cases hd : t.dropWhile p with
  | nil =>
      rw [hd] at h
      cases h
  | cons a r =>
      have hne : t.dropWhile p ≠ [] := by
        rw [hd]
        exact List.cons_ne_nil a r
      have ha := List.head_dropWhile_not p hne
      simp only [hd, List.head_cons] at ha
      rw [hd, List.head?_cons, Option.some.injEq] at h
      rw [← h]
      exact ha

/-- What is read is well formed. -/
theorem DirectiveText.wellFormed_of_read? {content : Text} {d : DirectiveText}
    (h : read? content = some d) : d.WellFormed := by
  unfold read? at h
  cases hrest : Text.dropStart? mark content with
  | none =>
      rw [hrest] at h
      cases h
  | some rest =>
      simp only [hrest] at h
      split at h
      · cases h
      · rename_i hkey
        rw [Option.some.injEq] at h
        subst h
        constructor
        case key_ne => exact hkey
        case key =>
          intro c hc
          have hc' := List.all_eq_true.mp List.all_takeWhile c hc
          rwa [Bool.not_eq_true'] at hc'
        case separator => exact fun c hc => List.all_eq_true.mp List.all_takeWhile c hc
        case separated =>
          intro hsep
          show List.dropWhile isBlank _ = []
          -- What follows the key begins with white space, or is empty.
          cases htail : rest.dropWhile (fun c => !isBlank c) with
          | nil => rfl
          | cons a r =>
              have ha : (!isBlank a) = false := head?_dropWhile (by rw [htail, List.head?_cons])
              rw [Bool.not_eq_false'] at ha
              replace hsep : List.takeWhile isBlank (rest.dropWhile fun c => !isBlank c) = [] := hsep
              rw [htail, List.takeWhile_cons_of_pos ha] at hsep
              cases hsep
        case value => exact fun c hc => head?_dropWhile hc

/-- A directive of a script is what is read of its line. -/
theorem read?_of_mem_directives {source : Text} {d : Directive} (h : d ∈ directives source) :
    DirectiveText.read? d.line.content = some d.toDirectiveText := by
  rw [directives] at h
  split at h
  · cases h
  · obtain ⟨line, -, hline⟩ := List.mem_filterMap.mp h
    obtain ⟨t, hread, rfl⟩ := Option.map_eq_some_iff.mp hline
    exact hread

/-- A text of which no character is blank, as a computation. -/
theorem isBlank_of_all {t : Text} (h : (t.all fun c => !isBlank c) = true) {c : Char}
    (hc : c ∈ t) : isBlank c = false := by
  have hnot := List.all_eq_true.mp h c hc
  rwa [Bool.not_eq_true'] at hnot

/-- A search through the text, not through all characters. -/
instance (t : Text) : Decidable (∀ c ∈ t, isBlank c = false) :=
  decidable_of_iff ((t.all fun c => !isBlank c) = true)
    ⟨fun h _ hc => isBlank_of_all h hc,
      fun h => List.all_eq_true.mpr fun c hc => by rw [h c hc]; rfl⟩

/-- A well-formed directive is read back. -/
theorem DirectiveText.read?_write {d : DirectiveText} (h : d.WellFormed) :
    read? d.write = some d := by
  have hdrop : Text.dropStart? mark d.write = some (d.key ++ (d.separator ++ d.value)) := by
    rw [write, List.append_assoc, List.append_assoc, Text.dropStart?_append]
  have hkey : ∀ c ∈ d.key, (!isBlank c) = true := by
    intro c hc
    rw [h.key c hc]
    rfl
  have hhead : ∀ c, (d.separator ++ d.value).head? = some c → (!isBlank c) = false := by
    intro c hc
    cases hsep : d.separator with
    | nil =>
        rw [hsep, h.separated hsep] at hc
        cases hc
    | cons a s =>
        rw [hsep, List.cons_append, List.head?_cons, Option.some.injEq] at hc
        rw [← hc, h.separator a (by rw [hsep]; exact List.mem_cons_self)]
        rfl
  rw [read?, hdrop]
  simp only [takeWhile_append hkey hhead, dropWhile_append hkey hhead,
    takeWhile_append h.separator h.value, dropWhile_append h.separator h.value, h.key_ne,
    if_false]

/-- **Directives.** A text is a directive if and only if it is written
from well-formed parts, and these are its only reading. -/
theorem DirectiveText.read?_eq_some_iff {content : Text} {d : DirectiveText} :
    read? content = some d ↔ d.WellFormed ∧ d.write = content := by
  constructor
  · exact fun h => ⟨wellFormed_of_read? h, write_of_read? h⟩
  · rintro ⟨h, rfl⟩
    exact read?_write h

/-! ### Lines -/

/-- The key and the value of a directive line. -/
def pair? (c : Text) : Option (Text × Text) :=
  (DirectiveText.read? (contentOf c)).map fun d => (d.key, d.value)

/-- A directive declares its key and its value. -/
theorem pair?_of_read? {c : Text} {d : DirectiveText}
    (h : DirectiveText.read? (contentOf c) = some d) : pair? c = some (d.key, d.value) := by
  rw [pair?, h, Option.map_some]

/-- Any other line declares nothing. -/
theorem pair?_of_not_read? {c : Text} (h : DirectiveText.read? (contentOf c) = none) :
    pair? c = none := by
  rw [pair?, h, Option.map_none]

/-- A value that a directive line gives back. -/
structure Representable (v : Text) : Prop where
  oneLine : '\n' ∉ v
  start : ∀ c, v.head? = some c → isBlank c = false
  stop : v.getLast? ≠ some '\r'

instance (v : Text) : Decidable (Representable v) :=
  decidable_of_iff
    ('\n' ∉ v ∧ (v.head?.all fun c => !isBlank c) = true ∧ v.getLast? ≠ some '\r')
    ⟨fun ⟨hline, hstart, hstop⟩ =>
      ⟨hline, fun c hc => by rwa [hc, Option.all_some, Bool.not_eq_true'] at hstart, hstop⟩,
      fun h => ⟨h.oneLine, by
        cases hhead : v.head? with
        | none => rfl
        | some c => rw [Option.all_some, h.start c hhead]; rfl, h.stop⟩⟩

/-- Where a carriage return can be at the end of a directive. -/
theorem DirectiveText.getLast?_write {d : DirectiveText} (h : d.WellFormed)
    (hstop : d.value.getLast? ≠ some '\r') (hlast : d.write.getLast? = some '\r') :
    ∃ s, d.separator = s ++ ['\r'] ∧ d.value = [] := by
  rw [write, List.append_assoc, List.getLast?_append, List.getLast?_append] at hlast
  cases hv : d.value.getLast? with
  | some a =>
      rw [hv, Option.some_or, Option.some_or] at hlast
      exact absurd (hv.trans hlast) hstop
  | none =>
      rw [hv, Option.none_or] at hlast
      cases hs : d.separator.getLast? with
      | some a =>
          rw [hs, Option.some_or, Option.some.injEq] at hlast
          rw [hlast] at hs
          obtain ⟨s, hs⟩ := List.getLast?_eq_some_iff.mp hs
          exact ⟨s, hs, List.getLast?_eq_none_iff.mp hv⟩
      | none =>
          rw [hs, Option.none_or, List.getLast?_append,
            List.getLast?_eq_some_getLast h.key_ne, Option.some_or, Option.some.injEq] at hlast
          have hblank := h.key _ (List.getLast_mem h.key_ne)
          rw [hlast] at hblank
          exact absurd hblank (by decide)

/-- What is read of a directive line: what was written, unless the
separator is the last of it. Then a carriage return at its end belongs to
the terminator. -/
theorem read?_line {d : DirectiveText} {e : Text} (h : d.WellFormed)
    (hstop : d.value.getLast? ≠ some '\r') (he : IsEnding e) :
    (DirectiveText.read? (contentOf (d.write ++ e)) = some d ∧ endingOf (d.write ++ e) = e) ∨
      ∃ s, d.separator = s ++ ['\r'] ∧ d.value = [] ∧ e = ['\n'] ∧
        DirectiveText.read? (contentOf (d.write ++ e)) = some ⟨d.key, s, []⟩ ∧
        d.write ++ e = DirectiveText.write ⟨d.key, s, []⟩ ++ ['\r', '\n'] := by
  by_cases hlast : d.write.getLast? = some '\r'
  · obtain ⟨s, hs, hv⟩ := d.getLast?_write h hstop hlast
    rcases he with rfl | rfl
    · have hwf : DirectiveText.WellFormed ⟨d.key, s, []⟩ := by
        refine ⟨h.key_ne, h.key, fun c hc => h.separator c ?_, fun _ => rfl,
          fun c hc => by cases hc⟩
        rw [hs]
        exact List.mem_append_left _ hc
      -- The same text, cut one character earlier.
      have hline : d.write ++ ['\n'] = DirectiveText.write ⟨d.key, s, []⟩ ++ ['\r', '\n'] := by
        rw [DirectiveText.write, hs, hv]
        simp [DirectiveText.write]
      refine Or.inr ⟨s, hs, hv, rfl, ?_, hline⟩
      rw [hline, Text.contentOf_append_return, DirectiveText.read?_write hwf]
    · rw [Text.contentOf_append_return, Text.endingOf_append_return, DirectiveText.read?_write h]
      exact Or.inl ⟨rfl, rfl⟩
  · obtain ⟨hcontent, hending⟩ := Text.contentOf_append hlast he
    rw [hcontent, hending, DirectiveText.read?_write h]
    exact Or.inl ⟨rfl, rfl⟩

/-- A directive line is read back, whatever its terminator. -/
theorem pair?_write {d : DirectiveText} {e : Text} (h : d.WellFormed)
    (hstop : d.value.getLast? ≠ some '\r') (he : IsEnding e) :
    pair? (d.write ++ e) = some (d.key, d.value) := by
  rcases read?_line h hstop he with ⟨hread, -⟩ | ⟨s, -, hv, -, hread, -⟩
  · exact pair?_of_read? hread
  · rw [pair?_of_read? hread, hv]

/-- A value that fits into a directive line. -/
structure Writable (v : Text) : Prop where
  oneLine : '\n' ∉ v
  start : ∀ c, v.head? = some c → isBlank c = false

/-- A value that comes back as it is can be written. -/
theorem Representable.writable {v : Text} (h : Representable v) : Writable v := ⟨h.oneLine, h.start⟩

/-- What a line gives back of a value that was written into it. A carriage
return at its end can be lost. -/
def Returned (read written : Text) : Prop := read = written ∨ written = read ++ ['\r']

/-- Coming back as it is is one way to come back. -/
theorem Returned.refl (v : Text) : Returned v v := Or.inl rfl

/-- A carriage return makes no difference to what is blank. -/
theorem allBlank_of_returned {read written : Text} (h : Returned read written) :
    Text.allBlank read = Text.allBlank written := by
  rcases h with rfl | rfl
  · rfl
  · rw [Text.allBlank, Text.allBlank, List.all_append, show (['\r'].all isBlank) = true from rfl,
      Bool.and_true]

/-- A directive line is read back, but for a carriage return at its
end. -/
theorem returned_pair?_write {d : DirectiveText} {e : Text} (h : d.WellFormed) (he : IsEnding e) :
    ∃ v, pair? (d.write ++ e) = some (d.key, v) ∧ Returned v d.value := by
  by_cases hstop : d.value.getLast? = some '\r'
  · obtain ⟨w, hw⟩ := List.getLast?_eq_some_iff.mp hstop
    rcases he with rfl | rfl
    · -- The value loses the carriage return to the terminator.
      have hwf : DirectiveText.WellFormed ⟨d.key, d.separator, w⟩ := by
        refine ⟨h.key_ne, h.key, h.separator, fun hsep => ?_, fun c hc => h.value c ?_⟩
        · have hnil := h.separated hsep
          rw [hw] at hnil
          exact absurd hnil (by simp)
        · rw [hw, List.head?_append, hc, Option.some_or]
      have hline : d.write ++ ['\n']
          = DirectiveText.write ⟨d.key, d.separator, w⟩ ++ ['\r', '\n'] := by
        rw [DirectiveText.write, hw, DirectiveText.write]
        simp only [List.append_assoc, List.cons_append, List.nil_append]
      refine ⟨w, ?_, Or.inr hw⟩
      rw [hline, pair?, Text.contentOf_append_return, DirectiveText.read?_write hwf,
        Option.map_some]
    · refine ⟨d.value, ?_, .refl _⟩
      rw [pair?, Text.contentOf_append_return, DirectiveText.read?_write h, Option.map_some]
  · exact ⟨d.value, pair?_write h hstop he, .refl _⟩

/-- A value that fits into a directive line, of which a line gives back
what `R` says. -/
structure ReadAs (R : Text → Text → Prop) (v : Text) : Prop extends Writable v where
  back : ∀ w, Returned w v → R w v

/-- A value that can be written comes back somehow. -/
theorem Writable.readAs {v : Text} (h : Writable v) : ReadAs Returned v := ⟨h, fun _ hw => hw⟩

/-- A representable value has no carriage return to lose. -/
theorem Representable.readAs {v : Text} (h : Representable v) : ReadAs Eq v := by
  refine ⟨h.writable, fun w hw => ?_⟩
  rcases hw with hw | hw
  · exact hw
  · refine absurd ?_ h.stop
    rw [hw, List.getLast?_concat]

/-! ### Declared values -/

/-- A value that a header can declare. -/
structure IsValue (v : Text) : Prop extends Representable v where
  notBlank : Text.allBlank v = false

/-- A value that some line of a header can have, if not a line with every
terminator. -/
structure Declarable (v : Text) : Prop extends Writable v where
  notBlank : Text.allBlank v = false

/-- A value that says something can be declared. -/
theorem IsValue.declarable {v : Text} (h : IsValue v) : Declarable v := ⟨h.writable, h.notBlank⟩

/-- Every carriage return is part of a terminator. -/
def ReturnsEndLines (t : Text) : Prop :=
  ∀ before after, t = before ++ '\r' :: after → after.head? = some '\n'

/-- Without carriage returns there is none in a wrong place. -/
theorem returnsEndLines_of_not_mem {t : Text} (h : '\r' ∉ t) : ReturnsEndLines t := by
  rintro before after rfl
  exact absurd (List.mem_append_right before List.mem_cons_self) h

/-- A line of such a text is such a text. -/
theorem ReturnsEndLines.line {t s c r : Text} (h : ReturnsEndLines t) (ht : t = s ++ c ++ r)
    (hline : IsLine c) : ReturnsEndLines c := by
  rintro before after rfl
  obtain ⟨x, hx, -⟩ := hline
  have hhead := h (s ++ before) (after ++ r) (by rw [ht]; simp only [List.append_assoc,
    List.cons_append])
  cases after with
  | nil =>
      have hlast := congrArg List.getLast? hx
      rw [List.getLast?_append, List.getLast?_append] at hlast
      cases hlast
  | cons a after => exact hhead

/-- What a line has for a value fits into it. -/
theorem writable_of_pair? {c key v : Text} (hline : IsLine c) (h : pair? c = some (key, v)) :
    Writable v := by
  obtain ⟨d, hread, hpair⟩ := Option.map_eq_some_iff.mp h
  obtain ⟨rfl, rfl⟩ := Prod.mk.inj hpair
  obtain ⟨hwf, hwrite⟩ := DirectiveText.read?_eq_some_iff.mp hread
  refine ⟨fun hmem => hline.ending.2 ?_, hwf.value⟩
  rw [← hwrite]
  exact List.mem_append_right _ hmem

/-- Where carriage returns only end lines, no value ends in one. -/
theorem representable_of_pair? {c key v : Text} (hline : IsLine c) (hreturn : ReturnsEndLines c)
    (h : pair? c = some (key, v)) : Representable v := by
  have hwritable := writable_of_pair? hline h
  obtain ⟨d, hread, hpair⟩ := Option.map_eq_some_iff.mp h
  obtain ⟨rfl, rfl⟩ := Prod.mk.inj hpair
  obtain ⟨-, hwrite⟩ := DirectiveText.read?_eq_some_iff.mp hread
  refine ⟨hwritable.oneLine, hwritable.start, fun hlast => ?_⟩
  obtain ⟨w, hw⟩ := List.getLast?_eq_some_iff.mp hlast
  -- The line is `r`, the carriage return and the terminator.
  obtain ⟨r, hr⟩ : ∃ r, contentOf c = r ++ ['\r'] :=
    ⟨DirectiveText.mark ++ d.key ++ d.separator ++ w, by
      rw [← hwrite, DirectiveText.write, hw, List.append_assoc _ w]⟩
  have hc : c = r ++ '\r' :: endingOf c := by
    rw [← List.singleton_append, ← List.append_assoc, ← hr, Text.contentOf_append_endingOf]
  have hhead := hreturn r (endingOf c) hc
  rcases hline.ending.1 with he | he
  · rw [he] at hc
    have hcontent := Text.contentOf_append_return r
    rw [← hc, hr] at hcontent
    have hlen := congrArg List.length hcontent
    rw [List.length_append, List.length_singleton] at hlen
    omega
  · rw [he] at hhead
    exact absurd hhead (by decide)

end ScriptGate.Header
