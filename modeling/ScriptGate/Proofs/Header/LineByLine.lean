import ScriptGate.Proofs.Header.Markers
import ScriptGate.Proofs.Header.ReadBack

/-!
# `ScriptGate.Proofs.Header.LineByLine`: a rewriter without offsets

`rewrite` works on byte offsets: it collects splices, sorts them and cuts
the text at their ends. `rewriteLines` does the same to the lines of a
script, one after the other, and knows no offsets. A line of a removed
key is left out, the first line of a replaced key gets its new value, and
every other line stays. The lines that are added come right in front of
the closing marker.

`rewrite_is_line_by_line` says that both agree for all scripts and all
edits, also where keys and values are no directives at all. And the cuts
of `rewrite` always exist (`CutsInside`): none is out of range, backwards
or inside a character.
-/

set_option autoImplicit false

namespace ScriptGate.Header

open Text (IsLine Line byteLength contentOf endingOf slice?)

/-! ### Lines inside the header -/

/-- The key that a line declares. -/
def keyOf? (c : Text) : Option Text := (DirectiveText.read? (contentOf c)).map (·.key)

/-- A line that is read as a directive has its key. -/
theorem keyOf?_of_read? {c : Text} {d : DirectiveText}
    (h : DirectiveText.read? (contentOf c) = some d) : keyOf? c = some d.key := by
  rw [keyOf?, h, Option.map_some]

/-- A line that is no directive has no key. -/
theorem keyOf?_of_not_read? {c : Text} (h : DirectiveText.read? (contentOf c) = none) :
    keyOf? c = none := by
  rw [keyOf?, h, Option.map_none]

namespace Edits

variable (e : Edits)

/-- The change that a line of `key` is due after lines with the keys
`seen`. Only the first line of a key is due a value. -/
def due (seen : List Text) (key : Text) : Option (Option Text) :=
  match e.changes.get? key with
  | some (some value) => if seen.contains key then none else some (some value)
  | change => change

/-- What edits leave of a line after lines with the keys `seen`: nothing,
the line with its new value, or the line as it is. -/
def lineAfter (seen : List Text) (c : Text) : List Text :=
  match DirectiveText.read? (contentOf c) with
  | none => [c]
  | some d =>
    match e.due seen d.key with
    | none => [c]
    | some none => []
    | some (some value) => [(d.withValue value).write ++ endingOf c]

/-- What edits leave of some lines, one after the other. -/
def linesAfter : List Text → List Text → List Text
  | _, [] => []
  | seen, c :: cs => e.lineAfter seen c ++ linesAfter (seen ++ (keyOf? c).toList) cs

/-- The lines that edits add to a header with the lines `inner`: one for
each key that it has no line of, or none that stays. -/
def linesAdded (ending : Text) (inner : List Text) : List Text :=
  let kept := (inner.filterMap keyOf?).filter fun key => e.changes.get? key ≠ some none
  (e.additions.entries.filter fun a => !kept.contains a.1).map fun a =>
    "// @".toList ++ a.1 ++ [' '] ++ a.2 ++ ending

section Due

variable {e} {seen : List Text} {key : Text}

/-- At the first directive of a key, its change is due. -/
theorem due_of_not_mem (h : key ∉ seen) : e.due seen key = e.changes.get? key := by
  rw [due]
  rcases e.changes.get? key with _ | _ | value
  · rfl
  · rfl
  · exact if_neg (by rw [List.contains_iff_mem]; exact h)

/-- At the first line, every change is due. -/
theorem due_nil : e.due [] key = e.changes.get? key := due_of_not_mem List.not_mem_nil

/-- A removed key has all its lines removed. -/
theorem due_eq_removed_iff : e.due seen key = some none ↔ e.changes.get? key = some none := by
  rw [due]
  rcases e.changes.get? key with _ | _ | value
  · rfl
  · rfl
  · simp

/-- A new value is due only once, at the first directive of its key. -/
theorem due_eq_value_iff {value : Text} :
    e.due seen key = some (some value) ↔
      e.changes.get? key = some (some value) ∧ key ∉ seen := by
  rw [due]
  rcases e.changes.get? key with _ | _ | v
  · simp
  · simp
  · by_cases hkey : key ∈ seen
    · simp [hkey]
    · simp [hkey]

/-- What is due depends on the lines before only as far as their keys are
not removed. -/
theorem due_congr {seen' : List Text}
    (h : e.changes.get? key ≠ some none → (key ∈ seen' ↔ key ∈ seen)) :
    e.due seen' key = e.due seen key := by
  rw [due, due]
  rcases hget : e.changes.get? key with _ | _ | value
  · rfl
  · rfl
  · have hmem := h (by rw [hget]; simp)
    simp only [List.contains_iff_mem, hmem]

/-- A line of another key has no say in what is due. -/
theorem due_append_of_ne {k : Text} (h : key ≠ k) : e.due (seen ++ [k]) key = e.due seen key := by
  refine due_congr fun _ => ?_
  rw [List.mem_append, List.mem_singleton, or_iff_left h]

/-- After its first line, no line of a replaced key is due anything. -/
theorem due_append_of_value {value : Text} (h : e.due seen key = some (some value)) :
    e.due (seen ++ [key]) key = none := by
  rw [due, (due_eq_value_iff.mp h).1]
  refine if_pos ?_
  rw [List.contains_iff_mem]
  exact List.mem_append_right _ (List.mem_singleton_self _)

/-- A line that gets no value leaves as much due as it was before. -/
theorem due_append_of_no_value (h : ∀ value, e.due seen key ≠ some (some value)) :
    e.due (seen ++ [key]) key = e.due seen key := by
  rw [due, due]
  rcases hget : e.changes.get? key with _ | _ | value
  · rfl
  · rfl
  · -- The value was given to an earlier line.
    have hmem : key ∈ seen := by
      by_contra hnot
      exact h value (due_eq_value_iff.mpr ⟨hget, hnot⟩)
    simp only [List.contains_iff_mem, hmem, List.mem_append, true_or]

end Due

section Lines

variable {e} {seen : List Text} {c : Text} {d : DirectiveText}

/-- A line that is no directive stays as it is. -/
theorem linesAfter_cons_of_not_read? (h : DirectiveText.read? (contentOf c) = none)
    (cs : List Text) : e.linesAfter seen (c :: cs) = c :: e.linesAfter seen cs := by
  rw [linesAfter, lineAfter, h, keyOf?_of_not_read? h, Option.toList_none, List.append_nil]
  rfl

/-- A directive to which nothing is due stays as it is. -/
theorem linesAfter_cons_of_kept (h : DirectiveText.read? (contentOf c) = some d)
    (hdue : e.due seen d.key = none) (cs : List Text) :
    e.linesAfter seen (c :: cs) = c :: e.linesAfter (seen ++ [d.key]) cs := by
  rw [linesAfter, lineAfter, keyOf?_of_read? h]
  simp only [h, hdue]
  rfl

/-- A directive that is to go leaves nothing behind. -/
theorem linesAfter_cons_of_removed (h : DirectiveText.read? (contentOf c) = some d)
    (hdue : e.due seen d.key = some none) (cs : List Text) :
    e.linesAfter seen (c :: cs) = e.linesAfter (seen ++ [d.key]) cs := by
  rw [linesAfter, lineAfter, keyOf?_of_read? h]
  simp only [h, hdue]
  rfl

/-- A directive that gets a value is written with it, and keeps its
terminator. -/
theorem linesAfter_cons_of_value (h : DirectiveText.read? (contentOf c) = some d) {value : Text}
    (hdue : e.due seen d.key = some (some value)) (cs : List Text) :
    e.linesAfter seen (c :: cs)
      = ((d.withValue value).write ++ endingOf c) :: e.linesAfter (seen ++ [d.key]) cs := by
  rw [linesAfter, lineAfter, keyOf?_of_read? h]
  simp only [h, hdue]
  rfl

/-- The lines behind others are edited with the keys of these in mind. -/
theorem linesAfter_append (cs ds : List Text) :
    e.linesAfter seen (cs ++ ds)
      = e.linesAfter seen cs ++ e.linesAfter (seen ++ cs.filterMap keyOf?) ds := by
  induction cs generalizing seen with
  | nil => rw [List.nil_append, linesAfter, List.filterMap_nil, List.append_nil, List.nil_append]
  | cons c cs ih =>
      rw [List.cons_append, linesAfter, ih, linesAfter, List.append_assoc]
      -- The key of the line is the first of those that are seen.
      cases hkey : keyOf? c with
      | none =>
          simp only [Option.toList_none, List.filterMap_cons_none hkey, List.append_assoc,
            List.nil_append]
      | some k =>
          simp only [Option.toList_some, List.filterMap_cons_some hkey, List.append_assoc,
            List.singleton_append]

end Lines

/-- Changes that are struck off when they have been made, or that are due
only once, make the same of the lines. -/
theorem editLines_eq_linesAfter {changes : List (Text × Option Text)} {seen : List Text}
    (h : ∀ key, changes.lookup key = e.due seen key) (cs : List Text) :
    editLines changes cs = e.linesAfter seen cs := by
  induction cs generalizing changes seen with
  | nil => rfl
  | cons c cs ih =>
      rw [editLines]
      cases hread : DirectiveText.read? (contentOf c) with
      | none =>
          rw [linesAfter_cons_of_not_read? hread]
          exact congrArg (c :: ·) (ih h)
      | some d =>
          -- What the lines that follow are due after this one.
          have hrest : (∀ value, e.due seen d.key ≠ some (some value)) →
              editLines changes cs = e.linesAfter (seen ++ [d.key]) cs := by
            intro hvalue
            refine ih fun key => ?_
            by_cases hkey : key = d.key
            · rw [hkey, due_append_of_no_value hvalue, h]
            · rw [due_append_of_ne hkey, h]
          rcases hdue : e.due seen d.key with _ | _ | value
          · have hlookup := (h d.key).trans hdue
            rw [linesAfter_cons_of_kept hread hdue]
            simp only [hlookup]
            rw [hrest fun v hv => by rw [hdue] at hv; cases hv]
          · have hlookup := (h d.key).trans hdue
            rw [linesAfter_cons_of_removed hread hdue]
            simp only [hlookup]
            rw [hrest fun v hv => by rw [hdue] at hv; cases hv]
          · have hlookup := (h d.key).trans hdue
            rw [linesAfter_cons_of_value hread hdue]
            simp only [hlookup]
            rw [ih fun key => ?_]
            rw [lookup_filter_ne]
            split
            · rename_i hkey
              rw [hkey, due_append_of_value hdue]
            · rename_i hkey
              rw [due_append_of_ne hkey, h]

/-- Editing key by key comes to the same as going through the lines once. -/
theorem editLines_entries (cs : List Text) :
    editLines e.changes.entries cs = e.linesAfter [] cs :=
  e.editLines_eq_linesAfter (fun key => by rw [due_nil, e.changes.lookup_entries]) cs

end Edits

/-! ### Scripts in sections -/

/-- A script with a header, line by line. -/
structure Sections where
  /-- The lines before the header. -/
  before : List Text
  /-- The line of the opening marker. -/
  opening : Text
  /-- The lines between the markers. -/
  inner : List Text
  /-- The line of the closing marker and those after it. -/
  rest : List Text

/-- The sections around the first line that says the opening marker and
the first one after it that says the closing marker. -/
def sections? (cs : List Text) : Option Sections :=
  match cs.dropWhile (fun c => contentOf c != openingMarker) with
  | [] => none
  | opening :: others =>
    match others.dropWhile (fun c => contentOf c != closingMarker) with
    | [] => none
    | closing :: after =>
      some
        { before := cs.takeWhile fun c => contentOf c != openingMarker
          opening
          inner := others.takeWhile fun c => contentOf c != closingMarker
          rest := closing :: after }

/-- A script rewritten line by line. -/
def rewriteLines (source : Text) (e : Edits) : Text :=
  match sections? (Text.chunks source) with
  | none => source
  | some s =>
    (s.before ++ s.opening :: e.linesAfter [] s.inner ++ e.linesAdded (endingOf s.opening) s.inner ++
      s.rest).flatten

/-- Lines with a property, followed by one without. -/
theorem takeWhile_lines {p : Text → Bool} {cs : List Text} {x : Text}
    (hcs : ∀ c ∈ cs, p c = true) (hx : p x = false) (ds : List Text) :
    (cs ++ x :: ds).takeWhile p = cs ∧ (cs ++ x :: ds).dropWhile p = x :: ds := by
  have hnot : ¬ p x = true := by rw [hx]; exact Bool.false_ne_true
  rw [List.takeWhile_append_of_pos hcs, List.dropWhile_append_of_pos hcs,
    List.takeWhile_cons_of_neg hnot, List.dropWhile_cons_of_neg hnot, List.append_nil]
  exact ⟨rfl, rfl⟩

/-- The first line without a property does not have it. -/
theorem not_of_dropWhile_lines {p : Text → Bool} {cs ds : List Text} {x : Text}
    (h : cs.dropWhile p = x :: ds) : p x = false := by
  have hnot := List.head_dropWhile_not p (by rw [h]; exact List.cons_ne_nil x ds)
  simpa only [h, List.head_cons] using hnot

/-- A layout is made of the sections of its script. -/
theorem Layout.sections?_text (l : Layout) :
    sections? (Text.chunks l.text) = some ⟨l.before, l.opening, l.inner, l.closing :: l.after⟩ := by
  have hbefore : ∀ c ∈ l.before, (contentOf c != openingMarker) = true :=
    fun c hc => bne_iff_ne.mpr (l.before_ne c hc)
  have hinner : ∀ c ∈ l.inner, (contentOf c != closingMarker) = true :=
    fun c hc => bne_iff_ne.mpr (l.inner_ne c hc)
  obtain ⟨htake, hdrop⟩ := takeWhile_lines hbefore (bne_eq_false_iff_eq.mpr l.opening_eq)
    (l.inner ++ l.closing :: l.after)
  obtain ⟨htake', hdrop'⟩ := takeWhile_lines hinner (bne_eq_false_iff_eq.mpr l.closing_eq) l.after
  have hchunks : Text.chunks l.text
      = l.before ++ l.opening :: (l.inner ++ l.closing :: l.after) := by
    rw [l.chunks_text, List.append_assoc, List.append_assoc, List.singleton_append]
  rw [sections?, hchunks, hdrop, htake]
  simp only [hdrop', htake']

/-- A text without a header has no sections. -/
theorem sections?_eq_none {source : Text} (h : locate source = none) :
    sections? (Text.chunks source) = none := by
  rw [sections?]
  cases hdrop : (Text.chunks source).dropWhile (fun c => contentOf c != openingMarker) with
  | nil => rfl
  | cons opening others =>
      cases hdrop' : others.dropWhile (fun c => contentOf c != closingMarker) with
      | nil => simp only [hdrop']
      | cons closing after =>
          -- The markers are on two lines, so the header would be found.
          have hchunks : Text.chunks source
              = (Text.chunks source).takeWhile (fun c => contentOf c != openingMarker) ++
                  opening :: (others.takeWhile (fun c => contentOf c != closingMarker) ++
                    closing :: after) := by
            rw [← hdrop', List.takeWhile_append_dropWhile, ← hdrop, List.takeWhile_append_dropWhile]
          have hopening : (contentOf opening != openingMarker) = false :=
            not_of_dropWhile_lines (p := fun c => contentOf c != openingMarker) hdrop
          have hclosing : (contentOf closing != closingMarker) = false :=
            not_of_dropWhile_lines (p := fun c => contentOf c != closingMarker) hdrop'
          exact absurd h (locate_ne_none_of_chunks hchunks (bne_eq_false_iff_eq.mp hopening)
            (bne_eq_false_iff_eq.mp hclosing))

/-- The lines that edits add, part by part. -/
theorem Layout.addedLines_eq (l : Layout) (e : Edits) :
    l.addedLines e = e.linesAdded (endingOf l.opening) l.inner := by
  have hkept : l.keys.filter (fun key => !e.removedKeys.contains key)
      = (l.inner.filterMap keyOf?).filter fun key => e.changes.get? key ≠ some none :=
    List.filter_congr fun key _ => not_contains_removedKeys e key
  rw [addedLines, hkept]
  rfl

/-! ### The cuts of a rewriting -/

/-- A directive is on one of the lines. -/
theorem exists_of_mem_placed {start : Nat} {cs : List Text} {d : Directive}
    (h : d ∈ placed start cs) :
    ∃ as c bs, cs = as ++ c :: bs ∧ DirectiveText.read? (contentOf c) = some d.toDirectiveText ∧
      d.line = Line.ofChunk (start + byteLength as.flatten) c := by
  induction cs generalizing start with
  | nil => cases h
  | cons c cs ih =>
      -- What is said of the other lines is said of all of them.
      have hrest : d ∈ placed (start + byteLength c) cs → ∃ as x bs, c :: cs = as ++ x :: bs ∧
          DirectiveText.read? (contentOf x) = some d.toDirectiveText ∧
          d.line = Line.ofChunk (start + byteLength as.flatten) x := by
        intro hmem
        obtain ⟨as, x, bs, rfl, hread, hline⟩ := ih hmem
        refine ⟨c :: as, x, bs, rfl, hread, ?_⟩
        rw [hline, List.flatten_cons, Text.byteLength_append, Nat.add_assoc]
      cases hread : DirectiveText.read? (contentOf c) with
      | none =>
          rw [placed_cons_none hread] at h
          exact hrest h
      | some x =>
          rw [placed_cons_some hread] at h
          rcases List.mem_cons.mp h with rfl | h
          · exact ⟨[], c, cs, rfl, hread, rfl⟩
          · exact hrest h

/-- The offsets of a value are those of its bytes. -/
theorem Layout.slice?_value (l : Layout) {d : Directive} (h : d ∈ directives l.text) :
    slice? l.text d.valueStart d.valueStop = some d.value := by
  rw [l.directives_text] at h
  obtain ⟨as, c, bs, hinner, hread, hline⟩ := exists_of_mem_placed h
  obtain ⟨dt, line⟩ := d
  obtain rfl : line = _ := hline
  have htext : l.text = (l.top ++ as.flatten ++ (DirectiveText.mark ++ dt.key ++ dt.separator)) ++
      dt.value ++ (endingOf c ++ (bs.flatten ++ l.rest)) := by
    rw [text, hinner, List.flatten_append, List.flatten_cons]
    conv => lhs; rw [line_eq hread]
    simp only [List.append_assoc]
  have hstart : byteLength l.top + byteLength as.flatten +
      byteLength (DirectiveText.mark ++ dt.key ++ dt.separator)
        = byteLength (l.top ++ as.flatten ++ (DirectiveText.mark ++ dt.key ++ dt.separator)) := by
    simp only [Text.byteLength_append]
  rw [valueStop_ofChunk hread, valueStart_ofChunk, hstart, htext]
  exact Text.slice?_append _ _ _

/-- The cuts of a rewriting exist: at character boundaries, inside the
text and in order. -/
structure CutsInside (source : Text) (span : Span) (e : Edits) : Prop where
  /-- The header ends in the closing marker, which begins where lines are
  added. -/
  closing : byteLength closingMarker ≤ span.stop ∧
    slice? source span.closingLineStart span.stop = some closingMarker
  /-- The header is a part of the text. -/
  header : slice? source span.start span.stop = some (span.text source)
  /-- So is the value of each directive. -/
  values : ∀ d ∈ directives source, slice? source d.valueStart d.valueStop = some d.value
  /-- The splices are carried out. -/
  splices : applySplices? source (editSplices source span e) = some (rewrite source e)

/-- All cuts that a rewrite needs are inside the text of the layout, and what
they cut out is what they should. -/
theorem Layout.cutsInside (l : Layout) (e : Edits) : CutsInside l.text l.span e where
  closing := by
    have htext : l.text = (l.top ++ l.inner.flatten) ++ closingMarker ++
        (endingOf l.closing ++ l.after.flatten) := by
      rw [text, l.rest_eq]
      simp only [List.append_assoc]
    have hslice := Text.slice?_append (l.top ++ l.inner.flatten) closingMarker
      (endingOf l.closing ++ l.after.flatten)
    rw [← htext, Text.byteLength_append, ← l.closingLineStart_span] at hslice
    refine ⟨Nat.le_add_left _ _, ?_⟩
    rw [show l.span.stop = l.span.closingLineStart + byteLength closingMarker by
      rw [l.closingLineStart_span]; rfl]
    exact hslice
  header := by
    have hstart : l.text = l.before.flatten ++ l.span.text l.text ++
        (endingOf l.closing ++ l.after.flatten) := by
      rw [l.text_span, text, top, l.rest_eq]
      simp only [List.append_assoc]
    have hslice := Text.slice?_append l.before.flatten (l.span.text l.text)
      (endingOf l.closing ++ l.after.flatten)
    rw [← hstart] at hslice
    have hstop : l.span.stop = byteLength l.before.flatten + byteLength (l.span.text l.text) := by
      rw [l.text_span]
      simp only [span, top, Text.byteLength_append]
      omega
    rw [hstop]
    exact hslice
  values := fun _ hd => l.slice?_value hd
  splices := by rw [l.applySplices?_edited, l.rewrite_text]

/-- Rewriting splice by splice is rewriting line by line. -/
theorem rewrite_eq_rewriteLines (source : Text) (e : Edits) :
    rewrite source e = rewriteLines source e := by
  cases hlocate : locate source with
  | none => rw [rewrite, hlocate, rewriteLines, sections?_eq_none hlocate]
  | some span =>
      obtain ⟨l, rfl⟩ := exists_layout hlocate
      rw [rewriteLines, l.sections?_text, l.rewrite_text, Layout.editedLines, l.addedLines_eq,
        e.editLines_entries, Layout.top, Layout.rest]
      simp only [List.flatten_append, List.flatten_cons, List.append_assoc]

/-- **Rewriting is line by line.** For every script and all edits, and the
cuts on the way exist. -/
theorem rewrite_is_line_by_line (source : Text) (e : Edits) :
    rewrite source e = rewriteLines source e ∧
      ∀ span, locate source = some span → CutsInside source span e := by
  refine ⟨rewrite_eq_rewriteLines source e, fun span hspan => ?_⟩
  obtain ⟨l, rfl⟩ := exists_layout hspan
  rw [l.locate_text, Option.some.injEq] at hspan
  rw [← hspan]
  exact l.cutsInside e

/-- A script with characters of several bytes around and inside its
header, both terminators and a line that ends with its key. -/
def crowdedSource : Text :=
  "ä\n// ==UserScript==\r\n// @a\r\n// ß\n// @b\u3000é\n// @b 1\n// @c 2\n// ==/UserScript==".toList

/-- Edits of adjacent lines, and one that is no directive. -/
def crowdedEdits : Edits :=
  (((Edits.empty.replace "a".toList "ö".toList).replace "b".toList []).remove "c".toList).addIfMissing
    "c d".toList "\nx".toList

/-- The line that is removed ends where the new one begins. -/
theorem rewrite_is_line_by_line_crowded :
    ∃ span, locate crowdedSource = some span ∧ CutsInside crowdedSource span crowdedEdits ∧
      rewrite crowdedSource crowdedEdits
        = ("ä\n// ==UserScript==\r\n// @a ö\r\n// ß\n// @b\u3000\n// @b 1\n".toList ++
            "// @c d \nx\r\n// ==/UserScript==".toList) := by
  obtain ⟨hlines, hcuts⟩ := rewrite_is_line_by_line crowdedSource crowdedEdits
  obtain ⟨span, hspan⟩ := Option.isSome_iff_exists.mp
    (show (locate crowdedSource).isSome = true by decide +kernel)
  refine ⟨span, hspan, hcuts span hspan, ?_⟩
  rw [hlines]
  decide +kernel

end ScriptGate.Header
