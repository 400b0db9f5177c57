import ScriptGate.Proofs.Header.Grammar
import ScriptGate.Proofs.Header.Markers

/-!
# `ScriptGate.Proofs.Header.Located`: where a header is found

`locate` looks at the lines of a script once. `FirstPair` says without a
scan what it finds: the first line that says the opening marker and the
first line after it that says the closing marker. Other markers, in front
of these two, between them or behind them, do not matter, and a script has
a header as soon as an opening marker has a closing one anywhere behind it
(`HasMarkerPair`).

`header_is_first_pair` adds what can be done with the span. Its offsets and
that of the closing marker are character boundaries of the script, in order
and in range (`CutsOut`). The texts on both sides of it make up the script
together with the header, the first of them consists of whole lines, and
the second one begins where the content of the closing line ends
(`Surrounds`). Whether that line is terminated, and how, is left open, so
the second text may be a carriage return and nothing else.
-/

set_option autoImplicit false

namespace ScriptGate.Header

open Text (IsEnding IsLine Line byteLength contentOf endingOf slice? splitAtByte?)

/-- Some line says the opening marker, and a later one the closing
marker. -/
def HasMarkerPair (source : Text) : Prop :=
  ∃ x y, [x, y].Sublist (Text.lines source) ∧ x.content = openingMarker ∧
    y.content = closingMarker

/-- `span` begins with the first line that says the opening marker, and it
ends where the content of the first line after it does that says the closing
marker. -/
def FirstPair (source : Text) (span : Span) : Prop :=
  ∃ before opening inner closing after,
    Text.lines source = before ++ opening :: (inner ++ closing :: after) ∧
      (∀ x ∈ before, x.content ≠ openingMarker) ∧ opening.content = openingMarker ∧
      (∀ x ∈ inner, x.content ≠ closingMarker) ∧ closing.content = closingMarker ∧
      span.start = opening.start ∧ span.stop = closing.contentEnd

/-- The offsets of a header cut it and its closing marker out of the
script. -/
structure CutsOut (source : Text) (span : Span) : Prop where
  start_le : span.start ≤ span.closingLineStart
  /-- The closing marker is not longer than what ends with it. -/
  closing_le : span.closingLineStart + byteLength closingMarker = span.stop
  stop_le : span.stop ≤ byteLength source
  boundaries : ∀ n ∈ [span.start, span.closingLineStart, span.stop], IsBoundary source n
  header : slice? source span.start span.stop = some (span.text source)
  closing : slice? source span.closingLineStart span.stop = some closingMarker

/-- The texts before and after a header, which are all that the script has
besides it. -/
structure Surrounds (source : Text) (span : Span) (before after : Text) : Prop where
  source_eq : before ++ span.text source ++ after = source
  before_ends : before = [] ∨ before.getLast? = some '\n'
  before_lines : ∀ x ∈ Text.lines before, x.content ≠ openingMarker
  /-- The closing line has a terminator, or it is the last one. -/
  after_begins : after = [] ∨ ['\n'] <+: after ∨ ['\r', '\n'] <+: after ∨ after = ['\r']
  body_eq : body source = before ++ after

/-! ### The markers -/

/-- The scan finds the first pair, and nothing else. -/
theorem locate_eq_some_iff {source : Text} {span : Span} :
    locate source = some span ↔ FirstPair source span := by
  constructor
  · intro h
    obtain ⟨⟨opening, closing⟩, hmarkers, rfl⟩ := Option.map_eq_some_iff.mp h
    obtain ⟨before, inner, after, hlines, hbefore, hopening, hinner, hclosing⟩ :=
      markerLines_eq_some hmarkers
    exact ⟨before, opening, inner, closing, after, hlines, hbefore, hopening, hinner, hclosing,
      rfl, rfl⟩
  · obtain ⟨start, stop⟩ := span
    rintro ⟨before, opening, inner, closing, after, hlines, hbefore, hopening, hinner, hclosing,
      rfl, rfl⟩
    rw [locate, hlines, markerLines_append hbefore hopening hinner hclosing]
    rfl

/-- There is a first pair wherever there is one. -/
theorem locate_ne_none_iff (source : Text) : locate source ≠ none ↔ HasMarkerPair source := by
  constructor
  · intro h
    obtain ⟨span, hspan⟩ := Option.ne_none_iff_exists'.mp h
    obtain ⟨before, opening, inner, closing, after, hlines, -, hopening, -, hclosing, -⟩ :=
      locate_eq_some_iff.mp hspan
    refine ⟨opening, closing, ?_, hopening, hclosing⟩
    rw [hlines]
    exact ((List.singleton_sublist.mpr (by simp)).cons_cons opening).trans
      (List.sublist_append_right before _)
  · rintro ⟨x, y, hsub, hx, hy⟩
    rw [locate, ne_eq, Option.map_eq_none_iff]
    exact markerLines_ne_none hsub hx hy

/-! ### The span and what surrounds it -/

namespace Layout

variable (l : Layout)

/-- The span of a layout cuts its header out of the text. -/
theorem cutsOut : CutsOut l.text l.span := by
  have htop := l.top_pos
  -- The script, cut at each of the three offsets.
  have hstart : l.text = l.before.flatten ++ (l.opening ++ (l.inner.flatten ++ l.rest)) := by
    rw [text, top]
    simp only [List.append_assoc]
  have hclosing : l.text = (l.top ++ l.inner.flatten) ++ closingMarker ++
      (endingOf l.closing ++ l.after.flatten) := by
    rw [text, l.rest_eq]
    simp only [List.append_assoc]
  have hlength : byteLength (l.top ++ l.inner.flatten) = l.span.closingLineStart := by
    rw [Text.byteLength_append, l.closingLineStart_span]
  have hstop : l.span.closingLineStart + byteLength closingMarker = l.span.stop := by
    rw [l.closingLineStart_span]
    rfl
  have hboundary : IsBoundary l.text (byteLength l.before.flatten) := by
    rw [hstart]
    exact isBoundary_append _ _
  have hfirst : IsBoundary l.text l.span.closingLineStart := by
    rw [hclosing, ← hlength, List.append_assoc]
    exact isBoundary_append _ _
  have hlast : IsBoundary l.text l.span.stop := by
    rw [hclosing, ← hstop, ← hlength, ← Text.byteLength_append]
    exact isBoundary_append _ _
  constructor
  case start_le =>
    rw [l.closingLineStart_span]
    show byteLength l.before.flatten ≤ _
    omega
  case closing_le => exact hstop
  case stop_le =>
    rw [hclosing, ← hstop, ← hlength, Text.byteLength_append _ (endingOf _ ++ _),
      Text.byteLength_append _ closingMarker]
    omega
  case boundaries =>
    intro n hn
    simp only [List.mem_cons, List.not_mem_nil, or_false] at hn
    rcases hn with rfl | rfl | rfl
    · exact hboundary
    · exact hfirst
    · exact hlast
  case header =>
    rw [l.text_span]
    exact l.slice?_span
  case closing =>
    rw [← hstop, ← hlength, hclosing]
    exact Text.slice?_append _ _ _

/-- The text before the header is cut into the lines before it. -/
theorem chunks_before : Text.chunks l.before.flatten = l.before := by
  have h := Text.chunks_flatten_append
    (fun c hc => l.isLine c (List.mem_append_left _ hc)) ([] : Text)
  rwa [List.append_nil, Text.chunks_nil, List.append_nil] at h

/-- Behind the closing marker comes a terminator, unless the script ends. -/
theorem after_closing_cases :
    let after := endingOf l.closing ++ l.after.flatten
    after = [] ∨ ['\n'] <+: after ∨ ['\r', '\n'] <+: after ∨ after = ['\r'] := by
  by_cases hafter : l.after = []
  · rw [hafter, List.flatten_nil, List.append_nil]
    rcases Text.endingOf_cases l.closing with h | h | h | h
    · exact Or.inl h
    · exact Or.inr (Or.inr (Or.inr h))
    · exact Or.inr (Or.inl (h ▸ List.prefix_refl _))
    · exact Or.inr (Or.inr (Or.inl (h ▸ List.prefix_refl _)))
  · -- A closing line with a line behind it is terminated.
    have hline := Text.isLine_head_of_chunks l.chunks_rest hafter
    rcases hline.ending.1 with h | h
    · exact Or.inr (Or.inl (h ▸ List.prefix_append _ _))
    · exact Or.inr (Or.inr (Or.inl (h ▸ List.prefix_append _ _)))

/-- What the span leaves are the lines before the header and what follows the
closing marker. -/
theorem surrounds :
    Surrounds l.text l.span l.before.flatten (endingOf l.closing ++ l.after.flatten) := by
  constructor
  case source_eq =>
    rw [l.text_span, text, top, l.rest_eq]
    simp only [List.append_assoc]
  case before_ends =>
    rcases List.eq_nil_or_concat l.before with hnil | ⟨cs, c, hcs⟩
    · exact Or.inl (by rw [hnil, List.flatten_nil])
    · obtain ⟨s, rfl, -⟩ := l.isLine c (List.mem_append_left _ (by rw [hcs]; simp))
      refine Or.inr ?_
      rw [hcs, List.concat_eq_append, List.flatten_concat, ← List.append_assoc,
        List.getLast?_concat]
  case before_lines =>
    intro x hx
    rw [Text.lines_eq_place, l.chunks_before] at hx
    obtain ⟨c, hc, hxc⟩ := Text.exists_of_mem_place hx
    rw [hxc, Text.content_ofChunk]
    exact l.before_ne c hc
  case after_begins => exact l.after_closing_cases
  case body_eq => exact l.body_text

end Layout

/-- **Locating headers.** A script has a header if and only if an opening
marker has a closing marker behind it. The header is then between the first
opening marker and the first closing marker after it, its offsets cut it out
of the script, and `split` gives what surrounds it. -/
theorem header_is_first_pair (source : Text) :
    (locate source ≠ none ↔ HasMarkerPair source) ∧
    (∀ span, locate source = some span ↔ FirstPair source span) ∧
    ∀ span, locate source = some span →
      CutsOut source span ∧ Surrounds source span (split source).1 (split source).2 := by
  refine ⟨locate_ne_none_iff source, fun span => locate_eq_some_iff, fun span hspan => ?_⟩
  obtain ⟨l, rfl⟩ := exists_layout hspan
  obtain rfl : l.span = span := Option.some.inj (l.locate_text.symm.trans hspan)
  rw [l.split_text]
  exact ⟨l.cutsOut, l.surrounds⟩

/-- The lines in front of a header: one that does not begin with the opening
marker, and a closing marker to which nothing belongs. -/
def crossedBefore : Text := "ä // ==UserScript==\n// ==/UserScript==\r\n".toList

/-- A script with more markers than two. Inside the header there is an
opening one, and a closing one that is not all of its line. The line that
closes it ends the script with a carriage return. -/
def crossedSource : Text :=
  crossedBefore ++ "// ==UserScript==\r\n// ==UserScript==\nx\r// ==/UserScript==\n".toList ++
    "// ==/UserScript==\r".toList

/-- The header begins with the second opening marker that stands in the text
and ends with the last closing one. -/
theorem header_is_first_pair_crossed :
    locate crossedSource = some ⟨41, 117⟩ ∧ HasMarkerPair crossedSource ∧
      FirstPair crossedSource ⟨41, 117⟩ ∧ CutsOut crossedSource ⟨41, 117⟩ ∧
      Surrounds crossedSource ⟨41, 117⟩ crossedBefore ['\r'] := by
  have hlocate : locate crossedSource = some ⟨41, 117⟩ := by decide +kernel
  have hsplit : split crossedSource = (crossedBefore, ['\r']) := by decide +kernel
  obtain ⟨hpair, hfirst, hparts⟩ := header_is_first_pair crossedSource
  have hne : locate crossedSource ≠ none := by
    rw [hlocate]
    exact Option.some_ne_none _
  obtain ⟨hcuts, hsurrounds⟩ := hparts ⟨41, 117⟩ hlocate
  rw [hsplit] at hsurrounds
  exact ⟨hlocate, hpair.mp hne, (hfirst ⟨41, 117⟩).mp hlocate, hcuts, hsurrounds⟩

end ScriptGate.Header
