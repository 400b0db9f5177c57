import ScriptGate.Header.Metadata
import ScriptGate.Proofs.Text.Chunks

/-!
# `ScriptGate.Proofs.Header.Layout`: a script around its header

A `Layout` is a script with a header, as chunks: those before the header,
its first line, the lines inside it, the chunk of the closing marker and
those after it. Every script with a header has a layout
(`exists_layout`), and a layout says without byte offsets what `locate`,
`directives`, `body` and the line terminator of the header are.

`Layout.withInner` puts other lines into the header. Nothing else of the
layout changes, and in particular not the body.
-/

set_option autoImplicit false

namespace ScriptGate.Header

open Text (IsEnding IsLine Line byteLength contentOf endingOf place)

/-- The first opening marker and the first closing marker after it are the
marker lines. -/
theorem markerLines_append {before inner after : List Line} {first last : Line}
    (hbefore : ∀ x ∈ before, x.content ≠ openingMarker) (hfirst : first.content = openingMarker)
    (hinner : ∀ x ∈ inner, x.content ≠ closingMarker) (hlast : last.content = closingMarker) :
    markerLines (before ++ first :: (inner ++ last :: after)) = some (first, last) := by
  have hdrop : (before ++ first :: (inner ++ last :: after)).dropWhile
      (fun x => x.content != openingMarker) = first :: (inner ++ last :: after) := by
    rw [List.dropWhile_append_of_pos (by simpa using hbefore),
      List.dropWhile_cons_of_neg (by simp [hfirst])]
  have hfind : (inner ++ last :: after).find? (fun x => x.content == closingMarker)
      = some last := by
    rw [List.find?_append, List.find?_eq_none.mpr (by simpa using hinner), Option.none_or,
      List.find?_cons_of_pos (by simp [hlast])]
  rw [markerLines, hdrop]
  simp only [hfind, Option.map_some]

/-- A script with a header. -/
structure Layout where
  /-- The lines before the header. -/
  before : List Text
  /-- The line of the opening marker. -/
  opening : Text
  /-- The lines between the markers. -/
  inner : List Text
  /-- The chunk of the closing marker. -/
  closing : Text
  /-- The chunks after the header. -/
  after : List Text
  /-- The closing marker is on a line of its own. -/
  isLine : ∀ c ∈ before ++ opening :: inner, IsLine c
  /-- What begins with it is cut into these chunks. -/
  chunks_rest : Text.chunks (closing :: after).flatten = closing :: after
  /-- The opening marker is the first one. -/
  before_ne : ∀ c ∈ before, contentOf c ≠ openingMarker
  opening_eq : contentOf opening = openingMarker
  /-- The closing marker is the first one after it. -/
  inner_ne : ∀ c ∈ inner, contentOf c ≠ closingMarker
  closing_eq : contentOf closing = closingMarker

namespace Layout

variable (l : Layout)

/-- The script up to the lines inside the header. -/
def top : Text := l.before.flatten ++ l.opening

/-- The script from the closing marker on. -/
def rest : Text := (l.closing :: l.after).flatten

/-- The script. -/
def text : Text := l.top ++ l.inner.flatten ++ l.rest

/-- The layout with other lines inside the header. -/
def withInner (inner : List Text) (hline : ∀ c ∈ inner, IsLine c)
    (hne : ∀ c ∈ inner, contentOf c ≠ closingMarker) : Layout :=
  { l with
    inner
    isLine := fun c hc => by
      rw [List.mem_append, List.mem_cons] at hc
      rcases hc with hc | rfl | hc
      · exact l.isLine c (List.mem_append_left _ hc)
      · exact l.isLine _ (List.mem_append_right _ List.mem_cons_self)
      · exact hline c hc
    inner_ne := hne }

/-! ### Chunks and lines -/

/-- The opening marker stands on a line that ends. -/
theorem isLine_opening : IsLine l.opening :=
  l.isLine _ (List.mem_append_right _ List.mem_cons_self)

/-- All lines between the markers end. -/
theorem isLine_inner {c : Text} (h : c ∈ l.inner) : IsLine c :=
  l.isLine c (List.mem_append_right _ (List.mem_cons_of_mem _ h))

/-- The inner lines begin behind the start of the opening line. -/
theorem top_pos : byteLength l.before.flatten < byteLength l.top := by
  have hpos := Text.byteLength_pos l.isLine_opening.ne_nil
  rw [top, Text.byteLength_append]
  omega

/-- The closing chunk is the marker with its terminator. -/
theorem closing_append : closingMarker ++ endingOf l.closing = l.closing := by
  rw [← l.closing_eq, Text.contentOf_append_endingOf]

/-- What follows the inner lines begins with the closing marker. -/
theorem rest_eq : l.rest = closingMarker ++ (endingOf l.closing ++ l.after.flatten) := by
  rw [rest, List.flatten_cons, ← List.append_assoc, l.closing_append]

/-- The lines of the text are the lines of the layout, in their order. -/
theorem chunks_text :
    Text.chunks l.text = l.before ++ [l.opening] ++ l.inner ++ l.closing :: l.after := by
  have htext : l.text = (l.before ++ l.opening :: l.inner).flatten ++ l.rest := by
    rw [text, top, List.flatten_append, List.flatten_cons]
    simp only [List.append_assoc]
  rw [htext, Text.chunks_flatten_append l.isLine, rest, l.chunks_rest, List.append_cons l.before,
    List.append_assoc]

/-- The lines of the script in four parts. -/
theorem lines_text :
    Text.lines l.text
      = place 0 l.before ++ Line.ofChunk (byteLength l.before.flatten) l.opening ::
          place (byteLength l.top) l.inner ++
        place (byteLength l.top + byteLength l.inner.flatten) (l.closing :: l.after) := by
  rw [Text.lines_eq_place, l.chunks_text, Text.place_append, Text.place_append,
    Text.place_append]
  simp only [place, top, List.flatten_append, List.flatten_cons, List.flatten_nil, List.append_nil,
    Text.byteLength_append, Nat.zero_add, List.append_assoc, List.cons_append, List.nil_append,
    Text.next_ofChunk, Nat.add_assoc]

/-! ### The header -/

/-- The place of the header. -/
def span : Span :=
  ⟨byteLength l.before.flatten,
    byteLength l.top + byteLength l.inner.flatten + byteLength closingMarker⟩

/-- The header of the script is found. -/
theorem locate_text : locate l.text = some l.span := by
  -- No marker stands in front of the two that count.
  have hbefore : ∀ x ∈ place 0 l.before, x.content ≠ openingMarker := by
    intro x hx
    obtain ⟨c, hc, hxc⟩ := Text.exists_of_mem_place hx
    rw [hxc, Text.content_ofChunk]
    exact l.before_ne c hc
  have hinner : ∀ x ∈ place (byteLength l.top) l.inner, x.content ≠ closingMarker := by
    intro x hx
    obtain ⟨c, hc, hxc⟩ := Text.exists_of_mem_place hx
    rw [hxc, Text.content_ofChunk]
    exact l.inner_ne c hc
  rw [locate, l.lines_text, place, List.append_assoc, List.cons_append,
    markerLines_append hbefore l.opening_eq hinner l.closing_eq, Option.map_some]
  show some (Span.mk _ (Line.contentEnd _)) = _
  rw [Text.Line.contentEnd, Text.content_ofChunk, l.closing_eq]
  rfl

/-- The line of the closing marker begins right after the inner lines. -/
theorem closingLineStart_span :
    l.span.closingLineStart = byteLength l.top + byteLength l.inner.flatten :=
  Nat.add_sub_cancel ..

/-- The directives of the script are on the lines inside its header. -/
theorem directives_text :
    directives l.text
      = (place (byteLength l.top) l.inner).filterMap Directive.ofLine? := by
  have htop := l.top_pos
  -- Lines before the opening marker end where it starts.
  have hbefore : ∀ x ∈ place 0 l.before ++
      [Line.ofChunk (byteLength l.before.flatten) l.opening],
      ¬ (l.span.start < x.start && x.start < l.span.closingLineStart) = true := by
    intro x hx hin
    rw [Bool.and_eq_true, decide_eq_true_eq, decide_eq_true_eq] at hin
    rcases List.mem_append.mp hx with hx | hx
    · have hplace := (Text.start_of_mem_place hx).2
      have hnext : x.start ≤ x.next := by
        rw [Line.next, Line.contentEnd]
        omega
      have hstart : l.span.start = byteLength l.before.flatten := rfl
      omega
    · rw [List.mem_singleton.mp hx] at hin
      exact Nat.lt_irrefl _ hin.1
  -- Lines inside the header start after the opening marker and before the closing one.
  have hinner : ∀ x ∈ place (byteLength l.top) l.inner,
      (l.span.start < x.start && x.start < l.span.closingLineStart) = true := by
    intro x hx
    obtain ⟨c, hc, hxc⟩ := Text.exists_of_mem_place hx
    have hplace := Text.start_of_mem_place hx
    have hpos := Text.byteLength_pos (l.isLine_inner hc).ne_nil
    rw [hxc, Text.start_ofChunk, Text.next_ofChunk] at hplace
    have hstart : l.span.start = byteLength l.before.flatten := rfl
    rw [Bool.and_eq_true, decide_eq_true_eq, decide_eq_true_eq, l.closingLineStart_span]
    omega
  have hafter : ∀ x ∈ place (byteLength l.top + byteLength l.inner.flatten)
      (l.closing :: l.after),
      ¬ (l.span.start < x.start && x.start < l.span.closingLineStart) = true := by
    intro x hx hin
    rw [Bool.and_eq_true, decide_eq_true_eq, decide_eq_true_eq, l.closingLineStart_span] at hin
    have hplace := (Text.start_of_mem_place hx).1
    omega
  rw [directives, l.locate_text]
  show ((Text.lines l.text).filter fun x =>
    l.span.start < x.start && x.start < l.span.closingLineStart).filterMap _ = _
  rw [l.lines_text, List.append_cons, List.filter_append, List.filter_append,
    List.filter_eq_nil_iff.mpr hbefore, List.filter_eq_self.mpr hinner,
    List.filter_eq_nil_iff.mpr hafter, List.nil_append, List.append_nil]

/-- The text on both sides of the header. -/
theorem split_text :
    split l.text = (l.before.flatten, endingOf l.closing ++ l.after.flatten) := by
  have hbefore : l.text = l.before.flatten ++ (l.opening ++ (l.inner.flatten ++ l.rest)) := by
    rw [text, top]
    simp only [List.append_assoc]
  have hafter : l.text = (l.top ++ l.inner.flatten ++ closingMarker) ++
      (endingOf l.closing ++ l.after.flatten) := by
    rw [text, l.rest_eq]
    simp only [List.append_assoc]
  have hstop : l.span.stop = byteLength (l.top ++ l.inner.flatten ++ closingMarker) := by
    rw [Text.byteLength_append, Text.byteLength_append]
    rfl
  have hfst : Text.splitAtByte? l.span.start l.text
      = some (l.before.flatten, l.opening ++ (l.inner.flatten ++ l.rest)) := by
    rw [hbefore]
    exact Text.splitAtByte?_append _ _
  have hsnd : Text.splitAtByte? l.span.stop l.text
      = some (l.top ++ l.inner.flatten ++ closingMarker,
          endingOf l.closing ++ l.after.flatten) := by
    rw [hstop, hafter]
    exact Text.splitAtByte?_append _ _
  rw [split, l.locate_text]
  simp only [hfst, hsnd, Option.elim]

/-- The script without its header. -/
theorem body_text :
    body l.text = l.before.flatten ++ (endingOf l.closing ++ l.after.flatten) := by
  rw [body, l.split_text]

/-- The span cuts out the header from marker to marker. -/
theorem slice?_span :
    Text.slice? l.text l.span.start l.span.stop
      = some (l.opening ++ (l.inner.flatten ++ closingMarker)) := by
  have htext : l.text = l.before.flatten ++ (l.opening ++ (l.inner.flatten ++ closingMarker)) ++
      (endingOf l.closing ++ l.after.flatten) := by
    rw [text, top, l.rest_eq]
    simp only [List.append_assoc]
  have hstop : l.span.stop = byteLength l.before.flatten +
      byteLength (l.opening ++ (l.inner.flatten ++ closingMarker)) := by
    simp only [span, top, Text.byteLength_append]
    omega
  rw [htext, hstop]
  exact Text.slice?_append _ _ _

/-- The header from marker to marker. -/
theorem text_span :
    l.span.text l.text = l.opening ++ (l.inner.flatten ++ closingMarker) := by
  rw [Span.text, l.slice?_span, Option.getD_some]

/-- The header as a text of its own. -/
theorem metaBlock_text :
    metaBlock l.text
      = some (l.opening ++ (l.inner.flatten ++ closingMarker) ++
          leadingTerminator (endingOf l.closing ++ l.after.flatten)) := by
  rw [metaBlock, l.locate_text, l.split_text, ← l.text_span]
  rfl

/-- The header uses the terminator of its first line. -/
theorem lineTerminator_text : l.span.lineTerminator l.text = endingOf l.opening := by
  rw [Span.lineTerminator, l.text_span, Text.chunks_append_of_isLine l.isLine_opening]
  obtain ⟨s, hs, -⟩ := l.isLine_opening
  rw [endingOf, hs, List.head?_cons, Option.map_some, List.reverse_append,
    List.reverse_singleton, List.singleton_append]
  -- The last character before the line feed decides.
  cases hr : s.reverse with
  | nil => rfl
  | cons a r =>
      by_cases ha : a = '\r'
      · rw [ha]
        rfl
      · rw [Text.cutEnding_cons_of_ne ha]
        split
        · rename_i heq
          rw [Option.some.injEq, List.cons.injEq, List.cons.injEq] at heq
          exact absurd heq.2.1 ha
        · rfl

end Layout

/-- The marker lines are the first ones of their kind. -/
theorem markerLines_eq_some {ls : List Line} {first last : Line}
    (h : markerLines ls = some (first, last)) :
    ∃ before inner after, ls = before ++ first :: (inner ++ last :: after) ∧
      (∀ x ∈ before, x.content ≠ openingMarker) ∧ first.content = openingMarker ∧
      (∀ x ∈ inner, x.content ≠ closingMarker) ∧ last.content = closingMarker := by
  rw [markerLines] at h
  cases hdrop : ls.dropWhile (fun x => x.content != openingMarker) with
  | nil =>
      rw [hdrop] at h
      cases h
  | cons x xs =>
      rw [hdrop] at h
      obtain ⟨y, hy, hpair⟩ := Option.map_eq_some_iff.mp h
      rw [Prod.mk.injEq] at hpair
      obtain ⟨rfl, rfl⟩ := hpair
      obtain ⟨hclosing, inner, after, rfl, hinner⟩ := List.find?_eq_some_iff_append.mp hy
      refine ⟨ls.takeWhile fun x => x.content != openingMarker, inner, after, ?_, ?_, ?_, ?_, ?_⟩
      · rw [← hdrop, List.takeWhile_append_dropWhile]
      · intro z hz
        exact bne_iff_ne.mp (List.all_eq_true.mp List.all_takeWhile z hz)
      · -- The dropping stopped at this line.
        have hhead := List.head_dropWhile_not (fun x : Line => x.content != openingMarker)
          (by rw [hdrop]; exact List.cons_ne_nil _ _)
        simp only [hdrop, List.head_cons] at hhead
        exact bne_eq_false_iff_eq.mp hhead
      · intro z hz
        have hz' := hinner z hz
        rw [Bool.not_eq_true', beq_eq_false_iff_ne] at hz'
        exact hz'
      · exact beq_iff_eq.mp hclosing

/-- A script whose lines are cut at the first markers has a layout that is
cut in the same places. -/
theorem exists_layout_of_lines {source : Text} {bs is as : List Line} {first last : Line}
    (hlines : Text.lines source = bs ++ first :: (is ++ last :: as))
    (hbefore : ∀ x ∈ bs, x.content ≠ openingMarker) (hopening : first.content = openingMarker)
    (hinner : ∀ x ∈ is, x.content ≠ closingMarker) (hclosing : last.content = closingMarker) :
    ∃ l : Layout, l.text = source ∧ is = place (byteLength l.top) l.inner := by
  rw [Text.lines_eq_place] at hlines
  -- The same cuts, between chunks.
  obtain ⟨before, _, hcs, rfl, hfirst⟩ := Text.place_eq_append hlines
  obtain ⟨opening, _, rfl, rfl, hlines'⟩ := Text.place_eq_cons hfirst.symm
  obtain ⟨inner, _, rfl, rfl, hlast⟩ := Text.place_eq_append hlines'.symm
  obtain ⟨closing, after, rfl, rfl, -⟩ := Text.place_eq_cons hlast.symm
  have hchunks : Text.chunks source = (before ++ opening :: inner) ++ closing :: after := by
    rw [hcs, List.append_assoc, List.cons_append]
  obtain ⟨hisLine, hafter⟩ := Text.chunks_eq_append hchunks (List.cons_ne_nil _ _)
  refine ⟨⟨before, opening, inner, closing, after, hisLine, hafter, ?_, hopening, ?_, hclosing⟩,
    ?_, ?_⟩
  · intro c hc
    obtain ⟨x, hx, hxc⟩ := Text.exists_mem_place 0 hc
    rw [← hxc]
    exact hbefore x hx
  · intro c hc
    obtain ⟨x, hx, hxc⟩ := Text.exists_mem_place _ hc
    rw [← hxc]
    exact hinner x hx
  · rw [← Text.flatten_chunks source, hchunks]
    simp only [Layout.text, Layout.top, Layout.rest, List.flatten_append, List.flatten_cons,
      List.append_assoc]
  · show place (0 + byteLength before.flatten + byteLength opening) inner
      = place (byteLength (before.flatten ++ opening)) inner
    rw [Text.byteLength_append, Nat.zero_add]

/-- **Layouts.** Every script with a header has one. -/
theorem exists_layout {source : Text} {span : Span} (h : locate source = some span) :
    ∃ l : Layout, l.text = source := by
  obtain ⟨⟨first, last⟩, hmarkers, -⟩ := Option.map_eq_some_iff.mp h
  obtain ⟨bs, is, as, hlines, hbefore, hopening, hinner, hclosing⟩ :=
    markerLines_eq_some hmarkers
  obtain ⟨l, htext, -⟩ := exists_layout_of_lines hlines hbefore hopening hinner hclosing
  exact ⟨l, htext⟩

end ScriptGate.Header
