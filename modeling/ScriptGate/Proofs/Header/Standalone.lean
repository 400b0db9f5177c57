import ScriptGate.Proofs.Header.LineByLine

/-!
# `ScriptGate.Proofs.Header.Standalone`: a header as a text of its own

`metaBlock` cuts the header out of a script, with the terminator that
follows its closing marker. What it cuts out is a script again. Its layout
is that of the former one with nothing in front of the opening marker and
nothing behind the closing line (`Layout.standalone`), so it has the same
lines inside, and it is cut out of itself as it is.

`StandsFor` collects what such a header has in common with its script.
Cutting it out moves its directives to the front and changes nothing else
of them (`directives_standalone`). Editing a header and cutting it out can
be done in either order (`metaBlock_rewrite`), as long as nothing that is
written has a line feed. Otherwise a value could bring markers of its own,
and the header would end at these.
-/

set_option autoImplicit false

namespace ScriptGate.Header

open Text (IsEnding IsLine Line byteLength contentOf endingOf place)

/-- The directive `n` bytes further on. -/
def Directive.shifted (n : Nat) (d : Directive) : Directive := { d with line := d.line.shifted n }

/-- What a header on its own and the script around it have in common. The
script has the header at `span`. -/
structure StandsFor (header source : Text) (span : Span) : Prop where
  located : locate header = some ⟨0, span.stop - span.start⟩
  /-- All offsets of the directives move by the same number of bytes. -/
  directives_eq : directives source = (directives header).map (Directive.shifted span.start)
  /-- What the directives say does not move. -/
  readings : (directives header).map (fun d => (d.key, d.value, d.line.content))
    = (directives source).map (fun d => (d.key, d.value, d.line.content))
  metadata : Metadata.ofSource header = Metadata.ofSource source
  metaBlock_self : metaBlock header = some header
  /-- Edits are made in the script as they are in the header. -/
  edited : ∀ e : Edits, e.Fits → metaBlock (rewrite source e) = some (rewrite header e)

/-- A directive is found wherever its line stands. -/
theorem ofLine?_shifted (n : Nat) (l : Line) :
    Directive.ofLine? (l.shifted n) = (Directive.ofLine? l).map (Directive.shifted n) := by
  show (DirectiveText.read? l.content).map _ = _
  rw [Directive.ofLine?, Option.map_map]
  rfl

/-- What a text begins with is a terminator, or nothing. -/
theorem leadingTerminator_cases (t : Text) :
    leadingTerminator t = [] ∨ IsEnding (leadingTerminator t) := by
  unfold leadingTerminator
  split
  · exact Or.inr (Or.inr rfl)
  · exact Or.inr (Or.inl rfl)
  · exact Or.inl rfl

/-- The closing marker, with or without a terminator, is a chunk of its
own. -/
theorem closing_cases {e : Text} (he : e = [] ∨ IsEnding e) :
    contentOf (closingMarker ++ e) = closingMarker ∧ endingOf (closingMarker ++ e) = e ∧
      Text.chunks (closingMarker ++ e) = [closingMarker ++ e] ∧ leadingTerminator e = e := by
  rcases he with rfl | rfl | rfl
  · decide +kernel
  · decide +kernel
  · decide +kernel

namespace Layout

variable (l : Layout)

/-- The terminator that follows the closing marker. -/
def lastEnding : Text := leadingTerminator (endingOf l.closing ++ l.after.flatten)

/-- The closing marker ends in a terminator or not at all. -/
theorem lastEnding_cases : l.lastEnding = [] ∨ IsEnding l.lastEnding :=
  leadingTerminator_cases _

/-- The script that consists of the header alone. -/
def standalone : Layout where
  before := []
  opening := l.opening
  inner := l.inner
  closing := closingMarker ++ l.lastEnding
  after := []
  isLine c hc := l.isLine c (List.mem_append_right _ hc)
  chunks_rest := by
    rw [List.flatten_singleton]
    exact (closing_cases l.lastEnding_cases).2.2.1
  before_ne c hc := by cases hc
  opening_eq := l.opening_eq
  inner_ne := l.inner_ne
  closing_eq := (closing_cases l.lastEnding_cases).1

/-- It is what is cut out. -/
theorem metaBlock_eq_standalone : metaBlock l.text = some l.standalone.text := by
  rw [l.metaBlock_text, text, top, rest]
  simp only [standalone, lastEnding, List.flatten_nil, List.nil_append, List.flatten_singleton,
    List.append_assoc]

/-- On its own, the closing marker keeps just this terminator. -/
theorem endingOf_closing_standalone : endingOf l.standalone.closing = l.lastEnding :=
  (closing_cases l.lastEnding_cases).2.1

/-- A header on its own ends as it does in the script. -/
theorem lastEnding_standalone : l.standalone.lastEnding = l.lastEnding := by
  have hnil : l.standalone.after.flatten = [] := rfl
  rw [lastEnding, hnil, List.append_nil, l.endingOf_closing_standalone]
  exact (closing_cases l.lastEnding_cases).2.2.2

/-- A header on its own is all of its script. -/
theorem standalone_standalone : l.standalone.standalone.text = l.standalone.text := by
  rw [text, text, top, top, rest, rest]
  show _ ++ l.inner.flatten ++ [closingMarker ++ l.standalone.lastEnding].flatten = _
  rw [l.lastEnding_standalone]
  rfl

/-- Its header begins it. -/
theorem start_span_standalone : l.standalone.span.start = 0 := rfl

/-- All that is left of the body is the terminator. -/
theorem body_standalone : body l.standalone.text = l.lastEnding := by
  rw [body_text, endingOf_closing_standalone]
  exact List.append_nil _

/-- It is as long as its place in the script. -/
theorem span_standalone : l.standalone.span = ⟨0, l.span.stop - l.span.start⟩ := by
  have htop : byteLength l.top = l.span.start + byteLength l.opening := Text.byteLength_append _ _
  have hopening : byteLength l.standalone.top = byteLength l.opening := rfl
  have hstop : l.span.stop - l.span.start = l.standalone.span.stop := by
    show byteLength l.top + byteLength l.inner.flatten + byteLength closingMarker - l.span.start
      = byteLength l.standalone.top + byteLength l.inner.flatten + byteLength closingMarker
    omega
  rw [hstop, ← l.start_span_standalone]

/-- The directives move to the front with their lines. -/
theorem directives_standalone :
    directives l.text = (directives l.standalone.text).map (Directive.shifted l.span.start) := by
  have htop : byteLength l.top = l.span.start + byteLength l.standalone.top :=
    Text.byteLength_append _ _
  rw [l.directives_text, l.standalone.directives_text, htop, Text.place_add, List.filterMap_map,
    List.map_filterMap]
  exact List.filterMap_congr fun x _ => ofLine?_shifted l.span.start x

/-- Edits and cuts can be made in either order. -/
theorem metaBlock_rewrite {e : Edits} (he : e.Fits) :
    metaBlock (rewrite l.text e) = some (rewrite l.standalone.text e) := by
  have hinner := l.inner_editedLines_of_fits he
  -- The edited script has a layout, and in its header stand the lines of the edited header.
  obtain ⟨edited, htext, hheader⟩ : ∃ edited : Layout, edited.text = rewrite l.text e ∧
      edited.standalone.text = rewrite l.standalone.text e :=
    ⟨l.withInner (l.editedLines e) (fun c hc => (hinner c hc).1) fun c hc => (hinner c hc).2,
      (l.rewrite_text e).symm, (l.standalone.rewrite_text e).symm⟩
  rw [← htext, ← hheader]
  exact edited.metaBlock_eq_standalone

/-- The header of a layout stands for its text. -/
theorem standsFor : StandsFor l.standalone.text l.text l.span where
  located := by
    rw [l.standalone.locate_text, l.span_standalone]
  directives_eq := l.directives_standalone
  readings := by
    rw [l.directives_standalone, List.map_map]
    rfl
  metadata := by
    rw [l.ofSource_text, l.standalone.ofSource_text]
    rfl
  metaBlock_self := by
    rw [l.standalone.metaBlock_eq_standalone, l.standalone_standalone]
  edited e he := l.metaBlock_rewrite he

end Layout

/-- **Headers on their own.** Every script with a header gives it up as a
text that stands for the script: the header is at the front of this text,
with the same directives, it is the header of itself, and edits that fit
into it make the header of the edited script. -/
theorem header_stands_for_script {source : Text} {span : Span} (h : locate source = some span) :
    ∃ header, metaBlock source = some header ∧ StandsFor header source span := by
  obtain ⟨l, rfl⟩ := exists_layout h
  obtain rfl : l.span = span := Option.some.inj (l.locate_text.symm.trans h)
  exact ⟨l.standalone.text, l.metaBlock_eq_standalone, l.standsFor⟩

/-- A header with two kinds of terminators. -/
def framedHeader : Text :=
  "// ==UserScript==\r\n// @ä 1\r\n// @name x\r\n// ==/UserScript==\n".toList

/-- The header with a closing marker in front of it and another header
behind. -/
def framedSource : Text :=
  "ä\n// ==/UserScript==\n".toList ++ framedHeader ++
    "// ==UserScript==\n// @name y\n// ==/UserScript==\n".toList

/-- Edits that remove a directive, add one, and write a carriage return. -/
def framedEdits : Edits :=
  ((Edits.empty.remove "ä".toList).replace nameKey "z\r".toList).addIfMissing versionKey "2".toList

/-- The other header is neither read nor edited. -/
theorem header_stands_for_script_framed :
    locate framedSource = some ⟨22, 81⟩ ∧ metaBlock framedSource = some framedHeader ∧
      StandsFor framedHeader framedSource ⟨22, 81⟩ ∧ framedEdits.Fits ∧
      metaBlock (rewrite framedSource framedEdits)
        = some ("// ==UserScript==\r\n// @name z\r\r\n// @version 2\r\n".toList ++
            "// ==/UserScript==\n".toList) := by
  have hlocate : locate framedSource = some ⟨22, 81⟩ := by decide +kernel
  have hblock : metaBlock framedSource = some framedHeader := by decide +kernel
  have hfits : framedEdits.Fits := by decide +kernel
  obtain ⟨header, hheader, hstands⟩ := header_stands_for_script hlocate
  obtain rfl : framedHeader = header := Option.some.inj (hblock.symm.trans hheader)
  refine ⟨hlocate, hblock, hstands, hfits, ?_⟩
  rw [hstands.edited framedEdits hfits, rewrite_eq_rewriteLines]
  decide +kernel

end ScriptGate.Header
