import ScriptGate.Proofs.Header.LineByLine

/-!
# `ScriptGate.Proofs.Header.Grammar`: which lines are directives

The grammar of a directive is said here without a reader:
`DirectiveText.Spells` holds for parts that make up a line, a key without
white space, and either white space with a value behind it that does not
begin with white space, or nothing. `IsDirective` says that a line has such
parts, and `Spells.unique` that it has them in only one way.

`LinesInside` are the lines strictly between the first opening marker and
the first closing marker after it. `directives_follow_grammar` says that
the directives of a script are on exactly those of them that the grammar
admits, in their order, and that each is read as its parts. What rewriting
relies on belongs to it: the offsets of a directive lie on character
boundaries inside the header, in order and without overlap, and cut out
what they stand for (`InPlace`).
-/

set_option autoImplicit false

namespace ScriptGate.Header

open Text (IsLine Line byteLength contentOf endingOf isBlank place slice? splitAtByte?)

/-! ### The grammar -/

/-- The parts make up the line content, and they are told apart by white
space. -/
structure DirectiveText.Spells (d : DirectiveText) (content : Text) : Prop where
  content_eq : content = "// @".toList ++ d.key ++ d.separator ++ d.value
  key_ne : d.key ≠ []
  key : ∀ c ∈ d.key, isBlank c = false
  /-- The value follows white space and begins with something else, or there
  is neither of them. -/
  parts : (d.separator ≠ [] ∧ (∀ c ∈ d.separator, isBlank c = true) ∧
      ∀ c, d.value.head? = some c → isBlank c = false) ∨
    (d.separator = [] ∧ d.value = [])

/-- A line content that is a directive. -/
def IsDirective (content : Text) : Prop := ∃ d : DirectiveText, d.Spells content

namespace DirectiveText

/-- The grammar is that of the parts that can be told apart. -/
theorem spells_iff {d : DirectiveText} {content : Text} :
    d.Spells content ↔ d.WellFormed ∧ d.write = content := by
  constructor
  · intro h
    refine ⟨⟨h.key_ne, h.key, fun c hc => ?_, fun hsep => ?_, fun c hc => ?_⟩, h.content_eq.symm⟩
    · rcases h.parts with ⟨-, hblank, -⟩ | ⟨hsep, -⟩
      · exact hblank c hc
      · rw [hsep] at hc
        cases hc
    · rcases h.parts with ⟨hne, -, -⟩ | ⟨-, hvalue⟩
      · exact absurd hsep hne
      · exact hvalue
    · rcases h.parts with ⟨-, -, hvalue⟩ | ⟨-, hvalue⟩
      · exact hvalue c hc
      · rw [hvalue] at hc
        cases hc
  · rintro ⟨h, rfl⟩
    refine ⟨rfl, h.key_ne, h.key, ?_⟩
    by_cases hsep : d.separator = []
    · exact Or.inr ⟨hsep, h.separated hsep⟩
    · exact Or.inl ⟨hsep, h.separator, h.value⟩

/-- Reading finds the parts wherever there are any. -/
theorem read?_eq_some_iff_spells {d : DirectiveText} {content : Text} :
    read? content = some d ↔ d.Spells content :=
  read?_eq_some_iff.trans spells_iff.symm

/-- A line has at most one reading. -/
theorem Spells.unique {d d' : DirectiveText} {content : Text} (h : d.Spells content)
    (h' : d'.Spells content) : d' = d := by
  rw [← read?_eq_some_iff_spells] at h h'
  exact Option.some.inj (h'.symm.trans h)

end DirectiveText

/-- The lines that the grammar takes for directives are those that the reader
reads. -/
theorem isDirective_iff {content : Text} :
    IsDirective content ↔ (DirectiveText.read? content).isSome = true := by
  rw [Option.isSome_iff_exists]
  exact exists_congr fun d => DirectiveText.read?_eq_some_iff_spells.symm

instance (content : Text) : Decidable (IsDirective content) :=
  decidable_of_iff _ isDirective_iff.symm

/-- The lines on which directives are read. -/
theorem map_line_filterMap_ofLine? (ls : List Line) :
    (ls.filterMap Directive.ofLine?).map (·.line) = ls.filter fun x => IsDirective x.content := by
  induction ls with
  | nil => rfl
  | cons x ls ih =>
      cases hread : DirectiveText.read? x.content with
      | none =>
          have hnot : ¬ IsDirective x.content := by
            rw [isDirective_iff, hread]
            exact Bool.false_ne_true
          rw [List.filterMap_cons_none (by rw [Directive.ofLine?, hread, Option.map_none]),
            List.filter_cons_of_neg (by rwa [decide_eq_true_eq]), ih]
      | some d =>
          have hdirective : IsDirective x.content := by
            rw [isDirective_iff, hread]
            rfl
          rw [List.filterMap_cons_some (by rw [Directive.ofLine?, hread, Option.map_some]),
            List.filter_cons_of_pos (by rwa [decide_eq_true_eq]), List.map_cons, ih]

/-! ### Places -/

/-- The lines of `source` strictly between its first opening marker and the
first closing marker after it. -/
def LinesInside (source : Text) (inner : List Line) : Prop :=
  ∃ before opening closing after,
    Text.lines source = before ++ opening :: (inner ++ closing :: after) ∧
      (∀ x ∈ before, x.content ≠ openingMarker) ∧ opening.content = openingMarker ∧
      (∀ x ∈ inner, x.content ≠ closingMarker) ∧ closing.content = closingMarker

/-- The offset is a character boundary of `source`. -/
def IsBoundary (source : Text) (n : Nat) : Prop := (splitAtByte? n source).isSome = true

/-- A character ends where a part of the text ends. -/
theorem isBoundary_append (s t : Text) : IsBoundary (s ++ t) (byteLength s) := by
  rw [IsBoundary, Text.splitAtByte?_append]
  rfl

/-- The offsets of a directive cut out what they stand for. -/
structure InPlace (source : Text) (d : Directive) : Prop where
  /-- The line is a part of the text. -/
  line : slice? source d.line.start d.line.contentEnd = some d.line.content
  /-- So is the value, which ends where the line does. -/
  value : slice? source d.valueStart d.valueStop = some d.value
  stop : d.valueStop = d.line.contentEnd
  /-- There is a line after it, and its start is known. -/
  following : ∃ following, [d.line, following] <:+: Text.lines source ∧
    following.start = d.line.next
  /-- The header is around it. -/
  inside : ∃ span, locate source = some span ∧ span.start < d.line.start ∧
    d.line.start ≤ d.valueStart ∧ d.valueStart ≤ d.valueStop ∧ d.valueStop < d.line.next ∧
    d.line.next ≤ span.closingLineStart
  boundaries : ∀ n ∈ [d.line.start, d.valueStart, d.valueStop, d.line.next], IsBoundary source n

/-- Consecutive lines do not overlap. -/
theorem pairwise_place (start : Nat) (cs : List Text) :
    (place start cs).Pairwise fun x y => x.next ≤ y.start := by
  induction cs generalizing start with
  | nil => exact List.Pairwise.nil
  | cons c cs ih =>
      rw [place]
      exact List.Pairwise.cons (fun y hy => (Text.start_of_mem_place hy).1) (ih _)

/-- A line that is not the last one has a line after it. -/
theorem exists_following (start : Nat) (as : List Text) (c : Text) {bs : List Text}
    (hbs : bs ≠ []) :
    ∃ y, [Line.ofChunk (start + byteLength as.flatten) c, y] <:+: place start (as ++ c :: bs) ∧
      y.start = start + byteLength as.flatten + byteLength c := by
  obtain ⟨b, bs, rfl⟩ := List.exists_cons_of_ne_nil hbs
  refine ⟨Line.ofChunk (start + byteLength as.flatten + byteLength c) b,
    ⟨place start as, place (start + byteLength as.flatten + byteLength c + byteLength b) bs, ?_⟩,
    Text.start_ofChunk _ _⟩
  rw [Text.place_append, place, place, Text.next_ofChunk, Text.next_ofChunk, List.append_assoc]
  rfl

/-- A directive knows the line that it stands on. -/
theorem line_of_ofLine? {x : Line} {d : Directive} (h : Directive.ofLine? x = some d) :
    d.line = x := by
  obtain ⟨t, -, rfl⟩ := Option.map_eq_some_iff.mp h
  rfl

namespace Layout

variable (l : Layout)

/-- The directives of a header are in the order of the text. -/
theorem pairwise_directives :
    (directives l.text).Pairwise fun a b => a.line.next ≤ b.line.start := by
  rw [l.directives_text]
  refine (pairwise_place _ _).filterMap _ fun x y hxy a ha b hb => ?_
  rw [line_of_ofLine? ha, line_of_ofLine? hb]
  exact hxy

section Inside

variable {l : Layout} {as bs : List Text} {c : Text}

/-- A cut between the characters of a line of the header is a boundary. -/
theorem isBoundary_inner (hinner : l.inner = as ++ c :: bs) {s r : Text} (hc : c = s ++ r) :
    IsBoundary l.text (byteLength l.top + byteLength as.flatten + byteLength s) := by
  have hsplit : l.text = (l.top ++ as.flatten ++ s) ++ (r ++ (bs.flatten ++ l.rest)) := by
    rw [text, hinner, List.flatten_append, List.flatten_cons, hc]
    simp only [List.append_assoc]
  rw [hsplit, ← Text.byteLength_append, ← Text.byteLength_append]
  exact isBoundary_append _ _

/-- A line of the header without its terminator is a part of the text. -/
theorem slice?_inner (hinner : l.inner = as ++ c :: bs) :
    slice? l.text (byteLength l.top + byteLength as.flatten)
      (byteLength l.top + byteLength as.flatten + byteLength (contentOf c))
        = some (contentOf c) := by
  have htext : l.text
      = (l.top ++ as.flatten) ++ contentOf c ++ (endingOf c ++ (bs.flatten ++ l.rest)) := by
    rw [List.append_assoc _ (contentOf c), ← List.append_assoc (contentOf c),
      Text.contentOf_append_endingOf, text, hinner, List.flatten_append, List.flatten_cons]
    simp only [List.append_assoc]
  rw [htext, ← Text.byteLength_append]
  exact Text.slice?_append _ _ _

/-- A line of the header has a line after it, if only the closing one. -/
theorem exists_following_inner (hinner : l.inner = as ++ c :: bs) :
    ∃ y, [Line.ofChunk (byteLength l.top + byteLength as.flatten) c, y] <:+: Text.lines l.text ∧
      y.start = byteLength l.top + byteLength as.flatten + byteLength c := by
  have hlines : Text.lines l.text
      = place 0 ((l.before ++ [l.opening] ++ as) ++ c :: (bs ++ l.closing :: l.after)) := by
    rw [Text.lines_eq_place, l.chunks_text, hinner]
    simp only [List.append_assoc, List.cons_append]
  have hplace : 0 + byteLength (l.before ++ [l.opening] ++ as).flatten
      = byteLength l.top + byteLength as.flatten := by
    rw [Nat.zero_add, List.flatten_append, List.flatten_append, List.flatten_singleton,
      Text.byteLength_append, top]
  have hmore : bs ++ l.closing :: l.after ≠ [] := by simp
  rw [hlines, ← hplace]
  exact exists_following 0 (l.before ++ [l.opening] ++ as) c hmore

/-- A line of the header ends before the closing one begins. -/
theorem inner_le_closingLineStart (hinner : l.inner = as ++ c :: bs) :
    byteLength l.top + byteLength as.flatten + byteLength c ≤ l.span.closingLineStart := by
  rw [l.closingLineStart_span, hinner, List.flatten_append, List.flatten_cons,
    Text.byteLength_append, Text.byteLength_append]
  omega

end Inside

/-- Every directive is where its offsets say. -/
theorem inPlace {d : Directive} (h : d ∈ directives l.text) : InPlace l.text d := by
  have hvalue := l.slice?_value h
  rw [l.directives_text] at h
  obtain ⟨as, c, bs, hinner, hread, hline⟩ := exists_of_mem_placed h
  obtain ⟨t, line⟩ := d
  obtain rfl : line = _ := hline
  replace hread : DirectiveText.read? (contentOf c) = some t := hread
  have hc : IsLine c := l.isLine_inner (by
    rw [hinner]
    exact List.mem_append_right _ List.mem_cons_self)
  have hstart :
      (Directive.mk t (Line.ofChunk (byteLength l.top + byteLength as.flatten) c)).valueStart
        = byteLength l.top + byteLength as.flatten +
          byteLength (DirectiveText.mark ++ t.key ++ t.separator) :=
    valueStart_ofChunk
  have hstop :
      (Directive.mk t (Line.ofChunk (byteLength l.top + byteLength as.flatten) c)).valueStop
        = byteLength l.top + byteLength as.flatten +
          byteLength (DirectiveText.mark ++ t.key ++ t.separator) + byteLength t.value :=
    valueStop_ofChunk hread
  constructor
  case line => exact slice?_inner hinner
  case value => exact hvalue
  case stop => rfl
  case following =>
    obtain ⟨y, hinfix, hy⟩ := exists_following_inner hinner
    exact ⟨y, hinfix, by rw [hy, Text.next_ofChunk]⟩
  case inside =>
    have htop := l.top_pos
    have hclosing := inner_le_closingLineStart hinner
    -- The line is as long as its three parts.
    have hlength : byteLength c = byteLength (DirectiveText.mark ++ t.key ++ t.separator) +
        byteLength t.value + byteLength (endingOf c) := by
      conv => lhs; rw [line_eq hread]
      simp only [Text.byteLength_append]
      omega
    have hending : 0 < byteLength (endingOf c) := by
      rcases hc.ending.1 with he | he
      · rw [he]
        decide
      · rw [he]
        decide
    refine ⟨l.span, l.locate_text, ?_⟩
    rw [hstop, hstart, Text.start_ofChunk, Text.next_ofChunk]
    show byteLength l.before.flatten < _ ∧ _
    omega
  case boundaries =>
    intro n hn
    simp only [List.mem_cons, List.not_mem_nil, or_false] at hn
    rcases hn with rfl | rfl | rfl | rfl
    · exact isBoundary_inner hinner (List.nil_append c).symm
    · rw [hstart]
      exact isBoundary_inner hinner (line_eq hread)
    · rw [hstop, Nat.add_assoc, ← Text.byteLength_append _ t.value]
      refine isBoundary_inner hinner (r := endingOf c) ?_
      rw [List.append_assoc]
      exact line_eq hread
    · rw [Text.next_ofChunk]
      exact isBoundary_inner hinner (List.append_nil c).symm

end Layout

/-- **The grammar of directives.** A script without marker lines has no
directives. In any other script they are on the lines between the markers
that the grammar admits, one on each and in this order. Each of them is the
only reading of its line, and it is where its offsets say. -/
theorem directives_follow_grammar (source : Text) :
    ((¬ ∃ inner, LinesInside source inner) → directives source = []) ∧
    ∀ inner, LinesInside source inner →
      (directives source).map (·.line) = inner.filter (fun x => IsDirective x.content) ∧
      (∀ d ∈ directives source,
        d.toDirectiveText.Spells d.line.content ∧
        (∀ d' : DirectiveText, d'.Spells d.line.content → d' = d.toDirectiveText) ∧
        (d.hasSeparator = true ↔ d.separator ≠ []) ∧
        InPlace source d) ∧
      (directives source).Pairwise (fun a b => a.line.next ≤ b.line.start) := by
  constructor
  · intro hnone
    cases hlocate : locate source with
    | none => rw [directives, hlocate]
    | some span =>
        obtain ⟨⟨first, last⟩, hmarkers, -⟩ := Option.map_eq_some_iff.mp hlocate
        obtain ⟨bs, is, as, hlines⟩ := markerLines_eq_some hmarkers
        exact absurd ⟨is, bs, first, last, as, hlines⟩ hnone
  · rintro inner ⟨bs, first, last, as, hlines, hbefore, hopening, hinner, hclosing⟩
    obtain ⟨l, rfl, rfl⟩ := exists_layout_of_lines hlines hbefore hopening hinner hclosing
    refine ⟨?_, fun d hd => ?_, l.pairwise_directives⟩
    · rw [l.directives_text, map_line_filterMap_ofLine?]
    · have hspells := DirectiveText.read?_eq_some_iff_spells.mp (read?_of_mem_directives hd)
      refine ⟨hspells, fun d' h' => hspells.unique h', ?_, l.inPlace hd⟩
      rw [Directive.hasSeparator, decide_eq_true_eq]

/-- The lines of a header: a directive of several bytes, a key alone, two
lines that only resemble directives, and white space without a value. -/
def spacedLines : List Line :=
  place 26 ["// @ä\u3000ö \r\n".toList, "// @k\n".toList, "// @ k v\n".toList, "//@k v\n".toList,
    "// @k\t\n".toList]

/-- These lines between markers, with a directive in front and one behind. -/
def spacedSource : Text :=
  "// @a 1\n// ==UserScript==\n// @ä\u3000ö \r\n// @k\n// @ k v\n//@k v\n// @k\t\n".toList ++
    "// ==/UserScript==\n// @b 2\n".toList

/-- Three of the lines are directives. A script without a closing marker has
none. -/
theorem directives_follow_grammar_spaced :
    LinesInside spacedSource spacedLines ∧
    (directives spacedSource).map (·.line) = spacedLines.filter (fun x => IsDirective x.content) ∧
    (directives spacedSource).map (·.toDirectiveText)
      = [⟨"ä".toList, "\u3000".toList, "ö ".toList⟩, ⟨"k".toList, [], []⟩,
        ⟨"k".toList, "\t".toList, []⟩] ∧
    (∀ d ∈ directives spacedSource, InPlace spacedSource d) ∧
    directives openingMarker = [] := by
  have hinside : LinesInside spacedSource spacedLines :=
    ⟨(Text.lines spacedSource).take 1, ⟨8, openingMarker, "\n".toList⟩,
      ⟨69, closingMarker, "\n".toList⟩, (Text.lines spacedSource).drop 8,
      by decide +kernel, by decide +kernel, rfl, by decide +kernel, rfl⟩
  obtain ⟨hlines, hparts, -⟩ := (directives_follow_grammar spacedSource).2 spacedLines hinside
  refine ⟨hinside, hlines, by decide +kernel, fun d hd => (hparts d hd).2.2.2, ?_⟩
  refine (directives_follow_grammar openingMarker).1 ?_
  rintro ⟨inner, before, opening, closing, after, hlines, -⟩
  have hlength := congrArg List.length hlines
  rw [show (Text.lines openingMarker).length = 1 by decide +kernel] at hlength
  simp only [List.length_append, List.length_cons] at hlength
  omega

end ScriptGate.Header
