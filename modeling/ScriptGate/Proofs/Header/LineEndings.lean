import ScriptGate.Header.Blanked
import ScriptGate.Proofs.Header.LineByLine
import ScriptGate.Proofs.Text.LineEndings
import ScriptGate.Proofs.Version.Successor

/-!
# `ScriptGate.Proofs.Header.LineEndings`: headers with both line endings

A carriage return in front of every line feed moves all byte offsets
behind the first line. `line_endings_carry_over` says that nothing else
changes: locating, reading, cutting out, rewriting and blanking a header
commute with `crlf`, as long as neither the script nor the edits have
carriage returns of their own.

A directive is read from the content of its line alone, which stays as it
was. So the chunks of a layout may be changed one by one (`Layout.crlf`),
and what is known of layouts applies to the script with and without
carriage returns. Edits are followed line by line, where an added line
takes its terminator from the opening marker (`linesAdded_crlf`).
-/

set_option autoImplicit false

namespace ScriptGate.Header

open Text (IsLine OneLine contentOf endingOf crlf)

/-! ### Markers -/

/-- The opening marker is on one line. -/
theorem feed_not_mem_openingMarker : '\n' ∉ openingMarker := by decide

/-- The closing marker is on one line. -/
theorem feed_not_mem_closingMarker : '\n' ∉ closingMarker := by decide

namespace Layout

variable (l : Layout)

/-- A text without carriage returns has none on any of its lines. -/
theorem return_not_mem (h : '\r' ∉ l.text) {c : Text}
    (hc : c ∈ l.before ++ [l.opening] ++ l.inner ++ l.closing :: l.after) : '\r' ∉ c :=
  Text.not_mem_of_mem_chunks h (by rw [l.chunks_text]; exact hc)

/-- The line of the opening marker has none. -/
theorem return_not_mem_opening (h : '\r' ∉ l.text) : '\r' ∉ l.opening :=
  l.return_not_mem h (by simp)

/-- The inner lines have none. -/
theorem return_not_mem_inner (h : '\r' ∉ l.text) {c : Text} (hc : c ∈ l.inner) : '\r' ∉ c :=
  l.return_not_mem h (by simp [hc])

/-- The line of the closing marker has none. -/
theorem return_not_mem_closing (h : '\r' ∉ l.text) : '\r' ∉ l.closing :=
  l.return_not_mem h (by simp)

/-- The layout with a carriage return in front of every line feed. -/
def crlf (h : '\r' ∉ l.text) : Layout where
  before := l.before.map Text.crlf
  opening := Text.crlf l.opening
  inner := l.inner.map Text.crlf
  closing := Text.crlf l.closing
  after := l.after.map Text.crlf
  isLine := by
    intro c hc
    rw [← List.map_cons, ← List.map_append] at hc
    obtain ⟨x, hx, rfl⟩ := List.mem_map.mp hc
    exact (l.isLine x hx).crlf
  chunks_rest := by
    rw [← List.map_cons, ← Text.crlf_flatten, Text.chunks_crlf, l.chunks_rest]
  before_ne := by
    intro c hc
    obtain ⟨x, hx, rfl⟩ := List.mem_map.mp hc
    rw [ne_eq, Text.contentOf_crlf_eq_iff (l.return_not_mem h (by simp [hx]))
      feed_not_mem_openingMarker]
    exact l.before_ne x hx
  opening_eq := (Text.contentOf_crlf_eq_iff (l.return_not_mem_opening h)
    feed_not_mem_openingMarker).mpr l.opening_eq
  inner_ne := by
    intro c hc
    obtain ⟨x, hx, rfl⟩ := List.mem_map.mp hc
    rw [ne_eq, Text.contentOf_crlf_eq_iff (l.return_not_mem_inner h hx)
      feed_not_mem_closingMarker]
    exact l.inner_ne x hx
  closing_eq := (Text.contentOf_crlf_eq_iff (l.return_not_mem_closing h)
    feed_not_mem_closingMarker).mpr l.closing_eq

variable {l} {h : '\r' ∉ l.text}

/-- Everything up to the inner lines takes the carriage returns of its lines. -/
theorem top_crlf : (l.crlf h).top = Text.crlf l.top := by
  rw [top, top, Text.crlf_append, Text.crlf_flatten]
  rfl

/-- Everything behind the inner lines takes the carriage returns of its
lines. -/
theorem rest_crlf : (l.crlf h).rest = Text.crlf l.rest := by
  rw [rest, rest, Text.crlf_flatten]
  rfl

/-- The whole text takes the carriage returns of its lines. -/
theorem text_crlf : (l.crlf h).text = Text.crlf l.text := by
  rw [text, text, Text.crlf_append, Text.crlf_append, top_crlf, rest_crlf, Text.crlf_flatten]
  rfl

end Layout

/-- A header that is found with carriage returns is found without them. -/
theorem locate_ne_none_of_crlf {s : Text} (hs : '\r' ∉ s) (h : locate (crlf s) ≠ none) :
    locate s ≠ none := by
  obtain ⟨span, hspan⟩ := Option.ne_none_iff_exists'.mp h
  obtain ⟨l, hl⟩ := exists_layout hspan
  have hchunks : (Text.chunks s).map crlf
      = l.before ++ l.opening :: (l.inner ++ l.closing :: l.after) := by
    rw [← Text.chunks_crlf, ← hl, l.chunks_text, List.append_assoc, List.append_assoc]
    rfl
  -- The same cuts, before the carriage returns came.
  obtain ⟨before, others, hcut, -, hothers⟩ := List.map_eq_append_iff.mp hchunks
  obtain ⟨opening, others, rfl, hopening, hothers⟩ := List.map_eq_cons_iff.mp hothers
  obtain ⟨inner, others, rfl, -, hothers⟩ := List.map_eq_append_iff.mp hothers
  obtain ⟨closing, after, rfl, hclosing, -⟩ := List.map_eq_cons_iff.mp hothers
  have hreturn : ∀ c ∈ before ++ opening :: (inner ++ closing :: after), '\r' ∉ c :=
    fun c hc => Text.not_mem_of_mem_chunks hs (by rw [hcut]; exact hc)
  refine locate_ne_none_of_chunks hcut ?_ ?_
  · rw [← Text.contentOf_crlf_eq_iff (hreturn opening (by simp)) feed_not_mem_openingMarker,
      hopening, l.opening_eq]
  · rw [← Text.contentOf_crlf_eq_iff (hreturn closing (by simp)) feed_not_mem_closingMarker,
      hclosing, l.closing_eq]

/-- There is no header with and without carriage returns, or there is a
layout. -/
theorem crlf_cases {s : Text} (hs : '\r' ∉ s) :
    (locate s = none ∧ locate (crlf s) = none) ∨ ∃ l : Layout, l.text = s := by
  cases hlocate : locate s with
  | none =>
      refine Or.inl ⟨rfl, ?_⟩
      by_contra h
      exact locate_ne_none_of_crlf hs h hlocate
  | some span => exact Or.inr (exists_layout hlocate)

/-! ### Reading -/

/-- A line declares the same. -/
theorem pair?_crlf {c : Text} (hline : IsLine c) (h : '\r' ∉ c) : pair? (crlf c) = pair? c := by
  rw [pair?, hline.contentOf_crlf h, pair?]

/-- A line keeps its key. -/
theorem keyOf?_crlf {c : Text} (hline : IsLine c) (h : '\r' ∉ c) :
    keyOf? (crlf c) = keyOf? c := by
  rw [keyOf?, hline.contentOf_crlf h, keyOf?]

/-- The header declares the same. -/
theorem ofSource_crlf {s : Text} (hs : '\r' ∉ s) :
    Metadata.ofSource (crlf s) = Metadata.ofSource s := by
  rcases crlf_cases hs with ⟨hnone, hnone'⟩ | ⟨l, rfl⟩
  · simp only [Metadata.ofSource, directives, hnone, hnone']
  · have hpairs : (l.crlf hs).pairs = l.pairs := by
      show (l.inner.map crlf).filterMap pair? = l.inner.filterMap pair?
      rw [List.filterMap_map]
      exact List.filterMap_congr fun c hc =>
        pair?_crlf (l.isLine_inner hc) (l.return_not_mem_inner hs hc)
    rw [← Layout.text_crlf (h := hs), Layout.ofSource_text, Layout.ofSource_text, hpairs]

/-- The body takes the carriage returns of its lines. -/
theorem body_crlf {s : Text} (hs : '\r' ∉ s) : body (crlf s) = crlf (body s) := by
  rcases crlf_cases hs with ⟨hnone, hnone'⟩ | ⟨l, rfl⟩
  · simp only [body, split, hnone, hnone', List.append_nil]
  · rw [← Layout.text_crlf (h := hs), Layout.body_text, Layout.body_text, Text.crlf_append,
      Text.crlf_append, Text.crlf_flatten, Text.crlf_flatten,
      ← (Text.cut_crlf (l.return_not_mem_closing hs)).2]
    rfl

/-- A text that begins with another character begins with no terminator. -/
theorem leadingTerminator_cons_of_ne {a : Char} (hfeed : a ≠ '\n') (hreturn : a ≠ '\r')
    (t : Text) : leadingTerminator (a :: t) = [] := by
  unfold leadingTerminator
  split
  · rename_i heq
    exact absurd (List.cons.inj heq).1 hreturn
  · rename_i heq
    exact absurd (List.cons.inj heq).1 hfeed
  · rfl

/-- The terminator that a text begins with takes its carriage return. -/
theorem leadingTerminator_crlf {t : Text} (h : '\r' ∉ t) :
    leadingTerminator (crlf t) = crlf (leadingTerminator t) := by
  cases t with
  | nil => rfl
  | cons a t =>
      rw [List.mem_cons, not_or] at h
      by_cases ha : a = '\n'
      · subst ha
        rfl
      · rw [Text.crlf_cons_of_ne ha, leadingTerminator_cons_of_ne ha (Ne.symm h.1),
          leadingTerminator_cons_of_ne ha (Ne.symm h.1), Text.crlf_nil]

/-- The header as a text of its own takes the carriage returns of its
lines. -/
theorem metaBlock_crlf {s : Text} (hs : '\r' ∉ s) :
    metaBlock (crlf s) = (metaBlock s).map crlf := by
  rcases crlf_cases hs with ⟨hnone, hnone'⟩ | ⟨l, rfl⟩
  · rw [metaBlock, metaBlock, hnone, hnone']
    rfl
  · have hafter : endingOf (crlf l.closing) ++ (l.after.map crlf).flatten
        = crlf (endingOf l.closing ++ l.after.flatten) := by
      rw [Text.crlf_append, Text.crlf_flatten, (Text.cut_crlf (l.return_not_mem_closing hs)).2]
    have hreturn : '\r' ∉ endingOf l.closing ++ l.after.flatten := by
      intro hmem
      refine hs ?_
      rw [Layout.text, l.rest_eq]
      exact List.mem_append_right _ (List.mem_append_right _ hmem)
    rw [← Layout.text_crlf (h := hs), Layout.metaBlock_text, Layout.metaBlock_text,
      Option.map_some, Text.crlf_append, Text.crlf_append, Text.crlf_append, Text.crlf_flatten,
      Text.crlf_of_not_mem feed_not_mem_closingMarker, ← leadingTerminator_crlf hreturn, ← hafter]
    rfl

/-! ### Rewriting -/

/-- Edits without any part of a terminator in their keys and values. -/
structure Edits.OnOneLine (e : Edits) : Prop where
  changes : ∀ c ∈ e.changes.entries, OneLine c.1 ∧ ∀ value ∈ c.2, OneLine value
  additions : ∀ a ∈ e.additions.entries, OneLine a.1 ∧ OneLine a.2

instance (e : Edits) : Decidable e.OnOneLine :=
  decidable_of_iff
    ((∀ c ∈ e.changes.entries, OneLine c.1 ∧ ∀ value ∈ c.2, OneLine value) ∧
      ∀ a ∈ e.additions.entries, OneLine a.1 ∧ OneLine a.2)
    ⟨fun h => ⟨h.1, h.2⟩, fun h => ⟨h.changes, h.additions⟩⟩

namespace Edits

variable {e : Edits}

/-- A value that replaces another one is on one line. -/
theorem OnOneLine.due (he : e.OnOneLine) {seen : List Text} {key value : Text}
    (h : e.due seen key = some (some value)) : OneLine value :=
  (he.changes (key, some value)
    ((e.changes.mem_entries_iff _ _).mpr (due_eq_value_iff.mp h).1)).2 value rfl

/-- What is left of a line takes its carriage return. -/
theorem lineAfter_crlf (he : e.OnOneLine) (seen : List Text) {c : Text} (hline : IsLine c)
    (h : '\r' ∉ c) : e.lineAfter seen (crlf c) = (e.lineAfter seen c).map crlf := by
  rw [lineAfter, lineAfter, hline.contentOf_crlf h]
  cases hread : DirectiveText.read? (contentOf c) with
  | none => rfl
  | some d =>
      rcases hdue : e.due seen d.key with _ | _ | value
      · simp only [hdue, List.map_singleton]
      · simp only [hdue, List.map_nil]
      · have hwrite : '\n' ∉ d.write := by
          rw [DirectiveText.write_of_read? hread]
          exact hline.ending.2
        have hfeed := not_mem_withValue (by decide) hwrite (he.due hdue).2
        simp only [hdue, List.map_singleton]
        rw [Text.crlf_append, Text.crlf_of_not_mem hfeed, (Text.cut_crlf h).2]

/-- The edited lines take their carriage returns, one after the other. -/
theorem linesAfter_crlf (he : e.OnOneLine) (seen : List Text) {cs : List Text}
    (hline : ∀ c ∈ cs, IsLine c) (h : ∀ c ∈ cs, '\r' ∉ c) :
    e.linesAfter seen (cs.map crlf) = (e.linesAfter seen cs).map crlf := by
  induction cs generalizing seen with
  | nil => rfl
  | cons c cs ih =>
      have hc := hline c List.mem_cons_self
      have hreturn := h c List.mem_cons_self
      rw [List.map_cons, linesAfter, linesAfter, lineAfter_crlf he seen hc hreturn,
        keyOf?_crlf hc hreturn, List.map_append,
        ih _ (fun x hx => hline x (List.mem_cons_of_mem _ hx))
          (fun x hx => h x (List.mem_cons_of_mem _ hx))]

/-- The lines that are added end as the line that they take their
terminator from. -/
theorem linesAdded_crlf (he : e.OnOneLine) (ending : Text) {cs : List Text}
    (hline : ∀ c ∈ cs, IsLine c) (h : ∀ c ∈ cs, '\r' ∉ c) :
    e.linesAdded (crlf ending) (cs.map crlf) = (e.linesAdded ending cs).map crlf := by
  have hkeys : (cs.map crlf).filterMap keyOf? = cs.filterMap keyOf? := by
    rw [List.filterMap_map]
    exact List.filterMap_congr fun c hc => keyOf?_crlf (hline c hc) (h c hc)
  rw [linesAdded, linesAdded, hkeys, List.map_map]
  refine List.map_congr_left fun a ha => ?_
  obtain ⟨hkey, hvalue⟩ := he.additions a (List.mem_of_mem_filter ha)
  have hmark : '\n' ∉ "// @".toList := by decide
  have hspace : '\n' ∉ [' '] := by decide
  simp only [Function.comp_apply, Text.crlf_append, Text.crlf_of_not_mem hmark,
    Text.crlf_of_not_mem hspace, Text.crlf_of_not_mem hkey.2, Text.crlf_of_not_mem hvalue.2]

end Edits

variable {e : Edits}

namespace Layout

variable (l : Layout)

/-- The edited lines are the inner lines, gone through once, and the lines
that are added. -/
theorem editedLines_eq (e : Edits) :
    l.editedLines e = e.linesAfter [] l.inner ++ e.linesAdded (endingOf l.opening) l.inner := by
  rw [editedLines, e.editLines_entries, l.addedLines_eq]

/-- The edited lines take the carriage returns of their lines. -/
theorem editedLines_crlf (he : e.OnOneLine) (h : '\r' ∉ l.text) :
    (l.crlf h).editedLines e = (l.editedLines e).map Text.crlf := by
  have hline : ∀ c ∈ l.inner, IsLine c := fun c hc => l.isLine_inner hc
  have hreturn : ∀ c ∈ l.inner, '\r' ∉ c := fun c hc => l.return_not_mem_inner h hc
  have hending : endingOf (l.crlf h).opening = Text.crlf (endingOf l.opening) :=
    (Text.cut_crlf (l.return_not_mem_opening h)).2
  rw [editedLines_eq, editedLines_eq, hending, List.map_append]
  show e.linesAfter [] (l.inner.map Text.crlf) ++
    e.linesAdded (Text.crlf (endingOf l.opening)) (l.inner.map Text.crlf) = _
  rw [Edits.linesAfter_crlf he [] hline hreturn, Edits.linesAdded_crlf he _ hline hreturn]

/-- Edits on one line bring no carriage returns. -/
theorem return_not_mem_editedLines (he : e.OnOneLine) (h : '\r' ∉ l.text) {c : Text}
    (hc : c ∈ l.editedLines e) : '\r' ∉ c := by
  have hending : ∀ x : Text, '\r' ∉ x → '\r' ∉ endingOf x :=
    fun _ hx hmem => hx (Text.mem_of_mem_endingOf hmem)
  rcases List.mem_append.mp hc with hc | hc
  · rcases mem_editLines hc with hc | ⟨x, hx, d, v, hread, hmem, rfl⟩
    · exact l.return_not_mem_inner h hc
    · have hx := l.return_not_mem_inner h hx
      have hwrite : '\r' ∉ d.write := by
        rw [DirectiveText.write_of_read? hread]
        exact fun hmem => hx (Text.mem_of_mem_contentOf hmem)
      rw [List.mem_append, not_or]
      exact ⟨not_mem_withValue (by decide) hwrite ((he.changes _ hmem).2 v rfl).1, hending x hx⟩
  · obtain ⟨⟨key, value⟩, ha, rfl⟩ := List.mem_map.mp hc
    obtain ⟨hkey, hvalue⟩ := he.additions _ (List.mem_of_mem_filter ha)
    simp only [addedLine, DirectiveText.write, List.mem_append, not_or]
    exact ⟨⟨⟨⟨by decide, hkey.1⟩, by decide⟩, hvalue.1⟩,
      hending _ (l.return_not_mem_opening h)⟩

end Layout

/-- A rewritten script takes the carriage returns of its lines. -/
theorem rewrite_crlf {s : Text} (hs : '\r' ∉ s) (he : e.OnOneLine) :
    rewrite (crlf s) e = crlf (rewrite s e) := by
  rcases crlf_cases hs with ⟨hnone, hnone'⟩ | ⟨l, rfl⟩
  · rw [rewrite, rewrite, hnone, hnone']
  · rw [← Layout.text_crlf (h := hs), Layout.rewrite_text, Layout.rewrite_text,
      l.editedLines_crlf he hs, Layout.top_crlf, Layout.rest_crlf, Text.crlf_append,
      Text.crlf_append, Text.crlf_flatten]

/-- A rewrite brings no carriage return that neither the script nor the edits
have. -/
theorem return_not_mem_rewrite {s : Text} (hs : '\r' ∉ s) (he : e.OnOneLine) :
    '\r' ∉ rewrite s e := by
  rcases crlf_cases hs with ⟨hnone, -⟩ | ⟨l, rfl⟩
  · rw [rewrite, hnone]
    exact hs
  · have htext := hs
    rw [Layout.text, List.mem_append, List.mem_append, not_or, not_or] at htext
    rw [l.rewrite_text, List.mem_append, List.mem_append, not_or, not_or]
    refine ⟨⟨htext.1.1, fun hmem => ?_⟩, htext.2⟩
    obtain ⟨c, hc, hmem⟩ := List.mem_flatten.mp hmem
    exact l.return_not_mem_editedLines he hs hc hmem

/-! ### Blanking -/

namespace Edits

/-- Edits that change nothing are on one line. -/
theorem onOneLine_empty : Edits.empty.OnOneLine where
  changes c hc := by cases hc
  additions a ha := by cases ha

/-- One more change on one line keeps edits on one line. -/
theorem OnOneLine.replaceOrRemove (he : e.OnOneLine) {key : Text} {change : Option Text}
    (hkey : OneLine key) (hchange : ∀ value ∈ change, OneLine value) :
    (e.replaceOrRemove key change).OnOneLine where
  changes c hc := by
    rcases Keyed.mem_put hc with rfl | hc
    · exact ⟨hkey, hchange⟩
    · exact he.changes c hc
  additions := he.additions

/-- A replacement on one line keeps edits on one line. -/
theorem OnOneLine.replace (he : e.OnOneLine) {key value : Text} (hkey : OneLine key)
    (hvalue : OneLine value) : (e.replace key value).OnOneLine :=
  he.replaceOrRemove hkey fun _ hv => by rwa [← Option.some.inj hv]

/-- An addition on one line keeps edits on one line. -/
theorem OnOneLine.addIfMissing (he : e.OnOneLine) {key value : Text} (hkey : OneLine key)
    (hvalue : OneLine value) : (e.addIfMissing key value).OnOneLine where
  changes := he.changes
  additions a ha := by
    rcases Keyed.mem_put ha with rfl | ha
    · exact ⟨hkey, hvalue⟩
    · exact he.additions a ha

/-- Any number of removals keeps edits on one line. -/
theorem OnOneLine.foldl_remove (he : e.OnOneLine) {keys : List Text}
    (hkeys : ∀ key ∈ keys, OneLine key) : (keys.foldl Edits.remove e).OnOneLine := by
  induction keys generalizing e with
  | nil => exact he
  | cons key keys ih =>
      have hkey := hkeys key List.mem_cons_self
      exact ih (he.replaceOrRemove hkey fun _ hv => by cases hv)
        fun k hk => hkeys k (List.mem_cons_of_mem _ hk)

end Edits

/-- A declared value is on one line. -/
theorem oneLine_of_declared {s : Text} (hs : '\r' ∉ s) {key v : Text}
    (h : (Metadata.ofSource s).firstNonBlank key = some v) : OneLine v := by
  rcases crlf_cases hs with ⟨hnone, -⟩ | ⟨l, rfl⟩
  · simp only [Metadata.ofSource, directives, hnone] at h
    cases h
  · rw [l.ofSource_text] at h
    obtain ⟨-, c, hc, hpair⟩ := Layout.exists_line_of_declared h
    obtain ⟨d, hread, hd⟩ := Option.map_eq_some_iff.mp hpair
    rw [Prod.mk.injEq] at hd
    -- The value is a part of the content of its line.
    have hmem : ∀ a ∈ v, a ∈ contentOf c := by
      intro a ha
      rw [← DirectiveText.write_of_read? hread, DirectiveText.write, hd.2]
      exact List.mem_append_right _ ha
    exact ⟨fun hreturn => l.return_not_mem_inner hs hc (Text.mem_of_mem_contentOf (hmem _ hreturn)),
      fun hfeed => (l.isLine_inner hc).ending.2 (hmem _ hfeed)⟩

/-- So is its successor. -/
theorem oneLine_next {v : Text} (h : OneLine v) : OneLine (Version.next v) := by
  have key : ∀ a, Text.isDigit a = false → a ≠ '.' → a ∉ v → a ∉ Version.next v := by
    intro a hdigit hdot hv hmem
    rcases Version.mem_next hmem with hd | hd | hd
    · rw [hdigit] at hd
      cases hd
    · exact hdot hd
    · exact hv hd
  exact ⟨key _ (by decide) (by decide) h.1, key _ (by decide) (by decide) h.2⟩

/-- The edits that blank a script are on one line. -/
theorem onOneLine_blankingEdits {s notice : Text} {dependencyKeys : List Text} (hs : '\r' ∉ s)
    (hnotice : OneLine notice) (hkeys : ∀ key ∈ dependencyKeys, OneLine key) :
    (blankingEdits (Metadata.ofSource s) notice dependencyKeys).OnOneLine := by
  have hdescription : OneLine descriptionKey := by decide
  have hversion : OneLine versionKey := by decide
  have hdescribed := Edits.onOneLine_empty.replace hdescription hnotice
  rw [blankingEdits]
  refine Edits.OnOneLine.addIfMissing (Edits.OnOneLine.foldl_remove ?_ hkeys) hdescription hnotice
  cases hfirst : (Metadata.ofSource s).firstNonBlank versionKey with
  | none => exact hdescribed
  | some v => exact hdescribed.replace hversion (oneLine_next (oneLine_of_declared hs hfirst))

/-- The blanked header takes the carriage returns of its lines. -/
theorem blanked_crlf {s notice : Text} {dependencyKeys : List Text} (hs : '\r' ∉ s)
    (hnotice : OneLine notice) (hkeys : ∀ key ∈ dependencyKeys, OneLine key) :
    blanked (crlf s) notice dependencyKeys = (blanked s notice dependencyKeys).map crlf := by
  have he := onOneLine_blankingEdits hs hnotice hkeys
  rw [blanked, ofSource_crlf hs, rewrite_crlf hs he, metaBlock_crlf (return_not_mem_rewrite hs he),
    blanked]

/-! ### Both line endings -/

/-- **Line endings carry over.** With a carriage return in front of every
line feed, a script without other carriage returns has a header as
before, it declares the same, and its parts, its rewritten form and its
blanked form are the former ones with carriage returns. -/
theorem line_endings_carry_over (s : Text) (hs : '\r' ∉ s) (e : Edits) (he : e.OnOneLine)
    (notice : Text) (hnotice : OneLine notice) (dependencyKeys : List Text)
    (hkeys : ∀ key ∈ dependencyKeys, OneLine key) :
    (locate (crlf s)).isSome = (locate s).isSome ∧
      Metadata.ofSource (crlf s) = Metadata.ofSource s ∧
      body (crlf s) = crlf (body s) ∧
      metaBlock (crlf s) = (metaBlock s).map crlf ∧
      rewrite (crlf s) e = crlf (rewrite s e) ∧
      blanked (crlf s) notice dependencyKeys = (blanked s notice dependencyKeys).map crlf := by
  have hlocate : (locate (crlf s)).isSome = (locate s).isSome := by
    rcases crlf_cases hs with ⟨hnone, hnone'⟩ | ⟨l, rfl⟩
    · rw [hnone, hnone']
    · rw [← Layout.text_crlf (h := hs), Layout.locate_text, Layout.locate_text]
      rfl
  exact ⟨hlocate, ofSource_crlf hs, body_crlf hs, metaBlock_crlf hs, rewrite_crlf hs he,
    blanked_crlf hs hnotice hkeys⟩

/-- A script with a header in its middle, with a line that ends with its
key, a repeated key and characters of several bytes. -/
def middleSource : Text :=
  "é();\n// ==UserScript==\n// @version\n// @version 1.9\n// @require ß\n\n// ==/UserScript==\n\nx".toList

/-- Edits that replace, remove and add. -/
def middleEdits : Edits :=
  ((Edits.empty.replace "version".toList "2".toList).remove "require".toList).addIfMissing
    "name".toList "ö".toList

/-- The added line and the line that gets its first value end as the
others do. -/
theorem line_endings_carry_over_middle :
    '\r' ∉ middleSource ∧ middleEdits.OnOneLine ∧ locate middleSource ≠ none ∧
      rewrite (crlf middleSource) middleEdits
        = crlf ("é();\n// ==UserScript==\n// @version 2\n// @version 1.9\n\n// @name ö\n".toList ++
            "// ==/UserScript==\n\nx".toList) ∧
      blanked (crlf middleSource) "gone".toList ["require".toList]
        = some (crlf ("// ==UserScript==\n// @version 1.9.0.1\n// @version 1.9\n\n".toList ++
            "// @description gone\n// ==/UserScript==\n".toList)) := by
  have hs : '\r' ∉ middleSource := by decide +kernel
  have he : middleEdits.OnOneLine := by decide +kernel
  have hkeys : ∀ key ∈ ["require".toList], OneLine key := by decide +kernel
  obtain ⟨-, -, -, -, hrewrite, hblanked⟩ := line_endings_carry_over middleSource hs middleEdits he
    "gone".toList (by decide +kernel) ["require".toList] hkeys
  refine ⟨hs, he, by decide +kernel, ?_, ?_⟩
  · rw [hrewrite, rewrite_eq_rewriteLines]
    decide +kernel
  · rw [hblanked, blanked, rewrite_eq_rewriteLines]
    decide +kernel

end ScriptGate.Header
