import ScriptGate.Proofs.Header.Layout
import ScriptGate.Proofs.Header.Splices

/-!
# `ScriptGate.Proofs.Header.LineEdits`: rewriting a header line by line

`editLines` changes the lines inside a header one after the other: it
drops the lines of a removed key, gives the first line of a replaced key
its new value, and keeps all other lines. `rewrite_text` says that this
is what `rewrite` does to a script with a header, whatever the edits are.
The lines that are added follow the changed ones, and nothing outside the
header changes.

The proof follows the splices. `applySplicesAux_lines` is an induction on
the lines: where it stands at the start of a line, the splices that are
left are those of this line and the ones after it.
-/

set_option autoImplicit false

namespace ScriptGate.Header

open Text (IsLine Line byteLength contentOf endingOf place)

/-! ### Lines -/

/-- The directive with another value. Without a separator it gets a
space. -/
def DirectiveText.withValue (d : DirectiveText) (value : Text) : DirectiveText :=
  { d with separator := if d.separator = [] then [' '] else d.separator, value }

/-- A directive with a separator has the value already. -/
theorem DirectiveText.withValue_eq_self {d : DirectiveText} (hsep : d.separator ≠ []) :
    d.withValue d.value = d := by
  rw [withValue, if_neg hsep]

/-- With a new value there is always something between the key and the value. -/
theorem DirectiveText.separator_withValue_ne (d : DirectiveText) (v : Text) :
    (d.withValue v).separator ≠ [] := by
  show (if d.separator = [] then [' '] else d.separator) ≠ []
  split
  · exact List.cons_ne_nil _ _
  · rename_i hsep
    exact hsep

/-- A new value stands right after the separator. -/
theorem DirectiveText.write_withValue (d : Directive) (value : Text) :
    (d.toDirectiveText.withValue value).write
      = mark ++ d.key ++ d.separator ++ (if d.hasSeparator then value else ' ' :: value) := by
  rw [write, withValue]
  by_cases hs : d.separator = []
  · simp [Directive.hasSeparator, hs]
  · simp [Directive.hasSeparator, hs]

/-- The lines inside a header after changes. A value is given only to the
first line of its key. -/
def editLines : List (Text × Option Text) → List Text → List Text
  | _, [] => []
  | changes, c :: cs =>
    match DirectiveText.read? (contentOf c) with
    | none => c :: editLines changes cs
    | some d =>
      match changes.lookup d.key with
      | none => c :: editLines changes cs
      | some none => editLines changes cs
      | some (some value) =>
        ((d.withValue value).write ++ endingOf c) ::
          editLines (changes.filter fun e => e.1 != d.key) cs

/-- A change that is looked up is one of the changes. -/
theorem mem_of_lookup {changes : List (Text × Option Text)} {key : Text} {change : Option Text}
    (h : changes.lookup key = some change) : (key, change) ∈ changes := by
  obtain ⟨es, fs, hes, -⟩ := List.lookup_eq_some_iff.mp h
  rw [hes]
  exact List.mem_append_right _ List.mem_cons_self

/-- An edited line is one of the lines, or a directive among them with a
value that the changes give to its key. -/
theorem mem_editLines {changes : List (Text × Option Text)} {cs : List Text} {c : Text}
    (h : c ∈ editLines changes cs) :
    c ∈ cs ∨ ∃ x ∈ cs, ∃ d v, DirectiveText.read? (contentOf x) = some d ∧
      (d.key, some v) ∈ changes ∧ c = (d.withValue v).write ++ endingOf x := by
  induction cs generalizing changes with
  | nil => cases h
  | cons x cs ih =>
      -- What is said of the other lines is said of all of them.
      have hrest : ∀ es ⊆ changes, c ∈ editLines es cs →
          c ∈ x :: cs ∨ ∃ y ∈ x :: cs, ∃ d v, DirectiveText.read? (contentOf y) = some d ∧
            (d.key, some v) ∈ changes ∧ c = (d.withValue v).write ++ endingOf y := by
        intro es hes hc
        rcases ih hc with hc | ⟨y, hy, d, v, hread, hmem, heq⟩
        · exact Or.inl (List.mem_cons_of_mem _ hc)
        · exact Or.inr ⟨y, List.mem_cons_of_mem _ hy, d, v, hread, hes hmem, heq⟩
      have hall := hrest changes (List.Subset.refl _)
      rw [editLines] at h
      cases hread : DirectiveText.read? (contentOf x) with
      | none =>
          simp only [hread] at h
          rcases List.mem_cons.mp h with rfl | h
          · exact Or.inl List.mem_cons_self
          · exact hall h
      | some d =>
          rcases hlookup : changes.lookup d.key with _ | _ | v
          · simp only [hread, hlookup] at h
            rcases List.mem_cons.mp h with rfl | h
            · exact Or.inl List.mem_cons_self
            · exact hall h
          · simp only [hread, hlookup] at h
            exact hall h
          · simp only [hread, hlookup] at h
            rcases List.mem_cons.mp h with rfl | h
            · exact Or.inr ⟨x, List.mem_cons_self, d, v, hread, mem_of_lookup hlookup, rfl⟩
            · exact hrest _ List.filter_sublist.subset h

/-- The directives on consecutive lines. -/
def placed (start : Nat) (cs : List Text) : List Directive :=
  (place start cs).filterMap Directive.ofLine?

/-- A line that is no directive moves those behind it on. -/
theorem placed_cons_none {start : Nat} {c : Text} (h : DirectiveText.read? (contentOf c) = none)
    (cs : List Text) : placed start (c :: cs) = placed (start + byteLength c) cs := by
  have hline : Directive.ofLine? (Line.ofChunk start c) = none := by
    rw [Directive.ofLine?, Text.content_ofChunk, h, Option.map_none]
  rw [placed, place, List.filterMap_cons_none hline, Text.next_ofChunk, placed]

/-- A directive is placed where its line begins. -/
theorem placed_cons_some {start : Nat} {c : Text} {d : DirectiveText}
    (h : DirectiveText.read? (contentOf c) = some d) (cs : List Text) :
    placed start (c :: cs)
      = { toDirectiveText := d, line := Line.ofChunk start c } ::
          placed (start + byteLength c) cs := by
  have hline : Directive.ofLine? (Line.ofChunk start c)
      = some { toDirectiveText := d, line := Line.ofChunk start c } := by
    rw [Directive.ofLine?, Text.content_ofChunk, h, Option.map_some]
  rw [placed, place, List.filterMap_cons_some hline, Text.next_ofChunk, placed]

/-- What is known of the directives is known from their lines alone. -/
theorem map_placed {α : Type} (f : DirectiveText → α) (start : Nat) (cs : List Text) :
    (placed start cs).map (fun d => f d.toDirectiveText)
      = cs.filterMap fun c => (DirectiveText.read? (contentOf c)).map f := by
  induction cs generalizing start with
  | nil => rfl
  | cons c cs ih =>
      cases hread : DirectiveText.read? (contentOf c) with
      | none =>
          rw [placed_cons_none hread, ih, List.filterMap_cons_none (by rw [hread, Option.map_none])]
      | some d =>
          rw [placed_cons_some hread, List.map_cons, ih,
            List.filterMap_cons_some (by rw [hread, Option.map_some])]

/-! ### Splices of a line -/

section Place

variable {start : Nat} {c : Text} {d : DirectiveText}

/-- A directive line in four parts. -/
theorem line_eq (h : DirectiveText.read? (contentOf c) = some d) :
    c = (DirectiveText.mark ++ d.key ++ d.separator) ++ (d.value ++ endingOf c) := by
  have hwrite := DirectiveText.write_of_read? h
  rw [← List.append_assoc, show DirectiveText.mark ++ d.key ++ d.separator ++ d.value
    = contentOf c from hwrite, Text.contentOf_append_endingOf]

/-- The value begins after the mark, the key and what separates them. -/
theorem valueStart_ofChunk :
    ({ toDirectiveText := d, line := Line.ofChunk start c } : Directive).valueStart
      = start + byteLength (DirectiveText.mark ++ d.key ++ d.separator) := by
  rw [Text.byteLength_append, Text.byteLength_append]
  show start + byteLength DirectiveText.mark + byteLength d.key + byteLength d.separator = _
  omega

/-- The value ends where the content of the line ends. -/
theorem valueStop_ofChunk (h : DirectiveText.read? (contentOf c) = some d) :
    ({ toDirectiveText := d, line := Line.ofChunk start c } : Directive).valueStop
      = start + byteLength (DirectiveText.mark ++ d.key ++ d.separator) + byteLength d.value := by
  have hwrite := DirectiveText.write_of_read? h
  rw [Directive.valueStop, Line.contentEnd, Text.start_ofChunk, Text.content_ofChunk, ← hwrite,
    DirectiveText.write, Text.byteLength_append, Nat.add_assoc]

/-- The value begins on its own line. -/
theorem valueStart_lt (h : DirectiveText.read? (contentOf c) = some d) (hline : IsLine c) :
    byteLength (DirectiveText.mark ++ d.key ++ d.separator) < byteLength c := by
  have hlen := congrArg byteLength (line_eq h)
  have hpos : 0 < byteLength (endingOf c) := by
    rcases hline.ending.1 with he | he
    · rw [he]
      decide
    · rw [he]
      decide
  simp only [Text.byteLength_append] at hlen ⊢
  omega

end Place

/-- Splices of consecutive lines begin inside these lines. -/
theorem start_of_mem_lineSplices {changes : List (Text × Option Text)} {start : Nat}
    {cs : List Text} (hline : ∀ c ∈ cs, IsLine c) {x : Splice}
    (hx : x ∈ lineSplices changes (placed start cs)) :
    start ≤ x.start ∧ x.start < start + byteLength cs.flatten := by
  induction cs generalizing changes start with
  | nil => cases hx
  | cons c cs ih =>
      have hpos := Text.byteLength_pos (hline c List.mem_cons_self).ne_nil
      have hcs : ∀ y ∈ cs, IsLine y := fun y hy => hline y (List.mem_cons_of_mem _ hy)
      -- The splices of the lines that follow begin further on.
      have hrest : ∀ es, x ∈ lineSplices es (placed (start + byteLength c) cs) →
          start ≤ x.start ∧ x.start < start + (byteLength c + byteLength cs.flatten) := by
        intro es hmem
        have := ih hcs hmem
        omega
      rw [List.flatten_cons, Text.byteLength_append]
      cases hread : DirectiveText.read? (contentOf c) with
      | none =>
          rw [placed_cons_none hread] at hx
          exact hrest changes hx
      | some d =>
          rw [placed_cons_some hread, lineSplices] at hx
          split at hx
          · exact hrest changes hx
          · rcases List.mem_cons.mp hx with rfl | hx
            · show start ≤ start ∧ start < _
              omega
            · exact hrest changes hx
          · rcases List.mem_cons.mp hx with rfl | hx
            · have hlt := valueStart_lt hread (hline c List.mem_cons_self)
              show start ≤ Directive.valueStart _ ∧ Directive.valueStart _ < _
              rw [valueStart_ofChunk]
              omega
            · exact hrest _ hx

/-- They begin at different places, in order. -/
theorem lineSplices_sorted (changes : List (Text × Option Text)) (start : Nat) {cs : List Text}
    (hline : ∀ c ∈ cs, IsLine c) :
    (lineSplices changes (placed start cs)).Pairwise fun a b => a.start < b.start := by
  induction cs generalizing changes start with
  | nil => exact List.Pairwise.nil
  | cons c cs ih =>
      have hpos := Text.byteLength_pos (hline c List.mem_cons_self).ne_nil
      have hcs : ∀ y ∈ cs, IsLine y := fun y hy => hline y (List.mem_cons_of_mem _ hy)
      cases hread : DirectiveText.read? (contentOf c) with
      | none =>
          rw [placed_cons_none hread]
          exact ih changes _ hcs
      | some d =>
          rw [placed_cons_some hread, lineSplices]
          split
          · exact ih changes _ hcs
          · refine List.Pairwise.cons (fun x hx => ?_) (ih changes _ hcs)
            have := (start_of_mem_lineSplices hcs hx).1
            show start < x.start
            omega
          · refine List.Pairwise.cons (fun x hx => ?_) (ih _ _ hcs)
            -- The splice begins inside its line, and the next one after the line.
            have hlt := valueStart_lt hread (hline c List.mem_cons_self)
            have := (start_of_mem_lineSplices hcs hx).1
            show Directive.valueStart _ < x.start
            rw [valueStart_ofChunk]
            omega

/-- Carrying out the splices of consecutive lines edits these lines. -/
theorem applySplicesAux_lines (changes : List (Text × Option Text)) (acc rest : Text)
    (start : Nat) {cs : List Text} (hline : ∀ c ∈ cs, IsLine c) {more : List Splice}
    (hmore : ∀ x ∈ more, start + byteLength cs.flatten ≤ x.start) :
    applySplicesAux acc start (cs.flatten ++ rest) (lineSplices changes (placed start cs) ++ more)
      = applySplicesAux ((editLines changes cs).flatten.reverse ++ acc)
          (start + byteLength cs.flatten) rest more := by
  induction cs generalizing changes acc start with
  | nil => rfl
  | cons c cs ih =>
      have hcs : ∀ y ∈ cs, IsLine y := fun y hy => hline y (List.mem_cons_of_mem _ hy)
      have hlen : start + byteLength (c :: cs).flatten
          = start + byteLength c + byteLength cs.flatten := by
        rw [List.flatten_cons, Text.byteLength_append, Nat.add_assoc]
      rw [hlen] at hmore ⊢
      -- The splices that are left begin after this line.
      have hhead : ∀ es, ∀ x ∈ (lineSplices es (placed (start + byteLength c) cs) ++ more).head?,
          start + byteLength c ≤ x.start := by
        intro es x hx
        rcases List.mem_append.mp (List.mem_of_mem_head? hx) with hmem | hmem
        · exact (start_of_mem_lineSplices hcs hmem).1
        · have := hmore x hmem
          omega
      have hkeep := applySplicesAux_keep acc c (cs.flatten ++ rest) start (hhead changes)
      rw [List.flatten_cons, List.append_assoc]
      cases hread : DirectiveText.read? (contentOf c) with
      | none =>
          rw [placed_cons_none hread, hkeep, ih changes _ _ hcs hmore, editLines, hread]
          simp
      | some d =>
          rw [placed_cons_some hread, lineSplices, editLines, hread]
          cases hlookup : changes.lookup d.key with
          | none =>
              simp only [hlookup]
              rw [hkeep, ih changes _ _ hcs hmore]
              simp
          | some change =>
              cases change with
              | none =>
                  simp only [hlookup, Text.start_ofChunk, Text.next_ofChunk]
                  rw [List.cons_append, applySplicesAux_replace, ih changes _ _ hcs hmore]
                  simp
              | some value =>
                  simp only [hlookup]
                  rw [valueStop_ofChunk hread, valueStart_ofChunk]
                  -- Before the value, the value, and after it.
                  have hc : c ++ (cs.flatten ++ rest)
                      = (DirectiveText.mark ++ d.key ++ d.separator) ++
                          (d.value ++ (endingOf c ++ (cs.flatten ++ rest))) := by
                    conv => lhs; rw [line_eq hread]
                    simp only [List.append_assoc]
                  have hend : start + byteLength (DirectiveText.mark ++ d.key ++ d.separator) +
                      byteLength d.value + byteLength (endingOf c) = start + byteLength c := by
                    conv => rhs; rw [line_eq hread]
                    simp only [Text.byteLength_append]
                    omega
                  rw [hc, List.cons_append, applySplicesAux_keep _ _ _ _ (by
                    rintro x ⟨⟩
                    exact Nat.le_refl _), applySplicesAux_replace,
                    applySplicesAux_keep _ _ _ _ (by
                      rw [hend]
                      exact hhead _), hend, ih _ _ _ hcs hmore]
                  have hwrite := DirectiveText.write_withValue
                    { toDirectiveText := d, line := Line.ofChunk start c } value
                  rw [List.flatten_cons, hwrite]
                  simp only [List.reverse_append, List.append_assoc]

/-! ### Whole scripts -/

namespace Layout

variable (l : Layout)

/-- The keys of the header, in the order of the lines. -/
def keys : List Text := l.inner.filterMap fun c => (DirectiveText.read? (contentOf c)).map (·.key)

/-- The lines that edits add to the header. -/
def addedLines (e : Edits) : List Text :=
  (missingAdditions (l.keys.filter fun k => !e.removedKeys.contains k) e.additions.entries).map
    (addedLine (endingOf l.opening))

/-- The lines inside the header after edits. -/
def editedLines (e : Edits) : List Text := editLines e.changes.entries l.inner ++ l.addedLines e

/-- The splice of the added lines, in front of the closing marker. -/
def addition (e : Edits) : List Splice :=
  if (l.addedLines e).isEmpty then []
  else [⟨l.span.closingLineStart, l.span.closingLineStart, (l.addedLines e).flatten⟩]

/-- Lines are added right in front of the closing marker. -/
theorem start_of_mem_addition {e : Edits} {x : Splice} (hx : x ∈ l.addition e) :
    x.start = byteLength l.top + byteLength l.inner.flatten := by
  rw [addition] at hx
  split at hx
  · cases hx
  · rw [List.mem_singleton.mp hx]
    exact l.closingLineStart_span

/-- The splices for a layout change its placed directives, and add lines
behind them. -/
theorem editSplices_text (e : Edits) :
    editSplices l.text l.span e
      = e.changes.entries.flatMap (changeSplices (placed (byteLength l.top) l.inner)) ++
          l.addition e := by
  have hdirectives : directives l.text = placed (byteLength l.top) l.inner := l.directives_text
  have hkeys : (placed (byteLength l.top) l.inner).map (·.key) = l.keys :=
    map_placed DirectiveText.key _ _
  rw [editSplices, addition, addedLines]
  simp only [hdirectives, hkeys, l.lineTerminator_text]

/-- In the order of the text, the addition comes last. -/
theorem applySplices?_text (e : Edits) :
    applySplices? l.text (editSplices l.text l.span e)
      = applySplicesAux [] 0 l.text
          (lineSplices e.changes.entries (placed (byteLength l.top) l.inner) ++ l.addition e) := by
  have hline : ∀ c ∈ l.inner, IsLine c := fun c hc => l.isLine_inner hc
  rw [l.editSplices_text]
  refine applySplices?_eq_of_perm _
    ((lineSplices_perm _ _ e.changes.keys_nodup).append_right _) ?_
  rw [List.pairwise_append]
  -- The lines of the header end where the addition begins.
  refine ⟨lineSplices_sorted _ _ hline, ?_, fun x hx y hy => ?_⟩
  · rw [addition]
    split
    · exact List.Pairwise.nil
    · exact List.pairwise_singleton _ _
  · rw [l.start_of_mem_addition hy]
    exact (start_of_mem_lineSplices hline hx).2

/-- The splices are carried out: between the markers the lines are edited,
and all else stays as it is. -/
theorem applySplices?_edited (e : Edits) :
    applySplices? l.text (editSplices l.text l.span e)
      = some (l.top ++ (l.editedLines e).flatten ++ l.rest) := by
  have hline : ∀ c ∈ l.inner, IsLine c := fun c hc => l.isLine_inner hc
  have hmore : ∀ x ∈ l.addition e,
      byteLength l.top + byteLength l.inner.flatten ≤ x.start :=
    fun x hx => Nat.le_of_eq (l.start_of_mem_addition hx).symm
  -- Nothing is spliced before the first line.
  have hhead : ∀ x ∈ (lineSplices e.changes.entries (placed (byteLength l.top) l.inner) ++
      l.addition e).head?, 0 + byteLength l.top ≤ x.start := by
    intro x hx
    rw [Nat.zero_add]
    rcases List.mem_append.mp (List.mem_of_mem_head? hx) with hmem | hmem
    · exact (start_of_mem_lineSplices hline hmem).1
    · exact Nat.le_trans (Nat.le_add_right _ _) (hmore x hmem)
  rw [l.applySplices?_text]
  show applySplicesAux [] 0 (l.top ++ l.inner.flatten ++ l.rest) _ = _
  rw [List.append_assoc l.top, applySplicesAux_keep _ _ _ _ hhead, Nat.zero_add,
    applySplicesAux_lines _ _ _ _ hline hmore, addition, editedLines]
  split
  · rename_i hempty
    rw [List.isEmpty_iff.mp hempty]
    simp [applySplicesAux]
  · -- What is added goes in front of the closing marker.
    have hreplace := applySplicesAux_replace
      ((editLines e.changes.entries l.inner).flatten.reverse ++ (l.top.reverse ++ []))
      [] (l.addedLines e).flatten l.rest l.span.closingLineStart []
    rw [List.nil_append, Text.byteLength_nil, Nat.add_zero] at hreplace
    rw [← l.closingLineStart_span, hreplace, applySplicesAux]
    simp

/-- **Rewriting.** A script with a header, rewritten: between the markers
the lines are edited, and all else stays as it is. -/
theorem rewrite_text (e : Edits) :
    rewrite l.text e = l.top ++ (l.editedLines e).flatten ++ l.rest := by
  rw [rewrite, l.locate_text]
  show (applySplices? l.text (editSplices l.text l.span e)).getD l.text = _
  rw [l.applySplices?_edited, Option.getD_some]

/-- A script that stays the same has the same lines, as long as the edits
leave lines. -/
theorem rewrite_eq_self_iff {e : Edits} (hline : ∀ c ∈ l.editedLines e, IsLine c) :
    rewrite l.text e = l.text ↔ l.editedLines e = l.inner := by
  rw [l.rewrite_text, text, List.append_cancel_right_eq, List.append_cancel_left_eq]
  exact Text.flatten_lines_inj hline fun c hc => l.isLine_inner hc

end Layout
end ScriptGate.Header
