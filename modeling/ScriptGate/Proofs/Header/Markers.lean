import ScriptGate.Proofs.Header.LineEdits

/-!
# `ScriptGate.Proofs.Header.Markers`: a rewritten script has a header

A script has a header as soon as a line says the opening marker and a
later one the closing marker (`locate_ne_none_of_chunks`); they need not
be the first of their kind.

`locate_rewrite_ne_none` says that no edits take a header away, whatever
their values are. A value may hold line feeds, so that its directive
turns into several lines, among them perhaps markers. But every edited
line ends in a line feed, so the markers of the script are still on lines
of their own, and in this order.
-/

set_option autoImplicit false

namespace ScriptGate.Header

open Text (IsLine Line chunks contentOf endingOf place)

/-- What is left from the first line on that does not have a property has
everything that follows such a line. -/
theorem exists_dropWhile_append {p : Line → Bool} {x : Line} (hx : p x = false)
    (ls ms : List Line) : ∃ y ks, (ls ++ x :: ms).dropWhile p = y :: ks ∧ ms ⊆ ks := by
  induction ls with
  | nil => exact ⟨x, ms, List.dropWhile_cons_of_neg (by rw [hx]; simp), List.Subset.refl _⟩
  | cons l ls ih =>
      rw [List.cons_append]
      cases hl : p l with
      | false =>
          refine ⟨l, ls ++ x :: ms, List.dropWhile_cons_of_neg (by rw [hl]; simp), ?_⟩
          exact fun z hz => List.mem_append_right _ (List.mem_cons_of_mem _ hz)
      | true =>
          rw [List.dropWhile_cons_of_pos hl]
          exact ih

/-- Lines with an opening marker and a later closing marker have marker
lines, though these two need not be them. -/
theorem markerLines_ne_none {ls : List Line} {x y : Line} (h : [x, y].Sublist ls)
    (hx : x.content = openingMarker) (hy : y.content = closingMarker) : markerLines ls ≠ none := by
  obtain ⟨r₁, r₂, rfl, hmem, hsub⟩ := List.cons_sublist_iff.mp h
  obtain ⟨as, bs, rfl⟩ := List.append_of_mem hmem
  -- From the first opening marker on, the closing marker is behind the first line.
  obtain ⟨first, ks, hks, hsubset⟩ := exists_dropWhile_append
    (p := fun l : Line => l.content != openingMarker) (x := x)
    (by rw [hx, bne_self_eq_false]) as (bs ++ r₂)
  rw [markerLines, List.append_assoc, List.cons_append, hks]
  show Option.map _ (ks.find? fun l => l.content == closingMarker) ≠ none
  rw [ne_eq, Option.map_eq_none_iff, List.find?_eq_none]
  intro hnone
  refine hnone y (hsubset (List.mem_append_right _ (List.singleton_sublist.mp hsub))) ?_
  rw [hy, beq_self_eq_true]

/-- A script with the markers on two of its lines has a header. -/
theorem locate_ne_none_of_chunks {source opening closing : Text} {before inner after : List Text}
    (hchunks : chunks source = before ++ opening :: (inner ++ closing :: after))
    (hopening : contentOf opening = openingMarker) (hclosing : contentOf closing = closingMarker) :
    locate source ≠ none := by
  rw [locate, ne_eq, Option.map_eq_none_iff, Text.lines_eq_place, hchunks, Text.place_append,
    place, Text.place_append, place]
  -- The closing line is among those after the opening one.
  exact markerLines_ne_none
    (((List.singleton_sublist.mpr (List.mem_append_right _ List.mem_cons_self)).cons_cons _).trans
      (List.sublist_append_right _ _)) hopening hclosing

/-- Every edited line ends in a line feed. -/
theorem Layout.feed_editedLines (l : Layout) {e : Edits} {c : Text} (hc : c ∈ l.editedLines e) :
    c.getLast? = some '\n' := by
  have hending : ∀ s t : Text, IsLine t → (s ++ endingOf t).getLast? = some '\n' := by
    intro s t ht
    rcases ht.ending.1 with he | he
    · rw [he, List.getLast?_append]
      rfl
    · rw [he, List.getLast?_append]
      rfl
  rcases List.mem_append.mp hc with hc | hc
  · rcases mem_editLines hc with hc | ⟨x, hx, d, v, -, -, rfl⟩
    · rw [← Text.contentOf_append_endingOf c]
      exact hending _ c (l.isLine_inner hc)
    · exact hending _ x (l.isLine_inner hx)
  · obtain ⟨a, -, rfl⟩ := List.mem_map.mp hc
    exact hending _ _ l.isLine_opening

/-- Every script with a header has a header of its own. -/
theorem exists_metaBlock {source : Text} (h : locate source ≠ none) :
    ∃ header, metaBlock source = some header := by
  obtain ⟨span, hspan⟩ := Option.ne_none_iff_exists'.mp h
  rw [metaBlock, hspan]
  exact ⟨_, rfl⟩

/-- **Headers stay.** A script with a header has one after any edits. -/
theorem locate_rewrite_ne_none {source : Text} (h : locate source ≠ none) (e : Edits) :
    locate (rewrite source e) ≠ none := by
  obtain ⟨span, hspan⟩ := Option.ne_none_iff_exists'.mp h
  obtain ⟨l, rfl⟩ := exists_layout hspan
  have htop : ∀ c ∈ l.before ++ [l.opening], IsLine c := by
    intro c hc
    refine l.isLine c ?_
    rw [List.append_cons]
    exact List.mem_append_left _ hc
  have htext : rewrite l.text e
      = (l.before ++ [l.opening]).flatten ++ ((l.editedLines e).flatten ++ l.rest) := by
    rw [l.rewrite_text, Layout.top, List.flatten_append, List.flatten_singleton, List.append_assoc]
  have hchunks : chunks (rewrite l.text e)
      = l.before ++ l.opening :: (chunks (l.editedLines e).flatten ++ l.closing :: l.after) := by
    rw [htext, Text.chunks_flatten_append htop,
      Text.chunks_append_of_feed (fun c hc => l.feed_editedLines hc), Layout.rest, l.chunks_rest,
      List.append_assoc, List.singleton_append]
  exact locate_ne_none_of_chunks hchunks l.opening_eq l.closing_eq

end ScriptGate.Header
