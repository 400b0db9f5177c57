import ScriptGate.Proofs.Text.Chunks

/-!
# `ScriptGate.Proofs.Text.Tiling`: the lines of a text tile it

Every offset that the header works with comes from `lines`, which adds up
the sizes of the lines before. `Tiles` says that lines lie one behind the
other, and `LineInPlace` that the offsets of a line cut its content and its
terminator out of the text. `lines_tile` says both of the lines of every
text, and that no content has a line feed of its own.

`lineOfOffset` knows nothing of these lines, because it counts line feeds.
That its numbers are those of the lines needs one fact about each side: all
chunks in front of a line have exactly one line feed
(`count_flatten_lines`), and a line has none before its last byte
(`isLine_or_not_mem`).
-/

set_option autoImplicit false

namespace ScriptGate.Text

/-! ### Tilings -/

/-- The lines follow each other without a gap. The first one begins at the
given offset, and the last one ends at `stop`. -/
inductive Tiles (stop : Nat) : Nat → List Line → Prop
  | done : Tiles stop stop []
  | line {l : Line} {ls : List Line} (h : Tiles stop l.next ls) : Tiles stop l.start (l :: ls)

/-- The offsets of a line cut its two parts out of `t`. -/
structure LineInPlace (t : Text) (l : Line) : Prop where
  content : slice? t l.start l.contentEnd = some l.content
  ending : slice? t l.contentEnd l.next = some l.ending
  oneLine : '\n' ∉ l.content
  /-- Only the last line can do without a line feed. -/
  terminated : IsEnding l.ending ∨
    (lines t).getLast? = some l ∧ (l.ending = [] ∨ l.ending = ['\r'])
  /-- The offsets are character boundaries. -/
  boundaries : ∀ n ∈ [l.start, l.contentEnd, l.next], (splitAtByte? n t).isSome = true

/-- Pieces that are placed one after the other tile their text. -/
theorem tiles_place (start : Nat) (cs : List Text) :
    Tiles (start + byteLength cs.flatten) start (place start cs) := by
  induction cs generalizing start with
  | nil => exact Tiles.done
  | cons c cs ih =>
      have hrest := ih (Line.ofChunk start c).next
      rw [next_ofChunk, Nat.add_assoc, ← byteLength_append, ← List.flatten_cons] at hrest
      refine Tiles.line (l := Line.ofChunk start c) ?_
      rw [next_ofChunk]
      exact hrest

/-- A text without lines is empty. -/
theorem lines_eq_nil_iff (t : Text) : lines t = [] ↔ t = [] := by
  constructor
  · intro h
    have hlength : (lines t).length = (chunks t).length := by
      rw [lines_eq_place, length_place]
    rw [h] at hlength
    rw [← flatten_chunks t, List.length_eq_zero_iff.mp hlength.symm, List.flatten_nil]
  · rintro rfl
    rfl

/-! ### Lines and their chunks -/

/-- A chunk is a line, or it has no line feed at all. -/
theorem isLine_or_not_mem {t c : Text} (h : c ∈ chunks t) : IsLine c ∨ '\n' ∉ c := by
  induction t generalizing c with
  | nil => cases h
  | cons a t ih =>
      rw [chunks_cons] at h
      split at h
      · rename_i ha
        rcases List.mem_cons.mp h with rfl | h
        · exact Or.inl ⟨[], by rw [ha, List.nil_append], List.not_mem_nil⟩
        · exact ih h
      · rename_i ha
        split at h
        · rw [List.mem_singleton.mp h, List.mem_singleton]
          exact Or.inr (Ne.symm ha)
        · rename_i x xs hx
          rw [hx] at ih
          rcases List.mem_cons.mp h with rfl | h
          · -- The character joins the first chunk of what follows.
            rcases ih List.mem_cons_self with ⟨s, rfl, hs⟩ | hnot
            · refine Or.inl ⟨a :: s, rfl, ?_⟩
              rw [List.mem_cons, not_or]
              exact ⟨Ne.symm ha, hs⟩
            · refine Or.inr ?_
              rw [List.mem_cons, not_or]
              exact ⟨Ne.symm ha, hnot⟩
          · exact ih (List.mem_cons_of_mem _ h)

/-- Every line stands at its number among the lines, behind the chunks in
front of it. -/
theorem exists_of_getElem?_lines {t : Text} {i : Nat} {l : Line} (h : (lines t)[i]? = some l) :
    ∃ as c bs, chunks t = as ++ c :: bs ∧ as.length = i ∧
      l = Line.ofChunk (byteLength as.flatten) c := by
  obtain ⟨hi, hl⟩ := List.getElem?_eq_some_iff.mp h
  -- The lines on both sides of this one are those of the chunks on both sides.
  have hlines : place 0 (chunks t) = (lines t).take i ++ l :: (lines t).drop (i + 1) := by
    rw [← lines_eq_place, ← hl, List.getElem_cons_drop, List.take_append_drop]
  obtain ⟨as, ds, hchunks, htake, hdrop⟩ := place_eq_append hlines
  obtain ⟨c, bs, rfl, hline, -⟩ := place_eq_cons hdrop.symm
  refine ⟨as, c, bs, hchunks, ?_, ?_⟩
  · have hlength := congrArg List.length htake
    rw [List.length_take, length_place] at hlength
    omega
  · rw [hline, Nat.zero_add]

section Place

variable {t c : Text} {as bs : List Text} (h : chunks t = as ++ c :: bs)
include h

/-- The text around one of its chunks. -/
theorem eq_append_of_chunks : t = as.flatten ++ (contentOf c ++ endingOf c) ++ bs.flatten := by
  rw [← flatten_chunks t, h, List.flatten_append, List.flatten_cons, contentOf_append_endingOf,
    List.append_assoc]

/-- All chunks in front of another one are lines. -/
theorem isLine_of_chunks_before : ∀ x ∈ as, IsLine x :=
  (chunks_eq_append h (List.cons_ne_nil c bs)).1

/-- A chunk that is no line is the last one. -/
theorem eq_nil_of_not_isLine (hc : ¬ IsLine c) : bs = [] := by
  have hlines : chunks t = (as ++ [c]) ++ bs := by
    rw [h, List.append_assoc, List.singleton_append]
  by_cases hbs : bs = []
  · exact hbs
  · exact absurd ((chunks_eq_append hlines hbs).1 c (by simp)) hc

/-- The line of a piece stands where the piece does. -/
theorem lineInPlace : LineInPlace t (Line.ofChunk (byteLength as.flatten) c) := by
  have ht := eq_append_of_chunks h
  have hline := isLine_or_not_mem (t := t) (c := c) (by rw [h]; simp)
  -- The three offsets, as lengths of beginnings of the text.
  have hstop : (Line.ofChunk (byteLength as.flatten) c).contentEnd
      = byteLength (as.flatten ++ contentOf c) := by
    rw [byteLength_append]
    rfl
  have hnext : (Line.ofChunk (byteLength as.flatten) c).next
      = byteLength (as.flatten ++ contentOf c ++ endingOf c) := by
    rw [byteLength_append, ← hstop]
    rfl
  constructor
  case content =>
    rw [hstop, byteLength_append, ht, ← List.append_assoc, List.append_assoc _ (endingOf c)]
    exact slice?_append _ _ _
  case ending =>
    rw [hnext, hstop, byteLength_append (as.flatten ++ contentOf c), ht, ← List.append_assoc]
    exact slice?_append _ _ _
  case oneLine =>
    rcases hline with hline | hnot
    · exact hline.ending.2
    · exact fun hmem => hnot (mem_of_mem_contentOf hmem)
  case terminated =>
    rcases hline with hline | hnot
    · exact Or.inl hline.ending.1
    · -- Without a line feed the chunk is no line, so nothing comes after it.
      have hc : ¬ IsLine c := by
        rintro ⟨s, rfl, -⟩
        exact hnot (List.mem_append_right _ (List.mem_singleton_self _))
      have hlast : (lines t).getLast? = some (Line.ofChunk (byteLength as.flatten) c) := by
        rw [lines_eq_place, h, eq_nil_of_not_isLine h hc, place_append, Nat.zero_add]
        exact List.getLast?_concat
      rcases endingOf_cases c with hnil | hreturn | hending
      · exact Or.inr ⟨hlast, Or.inl hnil⟩
      · exact Or.inr ⟨hlast, Or.inr hreturn⟩
      · exact Or.inl hending
  case boundaries =>
    intro n hn
    simp only [List.mem_cons, List.not_mem_nil, or_false] at hn
    rcases hn with rfl | rfl | rfl
    · show (splitAtByte? (byteLength as.flatten) t).isSome = true
      rw [ht, List.append_assoc, splitAtByte?_append]
      rfl
    · rw [hstop, ht, ← List.append_assoc, List.append_assoc _ (endingOf c), splitAtByte?_append]
      rfl
    · rw [hnext, ht, ← List.append_assoc, splitAtByte?_append]
      rfl

end Place

/-! ### Numbers of lines -/

/-- Some lines have as many line feeds. -/
theorem count_flatten_lines {cs : List Text} (h : ∀ c ∈ cs, IsLine c) :
    cs.flatten.count '\n' = cs.length := by
  induction cs with
  | nil => rfl
  | cons c cs ih =>
      obtain ⟨s, rfl, hs⟩ := h c List.mem_cons_self
      have hcs := ih fun x hx => h x (List.mem_cons_of_mem _ hx)
      rw [List.flatten_cons, List.count_append, List.count_append, List.count_eq_zero.mpr hs, hcs,
        List.length_cons]
      show 0 + 1 + cs.length = cs.length + 1
      omega

/-- Walking past a beginning of the text counts its line feeds. -/
theorem lineOfOffset_go_append {s : Text} {n : Nat} (h : byteLength s ≤ n) (line : Nat) (r : Text) :
    lineOfOffset.go n line (s ++ r)
      = lineOfOffset.go (n - byteLength s) (line + s.count '\n') r := by
  induction s generalizing n line with
  | nil => rfl
  | cons c s ih =>
      have hc := Char.utf8Size_pos c
      rw [byteLength_cons] at h
      have hn : n ≠ 0 := by omega
      rw [List.cons_append, lineOfOffset.go, if_neg hn, ih (by omega), byteLength_cons,
        Nat.sub_sub, List.count_cons]
      by_cases hfeed : c = '\n'
      · rw [if_pos hfeed, hfeed, beq_self_eq_true, if_pos rfl, Nat.add_assoc,
          Nat.add_comm 1]
      · rw [if_neg hfeed, beq_eq_false_iff_ne.mpr hfeed]
        rfl

/-- A walk that ends before the next line feed counts no more. -/
theorem lineOfOffset_go_of_not_mem {s : Text} (hs : '\n' ∉ s) {n : Nat} (h : n ≤ byteLength s)
    (line : Nat) (r : Text) : lineOfOffset.go n line (s ++ r) = line := by
  induction s generalizing n with
  | nil =>
      obtain rfl : n = 0 := Nat.le_zero.mp h
      cases r with
      | nil => rfl
      | cons c r => rfl
  | cons c s ih =>
      rw [List.mem_cons, not_or] at hs
      rw [byteLength_cons] at h
      rw [List.cons_append, lineOfOffset.go, if_neg (Ne.symm hs.1)]
      split
      · rfl
      · exact ih hs.2 (by omega)

/-- The bytes of a line have its number. -/
theorem lineOfOffset_of_chunks {t c : Text} {as bs : List Text} (h : chunks t = as ++ c :: bs)
    {offset : Nat} (hstart : byteLength as.flatten ≤ offset)
    (hnext : offset < byteLength as.flatten + byteLength c) :
    lineOfOffset t offset = as.length + 1 := by
  have ht : t = as.flatten ++ (c ++ bs.flatten) := by
    rw [← flatten_chunks t, h, List.flatten_append, List.flatten_cons]
  -- The line feed of the line, if it has one, is its last byte.
  obtain ⟨s, e, rfl, hs, he⟩ : ∃ s e, c = s ++ e ∧ '\n' ∉ s ∧ byteLength e ≤ 1 := by
    rcases isLine_or_not_mem (t := t) (c := c) (by rw [h]; simp) with ⟨s, rfl, hs⟩ | hnot
    · exact ⟨s, ['\n'], rfl, hs, Nat.le_refl 1⟩
    · exact ⟨c, [], (List.append_nil c).symm, hnot, Nat.zero_le 1⟩
  rw [byteLength_append] at hnext
  rw [lineOfOffset, ht, lineOfOffset_go_append hstart,
    count_flatten_lines (isLine_of_chunks_before h), List.append_assoc,
    lineOfOffset_go_of_not_mem hs (by omega), Nat.add_comm]

/-- **Lines.** The lines of a text tile it from its first byte to its last,
and only an empty text has none. The offsets of each line are character
boundaries that cut out its content, which has no line feed, and its
terminator, which can be missing or lack the line feed on the last line
only. All bytes of a line have its number, and offsets at the end and
beyond have the number of the line that would follow the last line feed. -/
theorem lines_tile (t : Text) :
    Tiles (byteLength t) 0 (lines t) ∧ (lines t = [] ↔ t = []) ∧
    (∀ l ∈ lines t, LineInPlace t l) ∧
    (∀ i l, (lines t)[i]? = some l → ∀ offset, l.start ≤ offset → offset < l.next →
      lineOfOffset t offset = i + 1) ∧
    ∀ offset, byteLength t ≤ offset → lineOfOffset t offset = 1 + t.count '\n' := by
  refine ⟨?_, lines_eq_nil_iff t, ?_, ?_, ?_⟩
  · have htiles := tiles_place 0 (chunks t)
    rwa [Nat.zero_add, flatten_chunks, ← lines_eq_place] at htiles
  · intro l hl
    obtain ⟨i, hi⟩ := List.getElem?_of_mem hl
    obtain ⟨as, c, bs, hchunks, -, rfl⟩ := exists_of_getElem?_lines hi
    exact lineInPlace hchunks
  · intro i l hi offset hstart hnext
    obtain ⟨as, c, bs, hchunks, rfl, rfl⟩ := exists_of_getElem?_lines hi
    rw [next_ofChunk] at hnext
    exact lineOfOffset_of_chunks hchunks hstart hnext
  · intro offset hoffset
    have hgo := lineOfOffset_go_append hoffset 1 []
    rwa [List.append_nil] at hgo

/-- Characters of several bytes on lines with each kind of ending but none:
the last line ends in a carriage return. -/
def mixedText : Text := "ä\r\n\n😀\r".toList

/-- Offsets inside a character belong to its line, and the last line has no
line feed to end its number. -/
theorem lines_tile_mixed :
    lines mixedText
      = [⟨0, "ä".toList, "\r\n".toList⟩, ⟨4, [], "\n".toList⟩, ⟨5, "😀".toList, "\r".toList⟩] ∧
    Tiles 10 0 (lines mixedText) ∧ (∀ l ∈ lines mixedText, LineInPlace mixedText l) ∧
    lineOfOffset mixedText 1 = 1 ∧ lineOfOffset mixedText 7 = 3 ∧
    lineOfOffset mixedText 10 = 3 := by
  have hlines : lines mixedText
      = [⟨0, "ä".toList, "\r\n".toList⟩, ⟨4, [], "\n".toList⟩, ⟨5, "😀".toList, "\r".toList⟩] := by
    decide +kernel
  have hlength : byteLength mixedText = 10 := by decide +kernel
  obtain ⟨htiles, -, hplace, hnumber, hbeyond⟩ := lines_tile mixedText
  rw [hlength] at htiles hbeyond
  refine ⟨hlines, htiles, hplace, ?_, ?_, ?_⟩
  · exact hnumber 0 ⟨0, "ä".toList, "\r\n".toList⟩ (by rw [hlines]; rfl) 1 (by decide) (by decide)
  · exact hnumber 2 ⟨5, "😀".toList, "\r".toList⟩ (by rw [hlines]; rfl) 7 (by decide) (by decide)
  · exact hbeyond 10 (Nat.le_refl 10)

end ScriptGate.Text
