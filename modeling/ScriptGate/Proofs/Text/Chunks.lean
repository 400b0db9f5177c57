import ScriptGate.Text.Lines

/-!
# `ScriptGate.Proofs.Text.Chunks`: texts as lists of chunks

`chunks` cuts a text after every line feed, and `IsLine` is what all
chunks but perhaps the last one are. A list of such chunks in front of a
text is read back as it is (`chunks_flatten_append`), so a header can be
changed chunk by chunk.

`contentOf` and `endingOf` separate a chunk from its terminator. They do
not depend on where the chunk starts, and `contentOf_append` reads back a
chunk that was put together from both.

The last section says what a cut at a byte offset gives where the offset
is the length of a beginning of the text.
-/

set_option autoImplicit false

namespace ScriptGate.Text

/-! ### Chunks -/

/-- A text with one line feed, at its end. -/
def IsLine (c : Text) : Prop := ∃ s, c = s ++ ['\n'] ∧ '\n' ∉ s

/-- A line has at least its terminator. -/
theorem IsLine.ne_nil {c : Text} (h : IsLine c) : c ≠ [] := by
  obtain ⟨s, rfl, -⟩ := h
  simp only [ne_eq, List.append_eq_nil_iff, List.cons_ne_nil, and_false, not_false_eq_true]

/-- A line in front of a text is its first chunk. -/
theorem chunks_append_of_isLine {c : Text} (h : IsLine c) (t : Text) :
    chunks (c ++ t) = c :: chunks t := by
  obtain ⟨s, rfl, hs⟩ := h
  induction s with
  | nil => rw [List.nil_append, List.singleton_append, chunks_cons, if_pos rfl]
  | cons a s ih =>
      -- The chunk goes on until its line feed.
      have ha : a ≠ '\n' := fun h => hs (h ▸ List.mem_cons_self)
      have hs' : '\n' ∉ s := fun h => hs (List.mem_cons_of_mem _ h)
      rw [List.cons_append, List.cons_append, chunks_cons, if_neg ha, ih hs']

/-- So are some lines, one after the other. -/
theorem chunks_flatten_append {cs : List Text} (h : ∀ c ∈ cs, IsLine c) (t : Text) :
    chunks (cs.flatten ++ t) = cs ++ chunks t := by
  induction cs with
  | nil => rfl
  | cons c cs ih =>
      have hcs : ∀ x ∈ cs, IsLine x := fun x hx => h x (List.mem_cons_of_mem _ hx)
      rw [List.flatten_cons, List.append_assoc, chunks_append_of_isLine (h c List.mem_cons_self),
        ih hcs, List.cons_append]

/-- Lines are cut from each other where they were put together. -/
theorem flatten_lines_inj {cs ds : List Text} (hcs : ∀ c ∈ cs, IsLine c)
    (hds : ∀ c ∈ ds, IsLine c) : cs.flatten = ds.flatten ↔ cs = ds := by
  refine ⟨fun h => ?_, fun h => by rw [h]⟩
  have hcs' := chunks_flatten_append hcs []
  have hds' := chunks_flatten_append hds []
  rw [List.append_nil, chunks_nil, List.append_nil] at hcs' hds'
  rw [← hcs', ← hds', h]

/-- A text is cut after every line feed, so also between two texts of
which the first ends in one. -/
theorem chunks_append_feed (s t : Text) :
    chunks (s ++ '\n' :: t) = chunks (s ++ ['\n']) ++ chunks t := by
  induction s with
  | nil =>
      rw [List.nil_append, List.nil_append, chunks_cons, if_pos rfl, chunks_cons, if_pos rfl]
      rfl
  | cons a s ih =>
      rw [List.cons_append, List.cons_append, chunks_cons, ih, chunks_cons a (s ++ ['\n'])]
      split
      · rfl
      · -- The character joins the first chunk, which is not in `t`.
        cases hs : chunks (s ++ ['\n']) with
        | nil =>
            have hflat := flatten_chunks (s ++ ['\n'])
            rw [hs] at hflat
            exact absurd hflat.symm (by simp)
        | cons c cs => rfl

/-- Texts that end in a line feed are cut on their own. -/
theorem chunks_append_of_feed {cs : List Text} (h : ∀ c ∈ cs, c.getLast? = some '\n') (t : Text) :
    chunks (cs.flatten ++ t) = chunks cs.flatten ++ chunks t := by
  induction cs with
  | nil => rfl
  | cons c cs ih =>
      obtain ⟨s, rfl⟩ := List.getLast?_eq_some_iff.mp (h c List.mem_cons_self)
      have hcs : ∀ x ∈ cs, x.getLast? = some '\n' := fun x hx => h x (List.mem_cons_of_mem _ hx)
      have hcut : ∀ r : Text, chunks (s ++ ['\n'] ++ r) = chunks (s ++ ['\n']) ++ chunks r := by
        intro r
        rw [List.append_assoc, List.singleton_append, chunks_append_feed]
      rw [List.flatten_cons, List.append_assoc, hcut, ih hcs, hcut, List.append_assoc]

/-- The first chunk of two is a line. -/
theorem isLine_head_of_chunks {t c : Text} {rest : List Text} (h : chunks t = c :: rest)
    (hrest : rest ≠ []) : IsLine c := by
  induction t generalizing c rest with
  | nil => cases h
  | cons a t ih =>
      rw [chunks_cons] at h
      split at h
      · rename_i ha
        rw [List.cons.injEq] at h
        exact ⟨[], by rw [← h.1, ha, List.nil_append], List.not_mem_nil⟩
      · rename_i ha
        split at h
        · rw [List.cons.injEq] at h
          exact absurd h.2.symm hrest
        · rename_i l ls hl
          rw [List.cons.injEq] at h
          -- The character joins the first chunk of what follows.
          obtain ⟨s, hs, hmem⟩ := ih hl (by rw [h.2]; exact hrest)
          refine ⟨a :: s, by rw [← h.1, hs, List.cons_append], ?_⟩
          rw [List.mem_cons, not_or]
          exact ⟨Ne.symm ha, hmem⟩

/-- What follows the first chunk has the other chunks. -/
theorem chunks_tail {t c : Text} {rest : List Text} (h : chunks t = c :: rest) :
    chunks rest.flatten = rest := by
  by_cases hrest : rest = []
  · rw [hrest]
    rfl
  · have hline := isLine_head_of_chunks h hrest
    have ht : t = c ++ rest.flatten := by
      rw [← flatten_chunks t, h, List.flatten_cons]
    rw [ht, chunks_append_of_isLine hline, List.cons.injEq] at h
    exact h.2

/-- A text around some of its chunks: what comes before them are lines,
and what comes after the last of these has the other chunks. -/
theorem chunks_eq_append {t : Text} {cs rest : List Text} (h : chunks t = cs ++ rest)
    (hrest : rest ≠ []) : (∀ c ∈ cs, IsLine c) ∧ chunks rest.flatten = rest := by
  induction cs generalizing t with
  | nil =>
      rw [List.nil_append] at h
      refine ⟨fun c hc => (by cases hc), ?_⟩
      rw [← h, flatten_chunks]
  | cons c cs ih =>
      rw [List.cons_append] at h
      obtain ⟨hlines, hchunks⟩ := ih (chunks_tail h)
      refine ⟨fun x hx => ?_, hchunks⟩
      rcases List.mem_cons.mp hx with rfl | hx
      · exact isLine_head_of_chunks h (by
          rw [ne_eq, List.append_eq_nil_iff]
          exact fun hnil => hrest hnil.2)
      · exact hlines x hx

/-- A chunk has no characters of its own. -/
theorem not_mem_of_mem_chunks {a : Char} {t c : Text} (h : a ∉ t) (hc : c ∈ chunks t) :
    a ∉ c := by
  intro hmem
  refine h ?_
  rw [← flatten_chunks t]
  exact List.mem_flatten.mpr ⟨c, hc, hmem⟩

/-! ### Contents and endings -/

/-- A chunk without its terminator. -/
def contentOf (c : Text) : Text := (Line.cutEnding c.reverse).1

/-- The terminator of a chunk. -/
def endingOf (c : Text) : Text := (Line.cutEnding c.reverse).2

/-- A piece makes a line with its content. -/
@[simp] theorem content_ofChunk (start : Nat) (c : Text) :
    (Line.ofChunk start c).content = contentOf c := rfl

/-- A piece makes a line with its terminator. -/
@[simp] theorem ending_ofChunk (start : Nat) (c : Text) :
    (Line.ofChunk start c).ending = endingOf c := rfl

/-- The line starts where the piece does. -/
@[simp] theorem start_ofChunk (start : Nat) (c : Text) : (Line.ofChunk start c).start = start := rfl

/-- Cutting off the terminator loses nothing. -/
theorem contentOf_append_endingOf (c : Text) : contentOf c ++ endingOf c = c := by
  have key : ∀ r : Text, (Line.cutEnding r).1 ++ (Line.cutEnding r).2 = r.reverse := by
    intro r
    unfold Line.cutEnding
    split <;> simp
  rw [contentOf, endingOf, key, List.reverse_reverse]

/-- The content of a piece is in the piece. -/
theorem mem_of_mem_contentOf {a : Char} {c : Text} (h : a ∈ contentOf c) : a ∈ c := by
  rw [← contentOf_append_endingOf c]
  exact List.mem_append_left _ h

/-- The terminator of a piece is in the piece. -/
theorem mem_of_mem_endingOf {a : Char} {c : Text} (h : a ∈ endingOf c) : a ∈ c := by
  rw [← contentOf_append_endingOf c]
  exact List.mem_append_right _ h

/-- The next line starts where the piece ends. -/
@[simp] theorem next_ofChunk (start : Nat) (c : Text) :
    (Line.ofChunk start c).next = start + byteLength c := by
  rw [Line.next, Line.contentEnd, start_ofChunk, content_ofChunk, ending_ofChunk, Nat.add_assoc,
    ← byteLength_append, contentOf_append_endingOf]

/-- A terminator of a line. -/
def IsEnding (e : Text) : Prop := e = ['\n'] ∨ e = ['\r', '\n']

/-- A chunk ends in a terminator, in a carriage return, or in neither. -/
theorem endingOf_cases (c : Text) :
    endingOf c = [] ∨ endingOf c = ['\r'] ∨ IsEnding (endingOf c) := by
  unfold endingOf Line.cutEnding
  split
  · exact Or.inr (Or.inr (Or.inr rfl))
  · exact Or.inr (Or.inr (Or.inl rfl))
  · exact Or.inr (Or.inl rfl)
  · exact Or.inl rfl

/-- A line feed without a carriage return before it is a terminator by
itself. -/
theorem cutEnding_cons_of_ne {a : Char} (h : a ≠ '\r') (r : Text) :
    Line.cutEnding ('\n' :: a :: r) = ((a :: r).reverse, ['\n']) := by
  unfold Line.cutEnding
  split
  · rename_i heq
    exact absurd (List.cons.inj (List.cons.inj heq).2).1 h
  · rename_i heq
    rw [(List.cons.inj heq).2]
  · rename_i heq
    cases (List.cons.inj heq).1
  · rename_i h1 h2
    exact absurd rfl (h1 _)

/-- A text that ends in any other character has no terminator. -/
theorem cutEnding_cons_of_other {a : Char} (hfeed : a ≠ '\n') (hreturn : a ≠ '\r') (r : Text) :
    Line.cutEnding (a :: r) = ((a :: r).reverse, []) := by
  unfold Line.cutEnding
  split
  · rename_i heq
    exact absurd (List.cons.inj heq).1 hfeed
  · rename_i heq
    exact absurd (List.cons.inj heq).1 hfeed
  · rename_i heq
    exact absurd (List.cons.inj heq).1 hreturn
  · rfl

/-- A carriage return in front of the line feed ends a content. -/
theorem contentOf_append_return (s : Text) : contentOf (s ++ ['\r', '\n']) = s := by
  rw [contentOf, List.reverse_append]
  exact List.reverse_reverse s

/-- A carriage return before the line feed belongs to the terminator. -/
theorem endingOf_append_return (s : Text) : endingOf (s ++ ['\r', '\n']) = ['\r', '\n'] := by
  rw [endingOf, List.reverse_append]
  rfl

/-- A chunk that was put together from a content and a terminator. -/
theorem contentOf_append {s e : Text} (hs : s.getLast? ≠ some '\r') (he : IsEnding e) :
    contentOf (s ++ e) = s ∧ endingOf (s ++ e) = e := by
  rcases he with rfl | rfl
  · rw [contentOf, endingOf, List.reverse_append, List.reverse_singleton, List.singleton_append]
    -- The terminator is cut off the reversed chunk.
    cases hr : s.reverse with
    | nil =>
        rw [List.reverse_eq_nil_iff.mp hr]
        exact ⟨rfl, rfl⟩
    | cons a r =>
        have ha : a ≠ '\r' := by
          intro h
          rw [List.getLast?_eq_head?_reverse, hr, h] at hs
          exact hs rfl
        rw [cutEnding_cons_of_ne ha, ← hr, List.reverse_reverse]
        exact ⟨rfl, rfl⟩
  · exact ⟨contentOf_append_return s, endingOf_append_return s⟩

/-- A line ends in a terminator, and there is no line feed before it. -/
theorem IsLine.ending {c : Text} (h : IsLine c) : IsEnding (endingOf c) ∧ '\n' ∉ contentOf c := by
  obtain ⟨s, rfl, hs⟩ := h
  by_cases hr : s.getLast? = some '\r'
  · obtain ⟨r, rfl⟩ := List.getLast?_eq_some_iff.mp hr
    -- The carriage return belongs to the terminator.
    have hending : endingOf (r ++ (['\r'] ++ ['\n'])) = ['\r', '\n'] := endingOf_append_return r
    rw [List.append_assoc, hending]
    refine ⟨Or.inr rfl, fun hmem => hs (List.mem_append_left _ ?_)⟩
    rwa [show ['\r'] ++ ['\n'] = ['\r', '\n'] from rfl, contentOf_append_return] at hmem
  · obtain ⟨hc, he⟩ := contentOf_append hr (Or.inl rfl)
    rw [hc, he]
    exact ⟨Or.inl rfl, hs⟩

/-- A content without line feeds and a terminator make a line. -/
theorem isLine_append {s e : Text} (hs : '\n' ∉ s) (he : IsEnding e) : IsLine (s ++ e) := by
  rcases he with rfl | rfl
  · exact ⟨s, rfl, hs⟩
  · refine ⟨s ++ ['\r'], by rw [List.append_assoc]; rfl, ?_⟩
    rw [List.mem_append, not_or]
    exact ⟨hs, by decide⟩

/-! ### Places -/

/-- Pieces are placed one after the other, and more pieces after the end of
these. -/
theorem place_append (start : Nat) (cs ds : List Text) :
    place start (cs ++ ds) = place start cs ++ place (start + byteLength cs.flatten) ds := by
  induction cs generalizing start with
  | nil => rfl
  | cons c cs ih =>
      rw [List.cons_append, place, place, ih, next_ofChunk, List.flatten_cons, byteLength_append,
        List.cons_append, Nat.add_assoc]

/-- The line `n` bytes further on. -/
def Line.shifted (n : Nat) (l : Line) : Line := { l with start := n + l.start }

/-- Chunks that start further on are the same lines, further on. -/
theorem place_add (n start : Nat) (cs : List Text) :
    place (n + start) cs = (place start cs).map (Line.shifted n) := by
  induction cs generalizing start with
  | nil => rfl
  | cons c cs ih =>
      rw [place, place, next_ofChunk, next_ofChunk, Nat.add_assoc, ih, List.map_cons]
      rfl

/-- The lines of consecutive chunks lie inside their text. -/
theorem start_of_mem_place {start : Nat} {cs : List Text} {l : Line} (h : l ∈ place start cs) :
    start ≤ l.start ∧ l.next ≤ start + byteLength cs.flatten := by
  induction cs generalizing start with
  | nil => cases h
  | cons c cs ih =>
      rw [List.flatten_cons, byteLength_append]
      rcases List.mem_cons.mp h with rfl | h
      · rw [start_ofChunk, next_ofChunk]
        omega
      · have hl := ih h
        rw [next_ofChunk] at hl
        omega

/-- A line in its place is one of the chunks. -/
theorem exists_of_mem_place {start : Nat} {cs : List Text} {l : Line} (h : l ∈ place start cs) :
    ∃ c ∈ cs, l = Line.ofChunk l.start c := by
  induction cs generalizing start with
  | nil => cases h
  | cons c cs ih =>
      rcases List.mem_cons.mp h with rfl | h
      · exact ⟨c, List.mem_cons_self, rfl⟩
      · obtain ⟨x, hx, hl⟩ := ih h
        exact ⟨x, List.mem_cons_of_mem _ hx, hl⟩

/-- Every chunk is on some line. -/
theorem exists_mem_place (start : Nat) {cs : List Text} {c : Text} (h : c ∈ cs) :
    ∃ l ∈ place start cs, l.content = contentOf c := by
  induction cs generalizing start with
  | nil => cases h
  | cons x cs ih =>
      rcases List.mem_cons.mp h with rfl | h
      · exact ⟨_, List.mem_cons_self, content_ofChunk start c⟩
      · obtain ⟨l, hl, hc⟩ := ih (Line.ofChunk start x).next h
        exact ⟨l, List.mem_cons_of_mem _ hl, hc⟩

/-- There is one line for each piece. -/
@[simp] theorem length_place (start : Nat) (cs : List Text) :
    (place start cs).length = cs.length := by
  induction cs generalizing start with
  | nil => rfl
  | cons c cs ih => rw [place, List.length_cons, ih, List.length_cons]

/-- A cut between two lines is a cut between two chunks. -/
theorem place_eq_append {start : Nat} {cs : List Text} {ls ms : List Line}
    (h : place start cs = ls ++ ms) :
    ∃ as bs, cs = as ++ bs ∧ ls = place start as ∧ ms = place (start + byteLength as.flatten) bs := by
  refine ⟨cs.take ls.length, cs.drop ls.length, (List.take_append_drop _ _).symm, ?_⟩
  have hlen := congrArg List.length h
  rw [length_place, List.length_append] at hlen
  rw [← List.take_append_drop ls.length cs, place_append] at h
  -- Both sides have as many lines in front of the cut.
  have hinj := List.append_inj h (by rw [length_place, List.length_take]; omega)
  exact ⟨hinj.1.symm, hinj.2.symm⟩

/-- The first line comes from the first piece. -/
theorem place_eq_cons {start : Nat} {cs : List Text} {l : Line} {ls : List Line}
    (h : place start cs = l :: ls) :
    ∃ c ds, cs = c :: ds ∧ l = Line.ofChunk start c ∧ ls = place (start + byteLength c) ds := by
  cases cs with
  | nil => cases h
  | cons c ds =>
      rw [place, List.cons.injEq, next_ofChunk] at h
      exact ⟨c, ds, rfl, h.1.symm, h.2.symm⟩

/-- Every character has at least one byte. -/
theorem byteLength_pos {t : Text} (h : t ≠ []) : 0 < byteLength t := by
  cases t with
  | nil => exact absurd rfl h
  | cons c t =>
      have hc := Char.utf8Size_pos c
      rw [byteLength_cons]
      omega

/-! ### Cuts -/

/-- Splitting goes on until it has passed the first part. -/
theorem splitAtByteAux_append (acc s t : Text) :
    splitAtByteAux acc (byteLength s) (s ++ t) = some (acc.reverse ++ s, t) := by
  induction s generalizing acc with
  | nil => simp [splitAtByteAux]
  | cons c s ih =>
      have hc := Char.utf8Size_pos c
      -- A cut counts down, so it needs a positive number to go on.
      obtain ⟨n, hn⟩ : ∃ n, byteLength (c :: s) = n + 1 :=
        ⟨byteLength (c :: s) - 1, by rw [byteLength_cons]; omega⟩
      have hle : c.utf8Size ≤ n + 1 := by rw [← hn, byteLength_cons]; omega
      have hrest : n + 1 - c.utf8Size = byteLength s := by rw [← hn, byteLength_cons]; omega
      rw [hn, List.cons_append, splitAtByteAux, if_pos hle, hrest, ih]
      simp

/-- A cut after a beginning of the text. -/
theorem splitAtByte?_append (s t : Text) : splitAtByte? (byteLength s) (s ++ t) = some (s, t) := by
  rw [splitAtByte?, splitAtByteAux_append]
  rfl

/-- The bytes between a beginning and an end of the text. -/
theorem slice?_append (s m t : Text) :
    slice? (s ++ m ++ t) (byteLength s) (byteLength s + byteLength m) = some m := by
  have hle : byteLength s ≤ byteLength s + byteLength m := Nat.le_add_right _ _
  have hsub : byteLength s + byteLength m - byteLength s = byteLength m := Nat.add_sub_cancel_left ..
  rw [slice?, List.append_assoc, splitAtByte?_append, hsub]
  have hguard : (guard (byteLength s ≤ byteLength s + byteLength m) : Option Unit) = some () :=
    if_pos hle
  rw [hguard]
  simp only [splitAtByte?_append, Option.bind_eq_bind, Option.bind_some]
  rfl

end ScriptGate.Text
