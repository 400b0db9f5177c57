import ScriptGate.Proofs.Text.Chunks

/-!
# `ScriptGate.Proofs.Text.LineEndings`: line feeds and carriage returns

`crlf` puts a carriage return in front of every line feed. A text is cut
into chunks in the same places as before (`chunks_crlf`). If it has no
other carriage returns, the terminator of each chunk takes the new one and
its content stays (`cut_crlf`).
-/

set_option autoImplicit false

namespace ScriptGate.Text

/-- `t` with a carriage return in front of every line feed. -/
def crlf (t : Text) : Text := t.flatMap fun c => if c = '\n' then ['\r', '\n'] else [c]

/-- A text of one line, without any part of a terminator. -/
def OneLine (t : Text) : Prop := '\r' ∉ t ∧ '\n' ∉ t

instance (t : Text) : Decidable (OneLine t) := inferInstanceAs (Decidable (_ ∧ _))

/-- There is no terminator in the empty text. -/
@[simp] theorem crlf_nil : crlf [] = [] := rfl

/-- Terminators change one by one, so two texts may be changed apart. -/
@[simp] theorem crlf_append (s t : Text) : crlf (s ++ t) = crlf s ++ crlf t := by
  rw [crlf, List.flatMap_append, crlf, crlf]

/-- Characters that end no line stay. -/
theorem crlf_cons_of_ne {a : Char} (h : a ≠ '\n') (t : Text) : crlf (a :: t) = a :: crlf t := by
  rw [crlf, List.flatMap_cons, if_neg h]
  rfl

/-- A line feed gets a carriage return before it. -/
theorem crlf_cons_feed (t : Text) : crlf ('\n' :: t) = '\r' :: '\n' :: crlf t := rfl

/-- Pieces of a text may be changed one by one. -/
theorem crlf_flatten (cs : List Text) : crlf cs.flatten = (cs.map crlf).flatten := by
  induction cs with
  | nil => rfl
  | cons c cs ih => rw [List.flatten_cons, crlf_append, ih, List.map_cons, List.flatten_cons]

/-- Texts without line feeds stay. -/
theorem crlf_of_not_mem {t : Text} (h : '\n' ∉ t) : crlf t = t := by
  induction t with
  | nil => rfl
  | cons a t ih =>
      rw [List.mem_cons, not_or] at h
      rw [crlf_cons_of_ne (Ne.symm h.1), ih h.2]

/-- No line feed comes or goes. -/
theorem feed_mem_crlf_iff (t : Text) : '\n' ∈ crlf t ↔ '\n' ∈ t := by
  induction t with
  | nil => exact Iff.rfl
  | cons a t ih =>
      by_cases ha : a = '\n'
      · subst ha
        simp [crlf_cons_feed]
      · rw [crlf_cons_of_ne ha, List.mem_cons, List.mem_cons, ih]

/-- So only a text without line feeds becomes one. -/
theorem crlf_eq_iff {s t : Text} (ht : '\n' ∉ t) : crlf s = t ↔ s = t := by
  constructor
  · rintro rfl
    exact (crlf_of_not_mem fun hs => ht ((feed_mem_crlf_iff s).mpr hs)).symm
  · rintro rfl
    exact crlf_of_not_mem ht

/-! ### Chunks -/

/-- A line stays one line. -/
theorem IsLine.crlf {c : Text} (h : IsLine c) : IsLine (crlf c) := by
  obtain ⟨s, rfl, hs⟩ := h
  refine ⟨s ++ ['\r'], ?_, ?_⟩
  · rw [crlf_append, crlf_of_not_mem hs, List.append_assoc]
    rfl
  · rw [List.mem_append, not_or]
    exact ⟨hs, by decide⟩

/-- A text is cut in the same places. -/
theorem chunks_crlf (t : Text) : chunks (crlf t) = (chunks t).map crlf := by
  induction t with
  | nil => rfl
  | cons a t ih =>
      by_cases ha : a = '\n'
      · subst ha
        have hline : IsLine ['\r', '\n'] := ⟨['\r'], rfl, by decide⟩
        rw [crlf_cons_feed, chunks_cons '\n', if_pos rfl, List.map_cons, ← ih]
        exact chunks_append_of_isLine hline (crlf t)
      · rw [crlf_cons_of_ne ha, chunks_cons, if_neg ha, chunks_cons, if_neg ha, ih]
        -- The character joins the first chunk on both sides.
        cases chunks t with
        | nil => rw [List.map_nil, List.map_singleton, crlf_cons_of_ne ha, crlf_nil]
        | cons c cs => rw [List.map_cons, List.map_cons, crlf_cons_of_ne ha]

/-- A terminator takes the carriage return. -/
theorem cut_crlf {c : Text} (h : '\r' ∉ c) :
    contentOf (crlf c) = crlf (contentOf c) ∧ endingOf (crlf c) = crlf (endingOf c) := by
  rcases List.eq_nil_or_concat c with rfl | ⟨s, a, rfl⟩
  · exact ⟨rfl, rfl⟩
  rw [List.concat_eq_append] at h ⊢
  rw [List.mem_append, List.mem_singleton, not_or] at h
  by_cases ha : a = '\n'
  · subst ha
    have hlast : s.getLast? ≠ some '\r' := fun hlast => h.1 (List.mem_of_getLast? hlast)
    obtain ⟨hcontent, hending⟩ := contentOf_append hlast (Or.inl rfl)
    rw [crlf_append, show crlf ['\n'] = ['\r', '\n'] from rfl, contentOf_append_return,
      endingOf_append_return, hcontent, hending]
    exact ⟨rfl, rfl⟩
  · have hcut : ∀ r : Text, contentOf (r ++ [a]) = r ++ [a] ∧ endingOf (r ++ [a]) = [] := by
      intro r
      rw [contentOf, endingOf, List.reverse_append, List.reverse_singleton, List.singleton_append,
        cutEnding_cons_of_other ha (Ne.symm h.2), List.reverse_cons, List.reverse_reverse]
      exact ⟨rfl, rfl⟩
    have hsingle : crlf [a] = [a] := by rw [crlf_cons_of_ne ha, crlf_nil]
    rw [crlf_append, hsingle, (hcut _).1, (hcut _).2, (hcut _).1, (hcut _).2, crlf_append, hsingle]
    exact ⟨rfl, rfl⟩

/-- A line says the same. -/
theorem IsLine.contentOf_crlf {c : Text} (hline : IsLine c) (h : '\r' ∉ c) :
    contentOf (Text.crlf c) = contentOf c := by
  rw [(cut_crlf h).1, crlf_of_not_mem hline.ending.2]

/-- A chunk says a text of one line if and only if it did so before. -/
theorem contentOf_crlf_eq_iff {c t : Text} (h : '\r' ∉ c) (ht : '\n' ∉ t) :
    contentOf (crlf c) = t ↔ contentOf c = t := by
  rw [(cut_crlf h).1, crlf_eq_iff ht]

end ScriptGate.Text
