import ScriptGate.Proofs.Header.LineByLine

/-!
# `ScriptGate.Proofs.Header.Unchanged`: edits that change nothing

A rewriting that gives the script back has found everything as it wants
it: there is no line of a removed key, the first line of a replaced key
has the value already, with white space in front of it, and no added key
is missing. `rewrite_eq_self_iff_of_tidy` says so.

It takes edits that are `Tidy`. Others can bring what they take away. A
value with a line feed can end in the very line that a removed key had,
and a key that is removed and added again may stand where it stood.
-/

set_option autoImplicit false

namespace ScriptGate.Header

open Text (IsEnding contentOf endingOf isBlank)

/-! ### Lines -/

/-- A line keeps its text under a new value if it has this value, and
white space in front of it. -/
theorem withValue_line_eq_iff {c : Text} {d : DirectiveText} {v : Text}
    (hread : DirectiveText.read? (contentOf c) = some d) :
    (d.withValue v).write ++ endingOf c = c ↔ v = d.value ∧ d.separator ≠ [] := by
  obtain ⟨hwf, hwrite⟩ := DirectiveText.read?_eq_some_iff.mp hread
  have hline : c = d.write ++ endingOf c := by rw [hwrite, Text.contentOf_append_endingOf]
  have hcancel : (d.withValue v).write ++ endingOf c = c ↔ (d.withValue v).write = d.write := by
    conv => lhs; rhs; rw [hline]
    rw [List.append_cancel_right_eq]
  rw [hcancel]
  constructor
  · intro h
    by_cases hsep : d.separator = []
    · -- A key on its own gets a space.
      have hlength := congrArg List.length h
      simp [DirectiveText.write, DirectiveText.withValue, hsep, hwf.separated hsep] at hlength
    · rw [DirectiveText.write, DirectiveText.write, DirectiveText.withValue, if_neg hsep] at h
      exact ⟨List.append_cancel_left h, hsep⟩
  · rintro ⟨rfl, hsep⟩
    rw [DirectiveText.withValue_eq_self hsep]

/-- The key of a line is read wherever white space follows it. -/
theorem exists_read?_of_key {key : Text} (hkey : key ≠ []) (hblank : ∀ c ∈ key, isBlank c = false)
    {b : Char} (hb : isBlank b = true) (rest : Text) :
    ∃ d, DirectiveText.read? (DirectiveText.mark ++ (key ++ b :: rest)) = some d ∧ d.key = key := by
  have hvisible : ∀ c ∈ key, (!isBlank c) = true := by
    intro c hc
    rw [hblank c hc]
    rfl
  have htake : (key ++ b :: rest).takeWhile (fun c => !isBlank c) = key :=
    takeWhile_append hvisible fun c hc => by
      rw [← Option.some.inj hc, hb]
      rfl
  rw [DirectiveText.read?, Text.dropStart?_append]
  simp only [htake, if_neg hkey]
  exact ⟨_, rfl, rfl⟩

/-- A character that is no carriage return stays in the content of a line,
with all that is before it. -/
theorem exists_contentOf_append {b : Char} (hb : b ≠ '\r') (s t : Text) {ending : Text}
    (hending : IsEnding ending) : ∃ r, contentOf (s ++ b :: t ++ ending) = s ++ b :: r := by
  by_cases hlast : (s ++ b :: t).getLast? = some '\r'
  · rcases hending with rfl | rfl
    · -- The carriage return at the end is one of the characters that follow.
      rcases List.eq_nil_or_concat t with rfl | ⟨r, x, rfl⟩
      · rw [List.getLast?_concat, Option.some.injEq] at hlast
        exact absurd hlast hb
      · rw [List.concat_eq_append, ← List.cons_append, ← List.append_assoc, List.getLast?_concat,
          Option.some.injEq] at hlast
        refine ⟨r, ?_⟩
        rw [List.concat_eq_append, ← List.cons_append, ← List.append_assoc, hlast,
          List.append_assoc _ ['\r']]
        exact Text.contentOf_append_return _
    · exact ⟨t, Text.contentOf_append_return _⟩
  · exact ⟨t, (Text.contentOf_append hlast hending).1⟩

/-- An added line has the key that is added, whatever the value. -/
theorem keyOf?_addedLine {key : Text} (hkey : key ≠ []) (hblank : ∀ c ∈ key, isBlank c = false)
    (value : Text) {ending : Text} (hending : IsEnding ending) :
    keyOf? (addedLine ending (key, value)) = some key := by
  have hline : addedLine ending (key, value)
      = (DirectiveText.mark ++ key) ++ ' ' :: value ++ ending := by
    rw [addedLine, DirectiveText.write, List.append_assoc (DirectiveText.mark ++ key)]
    rfl
  obtain ⟨r, hr⟩ :=
    exists_contentOf_append (show ' ' ≠ '\r' by decide) (DirectiveText.mark ++ key) value hending
  obtain ⟨d, hread, hd⟩ := exists_read?_of_key hkey hblank (show isBlank ' ' = true by decide) r
  rw [keyOf?, hline, hr, List.append_assoc, hread, Option.map_some, hd]

/-! ### Values that are there -/

namespace Edits

variable (e : Edits)

/-- The first directive of each key has what is due to it after lines with
the keys `seen`. -/
def FindsValues (seen : List Text) (ds : List Directive) : Prop :=
  ∀ key change d, e.due seen key = some change →
    ds.find? (fun d => d.key == key) = some d → change = some d.value ∧ d.separator ≠ []

variable {e} {seen : List Text}

/-- The first directive is asked, and then the others. -/
theorem findsValues_cons {d : Directive} {ds : List Directive} :
    e.FindsValues seen (d :: ds) ↔
      (∀ change, e.due seen d.key = some change → change = some d.value ∧ d.separator ≠ []) ∧
        e.FindsValues (seen ++ [d.key]) ds := by
  constructor
  · intro h
    have hfirst : ∀ change, e.due seen d.key = some change →
        change = some d.value ∧ d.separator ≠ [] :=
      fun change hdue => h d.key change d hdue (List.find?_cons_of_pos (by simp))
    refine ⟨hfirst, fun key change x hdue hfind => ?_⟩
    -- Nothing more is due to the key of the first one.
    have hne : key ≠ d.key := by
      rintro rfl
      rcases hdue' : e.due seen d.key with _ | change'
      · rw [due_append_of_no_value (fun v hv => by rw [hdue'] at hv; cases hv), hdue'] at hdue
        cases hdue
      · obtain ⟨rfl, -⟩ := hfirst change' hdue'
        rw [due_append_of_value hdue'] at hdue
        cases hdue
    rw [due_append_of_ne hne] at hdue
    refine h key change x hdue ?_
    rw [List.find?_cons_of_neg (by rw [beq_iff_eq]; exact hne.symm)]
    exact hfind
  · rintro ⟨hfirst, hothers⟩ key change x hdue hfind
    by_cases hkey : key = d.key
    · subst hkey
      rw [List.find?_cons_of_pos (by simp), Option.some.injEq] at hfind
      rw [← hfind]
      exact hfirst change hdue
    · rw [List.find?_cons_of_neg (by rw [beq_iff_eq]; exact Ne.symm hkey)] at hfind
      refine hothers key change x ?_ hfind
      rw [due_append_of_ne hkey]
      exact hdue

/-- Edits leave no more lines than there are. -/
theorem length_linesAfter_le (seen : List Text) (cs : List Text) :
    (e.linesAfter seen cs).length ≤ cs.length := by
  induction cs generalizing seen with
  | nil => exact Nat.le_refl _
  | cons c cs ih =>
      cases hread : DirectiveText.read? (contentOf c) with
      | none =>
          rw [linesAfter_cons_of_not_read? hread]
          exact Nat.succ_le_succ (ih _)
      | some d =>
          rcases hdue : e.due seen d.key with _ | _ | v
          · rw [linesAfter_cons_of_kept hread hdue]
            exact Nat.succ_le_succ (ih _)
          · rw [linesAfter_cons_of_removed hread hdue]
            exact Nat.le_succ_of_le (ih _)
          · rw [linesAfter_cons_of_value hread hdue]
            exact Nat.succ_le_succ (ih _)

/-- Lines stay as they are if the values that are due to them are
there. -/
theorem linesAfter_eq_self_iff {cs : List Text} (start : Nat) :
    e.linesAfter seen cs = cs ↔ e.FindsValues seen (placed start cs) := by
  induction cs generalizing seen start with
  | nil => exact iff_of_true rfl fun _ _ _ _ h => by cases h
  | cons c cs ih =>
      cases hread : DirectiveText.read? (contentOf c) with
      | none =>
          rw [linesAfter_cons_of_not_read? hread, placed_cons_none hread, List.cons.injEq, eq_self,
            true_and]
          exact ih _
      | some d =>
          rw [placed_cons_some hread, findsValues_cons]
          rcases hdue : e.due seen d.key with _ | _ | v
          · rw [linesAfter_cons_of_kept hread hdue, List.cons.injEq, eq_self, true_and,
              and_iff_right fun _ h => by cases h]
            exact ih _
          · -- A line is gone, and no other one takes its place.
            rw [linesAfter_cons_of_removed hread hdue]
            refine iff_of_false (fun heq => ?_) fun h => ?_
            · have hle := length_linesAfter_le (e := e) (seen ++ [d.key]) cs
              rw [heq, List.length_cons] at hle
              omega
            · cases (h.1 none rfl).1
          · rw [linesAfter_cons_of_value hread hdue, List.cons.injEq, withValue_line_eq_iff hread,
              ih (start + Text.byteLength c)]
            refine and_congr_left fun _ => ?_
            constructor
            · rintro ⟨rfl, hsep⟩ change hchange
              exact ⟨(Option.some.inj hchange).symm, hsep⟩
            · intro h
              obtain ⟨hvalue, hsep⟩ := h (some v) rfl
              exact ⟨Option.some.inj hvalue, hsep⟩

end Edits

/-! ### Scripts -/

/-- Edits that bring nothing that they take away: their values have no
line feeds, and what they add has a key that they do not remove. -/
structure Edits.Tidy (e : Edits) : Prop where
  changes : ∀ key value, e.changes.get? key = some (some value) → '\n' ∉ value
  additions : ∀ key value, e.additions.get? key = some value → '\n' ∉ value
  keys : ∀ key value, e.additions.get? key = some value →
    key ≠ [] ∧ ∀ c ∈ key, isBlank c = false
  kept : ∀ key value, e.additions.get? key = some value → e.changes.get? key ≠ some none

/-- Tidy edits write no line feed. -/
theorem Edits.Tidy.fits {e : Edits} (h : e.Tidy) : e.Fits where
  changes key value hmem := h.changes key value ((e.changes.mem_entries_iff _ _).mp hmem)
  additions key value hmem := by
    have hget := (e.additions.mem_entries_iff _ _).mp hmem
    exact ⟨feed_not_mem_of_not_blank (h.keys key value hget).2, h.additions key value hget⟩

namespace Layout

variable (l : Layout) {e : Edits}

/-- The keys of the header are those of its directives. -/
theorem mem_keys_iff {key : Text} :
    key ∈ l.keys ↔ ∃ d, (directives l.text).find? (fun d => d.key == key) = some d := by
  have hkeys : l.keys = (directives l.text).map (·.key) := by
    rw [l.directives_text]
    exact (map_placed DirectiveText.key _ l.inner).symm
  rw [hkeys, List.mem_map, ← Option.isSome_iff_exists, List.find?_isSome]
  exact exists_congr fun d => by rw [beq_iff_eq]

/-- Nothing is added where every key is there. -/
theorem addedLines_eq_nil_iff (he : e.Tidy) :
    l.addedLines e = [] ↔ ∀ key value, e.additions.get? key = some value → key ∈ l.keys := by
  rw [addedLines, List.map_eq_nil_iff, missingAdditions, List.filter_eq_nil_iff]
  constructor
  · intro h key value hget
    have hpresent := h (key, value) ((e.additions.mem_entries_iff _ _).mpr hget)
    rw [Bool.not_eq_true', Bool.not_eq_false, List.contains_iff_mem] at hpresent
    exact List.mem_of_mem_filter hpresent
  · rintro h ⟨key, value⟩ hmem
    have hget := (e.additions.mem_entries_iff _ _).mp hmem
    rw [Bool.not_eq_true', Bool.not_eq_false, List.contains_iff_mem, List.mem_filter,
      not_contains_removedKeys, decide_eq_true_eq]
    exact ⟨h key value hget, he.kept key value hget⟩

/-- If the edited lines are the lines that there were, none of them was
added. -/
theorem addedLines_eq_nil (he : e.Tidy) (h : l.editedLines e = l.inner) :
    l.addedLines e = [] := by
  refine (l.addedLines_eq_nil_iff he).mpr fun key value hget => ?_
  by_contra hmissing
  -- The line would be one of the header, and so its key was there.
  obtain ⟨hkey, hblank⟩ := he.keys key value hget
  have hadded : addedLine (endingOf l.opening) (key, value) ∈ l.addedLines e := by
    refine List.mem_map_of_mem (List.mem_filter.mpr
      ⟨(e.additions.mem_entries_iff _ _).mpr hget, ?_⟩)
    rw [Bool.not_eq_true', ← Bool.not_eq_true, List.contains_iff_mem]
    exact fun hmem => hmissing (List.mem_of_mem_filter hmem)
  refine hmissing (List.mem_filterMap.mpr ⟨addedLine (endingOf l.opening) (key, value), ?_,
    keyOf?_addedLine hkey hblank value l.isLine_opening.ending.1⟩)
  rw [← h]
  exact List.mem_append_right _ hadded

/-- **Nothing to do.** Tidy edits give a script back if and only if its
directives have all values that are due to them, and no added key is
missing. -/
theorem rewrite_eq_self_iff_of_tidy (he : e.Tidy) :
    rewrite l.text e = l.text ↔
      e.FindsValues [] (directives l.text) ∧
        ∀ key value, e.additions.get? key = some value →
          ∃ d, (directives l.text).find? (fun d => d.key == key) = some d := by
  have hdirectives : directives l.text = placed (Text.byteLength l.top) l.inner :=
    l.directives_text
  simp only [← l.mem_keys_iff]
  rw [l.rewrite_eq_self_iff fun c hc => (l.inner_editedLines_of_fits he.fits c hc).1,
    ← l.addedLines_eq_nil_iff he, hdirectives, ← Edits.linesAfter_eq_self_iff,
    ← e.editLines_entries]
  constructor
  · intro h
    have hnil := l.addedLines_eq_nil he h
    rw [editedLines, hnil, List.append_nil] at h
    exact ⟨h, hnil⟩
  · rintro ⟨h, hnil⟩
    rw [editedLines, hnil, List.append_nil, h]

end Layout

end ScriptGate.Header
