import ScriptGate.Proofs.Header.Declared
import ScriptGate.Proofs.Header.LineByLine

/-!
# `ScriptGate.Proofs.Header.Repeated`: rewriting twice with the same edits

The second rewriting sees the lines that the first one wrote, and it does
not always leave them alone. There are three reasons:

* Where a value is replaced by the empty text, the carriage return that
  separates it from its key may be left in front of a line feed. It joins
  the terminator, and the second rewriting finds a key without a
  separator (`LosesSeparator`).
* A key may be both replaced and added, with two values. Where it is
  missing, the first rewriting adds it and the second one replaces its
  value.
* A key may be both removed and added. Each rewriting takes its line away
  and adds it again at the end, behind the lines that were added after it.

`Edits.SettlesAtOnce` says that none of this happens, and
`rewriting_settles` that the second rewriting changes nothing exactly
then, and that the third one never changes anything.

The second rewriting is followed line by line: `linesAfter_again_iff` is
about the lines that the first one left, and `linesAfter_addedLines`
about those that it added.
-/

set_option autoImplicit false

namespace ScriptGate.Header

open Text (IsEnding IsLine Line byteLength contentOf endingOf isBlank)

/-! ### Lines that were left -/

/-- A directive whose separator becomes a part of the terminator when
nothing stands between them. -/
def LosesSeparator (d : DirectiveText) (ending : Text) : Prop :=
  d.separator = ['\r'] ∧ ending = ['\n']

/-- A line without a value has lost what it could. -/
theorem not_losesSeparator {c : Text} {d : DirectiveText}
    (hread : DirectiveText.read? (contentOf c) = some d) (hvalue : d.value = []) :
    ¬ LosesSeparator d (endingOf c) := by
  rintro ⟨hsep, hending⟩
  have hc := line_eq hread
  rw [hsep, hvalue, hending, List.nil_append, List.append_assoc, List.singleton_append] at hc
  rw [hc, Text.endingOf_append_return] at hending
  cases hending

/-- A line with a new value, read again and given the value once more. It
stays the same unless it has lost its separator. -/
theorem withValue_again {c : Text} {d : DirectiveText} {v : Text} (hline : IsLine c)
    (hread : DirectiveText.read? (contentOf c) = some d) (hv : Representable v) :
    ∃ d', DirectiveText.read? (contentOf ((d.withValue v).write ++ endingOf c)) = some d' ∧
      d'.key = d.key ∧
      ((d'.withValue v).write ++ endingOf ((d.withValue v).write ++ endingOf c)
          = (d.withValue v).write ++ endingOf c ↔
        ¬ (v = [] ∧ LosesSeparator d (endingOf c))) := by
  have hwf := (DirectiveText.wellFormed_of_read? hread).withValue hv.writable
  rcases read?_line hwf hv.stop hline.ending.1 with
    ⟨hread', hending⟩ | ⟨s, hs, hnil, he, hread', hwrite⟩
  · refine ⟨d.withValue v, hread', rfl, ?_⟩
    have hsame : (d.withValue v).withValue v = d.withValue v :=
      DirectiveText.withValue_eq_self (d.separator_withValue_ne v)
    rw [hsame, hending]
    refine iff_of_true rfl ?_
    rintro ⟨rfl, hsep, he⟩
    refine not_losesSeparator hread' rfl ⟨?_, hending.trans he⟩
    show (if d.separator = [] then [' '] else d.separator) = ['\r']
    rw [if_neg (by rw [hsep]; exact List.cons_ne_nil _ _), hsep]
  · -- The carriage return has become a part of the terminator.
    obtain rfl : v = [] := hnil
    refine ⟨⟨d.key, s, []⟩, hread', rfl, ?_⟩
    have hsep : d.separator = s ++ ['\r'] := by
      have hif : (if d.separator = [] then [' '] else d.separator) = s ++ ['\r'] := hs
      split at hif
      · have hlast := congrArg List.getLast? hif
        rw [List.getLast?_concat] at hlast
        cases hlast
      · exact hif
    rw [hwrite, Text.endingOf_append_return, List.append_cancel_right_eq, LosesSeparator, hsep, he]
    by_cases hempty : s = []
    · -- A key on its own gets a space.
      subst hempty
      refine iff_of_false (fun heq => ?_) (fun hnot => hnot ⟨rfl, rfl, rfl⟩)
      have hlen := congrArg List.length heq
      simp [DirectiveText.write, DirectiveText.withValue] at hlen
    · refine iff_of_true ?_ (fun hloses => hempty (List.append_left_eq_self.mp hloses.2.1))
      have hself := DirectiveText.withValue_eq_self (d := ⟨d.key, s, []⟩) hempty
      exact congrArg DirectiveText.write hself

section Left

variable {e : Edits} {cs : List Text}

/-- The lines that are left have the keys that are not removed. -/
theorem keys_linesAfter (he : e.Representable) (hline : ∀ c ∈ cs, IsLine c) (seen : List Text) :
    (e.linesAfter seen cs).filterMap keyOf?
      = (cs.filterMap keyOf?).filter fun key => e.changes.get? key ≠ some none := by
  induction cs generalizing seen with
  | nil => rfl
  | cons c cs ih =>
      have hcs : ∀ x ∈ cs, IsLine x := fun x hx => hline x (List.mem_cons_of_mem _ hx)
      cases hread : DirectiveText.read? (contentOf c) with
      | none =>
          have hkey := keyOf?_of_not_read? hread
          rw [Edits.linesAfter_cons_of_not_read? hread, List.filterMap_cons_none hkey,
            List.filterMap_cons_none hkey, ih hcs]
      | some d =>
          have hkey := keyOf?_of_read? hread
          rw [List.filterMap_cons_some hkey]
          rcases hdue : e.due seen d.key with _ | _ | v
          · have hkept : e.changes.get? d.key ≠ some none :=
              fun h => by rw [Edits.due_eq_removed_iff.mpr h] at hdue; cases hdue
            rw [Edits.linesAfter_cons_of_kept hread hdue, List.filterMap_cons_some hkey, ih hcs,
              List.filter_cons_of_pos (by simpa using hkept)]
          · have hremoved := Edits.due_eq_removed_iff.mp hdue
            rw [Edits.linesAfter_cons_of_removed hread hdue, ih hcs,
              List.filter_cons_of_neg (by simp [hremoved])]
          · obtain ⟨hget, -⟩ := Edits.due_eq_value_iff.mp hdue
            have hv := he.changes d.key v ((e.changes.mem_entries_iff _ _).mpr hget)
            -- The line is read back with its key.
            obtain ⟨d', hread', hkey', -⟩ := withValue_again (hline c List.mem_cons_self) hread hv
            rw [Edits.linesAfter_cons_of_value hread hdue,
              List.filterMap_cons_some ((keyOf?_of_read? hread').trans (congrArg some hkey')),
              ih hcs, List.filter_cons_of_pos (by simp [hget])]

/-- No line that is left is removed by the second rewriting. -/
theorem length_linesAfter_again (he : e.Representable) (hline : ∀ c ∈ cs, IsLine c)
    (seen seen' : List Text) :
    (e.linesAfter seen' (e.linesAfter seen cs)).length = (e.linesAfter seen cs).length := by
  -- The first rewriting has left no line of a key that is removed.
  have hkeys : ∀ key ∈ (e.linesAfter seen cs).filterMap keyOf?,
      e.changes.get? key ≠ some none := by
    intro key hkey
    rw [keys_linesAfter he hline, List.mem_filter, decide_eq_true_eq] at hkey
    exact hkey.2
  generalize e.linesAfter seen cs = xs at hkeys
  induction xs generalizing seen' with
  | nil => rfl
  | cons x xs ih =>
      have hrest : ∀ seen', (e.linesAfter seen' xs).length = xs.length :=
        fun seen' => ih seen' fun key hkey =>
          hkeys key (((List.sublist_cons_self x xs).filterMap keyOf?).subset hkey)
      cases hread : DirectiveText.read? (contentOf x) with
      | none => rw [Edits.linesAfter_cons_of_not_read? hread, List.length_cons, hrest,
          List.length_cons]
      | some d =>
          rcases hdue : e.due seen' d.key with _ | _ | v
          · rw [Edits.linesAfter_cons_of_kept hread hdue, List.length_cons, hrest,
              List.length_cons]
          · refine absurd (Edits.due_eq_removed_iff.mp hdue) (hkeys d.key ?_)
            rw [List.filterMap_cons_some (keyOf?_of_read? hread)]
            exact List.mem_cons_self
          · rw [Edits.linesAfter_cons_of_value hread hdue, List.length_cons, hrest,
              List.length_cons]

/-- No directive that is due the empty text loses its separator. -/
def Edits.KeepsSeparators (e : Edits) (seen : List Text) (ds : List Directive) : Prop :=
  ∀ key d, e.due seen key = some (some []) → ds.find? (fun d => d.key == key) = some d →
    ¬ LosesSeparator d.toDirectiveText d.line.ending

/-- The first directive is asked, and then the others. -/
theorem Edits.keepsSeparators_cons {seen : List Text} {d : Directive} {ds : List Directive} :
    e.KeepsSeparators seen (d :: ds) ↔
      (e.due seen d.key = some (some []) → ¬ LosesSeparator d.toDirectiveText d.line.ending) ∧
        e.KeepsSeparators (seen ++ [d.key]) ds := by
  constructor
  · intro h
    refine ⟨fun hdue => h d.key d hdue (List.find?_cons_of_pos (by simp)),
      fun key x hdue hfind => ?_⟩
    -- Nothing more is due to the key of the first one.
    have hne : key ≠ d.key := by
      rintro rfl
      exact (Edits.due_eq_value_iff.mp hdue).2 (List.mem_append_right _ (List.mem_singleton_self _))
    rw [Edits.due_append_of_ne hne] at hdue
    refine h key x hdue ?_
    rw [List.find?_cons_of_neg (by rw [beq_iff_eq]; exact hne.symm)]
    exact hfind
  · rintro ⟨hthis, hothers⟩ key x hdue hfind
    by_cases hkey : key = d.key
    · subst hkey
      rw [List.find?_cons_of_pos (by simp), Option.some.injEq] at hfind
      rw [← hfind]
      exact hthis hdue
    · rw [List.find?_cons_of_neg (by rw [beq_iff_eq]; exact Ne.symm hkey)] at hfind
      refine hothers key x ?_ hfind
      rw [Edits.due_append_of_ne hkey]
      exact hdue

/-- The lines that are left stay as they are if the first lines of
replaced keys keep their separators. -/
theorem linesAfter_again_iff (he : e.Representable) (hline : ∀ c ∈ cs, IsLine c)
    {seen seen' : List Text}
    (hseen : ∀ key, e.changes.get? key ≠ some none → (key ∈ seen' ↔ key ∈ seen)) (start : Nat) :
    e.linesAfter seen' (e.linesAfter seen cs) = e.linesAfter seen cs ↔
      e.KeepsSeparators seen (placed start cs) := by
  induction cs generalizing seen seen' start with
  | nil => exact iff_of_true rfl fun _ _ _ h => by cases h
  | cons c cs ih =>
      have hcs : ∀ x ∈ cs, IsLine x := fun x hx => hline x (List.mem_cons_of_mem _ hx)
      have hdue' : ∀ key, e.due seen' key = e.due seen key :=
        fun key => Edits.due_congr (hseen key)
      cases hread : DirectiveText.read? (contentOf c) with
      | none =>
          rw [Edits.linesAfter_cons_of_not_read? hread, Edits.linesAfter_cons_of_not_read? hread,
            List.cons.injEq, eq_self, true_and, placed_cons_none hread]
          exact ih hcs hseen _
      | some d =>
          -- The lines that follow, after a line of this key.
          have hseen₁ : ∀ key, e.changes.get? key ≠ some none →
              (key ∈ seen' ++ [d.key] ↔ key ∈ seen ++ [d.key]) := by
            intro key hkept
            rw [List.mem_append, List.mem_append, hseen key hkept]
          rw [placed_cons_some hread, Edits.keepsSeparators_cons]
          rcases hdue : e.due seen d.key with _ | _ | v
          · -- The line is kept both times.
            rw [Edits.linesAfter_cons_of_kept hread hdue,
              Edits.linesAfter_cons_of_kept hread ((hdue' _).trans hdue), List.cons.injEq, eq_self,
              true_and, and_iff_right fun h => by cases h]
            exact ih hcs hseen₁ _
          · -- The line is not there the second time.
            have hremoved := Edits.due_eq_removed_iff.mp hdue
            have hseen₂ : ∀ key, e.changes.get? key ≠ some none →
                (key ∈ seen' ↔ key ∈ seen ++ [d.key]) := by
              intro key hkept
              rw [hseen key hkept, List.mem_append, List.mem_singleton, or_iff_left]
              rintro rfl
              exact hkept hremoved
            rw [Edits.linesAfter_cons_of_removed hread hdue, and_iff_right fun h => by cases h]
            exact ih hcs hseen₂ _
          · -- The line gets its value twice.
            obtain ⟨hget, -⟩ := Edits.due_eq_value_iff.mp hdue
            have hv := he.changes d.key v ((e.changes.mem_entries_iff _ _).mpr hget)
            obtain ⟨d', hread', hkey', hagain⟩ :=
              withValue_again (hline c List.mem_cons_self) hread hv
            have hdue'' : e.due seen' d'.key = some (some v) := by rw [hkey', hdue', hdue]
            rw [Edits.linesAfter_cons_of_value hread hdue,
              Edits.linesAfter_cons_of_value hread' hdue'', hkey', List.cons.injEq, hagain, not_and,
              Option.some.injEq, Option.some.injEq]
            exact and_congr_right fun _ => ih hcs hseen₁ _

end Left

/-! ### Lines that were added -/

/-- What can be added: a key and a value that a line gives back. -/
def Addable (a : Text × Text) : Prop :=
  Representable a.2 ∧ a.1 ≠ [] ∧ ∀ c ∈ a.1, isBlank c = false

/-- Representable edits add only lines that are directives. -/
theorem Edits.Representable.addable {e : Edits} (he : e.Representable) {pairs : List (Text × Text)}
    {a : Text × Text} (ha : a ∈ e.missing pairs) : Addable a :=
  have hentry := List.mem_of_mem_filter ha
  ⟨he.additions a.1 a.2 hentry, he.keys a.1 a.2 hentry⟩

/-- An added line has a space for its separator. -/
theorem read?_addedLine {a : Text × Text} (ha : Addable a) {ending : Text}
    (hending : IsEnding ending) :
    DirectiveText.read? (contentOf (addedLine ending a)) = some ⟨a.1, [' '], a.2⟩ ∧
      endingOf (addedLine ending a) = ending := by
  obtain ⟨hv, hkey, hblank⟩ := ha
  rcases read?_line (wellFormed_added hkey hblank hv.writable) hv.stop hending with
    hread | ⟨s, hs, -⟩
  · exact hread
  · have hlast := congrArg List.getLast? hs
    rw [List.getLast?_concat] at hlast
    cases hlast

/-- What an addition becomes where it is rewritten: it stays, it is gone,
or it has the value of a replacement. -/
def Edits.again? (e : Edits) (a : Text × Text) : Option (Text × Text) :=
  match e.changes.get? a.1 with
  | none => some a
  | some none => none
  | some (some value) => some (a.1, value)

section Again

variable {e : Edits} {a b : Text × Text}

/-- An added line does not survive a second pass if its key is removed. -/
theorem Edits.again?_eq_none_iff : e.again? a = none ↔ e.changes.get? a.1 = some none := by
  rw [Edits.again?]
  rcases e.changes.get? a.1 with _ | _ | v
  · simp
  · simp
  · simp

/-- It has its key still, and a value that a line gives back. -/
theorem Edits.Representable.again? (he : e.Representable) (ha : Addable a)
    (hb : e.again? a = some b) : b.1 = a.1 ∧ Addable b := by
  rw [Edits.again?] at hb
  rcases hget : e.changes.get? a.1 with _ | _ | v
  · simp only [hget, Option.some.injEq] at hb
    subst hb
    exact ⟨rfl, ha⟩
  · simp only [hget, reduceCtorEq] at hb
  · simp only [hget, Option.some.injEq] at hb
    subst hb
    exact ⟨rfl, he.changes a.1 v ((e.changes.mem_entries_iff _ _).mpr hget), ha.2⟩

end Again

section Added

variable {e : Edits} {ending : Text} {as : List (Text × Text)}

/-- Added lines declare what is added. -/
theorem filterMap_pair?_addedLines (has : ∀ a ∈ as, Addable a) (hending : IsEnding ending) :
    (as.map (addedLine ending)).filterMap pair? = as := by
  rw [List.filterMap_map]
  refine (List.filterMap_congr fun a ha => ?_).trans List.filterMap_some
  exact pair?_of_read? (read?_addedLine (has a ha) hending).1

/-- So they are the same lines if they are the same additions. -/
theorem addedLines_inj {bs : List (Text × Text)} (has : ∀ a ∈ as, Addable a)
    (hbs : ∀ b ∈ bs, Addable b) (hending : IsEnding ending) :
    as.map (addedLine ending) = bs.map (addedLine ending) ↔ as = bs := by
  refine ⟨fun h => ?_, fun h => by rw [h]⟩
  rw [← filterMap_pair?_addedLines has hending, ← filterMap_pair?_addedLines hbs hending, h]

/-- What the second rewriting makes of added lines, where no line in front
of them has one of their keys. -/
theorem linesAfter_addedLines (has : ∀ a ∈ as, Addable a) (hending : IsEnding ending)
    (hkeys : (as.map Prod.fst).Nodup) {seen : List Text} (hseen : ∀ a ∈ as, a.1 ∉ seen) :
    e.linesAfter seen (as.map (addedLine ending)) = (as.filterMap e.again?).map (addedLine ending) := by
  induction as generalizing seen with
  | nil => rfl
  | cons a as ih =>
      rw [List.map_cons, List.nodup_cons] at hkeys
      obtain ⟨hread, hend⟩ := read?_addedLine (has a List.mem_cons_self) hending
      -- No line before this one has its key, so the change of the key falls to it.
      have hdue : e.due seen a.1 = e.changes.get? a.1 :=
        Edits.due_of_not_mem (hseen a List.mem_cons_self)
      have hseen' : ∀ b ∈ as, b.1 ∉ seen ++ [a.1] := by
        intro b hb hmem
        rcases List.mem_append.mp hmem with hmem | hmem
        · exact hseen b (List.mem_cons_of_mem _ hb) hmem
        · rw [← List.mem_singleton.mp hmem] at hkeys
          exact hkeys.1 (List.mem_map_of_mem hb)
      have hrest := ih (fun b hb => has b (List.mem_cons_of_mem _ hb)) hkeys.2 hseen'
      rw [List.map_cons]
      rcases hget : e.changes.get? a.1 with _ | _ | v
      · rw [Edits.linesAfter_cons_of_kept hread (hdue.trans hget), hrest,
          List.filterMap_cons_some (b := a) (by simp only [Edits.again?, hget]), List.map_cons]
      · rw [Edits.linesAfter_cons_of_removed hread (hdue.trans hget), hrest,
          List.filterMap_cons_none (Edits.again?_eq_none_iff.mpr hget)]
      · rw [Edits.linesAfter_cons_of_value hread (hdue.trans hget), hrest, hend,
          List.filterMap_cons_some (b := (a.1, v)) (by simp only [Edits.again?, hget]),
          List.map_cons]
        rfl

/-- What is left of them can be added, and is not removed. -/
theorem of_mem_filterMap_again? (he : e.Representable) (has : ∀ a ∈ as, Addable a)
    {b : Text × Text} (hb : b ∈ as.filterMap e.again?) :
    Addable b ∧ e.changes.get? b.1 ≠ some none := by
  obtain ⟨a, ha, hab⟩ := List.mem_filterMap.mp hb
  obtain ⟨hkey, hb⟩ := he.again? (has a ha) hab
  refine ⟨hb, fun hremoved => ?_⟩
  rw [hkey, ← Edits.again?_eq_none_iff, hab] at hremoved
  cases hremoved

/-- Additions become what they were, when those that are removed are added
again at the end. -/
theorem again?_append_removed_iff (he : e.Representable) (has : ∀ a ∈ as, Addable a) :
    as.filterMap e.again? ++ as.filter (fun a => e.changes.get? a.1 = some none) = as ↔
      (∀ a ∈ as, ∀ v, e.changes.get? a.1 = some (some v) → v = a.2) ∧
        as.Pairwise fun a b => e.changes.get? a.1 = some none → e.changes.get? b.1 = some none := by
  induction as with
  | nil => simp
  | cons a as ih =>
      have hrest : ∀ b ∈ as, Addable b := fun b hb => has b (List.mem_cons_of_mem _ hb)
      rw [List.forall_mem_cons, List.pairwise_cons]
      rcases hget : e.changes.get? a.1 with _ | _ | v
      · rw [List.filterMap_cons_some (b := a) (by simp only [Edits.again?, hget]),
          List.filter_cons_of_neg (by simp [hget]), List.cons_append, List.cons.injEq, ih hrest]
        simp
      · rw [List.filterMap_cons_none (Edits.again?_eq_none_iff.mpr hget),
          List.filter_cons_of_pos (by simp [hget])]
        -- The line goes to the end, so there must be no line that stays.
        constructor
        · intro h
          have hall : ∀ b ∈ as, e.changes.get? b.1 = some none := by
            intro b hb
            rw [← Edits.again?_eq_none_iff]
            refine List.filterMap_eq_nil_iff.mp ?_ b hb
            cases hfirst : as.filterMap e.again? with
            | nil => rfl
            | cons x xs =>
                have hx := (of_mem_filterMap_again? he hrest (hfirst ▸ List.mem_cons_self)).2
                rw [hfirst, List.cons_append, List.cons.injEq] at h
                rw [h.1] at hx
                exact absurd hget hx
          refine ⟨⟨fun v hv => (by cases hv), fun b hb v hv => ?_⟩, fun b hb _ => hall b hb,
            List.pairwise_of_forall_mem_list fun _ _ b hb _ => hall b hb⟩
          rw [hall b hb] at hv
          cases hv
        · rintro ⟨-, hall, -⟩
          have hnone : as.filterMap e.again? = [] :=
            List.filterMap_eq_nil_iff.mpr fun b hb => Edits.again?_eq_none_iff.mpr (hall b hb rfl)
          have hself : as.filter (fun a => e.changes.get? a.1 = some none) = as :=
            List.filter_eq_self.mpr fun b hb => decide_eq_true (hall b hb rfl)
          rw [hnone, hself, List.nil_append]
      · rw [List.filterMap_cons_some (b := (a.1, v)) (by simp only [Edits.again?, hget]),
          List.filter_cons_of_neg (by simp [hget]), List.cons_append, List.cons.injEq, ih hrest]
        have hval : (a.1, v) = a ↔ ∀ w, some (some v) = some (some w) → w = a.2 := by
          rw [Prod.ext_iff]
          simp
        rw [hval]
        simp [and_assoc]

end Added

/-! ### Whole scripts -/

/-- When the second rewriting of a script with the same edits changes
nothing. -/
structure Edits.SettlesAtOnce (e : Edits) (source : Text) : Prop where
  /-- No value is replaced by the empty text where the separator would be
  lost. -/
  separators : ∀ key d, e.changes.get? key = some (some []) →
    (directives source).find? (fun d => d.key == key) = some d →
    ¬ LosesSeparator d.toDirectiveText d.line.ending
  /-- What is added has the value that it is replaced by. -/
  values : ∀ a ∈ e.missing (declared source), ∀ v, e.changes.get? a.1 = some (some v) → v = a.2
  /-- Behind a line that is removed and added again, no line is added that
  stays. -/
  order : (e.missing (declared source)).Pairwise fun a b =>
    e.changes.get? a.1 = some none → e.changes.get? b.1 = some none

/-- A key that is added has a value after the edits. -/
theorem Edits.valuesAfter_ne_nil (e : Edits) {key value : Text}
    (h : e.additions.get? key = some value) (vs : List Text) : e.valuesAfter key vs ≠ [] := by
  simp only [Edits.valuesAfter, h]
  rcases e.changes.get? key with _ | _ | v
  · cases vs with
    | nil => simp
    | cons w ws => simp
  · simp
  · cases vs with
    | nil => simp
    | cons w ws => simp

namespace Layout

variable (l : Layout) {e : Edits}

/-- After a rewriting, only the keys that are removed are missing. -/
theorem missing_edited (he : e.Representable) :
    e.missing (l.edited e he).pairs
      = (e.missing l.pairs).filter fun a => e.changes.get? a.1 = some none := by
  rw [Edits.missing, Edits.missing, List.filter_filter]
  refine List.filter_congr fun a ha => ?_
  have hget := (e.additions.mem_entries_iff a.1 a.2).mp ha
  rw [Bool.eq_iff_iff, Bool.and_eq_true, decide_eq_true_eq, Edits.not_contains_kept,
    Edits.not_contains_kept, l.valuesOf_edited he]
  have hne := e.valuesAfter_ne_nil hget (valuesOf a.1 l.pairs)
  by_cases hremoved : e.changes.get? a.1 = some none
  · simp [hremoved]
  · simp [hremoved, hne]

/-- What the lines of a rewritten script become. -/
theorem editedLines_edited (he : e.Representable) :
    (l.edited e he).editedLines e
      = e.linesAfter [] (e.linesAfter [] l.inner) ++
          ((e.missing l.pairs).filterMap e.again? ++
            (e.missing l.pairs).filter fun a => e.changes.get? a.1 = some none).map
              (addedLine (endingOf l.opening)) := by
  have hkeys : ((e.missing l.pairs).map Prod.fst).Nodup :=
    e.additions.keys_nodup.sublist (List.filter_sublist.map _)
  -- What is missing is not among the keys of the lines that are left.
  have hseen : ∀ a ∈ e.missing l.pairs, a.1 ∉ [] ++ (e.linesAfter [] l.inner).filterMap keyOf? := by
    intro a ha
    have hmissing := e.not_contains_kept.mp (List.mem_filter.mp ha).2
    rw [← mem_map_fst_iff, ← l.keys_eq] at hmissing
    rw [List.nil_append, keys_linesAfter he fun c hc => l.isLine_inner hc, List.mem_filter,
      decide_eq_true_eq]
    exact hmissing
  rw [editedLines, addedLines_eq_map, l.missing_edited he, e.editLines_entries, List.map_append,
    ← List.append_assoc,
    ← linesAfter_addedLines (fun a ha => he.addable ha) l.isLine_opening.ending.1 hkeys hseen,
    ← Edits.linesAfter_append, ← e.editLines_entries l.inner, ← l.addedLines_eq_map]
  rfl

/-- The second rewriting. -/
theorem rewrite_edited_eq_iff (he : e.Representable) :
    rewrite (l.edited e he).text e = (l.edited e he).text ↔ e.SettlesAtOnce l.text := by
  have hinner : (l.edited e he).inner
      = e.linesAfter [] l.inner ++ (e.missing l.pairs).map (addedLine (endingOf l.opening)) := by
    rw [← e.editLines_entries, ← l.addedLines_eq_map]
    rfl
  have hline : ∀ c ∈ l.inner, IsLine c := fun c hc => l.isLine_inner hc
  have haddable : ∀ a ∈ e.missing l.pairs, Addable a := fun a ha => he.addable ha
  have hagain : ∀ a ∈ (e.missing l.pairs).filterMap e.again? ++
      (e.missing l.pairs).filter (fun a => e.changes.get? a.1 = some none), Addable a := by
    intro a ha
    rcases List.mem_append.mp ha with ha | ha
    · exact (of_mem_filterMap_again? he haddable ha).1
    · exact haddable a (List.mem_of_mem_filter ha)
  -- As many lines are left as before, so both parts are compared.
  have hleft : e.linesAfter [] (e.linesAfter [] l.inner) = e.linesAfter [] l.inner ↔
      e.KeepsSeparators [] (placed (byteLength l.top) l.inner) :=
    linesAfter_again_iff he hline (fun _ _ => Iff.rfl) (byteLength l.top)
  have hadded := again?_append_removed_iff he haddable
  rw [← addedLines_inj hagain haddable l.isLine_opening.ending.1] at hadded
  have hdirectives : directives l.text = placed (byteLength l.top) l.inner := l.directives_text
  rw [rewrite_eq_self_iff _ fun c hc => ((l.edited e he).isLine_editedLines he c hc).1,
    l.editedLines_edited he, hinner]
  constructor
  · intro h
    obtain ⟨hl, ha⟩ := List.append_inj h (length_linesAfter_again he hline [] [])
    obtain ⟨hvalues, horder⟩ := hadded.mp ha
    have hkeeps := hleft.mp hl
    rw [Edits.KeepsSeparators] at hkeeps
    simp only [Edits.due_nil] at hkeeps
    exact ⟨by rw [hdirectives]; exact hkeeps, by rw [l.declared_text]; exact hvalues,
      by rw [l.declared_text]; exact horder⟩
  · rintro ⟨hkeeps, hvalues, horder⟩
    rw [hdirectives] at hkeeps
    rw [l.declared_text] at hvalues horder
    rw [hadded.mpr ⟨hvalues, horder⟩, hleft.mpr ?_]
    simp only [Edits.KeepsSeparators, Edits.due_nil]
    exact hkeeps

/-- The third rewriting. -/
theorem settlesAtOnce_edited (he : e.Representable) : e.SettlesAtOnce (l.edited e he).text where
  separators key d hget hfind := by
    -- The directive is on a line that was left, or on one that was added.
    have hmem := List.mem_of_find?_eq_some hfind
    have hkey : d.key = key := by simpa using List.find?_some hfind
    have hvalue := lookup_declared (l.edited e he).text key
    rw [hfind, declared_text, lookup_eq_head?_valuesOf, l.valuesOf_edited he] at hvalue
    rw [(l.edited e he).directives_text] at hmem
    obtain ⟨as, c, bs, hinner, hread, hplace⟩ := exists_of_mem_placed hmem
    have hc : c ∈ l.editedLines e := by
      show c ∈ (l.edited e he).inner
      rw [hinner]
      exact List.mem_append_right _ List.mem_cons_self
    rw [hplace, Text.ending_ofChunk]
    rcases List.mem_append.mp hc with hc | hc
    · refine not_losesSeparator hread ?_
      rw [e.editLines_entries] at hc
      have hleft : key ∈ (e.linesAfter [] l.inner).filterMap keyOf? :=
        List.mem_filterMap.mpr ⟨c, hc, hkey ▸ keyOf?_of_read? hread⟩
      rw [keys_linesAfter he fun x hx => l.isLine_inner hx] at hleft
      have hpresent := (mem_map_fst_iff key l.pairs).mp (l.keys_eq ▸ (List.mem_filter.mp hleft).1)
      -- Its key is replaced, and this is the first line of it.
      obtain ⟨v, vs, hvs⟩ := List.exists_cons_of_ne_nil hpresent
      simp only [Edits.valuesAfter, hget, hvs] at hvalue
      simpa using hvalue.symm
    · rw [l.addedLines_eq_map] at hc
      obtain ⟨a, ha, rfl⟩ := List.mem_map.mp hc
      rw [(read?_addedLine (he.addable ha) l.isLine_opening.ending.1).1, Option.some.injEq] at hread
      rintro ⟨hsep, -⟩
      rw [← hread] at hsep
      cases hsep
  values a ha v hv := by
    rw [declared_text, l.missing_edited he, List.mem_filter, decide_eq_true_eq] at ha
    rw [ha.2] at hv
    cases hv
  order := by
    rw [declared_text, l.missing_edited he]
    refine List.pairwise_of_forall_mem_list fun a _ b hb _ => ?_
    exact of_decide_eq_true (List.mem_filter.mp hb).2

end Layout

/-- **Rewriting again.** The second rewriting with representable edits
changes nothing if and only if there is no header or the edits settle at
once. The third one never changes anything. -/
theorem rewriting_settles (source : Text) {e : Edits} (he : e.Representable) :
    (rewrite (rewrite source e) e = rewrite source e ↔
        (locate source ≠ none → e.SettlesAtOnce source)) ∧
      rewrite (rewrite (rewrite source e) e) e = rewrite (rewrite source e) e := by
  cases hlocate : locate source with
  | none =>
      have hsame : rewrite source e = source := by rw [rewrite, hlocate]
      rw [hsame, hsame]
      exact ⟨iff_of_true rfl fun h => absurd rfl h, hsame⟩
  | some span =>
      obtain ⟨l, rfl⟩ := exists_layout hlocate
      have hthird := ((l.edited e he).rewrite_edited_eq_iff he).mpr (l.settlesAtOnce_edited he)
      rw [Layout.text_edited _ he] at hthird
      rw [← l.text_edited he]
      refine ⟨(l.rewrite_edited_eq_iff he).trans ?_, hthird⟩
      exact ⟨fun h _ => h, fun h => h (Option.some_ne_none _)⟩

/-- A header without directives. -/
def bareSource : Text := "// ==UserScript==\n// ==/UserScript==\n".toList

/-- A key that is removed and added again, and another one. -/
def returningEdits : Edits :=
  ((Edits.empty.remove "a".toList).addIfMissing "a".toList "1".toList).addIfMissing "b".toList
    "2".toList

/-- The key that is removed and added again changes places with the other one
in the second pass. The third pass changes nothing. -/
theorem rewriting_settles_returning :
    returningEdits.Representable ∧ ¬ returningEdits.SettlesAtOnce bareSource ∧
      rewrite (rewrite (rewrite bareSource returningEdits) returningEdits) returningEdits
        = rewrite (rewrite bareSource returningEdits) returningEdits := by
  have he : returningEdits.Representable := by decide +kernel
  obtain ⟨hsecond, hthird⟩ := rewriting_settles bareSource he
  have hmoves : rewrite (rewrite bareSource returningEdits) returningEdits
      ≠ rewrite bareSource returningEdits := by
    rw [rewrite_eq_rewriteLines, rewrite_eq_rewriteLines]
    decide +kernel
  exact ⟨he, fun h => hmoves (hsecond.mpr fun _ => h), hthird⟩

/-- The key moves behind the other one. -/
theorem rewriting_again_moves_key :
    returningEdits.Representable ∧
      (∀ c ∈ returningEdits.changes.entries, c.1 ≠ [] ∧ ∀ x ∈ c.1, isBlank x = false) ∧
      rewrite bareSource returningEdits
        = "// ==UserScript==\n// @a 1\n// @b 2\n// ==/UserScript==\n".toList ∧
      rewrite (rewrite bareSource returningEdits) returningEdits
        = "// ==UserScript==\n// @b 2\n// @a 1\n// ==/UserScript==\n".toList := by
  simp only [rewrite_eq_rewriteLines]
  decide +kernel

/-- An added value is replaced. -/
example :
    let e := (Edits.empty.replace "k".toList "1".toList).addIfMissing "k".toList "2".toList
    rewrite bareSource e = "// ==UserScript==\n// @k 2\n// ==/UserScript==\n".toList ∧
      rewrite (rewrite bareSource e) e
        = "// ==UserScript==\n// @k 1\n// ==/UserScript==\n".toList := by
  simp only [rewrite_eq_rewriteLines]
  decide +kernel

/-- A separator is lost, and a space is put in its place. -/
example :
    let source := "// ==UserScript==\n// @k\r1\n// ==/UserScript==\n".toList
    let e := Edits.empty.replace "k".toList []
    rewrite source e = "// ==UserScript==\n// @k\r\n// ==/UserScript==\n".toList ∧
      rewrite (rewrite source e) e
        = "// ==UserScript==\n// @k \r\n// ==/UserScript==\n".toList := by
  simp only [rewrite_eq_rewriteLines]
  decide +kernel

end ScriptGate.Header
