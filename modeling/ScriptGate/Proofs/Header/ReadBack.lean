import Mathlib.Data.List.Forall2
import ScriptGate.Proofs.Header.LineEdits
import ScriptGate.Proofs.Header.Pairs
import ScriptGate.Proofs.Header.Values
import ScriptGate.Proofs.Keyed

/-!
# `ScriptGate.Proofs.Header.ReadBack`: what a rewritten header declares

Edits are representable when a header gives their values back. A script
that was rewritten with such edits has a layout again
(`Layout.edited`), with the same body. `pairs_edited` lists its keys and
values, and `valuesOf_edited` says what the edits make of one key.

Edits with other values are read back as some relation says, if their
values fit into a line at all (`Edits.ReadAs`). `exists_rewritten` says
the same for these, with the relation in place of equality.

`editedLines_eq_self` says when edits change nothing: what they remove is
not there, and what they write is there already.
-/

set_option autoImplicit false

namespace ScriptGate.Header

open Text (IsEnding IsLine contentOf endingOf isBlank)

/-- Edits whose values a header gives back. -/
structure Edits.Representable (e : Edits) : Prop where
  changes : ∀ key value, (key, some value) ∈ e.changes.entries → Header.Representable value
  additions : ∀ key value, (key, value) ∈ e.additions.entries → Header.Representable value
  /-- What is added has a key. -/
  keys : ∀ key value, (key, value) ∈ e.additions.entries →
    key ≠ [] ∧ ∀ c ∈ key, isBlank c = false

instance (e : Edits) : Decidable e.Representable :=
  decidable_of_iff
    ((∀ c ∈ e.changes.entries, (c.2.all fun v => decide (Header.Representable v)) = true) ∧
      ∀ a ∈ e.additions.entries,
        Header.Representable a.2 ∧ a.1 ≠ [] ∧ ∀ c ∈ a.1, isBlank c = false)
    ⟨fun h => ⟨fun key value hmem => of_decide_eq_true (h.1 (key, some value) hmem),
        fun key value hmem => (h.2 (key, value) hmem).1,
        fun key value hmem => (h.2 (key, value) hmem).2⟩,
      fun h => ⟨fun c hc => by
          obtain ⟨key, change⟩ := c
          cases change with
          | none => rfl
          | some value => exact decide_eq_true (h.changes key value hc),
        fun a ha => ⟨h.additions a.1 a.2 ha, h.keys a.1 a.2 ha⟩⟩⟩

/-- Edits whose values fit into a header and are read back as `R` says. -/
structure Edits.ReadAs (R : Text → Text → Prop) (e : Edits) : Prop where
  changes : ∀ key value, (key, some value) ∈ e.changes.entries → Header.ReadAs R value
  additions : ∀ key value, (key, value) ∈ e.additions.entries → Header.ReadAs R value
  /-- What is added has a key. -/
  keys : ∀ key value, (key, value) ∈ e.additions.entries →
    key ≠ [] ∧ ∀ c ∈ key, isBlank c = false

/-- Edits that write no line feed. The keys that are only looked for may
have one. -/
structure Edits.Fits (e : Edits) : Prop where
  changes : ∀ key value, (key, some value) ∈ e.changes.entries → '\n' ∉ value
  additions : ∀ key value, (key, value) ∈ e.additions.entries → '\n' ∉ key ∧ '\n' ∉ value

instance (e : Edits) : Decidable e.Fits :=
  decidable_of_iff
    ((∀ c ∈ e.changes.entries, ∀ value ∈ c.2, '\n' ∉ value) ∧
      ∀ a ∈ e.additions.entries, '\n' ∉ a.1 ∧ '\n' ∉ a.2)
    ⟨fun h => ⟨fun key value hmem => h.1 (key, some value) hmem value rfl,
        fun key value hmem => h.2 (key, value) hmem⟩,
      fun h => ⟨fun c hc value hvalue => h.changes c.1 value (by rw [← hvalue]; exact hc),
        fun a ha => h.additions a.1 a.2 ha⟩⟩

/-- A text without white space has no line feed. -/
theorem feed_not_mem_of_not_blank {t : Text} (h : ∀ c ∈ t, isBlank c = false) : '\n' ∉ t := by
  intro hfeed
  have hblank := h _ hfeed
  exact absurd hblank (by decide)

/-- What is read back stands on one line. -/
theorem Edits.ReadAs.fits {R : Text → Text → Prop} {e : Edits} (h : e.ReadAs R) : e.Fits where
  changes key value hmem := (h.changes key value hmem).oneLine
  additions key value hmem :=
    ⟨feed_not_mem_of_not_blank (h.keys key value hmem).2, (h.additions key value hmem).oneLine⟩

/-- Representable values are read back as they are. -/
theorem Edits.Representable.readAs {e : Edits} (h : e.Representable) : e.ReadAs Eq where
  changes key value hmem := (h.changes key value hmem).readAs
  additions key value hmem := (h.additions key value hmem).readAs
  keys := h.keys

/-! ### Removals -/

/-- What the removal of some keys leaves of the changes. -/
theorem Edits.get?_foldl_remove (keys : List Text) (e : Edits) (key : Text) :
    (keys.foldl Edits.remove e).changes.get? key
      = if key ∈ keys then some none else e.changes.get? key := by
  induction keys generalizing e with
  | nil => rfl
  | cons k keys ih =>
      have hremove : (e.remove k).changes.get? key
          = if k = key then some none else e.changes.get? key := Keyed.get?_put _ _ _ _
      rw [List.foldl_cons, ih, hremove]
      -- A key that is removed twice is removed.
      by_cases hk : k = key
      · rw [if_pos hk, ite_self, if_pos (by rw [hk]; exact List.mem_cons_self)]
      · by_cases hmem : key ∈ keys
        · rw [if_pos hmem, if_pos (List.mem_cons_of_mem _ hmem)]
        · rw [if_neg hmem, if_neg hk, if_neg]
          rw [List.mem_cons, not_or]
          exact ⟨Ne.symm hk, hmem⟩

/-- Removals leave the additions. -/
theorem Edits.additions_foldl_remove (keys : List Text) (e : Edits) :
    (keys.foldl Edits.remove e).additions = e.additions := by
  induction keys generalizing e with
  | nil => rfl
  | cons k keys ih =>
      rw [List.foldl_cons, ih]
      rfl

/-! ### Written lines -/

/-- A written directive begins with its mark. -/
theorem DirectiveText.mark_prefix_write (d : DirectiveText) : mark <+: d.write := by
  rw [write, List.append_assoc, List.append_assoc]
  exact List.prefix_append _ _

/-- A line that begins like a directive is no closing marker. -/
theorem contentOf_ne_of_mark {c : Text} (h : DirectiveText.mark <+: c) :
    contentOf c ≠ closingMarker := by
  intro hc
  have hclosing : closingMarker <+: c := ⟨endingOf c, by rw [← hc, Text.contentOf_append_endingOf]⟩
  -- Of two beginnings of a line the shorter one begins the other.
  have hmark : DirectiveText.mark <+: closingMarker :=
    List.prefix_of_prefix_length_le h hclosing (by decide)
  exact absurd hmark (by decide)

/-- A directive stays one when its value can be written. -/
theorem DirectiveText.WellFormed.withValue {d : DirectiveText} (h : d.WellFormed) {v : Text}
    (hv : Writable v) : (d.withValue v).WellFormed where
  key_ne := h.key_ne
  key := h.key
  separator := by
    show ∀ c ∈ (if d.separator = [] then [' '] else d.separator), isBlank c = true
    split
    · intro c hc
      rw [List.mem_singleton.mp hc]
      decide
    · exact h.separator
  separated := by
    show (if d.separator = [] then [' '] else d.separator) = [] → v = []
    split
    · exact fun hnil => absurd hnil (List.cons_ne_nil _ _)
    · rename_i hsep
      exact fun hnil => absurd hnil hsep
  value := hv.start

/-- A line that is added has a space for its separator. -/
theorem wellFormed_added {key v : Text} (hkey : key ≠ []) (hblank : ∀ c ∈ key, isBlank c = false)
    (hv : Writable v) : DirectiveText.WellFormed ⟨key, [' '], v⟩ := by
  refine ⟨hkey, hblank, fun c hc => ?_, fun hnil => (by cases hnil), hv.start⟩
  rw [List.mem_singleton.mp hc]
  decide

/-- A new value brings no other characters but itself and a space. -/
theorem not_mem_withValue {a : Char} (ha : a ≠ ' ') {d : DirectiveText} {v : Text}
    (h : a ∉ d.write) (hv : a ∉ v) : a ∉ (d.withValue v).write := by
  simp only [DirectiveText.write, DirectiveText.withValue, List.mem_append, not_or] at h ⊢
  refine ⟨⟨h.1.1, ?_⟩, hv⟩
  split
  · rw [List.mem_singleton]
    exact ha
  · exact h.1.2

section Written

variable {R : Text → Text → Prop} {v : Text}

/-- A directive line with another value is read back. -/
theorem pair?_withValue {c : Text} {d : DirectiveText} (hline : IsLine c)
    (hread : DirectiveText.read? (contentOf c) = some d) (hv : ReadAs R v) :
    ∃ w, pair? ((d.withValue v).write ++ endingOf c) = some (d.key, w) ∧ R w v := by
  obtain ⟨hwf, -⟩ := DirectiveText.read?_eq_some_iff.mp hread
  obtain ⟨w, hpair, hw⟩ := returned_pair?_write (hwf.withValue hv.toWritable) hline.ending.1
  exact ⟨w, hpair, hv.back w hw⟩

/-- So is an added line. -/
theorem pair?_addedLine {key e : Text} (hkey : key ≠ []) (hblank : ∀ c ∈ key, isBlank c = false)
    (hv : ReadAs R v) (he : IsEnding e) :
    ∃ w, pair? (addedLine e (key, v)) = some (key, w) ∧ R w v := by
  obtain ⟨w, hpair, hw⟩ := returned_pair?_write (wellFormed_added hkey hblank hv.toWritable) he
  exact ⟨w, hpair, hv.back w hw⟩

end Written

/-! ### Edited lines -/

/-- Pairs of one key, with values that go together. -/
def SameKey (R : Text → Text → Prop) (p q : Text × Text) : Prop := p.1 = q.1 ∧ R p.2 q.2

/-- Pairs with the same keys and values are the same. -/
theorem eq_of_forall₂_sameKey {ps qs : List (Text × Text)}
    (h : List.Forall₂ (SameKey Eq) ps qs) : ps = qs := by
  rw [← List.forall₂_eq_eq_eq]
  exact h.imp fun p q hpq => Prod.ext hpq.1 hpq.2

/-- Then the values of a key go together too. -/
theorem forall₂_valuesOf {R : Text → Text → Prop} {ps qs : List (Text × Text)}
    (h : List.Forall₂ (SameKey R) ps qs) (key : Text) :
    List.Forall₂ R (valuesOf key ps) (valuesOf key qs) := by
  induction h with
  | nil => exact List.Forall₂.nil
  | cons hpq _ ih =>
      obtain ⟨hkey, hvalue⟩ := hpq
      rw [valuesOf_cons, valuesOf_cons, hkey]
      split
      · exact List.Forall₂.cons hvalue ih
      · exact ih

/-- Two changes of a key that are the same, but for a value that is read
back as `R` says. -/
inductive SameChange (R : Text → Text → Prop) : Option (Option Text) → Option (Option Text) → Prop
  | kept : SameChange R none none
  | removed : SameChange R (some none) (some none)
  | replaced {read written : Text} (h : R read written) :
    SameChange R (some (some read)) (some (some written))

namespace SameChange

variable {R : Text → Text → Prop} {x : Option (Option Text)} {v : Text}

/-- What goes with no change is no change. -/
theorem eq_none (h : SameChange R x none) : x = none := by
  cases h with
  | kept => rfl

/-- What goes with a removal is a removal. -/
theorem eq_removed (h : SameChange R x (some none)) : x = some none := by
  cases h with
  | removed => rfl

/-- What goes with a replacement is one, by a value that goes with its
value. -/
theorem eq_replaced (h : SameChange R x (some (some v))) : ∃ w, x = some (some w) ∧ R w v := by
  cases h with
  | replaced hw => exact ⟨_, rfl, hw⟩

end SameChange

section Lines

variable {R : Text → Text → Prop} {changes : List (Text × Option Text)} {cs : List Text}

/-- Edited lines are lines inside a header. -/
theorem editLines_inner (hvalue : ∀ key value, (key, some value) ∈ changes → '\n' ∉ value)
    (hline : ∀ c ∈ cs, IsLine c ∧ contentOf c ≠ closingMarker) :
    ∀ c ∈ editLines changes cs, IsLine c ∧ contentOf c ≠ closingMarker := by
  intro c hc
  rcases mem_editLines hc with hc | ⟨x, hx, d, v, hread, hmem, rfl⟩
  · exact hline c hc
  · obtain ⟨hending, hfeed⟩ := (hline x hx).1.ending
    rw [← DirectiveText.write_of_read? hread] at hfeed
    exact ⟨Text.isLine_append (not_mem_withValue (by decide) hfeed (hvalue d.key v hmem)) hending,
      contentOf_ne_of_mark ((d.withValue v).mark_prefix_write.trans (List.prefix_append _ _))⟩

/-- Editing the lines edits what they declare. -/
theorem forall₂_pair?_editLines (hrefl : ∀ v, R v v)
    (hvalue : ∀ key value, (key, some value) ∈ changes → ReadAs R value)
    (hline : ∀ c ∈ cs, IsLine c) :
    List.Forall₂ (SameKey R) ((editLines changes cs).filterMap pair?)
      (editPairs changes (cs.filterMap pair?)) := by
  induction cs generalizing changes with
  | nil => exact List.Forall₂.nil
  | cons c cs ih =>
      have hcs : ∀ y ∈ cs, IsLine y := fun y hy => hline y (List.mem_cons_of_mem _ hy)
      rw [editLines]
      cases hread : DirectiveText.read? (contentOf c) with
      | none =>
          have hpair := pair?_of_not_read? hread
          simp only []
          rw [List.filterMap_cons_none hpair, List.filterMap_cons_none hpair]
          exact ih hvalue hcs
      | some d =>
          rw [List.filterMap_cons_some (pair?_of_read? hread), editPairs]
          rcases hlookup : changes.lookup d.key with _ | _ | v
          · simp only [hlookup]
            rw [List.filterMap_cons_some (pair?_of_read? hread)]
            exact List.Forall₂.cons ⟨rfl, hrefl _⟩ (ih hvalue hcs)
          · simp only [hlookup]
            exact ih hvalue hcs
          · simp only [hlookup]
            obtain ⟨w, hpair, hw⟩ := pair?_withValue (hline c List.mem_cons_self) hread
              (hvalue d.key v (mem_of_lookup hlookup))
            rw [List.filterMap_cons_some hpair]
            -- The other lines are edited with the changes of the other keys.
            exact List.Forall₂.cons ⟨rfl, hw⟩
              (ih (fun key value hm => hvalue key value (List.mem_of_mem_filter hm)) hcs)

/-- A change that is made first, in front of changes of the other keys. -/
theorem sameChange_cons {changes' : List (Text × Option Text)} {k v w : Text}
    (h : ∀ key, SameChange R (changes'.lookup key)
      ((changes.filter fun e => e.1 != k).lookup key))
    (hlookup : changes.lookup k = some (some v)) (hw : R w v) (key : Text) :
    SameChange R (((k, some w) :: changes').lookup key) (changes.lookup key) := by
  rw [List.lookup_cons]
  by_cases hkey : key = k
  · rw [hkey, beq_self_eq_true, hlookup]
    exact .replaced hw
  · have hrest := h key
    rw [lookup_filter_ne, if_neg hkey] at hrest
    rw [beq_eq_false_iff_ne.mpr hkey]
    exact hrest

/-- The lines declare what changes make of the former declarations. The
changes are the same, but with their values as they are read back. -/
theorem exists_editPairs (hvalue : ∀ key value, (key, some value) ∈ changes → ReadAs R value)
    (hline : ∀ c ∈ cs, IsLine c) :
    ∃ changes' : List (Text × Option Text),
      (∀ key, SameChange R (changes'.lookup key) (changes.lookup key)) ∧
        (editLines changes cs).filterMap pair? = editPairs changes' (cs.filterMap pair?) := by
  induction cs generalizing changes with
  | nil =>
      -- Without a line, values may as well be read back as they are.
      refine ⟨changes, fun key => ?_, rfl⟩
      rcases hlookup : changes.lookup key with _ | _ | v
      · exact .kept
      · exact .removed
      · exact .replaced ((hvalue key v (mem_of_lookup hlookup)).back v (Returned.refl v))
  | cons c cs ih =>
      have hcs : ∀ y ∈ cs, IsLine y := fun y hy => hline y (List.mem_cons_of_mem _ hy)
      rw [editLines]
      cases hread : DirectiveText.read? (contentOf c) with
      | none =>
          have hpair := pair?_of_not_read? hread
          simp only []
          rw [List.filterMap_cons_none hpair, List.filterMap_cons_none hpair]
          exact ih hvalue hcs
      | some d =>
          rw [List.filterMap_cons_some (pair?_of_read? hread)]
          rcases hlookup : changes.lookup d.key with _ | _ | v
          · obtain ⟨changes', hsame, hpairs⟩ := ih hvalue hcs
            have hkey := hsame d.key
            rw [hlookup] at hkey
            refine ⟨changes', hsame, ?_⟩
            rw [editPairs, hkey.eq_none]
            simp only [hlookup]
            rw [List.filterMap_cons_some (pair?_of_read? hread), hpairs]
          · obtain ⟨changes', hsame, hpairs⟩ := ih hvalue hcs
            have hkey := hsame d.key
            rw [hlookup] at hkey
            refine ⟨changes', hsame, ?_⟩
            rw [editPairs, hkey.eq_removed]
            simp only [hlookup]
            exact hpairs
          · obtain ⟨w, hpair, hw⟩ := pair?_withValue (hline c List.mem_cons_self) hread
              (hvalue d.key v (mem_of_lookup hlookup))
            obtain ⟨changes', hsame, hpairs⟩ := ih
              (fun key value hm => hvalue key value (List.mem_of_mem_filter hm)) hcs
            -- The change of this key is made here, and the others further on.
            refine ⟨(d.key, some w) :: changes', sameChange_cons hsame hlookup hw, ?_⟩
            have hnone : changes'.lookup d.key = none := by
              have hkey := hsame d.key
              rw [lookup_filter_ne, if_pos rfl] at hkey
              exact hkey.eq_none
            simp only [hlookup]
            rw [List.filterMap_cons_some hpair, hpairs, editPairs_cons_replaced hnone]

/-- Changes that find everything as they want it change nothing. -/
theorem editLines_eq_self
    (h : ∀ key change, changes.lookup key = some change → ∀ v,
      (cs.filterMap pair?).lookup key = some v → v ≠ [] ∧ change = some v) :
    editLines changes cs = cs := by
  induction cs generalizing changes with
  | nil => rfl
  | cons c cs ih =>
      rw [editLines]
      cases hread : DirectiveText.read? (contentOf c) with
      | none =>
          rw [List.filterMap_cons_none (pair?_of_not_read? hread)] at h
          simp only []
          rw [ih h]
      | some d =>
          rw [List.filterMap_cons_some (pair?_of_read? hread)] at h
          -- The lines that follow have no say in the value of this key.
          have hrest : ∀ key change, key ≠ d.key → changes.lookup key = some change → ∀ v,
              (cs.filterMap pair?).lookup key = some v → v ≠ [] ∧ change = some v := by
            intro key change hne hchange v hv
            refine h key change hchange v ?_
            rw [List.lookup_cons, beq_eq_false_iff_ne.mpr hne]
            exact hv
          rcases hlookup : changes.lookup d.key with _ | change
          · simp only [hlookup]
            rw [ih fun key change hchange v hv => ?_]
            refine hrest key change (fun heq => ?_) hchange v hv
            rw [heq, hlookup] at hchange
            cases hchange
          · obtain ⟨hne, rfl⟩ := h d.key change hlookup d.value (by
              rw [List.lookup_cons, beq_self_eq_true])
            -- The value is there already, so the separator is too.
            obtain ⟨hwf, hwrite⟩ := DirectiveText.read?_eq_some_iff.mp hread
            have hsep : d.separator ≠ [] := fun hnil => hne (hwf.separated hnil)
            simp only [hlookup, DirectiveText.withValue_eq_self hsep]
            rw [hwrite, Text.contentOf_append_endingOf, ih fun key change hchange v hv => ?_]
            rw [lookup_filter_ne] at hchange
            split at hchange
            · cases hchange
            · rename_i hkey
              exact hrest key change hkey hchange v hv

end Lines

/-! ### Edited scripts -/

namespace Layout

variable (l : Layout)

/-- The keys and values of the header, in the order of the lines. -/
def pairs : List (Text × Text) := l.inner.filterMap pair?

/-- The metadata of the text is that of its pairs. -/
theorem ofSource_text : Metadata.ofSource l.text = Metadata.ofPairs l.pairs := by
  rw [Metadata.ofSource, Metadata.ofDirectives, l.directives_text]
  exact congrArg Metadata.ofPairs (map_placed (fun d => (d.key, d.value)) _ l.inner)

/-- The keys of a layout are those of its pairs. -/
theorem keys_eq : l.keys = l.pairs.map Prod.fst := by
  rw [keys, pairs, List.map_filterMap]
  refine List.filterMap_congr fun c _ => ?_
  rw [pair?, Option.map_map]
  rfl

variable {l} in
/-- A declared value that is not blank stands on a line of the header. -/
theorem exists_line_of_declared {key v : Text}
    (h : (Metadata.ofPairs l.pairs).firstNonBlank key = some v) :
    Text.allBlank v = false ∧ ∃ c ∈ l.inner, pair? c = some (key, v) := by
  have hmem := List.mem_of_find?_eq_some h
  have hnot := List.find?_some h
  rw [all_ofPairs] at hmem
  rw [Bool.not_eq_true'] at hnot
  exact ⟨hnot, List.mem_filterMap.mp (mem_valuesOf hmem)⟩

variable {e : Edits}

/-- Added lines are lines, and none of them is a closing marker. -/
theorem isLine_addedLines (he : e.Fits) :
    ∀ c ∈ l.addedLines e, IsLine c ∧ contentOf c ≠ closingMarker := by
  intro c hc
  obtain ⟨⟨key, value⟩, hmem, rfl⟩ := List.mem_map.mp hc
  obtain ⟨hkey, hvalue⟩ := he.additions key value (List.mem_of_mem_filter hmem)
  have hfeed : '\n' ∉ DirectiveText.write ⟨key, [' '], value⟩ := by
    simp only [DirectiveText.write, List.mem_append, not_or]
    exact ⟨⟨⟨by decide, hkey⟩, by decide⟩, hvalue⟩
  exact ⟨Text.isLine_append hfeed l.isLine_opening.ending.1,
    contentOf_ne_of_mark ((DirectiveText.mark_prefix_write _).trans (List.prefix_append _ _))⟩

/-- Edits without line feeds leave lines inside the header. -/
theorem inner_editedLines_of_fits (he : e.Fits) :
    ∀ c ∈ l.editedLines e, IsLine c ∧ contentOf c ≠ closingMarker := by
  intro c hc
  rcases List.mem_append.mp hc with hc | hc
  · exact editLines_inner he.changes (fun x hx => ⟨l.isLine_inner hx, l.inner_ne x hx⟩) c hc
  · exact l.isLine_addedLines he c hc

/-- Edited lines are lines of a header, whatever their values are read back
as. -/
theorem inner_editedLines {R : Text → Text → Prop} (he : e.ReadAs R) :
    ∀ c ∈ l.editedLines e, IsLine c ∧ contentOf c ≠ closingMarker :=
  l.inner_editedLines_of_fits he.fits

/-- Edited lines are lines of a header when their values are read back as they
are. -/
theorem isLine_editedLines (he : e.Representable) :
    ∀ c ∈ l.editedLines e, IsLine c ∧ contentOf c ≠ closingMarker :=
  l.inner_editedLines he.readAs

/-- The pairs of the header after edits, where every value is read back
as it was written. -/
def editedPairs (e : Edits) : List (Text × Text) :=
  editPairs e.changes.entries l.pairs ++
    missingAdditions ((l.pairs.map Prod.fst).filter fun k => !e.removedKeys.contains k)
      e.additions.entries

/-- What the edited lines declare. -/
theorem forall₂_pair?_editedLines {R : Text → Text → Prop} (hrefl : ∀ v, R v v)
    (he : e.ReadAs R) :
    List.Forall₂ (SameKey R) ((l.editedLines e).filterMap pair?) (l.editedPairs e) := by
  rw [editedLines, List.filterMap_append]
  refine List.rel_append
    (forall₂_pair?_editLines hrefl he.changes fun c hc => l.isLine_inner hc) ?_
  rw [addedLines, l.keys_eq, List.filterMap_map]
  -- Every line that is added declares its own key.
  have hadded : ∀ as : List (Text × Text), (∀ a ∈ as, a ∈ e.additions.entries) →
      List.Forall₂ (SameKey R) (as.filterMap (pair? ∘ addedLine (endingOf l.opening))) as := by
    intro as has
    induction as with
    | nil => exact List.Forall₂.nil
    | cons a as ih =>
        obtain ⟨key, value⟩ := a
        have hentry := has _ List.mem_cons_self
        obtain ⟨hkey, hblank⟩ := he.keys key value hentry
        obtain ⟨w, hpair, hw⟩ := pair?_addedLine hkey hblank (he.additions key value hentry)
          l.isLine_opening.ending.1
        have hline : (pair? ∘ addedLine (endingOf l.opening)) (key, value) = some (key, w) := hpair
        rw [List.filterMap_cons_some hline]
        exact List.Forall₂.cons ⟨rfl, hw⟩ (ih fun b hb => has b (List.mem_cons_of_mem _ hb))
  exact hadded _ fun a ha => List.mem_of_mem_filter ha

/-- The script after representable edits. -/
def edited (e : Edits) (he : e.Representable) : Layout :=
  l.withInner (l.editedLines e) (fun c hc => (l.isLine_editedLines he c hc).1)
    (fun c hc => (l.isLine_editedLines he c hc).2)

/-- The layout after representable edits is one of the rewritten script. -/
theorem text_edited (he : e.Representable) : (l.edited e he).text = rewrite l.text e := by
  rw [l.rewrite_text]
  rfl

/-- The text on both sides of the header stays as it is. -/
theorem split_edited (he : e.Representable) : split (l.edited e he).text = split l.text := by
  rw [split_text, split_text]
  rfl

/-- What the header declares after the edits. -/
theorem pairs_edited (he : e.Representable) : (l.edited e he).pairs = l.editedPairs e :=
  eq_of_forall₂_sameKey (l.forall₂_pair?_editedLines (fun _ => rfl) he.readAs)

/-- The script after edits that fit into it. -/
def rewritten {R : Text → Text → Prop} (he : e.ReadAs R) : Layout :=
  l.withInner (l.editedLines e) (fun c hc => (l.inner_editedLines he c hc).1)
    fun c hc => (l.inner_editedLines he c hc).2

/-- The layout after edits is one of the rewritten script, whatever the values
are read back as. -/
theorem text_rewritten {R : Text → Text → Prop} (he : e.ReadAs R) :
    (l.rewritten he).text = rewrite l.text e := by
  rw [l.rewrite_text]
  rfl

/-- A script that was rewritten has a layout, and its header declares what
was written into it, as far as that is read back. -/
theorem exists_rewritten {R : Text → Text → Prop} (hrefl : ∀ v, R v v) (he : e.ReadAs R) :
    ∃ l' : Layout, l'.text = rewrite l.text e ∧
      List.Forall₂ (SameKey R) l'.pairs (l.editedPairs e) :=
  ⟨l.rewritten he, l.text_rewritten he, l.forall₂_pair?_editedLines hrefl he⟩

end Layout

/-! ### The values of a key -/

/-- What edits make of the values of `key`. -/
def Edits.valuesAfter (e : Edits) (key : Text) (vs : List Text) : List Text :=
  match e.changes.get? key, vs with
  | some none, _ => (e.additions.get? key).toList
  | _, [] => (e.additions.get? key).toList
  | none, vs => vs
  | some (some value), _ :: vs => value :: vs

/-- A table has at most one value under a key. -/
theorem valuesOf_entries (t : Keyed Text Text) (key : Text) :
    valuesOf key t.entries = (t.get? key).toList := by
  rw [← t.lookup_entries]
  obtain ⟨entries, hnodup⟩ := t
  show valuesOf key entries = (entries.lookup key).toList
  induction entries with
  | nil => rfl
  | cons e es ih =>
      obtain ⟨k, v⟩ := e
      rw [List.map_cons, List.nodup_cons] at hnodup
      rw [valuesOf_cons, List.lookup_cons]
      by_cases hk : k = key
      · subst hk
        -- No other entry has this key.
        have hnil : valuesOf k es = [] := by
          rw [valuesOf_eq_nil_iff]
          exact fun p hp heq => hnodup.1 (List.mem_map.mpr ⟨p, hp, heq⟩)
        rw [if_pos rfl, hnil, beq_self_eq_true, Option.toList_some]
      · rw [if_neg hk, ih hnodup.2, beq_eq_false_iff_ne.mpr (Ne.symm hk)]

/-- The removed keys are those whose change has no value. -/
theorem contains_removedKeys (e : Edits) (key : Text) :
    e.removedKeys.contains key = true ↔ e.changes.get? key = some none := by
  rw [List.contains_iff_mem, Edits.removedKeys, ← e.changes.mem_entries_iff, List.mem_map]
  constructor
  · rintro ⟨⟨k, value⟩, he, rfl⟩
    obtain ⟨he, hnone⟩ := List.mem_filter.mp he
    rw [Option.isNone_iff_eq_none] at hnone
    rw [← hnone]
    exact he
  · intro h
    exact ⟨(key, none), List.mem_filter.mpr ⟨h, rfl⟩, rfl⟩

/-- The others are those whose change has one, or that have no change. -/
theorem not_contains_removedKeys (e : Edits) (key : Text) :
    (!e.removedKeys.contains key) = decide (e.changes.get? key ≠ some none) := by
  rw [Bool.eq_iff_iff, Bool.not_eq_true', ← Bool.not_eq_true, contains_removedKeys,
    decide_eq_true_eq]

/-- The values that are added for a key. -/
theorem valuesOf_missingAdditions (present : List Text) (t : Keyed Text Text) (key : Text) :
    valuesOf key (missingAdditions present t.entries)
      = if key ∈ present then [] else (t.get? key).toList := by
  rw [← valuesOf_entries, missingAdditions, valuesOf, List.filter_filter]
  split
  · rename_i hpresent
    rw [List.map_eq_nil_iff, List.filter_eq_nil_iff]
    rintro ⟨k, v⟩ - hk
    rw [Bool.and_eq_true, beq_iff_eq, Bool.not_eq_true', List.contains_eq_mem,
      decide_eq_false_iff_not] at hk
    exact hk.2 (hk.1 ▸ hpresent)
  · rename_i hpresent
    rw [valuesOf]
    congr 1
    refine List.filter_congr fun p _ => ?_
    by_cases hk : p.1 = key
    · rw [hk, List.contains_eq_mem, decide_eq_false hpresent]
      simp
    · rw [beq_eq_false_iff_ne.mpr hk, Bool.false_and]

/-- Edits leave of the values of each key what `valuesAfter` says. -/
theorem Layout.valuesOf_editedPairs (l : Layout) (e : Edits) (key : Text) :
    valuesOf key (l.editedPairs e) = e.valuesAfter key (valuesOf key l.pairs) := by
  have hpresent : key ∈ (l.pairs.map Prod.fst).filter (fun k => !e.removedKeys.contains k) ↔
      valuesOf key l.pairs ≠ [] ∧ e.changes.get? key ≠ some none := by
    rw [List.mem_filter, Bool.not_eq_true', ← Bool.not_eq_true, contains_removedKeys,
      mem_map_fst_iff]
  rw [editedPairs, valuesOf_append, valuesOf_editPairs, e.changes.lookup_entries,
    valuesOf_missingAdditions]
  simp only [hpresent, Edits.valuesAfter]
  rcases e.changes.get? key with _ | _ | value
  · cases valuesOf key l.pairs with
    | nil => simp
    | cons v vs => simp
  · cases valuesOf key l.pairs with
    | nil => simp
    | cons v vs => simp
  · cases valuesOf key l.pairs with
    | nil => simp
    | cons v vs => simp

/-- **Reading back.** What representable edits make of the values of a
key. -/
theorem Layout.valuesOf_edited (l : Layout) {e : Edits} (he : e.Representable) (key : Text) :
    valuesOf key (l.edited e he).pairs = e.valuesAfter key (valuesOf key l.pairs) := by
  rw [l.pairs_edited he, l.valuesOf_editedPairs]

/-- Edits change nothing where a removed key has no directive, a replaced
key has its value already, and an added key is there. -/
theorem Layout.rewrite_eq_self (l : Layout) {e : Edits}
    (hchanges : ∀ key change, e.changes.get? key = some change → ∀ v,
      (valuesOf key l.pairs).head? = some v → v ≠ [] ∧ change = some v)
    (hadditions : ∀ key value, e.additions.get? key = some value →
      valuesOf key l.pairs ≠ [] ∧ e.changes.get? key ≠ some none) :
    rewrite l.text e = l.text := by
  have hlines : editLines e.changes.entries l.inner = l.inner := by
    refine editLines_eq_self fun key change hchange v hv => ?_
    rw [e.changes.lookup_entries] at hchange
    rw [lookup_eq_head?_valuesOf] at hv
    exact hchanges key change hchange v hv
  have hadded : l.addedLines e = [] := by
    rw [Layout.addedLines, List.map_eq_nil_iff, missingAdditions, List.filter_eq_nil_iff]
    rintro ⟨key, value⟩ hmem hmissing
    obtain ⟨hne, hkept⟩ := hadditions key value ((e.additions.mem_entries_iff key value).mp hmem)
    rw [Bool.not_eq_true', List.contains_eq_mem, decide_eq_false_iff_not, List.mem_filter,
      Bool.not_eq_true', ← Bool.not_eq_true, contains_removedKeys, l.keys_eq,
      mem_map_fst_iff] at hmissing
    exact hmissing ⟨hne, hkept⟩
  rw [l.rewrite_text, Layout.editedLines, hlines, hadded, List.append_nil, Layout.text]

end ScriptGate.Header
