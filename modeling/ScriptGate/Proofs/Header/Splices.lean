import Mathlib.Data.List.Nodup
import Mathlib.Data.Option.Basic
import ScriptGate.Header.Rewrite
import ScriptGate.Proofs.Text.Chunks

/-!
# `ScriptGate.Proofs.Header.Splices`: splices in the order of the text

`editSplices` lists splices in the order of the edits, and
`applySplices?` sorts them. `lineSplices` lists the same splices in the
order of the directives (`lineSplices_perm`), which is the order of their
starts. So sorting gives `lineSplices`, by `applySplices?_eq_of_perm`.

Sorted splices are applied from the left. `applySplicesAux_keep` walks
over text that no splice touches, and `applySplicesAux_replace` carries
out the splice at the cursor.
-/

set_option autoImplicit false

namespace ScriptGate.Header

open Text (byteLength splitAtByte? splitAtByteAux)

/-! ### One after the other -/

/-- The accumulator of a cut only stands in front of the first part. -/
theorem splitAtByteAux_eq_map (acc : Text) (n : Nat) (t : Text) :
    splitAtByteAux acc n t
      = (splitAtByteAux [] n t).map fun parts => (acc.reverse ++ parts.1, parts.2) := by
  induction t generalizing acc n with
  | nil =>
      cases n with
      | zero => simp [splitAtByteAux]
      | succ n => rfl
  | cons c t ih =>
      cases n with
      | zero => simp [splitAtByteAux]
      | succ n =>
          rw [splitAtByteAux, splitAtByteAux]
          split
          · rw [ih (c :: acc), ih [c], Option.map_map]
            congr 1
            funext parts
            simp
          · rfl

/-- A cut past a beginning of the text. -/
theorem splitAtByte?_add (s t : Text) (n : Nat) :
    splitAtByte? (byteLength s + n) (s ++ t)
      = (splitAtByte? n t).map fun parts => (s ++ parts.1, parts.2) := by
  induction s with
  | nil =>
      rw [Text.byteLength_nil, Nat.zero_add, List.nil_append]
      simp
  | cons c s ih =>
      have hc := Char.utf8Size_pos c
      obtain ⟨k, hk⟩ : ∃ k, byteLength (c :: s) + n = k + 1 :=
        ⟨byteLength (c :: s) + n - 1, by rw [Text.byteLength_cons]; omega⟩
      have hle : c.utf8Size ≤ k + 1 := by rw [← hk, Text.byteLength_cons]; omega
      -- What is left of the place after the first character.
      have hrest : k + 1 - c.utf8Size = byteLength s + n := by
        rw [← hk, Text.byteLength_cons]
        omega
      rw [splitAtByte?, hk, List.cons_append, splitAtByteAux, if_pos hle, hrest,
        splitAtByteAux_eq_map]
      show ((splitAtByte? (byteLength s + n) (s ++ t)).map _) = _
      rw [ih, Option.map_map]
      rfl

/-- Text that ends before the next splice begins is kept. -/
theorem applySplicesAux_keep (acc kept rest : Text) (cursor : Nat) {ss : List Splice}
    (h : ∀ x ∈ ss.head?, cursor + byteLength kept ≤ x.start) :
    applySplicesAux acc cursor (kept ++ rest) ss
      = applySplicesAux (kept.reverse ++ acc) (cursor + byteLength kept) rest ss := by
  cases ss with
  | nil => simp [applySplicesAux]
  | cons x ss =>
      have hx : cursor + byteLength kept ≤ x.start := h x rfl
      have hsub : x.start - cursor = byteLength kept + (x.start - (cursor + byteLength kept)) := by
        omega
      have hinside : (cursor ≤ x.start ∧ x.start ≤ x.stop) ↔
          (cursor + byteLength kept ≤ x.start ∧ x.start ≤ x.stop) := by
        omega
      have hguard : (guard (cursor ≤ x.start ∧ x.start ≤ x.stop) : Option Unit)
          = guard (cursor + byteLength kept ≤ x.start ∧ x.start ≤ x.stop) :=
        if_congr hinside rfl rfl
      rw [applySplicesAux, applySplicesAux, hsub, splitAtByte?_add, hguard]
      cases splitAtByte? (x.start - (cursor + byteLength kept)) rest with
      | none => rfl
      | some parts => simp

/-- The splice at the cursor is carried out. -/
theorem applySplicesAux_replace (acc old new rest : Text) (cursor : Nat) (ss : List Splice) :
    applySplicesAux acc cursor (old ++ rest) (⟨cursor, cursor + byteLength old, new⟩ :: ss)
      = applySplicesAux (new.reverse ++ acc) (cursor + byteLength old) rest ss := by
  have hzero : splitAtByte? 0 (old ++ rest) = some ([], old ++ rest) := by
    rw [splitAtByte?, splitAtByteAux]
    rfl
  have hle : cursor ≤ cursor ∧ cursor ≤ cursor + byteLength old := by omega
  have hguard : (guard (cursor ≤ cursor ∧ cursor ≤ cursor + byteLength old) : Option Unit)
      = some () := if_pos hle
  rw [applySplicesAux]
  show (guard (cursor ≤ cursor ∧ cursor ≤ cursor + byteLength old) >>= _) = _
  rw [hguard]
  simp only [Nat.sub_self, hzero, Nat.add_sub_cancel_left, Text.splitAtByte?_append,
    Option.bind_eq_bind, Option.bind_some, List.reverse_nil, List.nil_append]

/-! ### In order -/

/-- The order of splices can be chained. -/
theorem before_trans (a b c : Splice) (hab : a.before b = true) (hbc : b.before c = true) :
    a.before c = true := by
  simp only [Splice.before, Bool.or_eq_true, Bool.and_eq_true, decide_eq_true_eq,
    beq_iff_eq] at *
  omega

/-- Of two splices one comes first. -/
theorem before_total (a b : Splice) : (a.before b || b.before a) = true := by
  simp only [Splice.before, Bool.or_eq_true, Bool.and_eq_true, decide_eq_true_eq, beq_iff_eq]
  omega

/-- Splices that begin at different places are applied in the order of
these places, in whatever order they are given. -/
theorem applySplices?_eq_of_perm (source : Text) {splices sorted : List Splice}
    (hperm : splices.Perm sorted) (hsorted : sorted.Pairwise fun a b => a.start < b.start) :
    applySplices? source splices = applySplicesAux [] 0 source sorted := by
  have hnodup : (sorted.map Splice.start).Nodup := by
    rw [List.Nodup, List.pairwise_map]
    exact hsorted.imp fun hlt => Nat.ne_of_lt hlt
  have hbefore : sorted.Pairwise fun a b => a.before b = true := by
    refine hsorted.imp fun {a b} hlt => ?_
    rw [Splice.before, Bool.or_eq_true, decide_eq_true_eq]
    exact Or.inl hlt
  -- Two sorted lists of the same splices are one.
  have hsort : splices.mergeSort Splice.before = sorted := by
    refine List.Perm.eq_of_pairwise ?_ (List.pairwise_mergeSort before_trans before_total splices)
      hbefore ((List.mergeSort_perm _ _).trans hperm)
    intro a b ha hb hab hba
    -- Both come before the other one, so they begin at one place.
    refine List.inj_on_of_nodup_map hnodup (hperm.subset (List.mem_mergeSort.mp ha)) hb ?_
    simp only [Splice.before, Bool.or_eq_true, Bool.and_eq_true, decide_eq_true_eq,
      beq_iff_eq] at hab hba
    omega
  rw [applySplices?, hsort]

/-! ### Line by line -/

/-- The splices that carry out changes, in the order of the directives. A
value is given only to the first directive of its key. -/
def lineSplices : List (Text × Option Text) → List Directive → List Splice
  | _, [] => []
  | changes, d :: ds =>
    match changes.lookup d.key with
    | none => lineSplices changes ds
    | some none => ⟨d.line.start, d.line.next, []⟩ :: lineSplices changes ds
    | some (some value) =>
      ⟨d.valueStart, d.valueStop, if d.hasSeparator then value else ' ' :: value⟩ ::
        lineSplices (changes.filter fun e => e.1 != d.key) ds

/-- A change of another key has nothing to do with a directive. -/
theorem changeSplices_cons_of_ne {e : Text × Option Text} {d : Directive} (h : d.key ≠ e.1)
    (ds : List Directive) : changeSplices (d :: ds) e = changeSplices ds e := by
  obtain ⟨key, value⟩ := e
  have hbeq : (d.key == key) = false := beq_eq_false_iff_ne.mpr h
  cases value with
  | none => simp only [changeSplices, List.filter_cons, hbeq, Bool.false_eq_true, if_false]
  | some value => simp only [changeSplices, List.find?_cons, hbeq]

/-- A removal cuts out the line of every directive of its key. -/
theorem changeSplices_cons_none (d : Directive) (ds : List Directive) :
    changeSplices (d :: ds) (d.key, none)
      = ⟨d.line.start, d.line.next, []⟩ :: changeSplices ds (d.key, none) := by
  simp only [changeSplices, List.filter_cons, beq_self_eq_true, if_true, List.map_cons]

/-- A new value replaces that of the first directive of its key. -/
theorem changeSplices_cons_some (d : Directive) (ds : List Directive) (value : Text) :
    changeSplices (d :: ds) (d.key, some value)
      = [⟨d.valueStart, d.valueStop, if d.hasSeparator then value else ' ' :: value⟩] := by
  simp only [changeSplices, List.find?_cons, beq_self_eq_true]

/-- Changes of distinct keys, key by key or line by line, make the same
splices. -/
theorem lineSplices_perm (changes : List (Text × Option Text)) (ds : List Directive)
    (hkeys : (changes.map Prod.fst).Nodup) :
    (changes.flatMap (changeSplices ds)).Perm (lineSplices changes ds) := by
  induction ds generalizing changes with
  | nil =>
      have hnil : changes.flatMap (changeSplices []) = [] := by
        rw [List.flatMap_eq_nil_iff]
        rintro ⟨key, value⟩ -
        cases value with
        | none => rfl
        | some value => rfl
      rw [hnil, lineSplices]
  | cons d ds ih =>
      -- Only the change of its own key sees the directive.
      have hother : ∀ es : List (Text × Option Text), (∀ e ∈ es, d.key ≠ e.1) →
          es.flatMap (changeSplices (d :: ds)) = es.flatMap (changeSplices ds) :=
        fun es h => List.flatMap_congr fun e he => changeSplices_cons_of_ne (h e he) ds
      rw [lineSplices]
      cases hlookup : changes.lookup d.key with
      | none =>
          rw [hother changes fun e he => bne_iff_ne.mp (List.lookup_eq_none_iff.mp hlookup e he)]
          exact ih changes hkeys
      | some change =>
          -- The change of this key stands between those of other keys.
          obtain ⟨es, fs, rfl, hes⟩ := List.lookup_eq_some_iff.mp hlookup
          have hne : ∀ e ∈ es ++ fs, d.key ≠ e.1 := by
            rw [List.map_append, List.map_cons, List.nodup_append, List.nodup_cons] at hkeys
            intro e he
            rcases List.mem_append.mp he with he | he
            · exact bne_iff_ne.mp (hes e he)
            · intro heq
              exact hkeys.2.1.1 (List.mem_map.mpr ⟨e, he, heq.symm⟩)
          have hes' := hother es fun e he => hne e (List.mem_append_left _ he)
          have hfs' := hother fs fun e he => hne e (List.mem_append_right _ he)
          rw [List.flatMap_append, List.flatMap_cons, hes', hfs']
          cases change with
          | none =>
              have hih := ih _ hkeys
              rw [List.flatMap_append, List.flatMap_cons] at hih
              rw [changeSplices_cons_none, List.cons_append]
              exact List.perm_middle.trans (hih.cons _)
          | some value =>
              -- The other keys are left for the directives that follow.
              have hfilter : (es ++ (d.key, some value) :: fs).filter (fun e => e.1 != d.key)
                  = es ++ fs := by
                have hself : ∀ gs : List (Text × Option Text), (∀ e ∈ gs, d.key ≠ e.1) →
                    gs.filter (fun e => e.1 != d.key) = gs :=
                  fun gs h => List.filter_eq_self.mpr fun e he => bne_iff_ne.mpr (h e he).symm
                rw [List.filter_append, List.filter_cons_of_neg (by simp),
                  hself es fun e he => hne e (List.mem_append_left _ he),
                  hself fs fun e he => hne e (List.mem_append_right _ he)]
              have hkeys' : ((es ++ fs).map Prod.fst).Nodup := by
                refine hkeys.sublist (List.Sublist.map _ ?_)
                exact (List.sublist_cons_self _ _).append_left _
              have hih := ih (es ++ fs) hkeys'
              rw [List.flatMap_append] at hih
              rw [changeSplices_cons_some, hfilter, List.singleton_append]
              exact List.perm_middle.trans (hih.cons _)

end ScriptGate.Header
