import ScriptGate.Proofs.Header.Declared
import ScriptGate.Proofs.Header.Unchanged
import ScriptGate.Proofs.Review.FixedPoint

/-!
# `ScriptGate.Proofs.Review.Reported`: changes of the text and corrections

A review changes the text of a candidate and reports corrections. One
would expect that it reports something whenever it changes the text, and
the other way round, apart from a description that was cut off: that one
is not written into the text.

This does not hold. The version that counts is the first one that is not
blank, but a version is always written into the first line of its key. So
a blank version line in front of the declared version is filled, and no
correction says so (`blank_version_is_filled`). A declared namespace, in
contrast, is never written.

`canonical_eq_code_iff` says what does hold: the text stays as it is if
and only if the first version line is not blank and every correction
`LeavesText`. The other corrections that leave the text are those that
inherit an empty namespace where an empty one is declared.

The edits of a review are tidy, so what they leave alone is known line by
line. It is compared with the corrections ruling by ruling.
-/

set_option autoImplicit false

namespace ScriptGate.Review

open Header (Directive Edits Layout Metadata directives namespaceKey versionKey)

/-! ### Values that a header gives -/

/-- Some header has the value. -/
def IsReadable (v : Text) : Prop := ∃ source, ∃ d ∈ directives source, d.value = v

/-- It is on a line of this header. -/
theorem IsReadable.writable {v : Text} (h : IsReadable v) : Header.Writable v := by
  obtain ⟨source, d, hd, rfl⟩ := h
  cases hlocate : Header.locate source with
  | none =>
      rw [directives, hlocate] at hd
      cases hd
  | some span =>
      obtain ⟨l, rfl⟩ := Header.exists_layout hlocate
      rw [l.directives_text] at hd
      obtain ⟨as, c, bs, hinner, hread, -⟩ := Header.exists_of_mem_placed hd
      have hc : c ∈ l.inner := by
        rw [hinner]
        exact List.mem_append_right _ List.mem_cons_self
      exact Header.writable_of_pair? (l.isLine_inner hc) (Header.pair?_of_read? hread)

/-- The directives of a text follow the grammar. -/
theorem wellFormed_of_mem {source : Text} {d : Directive} (hd : d ∈ directives source) :
    d.toDirectiveText.WellFormed :=
  Header.DirectiveText.wellFormed_of_read? (Header.read?_of_mem_directives hd)

/-- A blank value of a directive is empty, since what is blank belongs to
the separator. -/
theorem value_eq_nil {source : Text} {d : Directive} (hd : d ∈ directives source)
    (hblank : Text.allBlank d.value = true) : d.value = [] := by
  cases hvalue : d.value with
  | nil => rfl
  | cons c v =>
      have hc := (wellFormed_of_mem hd).value c (by rw [hvalue]; rfl)
      rw [Text.allBlank, hvalue, List.all_cons, hc] at hblank
      cases hblank

/-- The strings of a previous revision that a review may write. -/
structure Previous.IsReadable (before : Previous) : Prop where
  version : Review.IsReadable before.version
  namespaceName : ∀ n, before.namespaceName = some n → Review.IsReadable n

/-- The first directive of a key. -/
def firstDirective? (source key : Text) : Option Directive :=
  (directives source).find? fun d => d.key == key

section First

variable {source key : Text} {d : Directive}

/-- The first directive of a key is one of the directives. -/
theorem mem_of_firstDirective? (h : firstDirective? source key = some d) : d ∈ directives source :=
  List.mem_of_find?_eq_some h

/-- The first value of a key is that of its first directive. -/
theorem head?_all (source key : Text) :
    ((Metadata.ofSource source).all key).head?
      = (firstDirective? source key).map fun d => d.value := by
  show ((Metadata.ofPairs (Header.declared source)).all key).head? = _
  rw [Header.all_ofPairs, ← Header.lookup_eq_head?_valuesOf, Header.lookup_declared]
  rfl

/-- A key has a directive if the header knows it. -/
theorem contains_iff :
    (Metadata.ofSource source).contains key = true ↔ ∃ d, firstDirective? source key = some d := by
  show (Metadata.ofPairs (Header.declared source)).contains key = true ↔ _
  rw [Header.contains_ofPairs, ne_eq, ← List.head?_eq_none_iff, ← Header.lookup_eq_head?_valuesOf,
    Header.lookup_declared, Option.map_eq_none_iff, ← ne_eq, Option.ne_none_iff_exists']
  rfl

/-- The first value counts unless it is blank. -/
theorem firstNonBlank_of_firstDirective? (h : firstDirective? source key = some d)
    (hvalue : Text.allBlank d.value = false) :
    (Metadata.ofSource source).firstNonBlank key = some d.value :=
  firstNonBlank_of_head? (by rw [head?_all, h]; rfl) hvalue

/-- Where no value of a key counts, the first one is empty. -/
theorem value_eq_nil_of_firstNonBlank (h : firstDirective? source key = some d)
    (hnone : (Metadata.ofSource source).firstNonBlank key = none) : d.value = [] := by
  refine value_eq_nil (mem_of_firstDirective? h) ?_
  rw [← Bool.not_eq_false]
  intro hvalue
  rw [firstNonBlank_of_firstDirective? h hvalue] at hnone
  cases hnone

end First

/-! ### Corrections -/

/-- The first version line has a version. -/
def VersionComesFirst (source : Text) : Prop :=
  ∃ d, firstDirective? source versionKey = some d ∧ Text.allBlank d.value = false

/-- A correction that writes nothing into the text: of a description, or of
a namespace that is empty before and after. -/
def Correction.LeavesText (source : Text) : Correction → Prop
  | descriptionTruncated _ => True
  | namespaceInherited n =>
    n = [] ∧ ∃ d, firstDirective? source namespaceKey = some d ∧ d.hasSeparator = true
  | _ => False

/-! ### The version -/

/-- A successor has a dot. -/
theorem allBlank_next (v : Text) : Text.allBlank (Version.next v) = false := by
  have hdot : '.' ∈ Version.next v := by
    rcases Version.next_cases v with ⟨k, hk⟩ | ⟨u, s, -, hn⟩
    · rw [hk]
      exact List.mem_append_right _ List.mem_cons_self
    · rw [hn]
      exact List.mem_append_right _ List.mem_cons_self
  rw [Text.allBlank, List.all_eq_false]
  exact ⟨'.', hdot, by decide⟩

section Version

variable {c : Candidate} {previous : Option Previous} {m : Metadata} {v : Text}

/-- What is settled as a version fits into a line and is not blank. -/
theorem settleVersion_visible (hdeclared : ∀ v, m.firstNonBlank versionKey = some v → '\n' ∉ v)
    (hprevious : ∀ before, previous = some before → '\n' ∉ before.version)
    (h : (settleVersion m c previous).value = some v) : '\n' ∉ v ∧ Text.allBlank v = false := by
  refine settleVersion_induction (Q := fun v => '\n' ∉ v ∧ Text.allBlank v = false)
    (fun v hv => ⟨hdeclared v hv, ?_⟩) ?_ (fun before hbefore => ⟨fun hmem => ?_, allBlank_next _⟩) h
  · have hnot := List.find?_some hv
    rwa [Bool.not_eq_true'] at hnot
  · exact ⟨(isValue_generated _).oneLine, (isValue_generated _).notBlank⟩
  · rcases Version.mem_next hmem with hdigit | hdot | hv
    · exact absurd hdigit (by decide)
    · exact absurd hdot (by decide)
    · exact hprevious before hbefore hv

/-- A version stays as it is if measuring it needs no correction. A raised
one is another one, since it is newer. -/
theorem value_advancedVersion_iff (o : Options) (previous : Option Text) (version : Text) :
    (advancedVersion o previous version).value = some version ↔
      (advancedVersion o previous version).corrections = [] := by
  cases previous with
  | none => exact iff_of_true rfl rfl
  | some before =>
      rw [advancedVersion]
      split
      · exact iff_of_true rfl rfl
      · rename_i hold
        split
        · refine iff_of_false (fun heq => hold ?_) (List.cons_ne_nil _ _)
          rw [← Option.some.inj heq, Version.isNewer_next_self, Bool.true_or]
        · exact iff_of_true rfl rfl

/-- No correction of a version leaves the text. -/
theorem not_leavesText_of_settleVersion (source : Text) {x : Correction}
    (h : x ∈ (settleVersion m c previous).corrections) : ¬ x.LeavesText source := by
  -- A version that is raised is written.
  have hmeasured : ∀ before version,
      x ∈ (advancedVersion c.options before version).corrections → ¬ x.LeavesText source := by
    intro before version hx
    cases before with
    | none => cases hx
    | some before =>
        rw [advancedVersion] at hx
        split at hx
        · cases hx
        · split at hx
          · rw [List.mem_singleton.mp hx]
            exact id
          · cases hx
  cases hd : m.firstNonBlank versionKey with
  | some declared =>
      rw [settleVersion_of_declared hd] at h
      exact hmeasured _ declared h
  | none =>
      cases hmake : c.options.addMissingVersion ||
          (previous.map Previous.version).any Version.isGenerated with
      | true =>
          rw [settleVersion_of_made hd hmake] at h
          rcases List.mem_cons.mp h with rfl | h
          · exact id
          · exact hmeasured _ _ h
      | false =>
          rw [settleVersion_of_missing hd hmake] at h
          cases h

/-- The first version line has the settled version if it has one at all
and nothing was corrected. -/
theorem version_stays_iff {source : Text} (hnot : Text.allBlank v = false)
    (h : (settleVersion (Metadata.ofSource source) c previous).value = some v) :
    (∃ d, firstDirective? source versionKey = some d ∧ d.value = v) ↔
      VersionComesFirst source ∧
        (settleVersion (Metadata.ofSource source) c previous).corrections = [] := by
  -- Where the first line has a version, this one is measured.
  have hdeclared : ∀ d, firstDirective? source versionKey = some d →
      Text.allBlank d.value = false →
      (d.value = v ↔ (settleVersion (Metadata.ofSource source) c previous).corrections = []) := by
    intro d hd hvalue
    have hsettled :=
      settleVersion_of_declared (firstNonBlank_of_firstDirective? hd hvalue) c previous
    rw [hsettled] at h ⊢
    rw [← value_advancedVersion_iff, h, Option.some.injEq]
    exact eq_comm
  constructor
  · rintro ⟨d, hd, rfl⟩
    exact ⟨⟨d, hd, hnot⟩, (hdeclared d hd hnot).mp rfl⟩
  · rintro ⟨⟨d, hd, hvalue⟩, hcorrections⟩
    exact ⟨d, hd, (hdeclared d hd hvalue).mpr hcorrections⟩

end Version

/-! ### The namespace -/

section Namespace

variable {p : Policy} {c : Candidate} {previous : Option Previous} {m : Metadata} {n : Text}

/-- A namespace that is not declared comes from a correction. -/
theorem corrections_of_undeclared (hnone : m.firstNonBlank namespaceKey = none)
    (h : (settleNamespace p m c previous).value = some n) :
    (settleNamespace p m c previous).corrections = [.namespaceInherited n] ∨
      n = defaultNamespace p.namespaceBase c.owner ∧
        (settleNamespace p m c previous).corrections = [.namespaceDefaulted n] := by
  simp only [settleNamespace, namespaceOrigin, hnone, resolveNamespace] at h ⊢
  cases hbefore : previous.bind Previous.namespaceName with
  | some before =>
      simp only [hbefore] at h ⊢
      exact Or.inl (by rw [← Option.some.inj h]; rfl)
  | none =>
      simp only [hbefore] at h ⊢
      cases hadd : c.options.addMissingNamespace with
      | true =>
          simp only [hadd, if_true] at h ⊢
          rw [← Option.some.inj h]
          exact Or.inr ⟨rfl, rfl⟩
      | false =>
          simp only [hadd, Bool.false_eq_true, if_false] at h
          cases h

/-- A default namespace is never empty. -/
theorem defaultNamespace_ne_nil (base : Text) (owner : Nat) : defaultNamespace base owner ≠ [] := by
  intro hnil
  rw [defaultNamespace, List.append_eq_nil_iff, List.append_eq_nil_iff] at hnil
  exact absurd hnil.1.2 (by decide)

/-- The default namespace is on one line if the address is. -/
theorem feed_not_mem_defaultNamespace {base : Text} (hbase : '\n' ∉ base) (owner : Nat) :
    '\n' ∉ defaultNamespace base owner := by
  rw [defaultNamespace, List.mem_append, List.mem_append, not_or, not_or, List.mem_reverse]
  refine ⟨⟨fun hmem => hbase ?_, by decide⟩, fun hmem => ?_⟩
  · exact List.mem_reverse.mp ((List.dropWhile_sublist _).subset hmem)
  · exact absurd (isBlank_of_mem_decimal hmem) (by decide)

/-- What is settled as a namespace fits into a line. -/
theorem feed_not_mem_settleNamespace (hbase : '\n' ∉ p.namespaceBase)
    (hdeclared : ∀ n, m.firstNonBlank namespaceKey = some n → '\n' ∉ n)
    (hprevious : ∀ n, previous.bind Previous.namespaceName = some n → '\n' ∉ n)
    (h : (settleNamespace p m c previous).value = some n) : '\n' ∉ n :=
  settleNamespace_induction (Q := fun n => '\n' ∉ n) hdeclared hprevious
    (feed_not_mem_defaultNamespace hbase _) h

/-- The namespace lines stay if every correction of the namespace leaves
the text. -/
theorem namespace_stays_iff {source : Text}
    (h : (settleNamespace p (Metadata.ofSource source) c previous).value = some n) :
    (∃ d, firstDirective? source namespaceKey = some d ∧
        ((Metadata.ofSource source).firstNonBlank namespaceKey = none →
          n = d.value ∧ d.separator ≠ [])) ↔
      ∀ x ∈ (settleNamespace p (Metadata.ofSource source) c previous).corrections,
        x.LeavesText source := by
  cases hdeclared : (Metadata.ofSource source).firstNonBlank namespaceKey with
  | some declared =>
      -- A declared namespace is neither written nor corrected.
      have hcorrections := (declared_of_settleNamespace p c previous hdeclared).2
      refine iff_of_true ?_ (by rw [hcorrections]; exact fun x hx => by cases hx)
      have hhead : ((Metadata.ofSource source).all namespaceKey).head? ≠ none := by
        rw [ne_eq, List.head?_eq_none_iff]
        intro hnil
        rw [Metadata.firstNonBlank, hnil] at hdeclared
        cases hdeclared
      rw [head?_all, ne_eq, Option.map_eq_none_iff] at hhead
      obtain ⟨d, hd⟩ := Option.ne_none_iff_exists'.mp hhead
      exact ⟨d, hd, fun hnone => by cases hnone⟩
  | none =>
      have hempty : ∀ d, firstDirective? source namespaceKey = some d → d.value = [] :=
        fun d hd => value_eq_nil_of_firstNonBlank hd hdeclared
      rcases corrections_of_undeclared hdeclared h with hinherited | ⟨rfl, hdefaulted⟩
      · rw [hinherited]
        simp only [List.mem_singleton, forall_eq, Correction.LeavesText, forall_const,
          Directive.hasSeparator, decide_eq_true_eq]
        constructor
        · rintro ⟨d, hd, rfl, hsep⟩
          exact ⟨hempty d hd, d, hd, hsep⟩
        · rintro ⟨rfl, d, hd, hsep⟩
          exact ⟨d, hd, (hempty d hd).symm, hsep⟩
      · rw [hdefaulted]
        simp only [List.mem_singleton, forall_eq, Correction.LeavesText, forall_const, iff_false,
          not_exists, not_and]
        intro d hd hvalue
        exact absurd (hvalue.trans (hempty d hd)) (defaultNamespace_ne_nil _ _)

end Namespace

/-! ### The text -/

section Text

variable {p : Policy} {source version name : Text}

/-- The edits of a review are tidy. -/
theorem tidy_canonicalEdits (hversion : versionKey ∉ p.forbiddenKeys)
    (hname : namespaceKey ∉ p.forbiddenKeys) (hv : '\n' ∉ version) (hn : '\n' ∉ name) :
    (canonicalEdits p (Metadata.ofSource source) (some version) (some name)).Tidy where
  changes key value h := by
    rcases value_of_change p _ _ _ ((Keyed.mem_entries_iff _ _ _).mpr h) with heq | heq
    · rwa [← Option.some.inj heq]
    · rwa [← Option.some.inj heq]
  additions key value h := by
    rcases (value_of_addition p _ _ _ ((Keyed.mem_entries_iff _ _ _).mpr h)).2 with heq | heq
    · rwa [← Option.some.inj heq]
    · rwa [← Option.some.inj heq]
  keys key value h := key_of_addition p _ _ _ ((Keyed.mem_entries_iff _ _ _).mpr h)
  kept key value h := by
    refine change_ne_none p _ _ _ ?_
    rcases (value_of_addition p _ _ _ ((Keyed.mem_entries_iff _ _ _).mpr h)).1 with rfl | rfl
    · exact hname
    · exact hversion

/-- What a review adds is there if both keys are. -/
theorem additions_present_iff :
    (∀ key value,
        (canonicalEdits p (Metadata.ofSource source) (some version) (some name)).additions.get? key
          = some value → ∃ d, firstDirective? source key = some d) ↔
      (∃ d, firstDirective? source versionKey = some d) ∧
        ∃ d, firstDirective? source namespaceKey = some d := by
  simp only [additions_canonicalEdits]
  constructor
  · intro h
    refine ⟨h versionKey version ?_, h namespaceKey name ?_⟩
    · rw [if_neg (fun hkey => versionKey_ne_namespaceKey hkey.1), if_pos rfl]
    · rw [if_pos ⟨rfl, rfl⟩]
  · rintro ⟨hversion, hname⟩ key value hvalue
    split at hvalue
    · rename_i hkey
      rw [hkey.1]
      exact hname
    · split at hvalue
      · rename_i hkey
        rw [← hkey]
        exact hversion
      · cases hvalue

/-- What a review changes is as it wants it, asked key by key. -/
theorem findsValues_canonicalEdits (hversion : versionKey ∉ p.forbiddenKeys)
    (hname : namespaceKey ∉ p.forbiddenKeys) (hnil : version ≠ []) :
    (canonicalEdits p (Metadata.ofSource source) (some version) (some name)).FindsValues []
        (directives source) ↔
      (∀ d, firstDirective? source versionKey = some d → d.value = version) ∧
      (∀ d, firstDirective? source namespaceKey = some d →
        (Metadata.ofSource source).firstNonBlank namespaceKey = none →
          name = d.value ∧ d.separator ≠ []) ∧
      ∀ key ∈ p.forbiddenKeys, ∀ d, firstDirective? source key ≠ some d := by
  rw [Edits.FindsValues]
  simp only [Edits.due_nil, changes_canonicalEdits]
  constructor
  · intro h
    refine ⟨fun d hd => ?_, fun d hd hnone => ?_, fun key hkey d hd => ?_⟩
    · -- The version is written, so its first line has it.
      have hchange := h versionKey (some version) d (by
        rw [if_neg (fun hkey => versionKey_ne_namespaceKey hkey.1), if_neg hversion, if_pos rfl]
        rfl) hd
      exact (Option.some.inj hchange.1).symm
    · -- The namespace is written where none is declared.
      have hchange := h namespaceKey (some name) d (by
        rw [if_pos ⟨rfl, rfl, by rw [hnone]; rfl⟩]) hd
      exact ⟨Option.some.inj hchange.1, hchange.2⟩
    · have hne : key ≠ namespaceKey := fun heq => hname (heq ▸ hkey)
      cases (h key none d (by rw [if_neg (fun heq => hne heq.1), if_pos hkey]) hd).1
  · rintro ⟨hfirst, hsame, hforbidden⟩ key change d hchange hd
    split at hchange
    · rename_i hkey
      obtain ⟨rfl, -, hnone⟩ := hkey
      obtain ⟨hvalue, hsep⟩ := hsame d hd (Option.isNone_iff_eq_none.mp hnone)
      rw [← Option.some.inj hchange]
      exact ⟨congrArg some hvalue, hsep⟩
    · split at hchange
      · -- A version is not empty, so its line has a separator already.
        rename_i hkey
        exact absurd hd (hforbidden key hkey d)
      · split at hchange
        · rename_i hkey
          subst hkey
          have hvalue := hfirst d hd
          rw [← Option.some.inj hchange]
          refine ⟨congrArg some hvalue.symm, fun hsep => hnil ?_⟩
          rw [← hvalue]
          exact (wellFormed_of_mem (mem_of_firstDirective? hd)).separated hsep
        · cases hchange

/-- The canonical text is the code itself if the first version line has the
version, the namespace lines stay, and there is nothing to remove. -/
theorem canonical_eq_self_iff (hheader : Header.locate source ≠ none)
    (hversion : versionKey ∉ p.forbiddenKeys) (hname : namespaceKey ∉ p.forbiddenKeys)
    (hv : '\n' ∉ version) (hnil : version ≠ []) (hn : '\n' ∉ name) :
    canonical p (Metadata.ofSource source) (some version) (some name) source = source ↔
      (∃ d, firstDirective? source versionKey = some d ∧ d.value = version) ∧
      (∃ d, firstDirective? source namespaceKey = some d ∧
        ((Metadata.ofSource source).firstNonBlank namespaceKey = none →
          name = d.value ∧ d.separator ≠ [])) ∧
      removals p (Metadata.ofSource source) = [] := by
  obtain ⟨span, hspan⟩ := Option.ne_none_iff_exists'.mp hheader
  obtain ⟨l, rfl⟩ := Header.exists_layout hspan
  -- There is nothing to remove if no forbidden key has a line.
  have hremovals : removals p (Metadata.ofSource l.text) = [] ↔
      ∀ key ∈ p.forbiddenKeys, ∀ d, firstDirective? l.text key ≠ some d := by
    rw [removals, List.map_eq_nil_iff, List.filter_eq_nil_iff]
    refine forall₂_congr fun key _ => ?_
    rw [contains_iff, not_exists]
  rw [canonical, l.rewrite_eq_self_iff_of_tidy (tidy_canonicalEdits hversion hname hv hn), hremovals,
    findsValues_canonicalEdits hversion hname hnil]
  refine (and_congr_right' additions_present_iff).trans ?_
  constructor
  · rintro ⟨⟨hfirst, hsame, hforbidden⟩, ⟨d, hd⟩, d', hd'⟩
    exact ⟨⟨d, hd, hfirst d hd⟩, ⟨d', hd', hsame d' hd'⟩, hforbidden⟩
  · rintro ⟨⟨d, hd, hfirst⟩, ⟨d', hd', hsame⟩, hforbidden⟩
    refine ⟨⟨fun x hx => ?_, fun x hx => ?_, hforbidden⟩, ⟨d, hd⟩, d', hd'⟩
    · rw [← Option.some.inj (hd.symm.trans hx)]
      exact hfirst
    · rw [← Option.some.inj (hd'.symm.trans hx)]
      exact hsame

end Text

/-- A declared value is on one line. -/
theorem feed_not_mem_declared {source key v : Text} (hheader : Header.locate source ≠ none)
    (h : (Metadata.ofSource source).firstNonBlank key = some v) : '\n' ∉ v := by
  obtain ⟨span, hspan⟩ := Option.ne_none_iff_exists'.mp hheader
  obtain ⟨l, rfl⟩ := Header.exists_layout hspan
  rw [l.ofSource_text] at h
  exact (declarable_of_declared h).oneLine

/-- All corrections leave the text if there are none of the version and of
forbidden directives, and those of the namespace leave it. -/
theorem forall_leavesText_iff {p : Policy} {checks : Checks} {c : Candidate}
    {previous : Option Previous} {source : Text} :
    (∀ x ∈ (judge p checks c previous).corrections, x.LeavesText source) ↔
      (settleVersion (Metadata.ofSource c.code) c previous).corrections = [] ∧
      (∀ x ∈ (settleNamespace p (Metadata.ofSource c.code) c previous).corrections,
        x.LeavesText source) ∧
      removals p (Metadata.ofSource c.code) = [] := by
  simp only [judge, List.forall_mem_append]
  constructor
  · rintro ⟨⟨⟨hversion, hnamespace⟩, -⟩, hremovals⟩
    refine ⟨List.eq_nil_iff_forall_not_mem.mpr fun x hx =>
      not_leavesText_of_settleVersion _ hx (hversion x hx), hnamespace,
      List.eq_nil_iff_forall_not_mem.mpr fun x hx => ?_⟩
    have hleaves := hremovals x hx
    obtain ⟨key, -, rfl⟩ := List.mem_map.mp hx
    exact hleaves
  · rintro ⟨hversion, hnamespace, hremovals⟩
    rw [hversion, hremovals]
    refine ⟨⟨⟨fun x hx => (by cases hx), hnamespace⟩, fun x hx => ?_⟩, fun x hx => (by cases hx)⟩
    rw [correction_of_settleDescription hx]
    exact trivial

/-- **Reported changes.** The text of an accepted candidate stays as it is
if and only if its first version line is not blank and no correction
writes into the text. -/
theorem canonical_eq_code_iff (p : Policy) (checks : Checks) (c : Candidate)
    (previous : Option Previous) (hversion : versionKey ∉ p.forbiddenKeys)
    (hname : namespaceKey ∉ p.forbiddenKeys) (hbase : '\n' ∉ p.namespaceBase)
    (hprevious : ∀ before, previous = some before → before.IsReadable)
    (haccepted : (review p checks c previous).isAccepted = true) :
    (review p checks c previous).canonical = c.code ↔
      VersionComesFirst c.code ∧
        ∀ x ∈ (review p checks c previous).corrections, x.LeavesText c.code := by
  rcases review_cases p checks c previous with ⟨-, hr⟩ | ⟨⟨span, hspan⟩, hr⟩
  · rw [hr] at haccepted
    cases haccepted
  · rw [hr] at haccepted ⊢
    have hheader : Header.locate c.code ≠ none := by
      rw [hspan]
      exact Option.some_ne_none _
    have hpasses := (isAccepted_judge_iff p checks c previous).mp haccepted
    -- Both values are settled, and they fit into a line.
    obtain ⟨version, hv, -⟩ := settleVersion_of_accepted hpasses.version
    obtain ⟨name, hn, -⟩ := settleNamespace_of_accepted hpasses.namespaceName
    obtain ⟨hvfeed, hvisible⟩ := settleVersion_visible
      (fun _ => feed_not_mem_declared hheader)
      (fun before hbefore => (hprevious before hbefore).version.writable.oneLine) hv
    have hnfeed : '\n' ∉ name := by
      refine feed_not_mem_settleNamespace hbase (fun _ => feed_not_mem_declared hheader)
        (fun n hbefore => ?_) hn
      obtain ⟨before, hsome, hname⟩ := Option.bind_eq_some_iff.mp hbefore
      exact ((hprevious before hsome).namespaceName n hname).writable.oneLine
    have hnil : version ≠ [] := by
      rintro rfl
      cases hvisible
    rw [forall_leavesText_iff]
    show canonical p (Metadata.ofSource c.code)
      (settleVersion (Metadata.ofSource c.code) c previous).value
      (settleNamespace p (Metadata.ofSource c.code) c previous).value c.code = c.code ↔ _
    rw [hv, hn, canonical_eq_self_iff hheader hversion hname hvfeed hnil hnfeed,
      version_stays_iff hvisible hv, namespace_stays_iff hn, and_assoc]

/-- A candidate with this header, submitted without wishes but for
corrections. -/
def headed (header : String) : Candidate where
  code := ("// ==UserScript==\n" ++ header ++ "// ==/UserScript==\nf();\n").toList
  kind := .userScript
  authors := [1]
  owner := 1
  displayName := none
  options := { lenient := true }
  submittedAt := .ofSeconds 0

/-- A description that is cut off is not written. -/
def wordyCandidate : Candidate :=
  headed "// @name n\n// @description dd\n// @namespace s\n// @version 2\n"

/-- A policy with no patience for descriptions. -/
def tersePolicy : Policy := { Policy.standard with descriptionLimit := 1 }

/-- The previous revision has strings that headers give. -/
theorem isReadable_acceptedBefore : acceptedBefore.IsReadable where
  version :=
    ⟨(headed "// @version 1.9\n").code, ⟨⟨versionKey, [' '], "1.9".toList⟩,
      ⟨18, "// @version 1.9".toList, ['\n']⟩⟩, by decide +kernel, rfl⟩
  namespaceName := by
    rintro _ ⟨⟩
    exact ⟨(headed "// @namespace s\n").code, ⟨⟨namespaceKey, [' '], "s".toList⟩,
      ⟨18, "// @namespace s".toList, ['\n']⟩⟩, by decide +kernel, rfl⟩

/-- The text stays with a correction that does not write. -/
theorem canonical_eq_code_iff_wordy :
    versionKey ∉ tersePolicy.forbiddenKeys ∧ namespaceKey ∉ tersePolicy.forbiddenKeys ∧
    '\n' ∉ tersePolicy.namespaceBase ∧ acceptedBefore.IsReadable ∧
    (review tersePolicy easyChecks wordyCandidate (some acceptedBefore)).isAccepted = true ∧
    (review tersePolicy easyChecks wordyCandidate (some acceptedBefore)).corrections
      = [.descriptionTruncated 1] ∧
    (review tersePolicy easyChecks wordyCandidate (some acceptedBefore)).canonical
      = wordyCandidate.code := by
  have hversion : versionKey ∉ tersePolicy.forbiddenKeys := by decide +kernel
  have hname : namespaceKey ∉ tersePolicy.forbiddenKeys := by decide +kernel
  have hbase : '\n' ∉ tersePolicy.namespaceBase := by decide +kernel
  have haccepted :
      (review tersePolicy easyChecks wordyCandidate (some acceptedBefore)).isAccepted = true := by
    decide +kernel
  have hcorrections :
      (review tersePolicy easyChecks wordyCandidate (some acceptedBefore)).corrections
        = [.descriptionTruncated 1] := by
    decide +kernel
  have hfirst : VersionComesFirst wordyCandidate.code :=
    ⟨⟨⟨versionKey, [' '], "2".toList⟩, ⟨64, "// @version 2".toList, ['\n']⟩⟩, by decide +kernel,
      by decide +kernel⟩
  refine ⟨hversion, hname, hbase, isReadable_acceptedBefore, haccepted, hcorrections,
    (canonical_eq_code_iff tersePolicy easyChecks wordyCandidate (some acceptedBefore) hversion hname
      hbase (by rintro _ ⟨⟩; exact isReadable_acceptedBefore) haccepted).mpr ⟨hfirst, ?_⟩⟩
  rw [hcorrections]
  rintro x hx
  rw [List.mem_singleton.mp hx]
  exact trivial

/-- A candidate with a blank version line in front of its version. -/
def hesitantCandidate : Candidate :=
  headed "// @name n\n// @description d\n// @namespace s\n// @version\n// @version 1\n"

/-- The same candidate with the blank line filled. -/
def filledCandidate : Candidate :=
  headed "// @name n\n// @description d\n// @namespace s\n// @version 1\n// @version 1\n"

/-- The blank line is filled, and the review does not say so. -/
theorem blank_version_is_filled :
    Header.locate hesitantCandidate.code ≠ none ∧
    versionKey ∉ Policy.standard.forbiddenKeys ∧ namespaceKey ∉ Policy.standard.forbiddenKeys ∧
    (review .standard easyChecks hesitantCandidate none).isAccepted = true ∧
    (review .standard easyChecks hesitantCandidate none).corrections = [] ∧
    (review .standard easyChecks hesitantCandidate none).canonical = filledCandidate.code ∧
    (review .standard easyChecks hesitantCandidate none).canonical ≠ hesitantCandidate.code := by
  have hheader : Header.locate hesitantCandidate.code ≠ none := by decide +kernel
  have hcanonical : (review .standard easyChecks hesitantCandidate none).canonical
      = filledCandidate.code := by
    rw [review_eq_judge .standard easyChecks hheader]
    simp only [judge, canonical, Header.rewrite_eq_rewriteLines]
    decide +kernel
  refine ⟨hheader, by decide +kernel, by decide +kernel, by decide +kernel, by decide +kernel,
    hcanonical, ?_⟩
  rw [hcanonical]
  decide +kernel

end ScriptGate.Review
