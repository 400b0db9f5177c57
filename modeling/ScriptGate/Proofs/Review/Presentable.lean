import ScriptGate.Proofs.Review.Ruling
import ScriptGate.Proofs.Review.Values

/-!
# `ScriptGate.Proofs.Review.Presentable`: there is something to read

Version, namespace, name and description of an accepted candidate each
have a character that is not white space, and the description keeps the
limit. `presentable_of_accepted` says so under any policy whose limit is
not zero, if the previous revision is such a one.

Each value has several origins. A declared one is not blank because the
review skips blank ones, a typed name because it was trimmed, and what
the review makes itself has digits or a dot in it (`visible_next` and its
neighbours). The description is the one that needs more: it may be cut
off, and what is left is visible only because a description does not
begin with white space. A declared one does not, since the header grammar
gives that white space to the separator, and what is inherited or cut off
begins as it did. So `Previous.Presentable` says this of the description,
and the induction over the revisions carries it.
-/

set_option autoImplicit false

namespace ScriptGate.Review

open Header (Metadata descriptionKey nameKey namespaceKey versionKey)
open Text (allBlank isBlank)

/-! ### Visible texts -/

/-- A text with a character that is not white space. -/
def Visible (t : Text) : Prop := ∃ c ∈ t, isBlank c = false

/-- A text that begins with such a character. -/
def BeginsVisibly (t : Text) : Prop := ∃ c, t.head? = some c ∧ isBlank c = false

/-- A text is visible if and only if it is not blank. -/
theorem visible_iff {t : Text} : Visible t ↔ allBlank t = false := by
  rw [Visible, allBlank, List.all_eq_false]
  simp only [Bool.not_eq_true]

/-- A text that begins visibly is visible. -/
theorem BeginsVisibly.visible {t : Text} (h : BeginsVisibly t) : Visible t := by
  obtain ⟨c, hhead, hc⟩ := h
  exact ⟨c, List.mem_of_mem_head? hhead, hc⟩

/-- What is left of a text that is cut off begins as it did. -/
theorem BeginsVisibly.take {t : Text} (h : BeginsVisibly t) {n : Nat} (hn : 1 ≤ n) :
    BeginsVisibly (t.take n) := by
  obtain ⟨c, hhead, hc⟩ := h
  refine ⟨c, ?_, hc⟩
  rw [List.head?_take, if_neg (by omega)]
  exact hhead

/-- What trimming leaves is visible, if it leaves anything. -/
theorem visible_trim {t : Text} (h : Text.trim t ≠ []) : Visible (Text.trim t) := by
  rw [Text.trim, Text.trimEnd] at h ⊢
  have hne : (Text.trimStart t).reverse.dropWhile isBlank ≠ [] :=
    fun hnil => h (by rw [hnil, List.reverse_nil])
  obtain ⟨c, rest, hcons⟩ := List.exists_cons_of_ne_nil hne
  -- The last character that is left is one where trimming stopped.
  have hc : isBlank c = false := Header.head?_dropWhile (by rw [hcons, List.head?_cons])
  exact ⟨c, by rw [hcons]; exact List.mem_reverse.mpr List.mem_cons_self, hc⟩

/-- A declared value begins visibly: what comes before it belongs to the
separator. -/
theorem beginsVisibly_of_declared {code : Text} (hheader : Header.locate code ≠ none) {key v : Text}
    (h : (Metadata.ofSource code).firstNonBlank key = some v) : BeginsVisibly v := by
  obtain ⟨span, hspan⟩ := Option.ne_none_iff_exists'.mp hheader
  obtain ⟨l, rfl⟩ := Header.exists_layout hspan
  rw [l.ofSource_text] at h
  exact head_of_declarable (declarable_of_declared h)

/-- A version has at least a digit or a dot after it was counted up. -/
theorem visible_next (v : Text) : Visible (Version.next v) := by
  have hdot : ('.' : Char) ∈ Version.next v := by
    rcases Version.next_cases v with ⟨k, hk⟩ | ⟨u, s, -, hn⟩
    · rw [hk]
      exact List.mem_append_right _ List.mem_cons_self
    · rw [hn]
      exact List.mem_append_right _ List.mem_cons_self
  exact ⟨'.', hdot, by decide⟩

/-- A version from the clock is visible. -/
theorem visible_generated (t : Instant) : Visible (Version.generated t) :=
  visible_iff.mpr (isValue_generated t).notBlank

/-- The slashes of a default namespace are visible, whatever the address. -/
theorem visible_defaultNamespace (base : Text) (owner : Nat) :
    Visible (defaultNamespace base owner) := by
  refine ⟨'/', ?_, by decide⟩
  rw [defaultNamespace]
  exact List.mem_append_left _ (List.mem_append_right _ List.mem_cons_self)

/-! ### The name and the description -/

/-- What is true of the declared name, of a typed one and of the previous
one is true of the settled one. -/
theorem settleName_induction {Q : Text → Prop} {m : Metadata} {c : Candidate}
    {previous : Option Previous} (hdeclared : ∀ n, m.firstNonBlank nameKey = some n → Q n)
    (htyped : ∀ n, typedName c = some n → Q n)
    (hprevious : ∀ n, previous.bind Previous.name = some n → Q n) {n : Text}
    (h : settleName m c previous = some n) : Q n := by
  rw [settleName, Option.or_eq_some_iff, Option.or_eq_some_iff] at h
  rcases h with (h | ⟨-, h⟩) | ⟨-, h⟩
  · exact hdeclared n h
  · exact htyped n h
  · exact hprevious n h

/-- A typed name was trimmed, and an empty one does not count. -/
theorem visible_typedName {c : Candidate} {n : Text} (h : typedName c = some n) : Visible n := by
  rw [typedName] at h
  cases hkind : c.kind with
  | userScript =>
      rw [hkind] at h
      cases h
  | library =>
      rw [hkind] at h
      obtain ⟨hmap, hne⟩ := Option.filter_eq_some_iff.mp h
      obtain ⟨typed, -, rfl⟩ := Option.map_eq_some_iff.mp hmap
      refine visible_trim fun hnil => ?_
      rw [hnil] at hne
      cases hne

/-- The description of an accepted review is within the limit. It is the
declared or the previous one, perhaps cut off. -/
theorem settleDescription_of_accepted {p : Policy} {m : Metadata} {o : Options}
    {previous : Option Previous} (h : (settleDescription p m o previous).failures = []) {d : Text}
    (hd : (settleDescription p m o previous).value = some d) :
    d.length ≤ p.descriptionLimit ∧
      ∃ whole, (m.firstNonBlank descriptionKey).or (previous.bind Previous.description)
          = some whole ∧ (d = whole ∨ d = whole.take p.descriptionLimit) := by
  rw [settleDescription] at h hd
  cases hw : (m.firstNonBlank descriptionKey).or (previous.bind Previous.description) with
  | none =>
      rw [hw] at hd
      cases hd
  | some whole =>
      simp only [hw] at h hd
      split at h
      · rename_i hle
        rw [if_pos hle] at hd
        cases hd
        exact ⟨hle, _, rfl, Or.inl rfl⟩
      · rename_i hlong
        split at h
        · rename_i hlenient
          rw [if_neg hlong, if_pos hlenient] at hd
          cases hd
          exact ⟨List.length_take_le _ _, _, rfl, Or.inr rfl⟩
        · cases h

/-! ### Accepted reviews -/

/-- What a record says can be read, and its description is within the
limit. -/
structure Previous.Presentable (limit : Nat) (r : Previous) : Prop where
  version : Visible r.version
  namespaceName : ∃ n, r.namespaceName = some n ∧ Visible n
  name : ∃ n, r.name = some n ∧ Visible n
  description : ∃ d, r.description = some d ∧ BeginsVisibly d ∧ d.length ≤ limit

/-- **Accepted values.** What an accepted review settles can be read, if
that is so of what it was compared with. -/
theorem presentable_of_accepted {p : Policy} (hlimit : 1 ≤ p.descriptionLimit) {checks : Checks}
    {c : Candidate} {previous : Option Previous}
    (hprevious : ∀ before, previous = some before → before.Presentable p.descriptionLimit)
    (h : (review p checks c previous).isAccepted = true) {version : Text}
    (hversion : (review p checks c previous).version = some version) :
    Previous.Presentable p.descriptionLimit ⟨version, (review p checks c previous).namespaceName,
      (review p checks c previous).name, (review p checks c previous).description⟩ := by
  obtain ⟨-, namespaceName, name, description, -, hnamespace, hname, hdescription⟩ :=
    complete_of_accepted h
  rcases review_cases p checks c previous with ⟨-, hr⟩ | ⟨⟨span, hspan⟩, hr⟩
  · rw [hr] at h
    cases h
  rw [hr] at h hversion hnamespace hname hdescription ⊢
  have hpasses := (isAccepted_judge_iff p checks c previous).mp h
  have hheader : Header.locate c.code ≠ none := by
    rw [hspan]
    exact Option.some_ne_none _
  have hdeclared : ∀ key v, (Metadata.ofSource c.code).firstNonBlank key = some v → Visible v :=
    fun key v hv => (beginsVisibly_of_declared hheader hv).visible
  constructor
  case version =>
    exact settleVersion_induction (hdeclared versionKey) (visible_generated c.submittedAt)
      (fun before _ => visible_next before.version) hversion
  case namespaceName =>
    refine ⟨namespaceName, hnamespace, settleNamespace_induction (hdeclared namespaceKey) ?_
      (visible_defaultNamespace p.namespaceBase c.owner) hnamespace⟩
    intro n hn
    obtain ⟨before, hbefore, hn⟩ := Option.bind_eq_some_iff.mp hn
    obtain ⟨n', hn', hvisible⟩ := (hprevious before hbefore).namespaceName
    obtain rfl := Option.some.inj (hn.symm.trans hn')
    exact hvisible
  case name =>
    refine ⟨name, hname, settleName_induction (hdeclared nameKey) (fun n hn => visible_typedName hn)
      ?_ hname⟩
    intro n hn
    obtain ⟨before, hbefore, hn⟩ := Option.bind_eq_some_iff.mp hn
    obtain ⟨n', hn', hvisible⟩ := (hprevious before hbefore).name
    obtain rfl := Option.some.inj (hn.symm.trans hn')
    exact hvisible
  case description =>
    obtain ⟨hle, whole, hwhole, hcut⟩ := settleDescription_of_accepted hpasses.description
      hdescription
    refine ⟨description, hdescription, ?_, hle⟩
    have hbegins : BeginsVisibly whole := by
      rcases Option.or_eq_some_iff.mp hwhole with hw | ⟨-, hw⟩
      · exact beginsVisibly_of_declared hheader hw
      · obtain ⟨before, hbefore, hw⟩ := Option.bind_eq_some_iff.mp hw
        obtain ⟨d, hd, hvisible, -⟩ := (hprevious before hbefore).description
        obtain rfl := Option.some.inj (hw.symm.trans hd)
        exact hvisible
    -- The limit leaves at least the first character.
    rcases hcut with rfl | rfl
    · exact hbegins
    · exact hbegins.take hlimit

end ScriptGate.Review
