import Mathlib.Data.List.Nodup
import ScriptGate.Proofs.Service.Audit

/-!
# `ScriptGate.Proofs.Service.Overtaking`: the order of the trail

A revision is committed in one step and audited in a later one, and the
registry and the trail are open to other submissions in between. So one
that is committed later may be audited earlier: it overtakes. The log of
a script then lists the two in the order in which they were audited,
which is not that of the history (`overtaken_log_is_not_in_order`).

Nothing else brings the two orders apart. `log_order_iff` says that the
log names the audited revisions of the history once each, and that it
names them in reverse exactly when no submission has overtaken another
one.

The proof compares two lists without repetitions, the identifiers in the
trail and those in the history. What they share stands in one order in
both when every pair does (`filter_eq_filter_iff`). A pair of the trail
is in order when the second one was audited after the first one, and
`Move.acceptedRevisions_entries` says which step does that.
-/

set_option autoImplicit false

namespace ScriptGate.Service

open Store (Entry Revision)
open scoped List

/-! ### Two lists in one order -/

section Order

variable {α : Type} {a b x : α} {l p t : List α}

/-- Two elements come in this order if they are the head and a later one, or
come so in the tail. -/
theorem pair_sublist_cons_iff : [a, b] <+ x :: l ↔ (a = x ∧ b ∈ l) ∨ [a, b] <+ l := by
  rw [List.sublist_cons_iff]
  constructor
  · rintro (h | ⟨r, hr, h⟩)
    · exact Or.inr h
    · obtain ⟨rfl, rfl⟩ := List.cons.inj hr
      exact Or.inl ⟨rfl, List.singleton_sublist.mp h⟩
  · rintro (⟨rfl, h⟩ | h)
    · exact Or.inr ⟨[b], rfl, List.singleton_sublist.mpr h⟩
    · exact Or.inl h

/-- In a list without repetitions, what stands before an element is what
forms a pair with it. -/
theorem pair_sublist_iff (hnodup : (p ++ b :: t).Nodup) : [a, b] <+ p ++ b :: t ↔ a ∈ p := by
  induction p with
  | nil =>
      have hb : b ∉ t := (List.nodup_cons.mp hnodup).1
      rw [List.nil_append, pair_sublist_cons_iff]
      constructor
      · rintro (⟨-, h⟩ | h)
        · exact absurd h hb
        · exact absurd (h.subset (List.mem_cons_of_mem _ (List.mem_singleton_self _))) hb
      · exact fun h => by cases h
  | cons x p ih =>
      rw [List.cons_append, pair_sublist_cons_iff, ih (List.nodup_cons.mp hnodup).2, List.mem_cons]
      have hb : b ∈ p ++ b :: t := List.mem_append_right _ List.mem_cons_self
      exact ⟨Or.imp_left And.left, Or.imp_left fun h => ⟨h, hb⟩⟩

/-- No two elements stand before each other. -/
theorem eq_of_pair_sublist (hnodup : l.Nodup) (hab : [a, b] <+ l) (hba : [b, a] <+ l) :
    a = b := by
  obtain ⟨p, t, rfl⟩ := List.append_of_mem (hab.subset (List.mem_cons_of_mem _ List.mem_cons_self))
  have ha : a ∈ p := (pair_sublist_iff hnodup).mp hab
  obtain ⟨q, r, rfl⟩ := List.append_of_mem ha
  rw [List.append_assoc, List.cons_append] at hnodup hba
  -- The second pair puts `b` before `a` too.
  have hb : b ∈ q := (pair_sublist_iff hnodup).mp hba
  have hmem : b ∈ a :: (r ++ b :: t) :=
    List.mem_cons_of_mem _ (List.mem_append_right _ List.mem_cons_self)
  exact absurd rfl ((List.nodup_append.mp hnodup).2.2 b hb b hmem)

/-- Two images come in this order if they have origins that do. -/
theorem pair_sublist_map_iff {β : Type} {f : β → α} {l : List β} :
    [a, b] <+ l.map f ↔ ∃ u v, [u, v] <+ l ∧ f u = a ∧ f v = b := by
  rw [List.sublist_map_iff]
  constructor
  · rintro ⟨l', hl, hmap⟩
    obtain ⟨u, _, rfl, ha, hrest⟩ := List.map_eq_cons_iff.mp hmap.symm
    obtain ⟨v, _, rfl, hb, hnil⟩ := List.map_eq_cons_iff.mp hrest
    obtain rfl := List.map_eq_nil_iff.mp hnil
    exact ⟨u, v, hl, ha, hb⟩
  · rintro ⟨u, v, hl, rfl, rfl⟩
    exact ⟨[u, v], hl, rfl⟩

variable [BEq α] [LawfulBEq α] {l₁ l₂ : List α}

/-- Two lists share the same elements, whatever their orders. -/
theorem filter_perm_filter (h₁ : l₁.Nodup) (h₂ : l₂.Nodup) :
    (l₁.filter (· ∈ l₂)).Perm (l₂.filter (· ∈ l₁)) := by
  rw [List.perm_ext_iff_of_nodup (h₁.filter _) (h₂.filter _)]
  intro a
  rw [List.mem_filter, List.mem_filter, decide_eq_true_iff, decide_eq_true_iff]
  exact And.comm

/-- What two lists share stands in the same order in both, when every pair
of the one is in the order of the other. -/
theorem filter_eq_filter_iff (h₁ : l₁.Nodup) (h₂ : l₂.Nodup) :
    l₁.filter (· ∈ l₂) = l₂.filter (· ∈ l₁) ↔
      ∀ a ∈ l₁, ∀ b ∈ l₁, [a, b] <+ l₂ → [a, b] <+ l₁ := by
  constructor
  · intro heq a ha b hb hab
    have hshared : [a, b].filter (· ∈ l₁) = [a, b] := by
      simp only [List.filter_cons, ha, hb, decide_true, if_true, List.filter_nil]
    have h := hab.filter (· ∈ l₁)
    rw [hshared, ← heq] at h
    exact h.trans List.filter_sublist
  · intro h
    have hleft : (l₁.filter (· ∈ l₂)).Pairwise fun a b => [a, b] <+ l₁ := by
      rw [List.pairwise_iff_forall_sublist]
      exact fun hab => hab.trans List.filter_sublist
    -- The second list is in the order of the first one too.
    have hright : (l₂.filter (· ∈ l₁)).Pairwise fun a b => [a, b] <+ l₁ := by
      rw [List.pairwise_iff_forall_sublist]
      intro a b hab
      have hmem : ∀ c ∈ [a, b], c ∈ l₁ := fun c hc =>
        of_decide_eq_true (List.mem_filter.mp (hab.subset hc)).2
      exact h a (hmem a List.mem_cons_self) b
        (hmem b (List.mem_cons_of_mem _ (List.mem_singleton_self _)))
        (hab.trans List.filter_sublist)
    exact (filter_perm_filter h₁ h₂).eq_of_pairwise (fun a b _ _ => eq_of_pair_sublist h₁) hleft
      hright

end Order

/-! ### What has been audited -/

/-- The revision has been audited. -/
def Audits (s : State) (v : Revision) : Prop := some v.id ∈ acceptedRevisions s.trail.entries

instance (s : State) (v : Revision) : Decidable (Audits s v) :=
  inferInstanceAs (Decidable (some v.id ∈ acceptedRevisions s.trail.entries))

/-- The audited revisions of some, in their order, as an entry names
them. -/
def auditedOf (s : State) (history : List Revision) : List (Option Uuid) :=
  (history.filter fun v => Audits s v).map fun v => some v.id

/-- The log of a script names its audited revisions, the latest one
first. -/
def LogInOrder (s : State) (id : Uuid) : Prop :=
  ∀ history, s.registry.history? id = some history →
    acceptedRevisions (s.trail.log (some id)) = (auditedOf s history).reverse

/-- The revision whose accepted entry is added from a stage. -/
def Stage.audited? : Stage → Option Uuid
  | .committed _ _ v => some v.id
  | .found _ | .reviewed _ _ _ | .stored _ _ _ _ _ | .outrun _ _ _ => none

/-- The step audits a revision that is in `history` after `u`, when `u` has
not been audited. -/
def Step.Overtakes (x : Step) (history : List Revision) (u : Revision) : Prop :=
  ∃ v, x.stage.audited? = some v.id ∧ [u, v] <+ history ∧ ¬ Audits x.before u

/-- A step adds the accepted entry that its stage has to add, and no
other. -/
theorem Move.acceptedRevisions_entries {rules : Rules} {sub : Submission} {m : Moment}
    {s after : State} {stage : Stage} {progress : Progress}
    (hmove : Move rules sub m s stage after progress) :
    acceptedRevisions after.trail.entries
      = acceptedRevisions s.trail.entries ++ stage.audited?.toList.map some := by
  cases hmove with
  | review | closed | store | unresolved | commit | vanish | lose => exact (List.append_nil _).symm
  | refuse | concede | accept => exact acceptedRevisions_append _ _

/-- What the trail names as accepted, and the steps that did it. -/
structure AuditedBy (s : State) (steps : List Step) : Prop where
  /-- Somebody has audited each of them. -/
  audited : ∀ id, some id ∈ acceptedRevisions s.trail.entries →
    ∃ x ∈ steps, x.stage.audited? = some id
  /-- Whoever audits a revision puts it after those that were there. -/
  order : ∀ x ∈ steps, ∀ id, x.stage.audited? = some id →
    acceptedRevisions x.before.trail.entries ++ [some id] <+: acceptedRevisions s.trail.entries

/-- At every point of a run, the steps that audited are those that the trail
tells of. -/
theorem auditedBy_trace (rules : Rules) (events : List Event) :
    AuditedBy (World.run rules events).state (World.trace rules events) := by
  refine World.trace_induction rules (P := fun w steps => AuditedBy w.state steps) ?_ ?_ ?_ events
  · exact ⟨fun _ h => (by cases h), fun _ h => by cases h⟩
  · exact fun w steps sub h => ⟨h.audited, h.order⟩
  · intro w steps i sub m stage after progress h hi hmove
    have hentries := hmove.acceptedRevisions_entries
    refine ⟨fun id hid => ?_, fun x hx id hid => ?_⟩
    · rw [hentries] at hid
      rcases List.mem_append.mp hid with hid | hid
      · obtain ⟨x, hx, hid⟩ := h.audited id hid
        exact ⟨x, List.mem_append_left _ hx, hid⟩
      · refine ⟨_, List.mem_append_right _ (List.mem_singleton_self _), ?_⟩
        obtain ⟨_, hmem, heq⟩ := List.mem_map.mp hid
        cases heq
        exact Option.mem_toList.mp hmem
    · show _ <+: acceptedRevisions after.trail.entries
      rw [hentries]
      rcases List.mem_append.mp hx with hx | hx
      · exact (h.order x hx id hid).trans (List.prefix_append _ _)
      · -- The step is the last one, and what it audits stands last.
        rw [List.mem_singleton.mp hx] at hid ⊢
        have hone : stage.audited? = some id := hid
        rw [hone]
        exact List.prefix_refl _

/-- Whoever audits a revision finds in the trail what the trail names
before it. -/
theorem AuditedBy.pair_sublist_iff {s : State} {steps : List Step} (h : AuditedBy s steps)
    (hdistinct : (acceptedRevisions s.trail.entries).Nodup) {x : Step} (hx : x ∈ steps)
    {v : Revision} (hv : x.stage.audited? = some v.id) (u : Revision) :
    [some u.id, some v.id] <+ acceptedRevisions s.trail.entries ↔ Audits x.before u := by
  obtain ⟨t, ht⟩ := h.order x hx v.id hv
  rw [List.append_assoc, List.singleton_append] at ht
  rw [← ht] at hdistinct ⊢
  exact Service.pair_sublist_iff hdistinct

/-! ### The log of a script -/

section Log

variable {rules : Rules} {w : World} {id : Uuid} {history : List Revision}

/-- An accepted entry is about a script when its revision is in the
history. -/
theorem Audited.script_iff (h : Audited w) (hc : Coherent rules w)
    (hh : w.state.registry.history? id = some history) {entry : Entry}
    (hentry : entry ∈ w.state.trail.entries) (haccepted : entry.action = .accepted) :
    entry.script = some id ↔ entry.revision ∈ history.map fun v => some v.id := by
  rcases h.entries entry hentry with hd | ⟨i, sub, v, ⟨receipt, hi, hv⟩, hcredits⟩
  · cases hd.1.symm.trans haccepted
  have hmade : Produces w.calls i v := ⟨_, hi, congrArg some hv⟩
  rw [hcredits.script, hcredits.revision, Option.some.injEq]
  constructor
  · rintro rfl
    obtain ⟨history', hh', hmem⟩ := h.kept i v hmade
    rw [hh, Option.some.injEq] at hh'
    subst hh'
    exact List.mem_map.mpr ⟨v, hmem, rfl⟩
  · intro hmem
    obtain ⟨u, hu, heq⟩ := List.mem_map.mp hmem
    -- Nobody else makes a revision with this identifier, so it is the one in the history.
    obtain ⟨j, hj⟩ := h.produced id history hh u hu
    obtain rfl := hc.producer j i u v hj hmade (Option.some.inj heq)
    obtain ⟨call, hcall, hrevision⟩ := hj
    rw [hi, Option.some.injEq] at hcall
    subst hcall
    obtain rfl : receipt.revision = u := Option.some.inj hrevision
    obtain ⟨_, -, hreflects⟩ := hc.sound.of_history hh
    rw [← hv]
    exact hreflects.owned _ hu

/-- The log of a script has the entries of the trail whose revisions are
in its history, the most recent one first. -/
theorem Audited.acceptedRevisions_log (h : Audited w) (hc : Coherent rules w)
    (hh : w.state.registry.history? id = some history) :
    acceptedRevisions (w.state.trail.log (some id))
      = ((acceptedRevisions w.state.trail.entries).filter
          (· ∈ history.map fun v => some v.id)).reverse := by
  simp only [acceptedRevisions, Store.Trail.log, Option.all_some, List.filter_map,
    ← List.map_reverse, ← List.filter_reverse]
  congr 1
  rw [List.filter_comm]
  refine List.filter_congr fun entry hentry => ?_
  obtain ⟨hmem, haccepted⟩ := List.mem_filter.mp hentry
  rw [Bool.eq_iff_iff, beq_iff_eq, Function.comp_apply, decide_eq_true_iff]
  exact h.script_iff hc hh (List.mem_reverse.mp hmem) (of_decide_eq_true haccepted)

end Log

/-- The audited revisions, picked by what the trail names instead. -/
theorem auditedOf_eq_filter (s : State) (history : List Revision) :
    auditedOf s history
      = (history.map fun v => some v.id).filter (· ∈ acceptedRevisions s.trail.entries) := by
  rw [auditedOf, List.filter_map]
  rfl

/-- A script has one history, so its log is in order if it follows that
one. -/
theorem logInOrder_iff {s : State} {id : Uuid} {history : List Revision}
    (hh : s.registry.history? id = some history) :
    LogInOrder s id ↔
      acceptedRevisions (s.trail.log (some id)) = (auditedOf s history).reverse := by
  constructor
  · exact fun h => h history hh
  · intro h history' hh'
    obtain rfl := Option.some.inj (hh.symm.trans hh')
    exact h

/-- What the log of a script has to do with its history. -/
structure LogOrder (rules : Rules) (events : List Event) (id : Uuid) (history : List Revision) :
    Prop where
  /-- The log names the audited revisions of the history. -/
  complete : (acceptedRevisions ((World.run rules events).state.trail.log (some id))).Perm
    (auditedOf (World.run rules events).state history)
  /-- It names none of them twice. -/
  distinct : (acceptedRevisions ((World.run rules events).state.trail.log (some id))).Nodup
  /-- It is in order when nobody has overtaken a revision that has been
  audited since. -/
  order : LogInOrder (World.run rules events).state id ↔
    ∀ x ∈ World.trace rules events, ∀ u ∈ history, Audits (World.run rules events).state u →
      ¬ x.Overtakes history u

/-- **The order of the trail.** Whatever submissions arrive, and however
their steps alternate, as long as the identifiers in use are pairwise
distinct: the log of a script is in order exactly when no audit has
overtaken another one. -/
theorem log_order_iff (rules : Rules) (events : List Event)
    (hfresh : (World.run rules events).issued.Nodup) {id : Uuid} {history : List Revision}
    (hh : (World.run rules events).state.registry.history? id = some history) :
    LogOrder rules events id history := by
  obtain ⟨hc, -, ha⟩ := audited_run rules events hfresh
  have hby := auditedBy_trace rules events
  have hlog := ha.acceptedRevisions_log hc hh
  have haudited := auditedOf_eq_filter (World.run rules events).state history
  have hids : (history.map fun v => some v.id).Nodup := by
    have h := (hc.sound.distinct id history hh).map fun _ _ => Option.some.inj
    rwa [List.map_map] at h
  constructor
  case complete =>
    rw [hlog, haudited]
    exact (List.reverse_perm _).trans (filter_perm_filter ha.distinct hids)
  case distinct =>
    rw [hlog]
    exact List.nodup_reverse.mpr (ha.distinct.filter _)
  case order =>
    rw [logInOrder_iff hh, hlog, haudited, List.reverse_inj,
      filter_eq_filter_iff ha.distinct hids]
    constructor
    · rintro h x hx u - hu ⟨v, hv, hpair, hnot⟩
      have haudits := hby.pair_sublist_iff ha.distinct hx hv
      -- The trail names `v`, because the step has put it there.
      have hv' : Audits (World.run rules events).state v :=
        (hby.order x hx v.id hv).subset (List.mem_append_right _ (List.mem_singleton_self _))
      exact hnot ((haudits u).mp (h _ hu _ hv' (pair_sublist_map_iff.mpr ⟨u, v, hpair, rfl, rfl⟩)))
    · intro h a hu b hv hpair
      obtain ⟨u, v, hl, rfl, rfl⟩ := pair_sublist_map_iff.mp hpair
      obtain ⟨x, hx, hstage⟩ := hby.audited v.id hv
      rw [hby.pair_sublist_iff ha.distinct hx hstage]
      by_contra hnot
      exact h x hx u (hl.subset List.mem_cons_self) hu ⟨v, hstage, hl, hnot⟩

/-! ### A race for the trail -/

/-- A new script and two revisions of it. The second revision is reviewed,
committed and audited while the first one waits for its audit. -/
def overtakingRace : List Event :=
  [.submit (sampleSubmission none ['1']), .advance 0 (sampleMoment 1),
    .advance 0 (sampleMoment 2), .advance 0 (sampleMoment 3), .advance 0 (sampleMoment 4),
    .submit (sampleSubmission (some ⟨9⟩) ['2']), .advance 1 (sampleMoment 5),
    .advance 1 (sampleMoment 6), .advance 1 (sampleMoment 7),
    .submit (sampleSubmission (some ⟨9⟩) ['3']), .advance 2 (sampleMoment 8),
    .advance 2 (sampleMoment 9), .advance 2 (sampleMoment 10), .advance 2 (sampleMoment 11),
    .advance 1 (sampleMoment 12)]

/-- All identifiers of the race are new. -/
theorem fresh_overtakingRace : (World.run sampleRules overtakingRace).issued.Nodup := by
  decide +kernel

/-- In the history of the script, the revisions come in the order of their
commits. -/
theorem auditedOf_overtakingRace :
    ((World.run sampleRules overtakingRace).state.registry.history? ⟨9⟩).map
      (auditedOf (World.run sampleRules overtakingRace).state)
        = some [some ⟨10⟩, some ⟨22⟩, some ⟨31⟩] := by
  decide +kernel

/-- The log of the script names the second revision before the third one,
which has overtaken it. -/
theorem log_overtakingRace :
    acceptedRevisions ((World.run sampleRules overtakingRace).state.trail.log (some ⟨9⟩))
      = [some ⟨22⟩, some ⟨31⟩, some ⟨10⟩] := by
  decide +kernel

/-- All three revisions have been audited, and the log names the second one
before the third one. -/
theorem overtaken_log_is_not_in_order :
    (World.run sampleRules overtakingRace).issued.Nodup ∧
    ((World.run sampleRules overtakingRace).state.registry.history? ⟨9⟩).map
      (auditedOf (World.run sampleRules overtakingRace).state)
        = some [some ⟨10⟩, some ⟨22⟩, some ⟨31⟩] ∧
    acceptedRevisions ((World.run sampleRules overtakingRace).state.trail.log (some ⟨9⟩))
      = [some ⟨22⟩, some ⟨31⟩, some ⟨10⟩] ∧
    ¬ LogInOrder (World.run sampleRules overtakingRace).state ⟨9⟩ := by
  refine ⟨fresh_overtakingRace, auditedOf_overtakingRace, log_overtakingRace, ?_⟩
  obtain ⟨history, hh, haudited⟩ := Option.map_eq_some_iff.mp auditedOf_overtakingRace
  rw [logInOrder_iff hh, log_overtakingRace, haudited]
  decide

/-- So somebody has overtaken a revision. -/
theorem log_order_iff_race :
    (World.run sampleRules overtakingRace).issued.Nodup ∧
    ∃ history, (World.run sampleRules overtakingRace).state.registry.history? ⟨9⟩ = some history ∧
      LogOrder sampleRules overtakingRace ⟨9⟩ history ∧
      ∃ x ∈ World.trace sampleRules overtakingRace, ∃ u ∈ history,
        Audits (World.run sampleRules overtakingRace).state u ∧ x.Overtakes history u := by
  obtain ⟨history, hh, haudited⟩ := Option.map_eq_some_iff.mp auditedOf_overtakingRace
  have horder := log_order_iff sampleRules overtakingRace fresh_overtakingRace hh
  refine ⟨fresh_overtakingRace, history, hh, horder, ?_⟩
  by_contra hnone
  have hin : LogInOrder (World.run sampleRules overtakingRace).state ⟨9⟩ :=
    horder.order.mpr fun x hx u hu haudits hover => hnone ⟨x, hx, u, hu, haudits, hover⟩
  rw [logInOrder_iff hh, log_overtakingRace, haudited] at hin
  cases hin

end ScriptGate.Service
