import ScriptGate.Proofs.Service.Atomicity

/-!
# `ScriptGate.Proofs.Service.Audit`: the trail and the histories

A revision is committed in one step and recorded in a later one, and in
between other submissions may do the same. When all of them are over, the
trail accounts for the histories exactly
(`trail_accounts_for_histories`): every revision has an accepted entry,
no two accepted entries name the same one, and each of them tells what
the revision and its submission say. Every submission that was let in has
an entry, and there are no others.

While submissions are under way the trail lags behind. `Audited` says by
how much: the accepted entries are those of the submissions that were
told so, and the revisions are those that some submission has made,
whether it was told or not. A new accepted entry names a revision that no
other entry names, because no two submissions make the same revision
(`Coherent.producer`). This is where the identifiers have to be new.

How many entries there are has nothing to do with identifiers.
`length_entries` counts them: with the submissions under way, they are as
many as were let in.
-/

set_option autoImplicit false

namespace ScriptGate.Service

open Store (Action Entry Registry Revision)

/-! ### Entries and submissions -/

/-- The entry tells of the revision `v`, which `sub` has made. -/
structure Credits (sub : Submission) (v : Revision) (entry : Entry) : Prop where
  action : entry.action = .accepted
  revision : entry.revision = some v.id
  script : entry.script = some v.script
  version : entry.version = some v.version
  author : entry.author = sub.request.author

/-- The submission at place `i` was told that its revision is `v`. -/
def Told (calls : List Call) (i : Nat) (sub : Submission) (v : Revision) : Prop :=
  ∃ receipt, calls[i]? = some ⟨sub, .done (.ok receipt)⟩ ∧ receipt.revision = v

/-- The entry tells of no revision. -/
def Declines (entry : Entry) : Prop := entry.action = .rejected ∧ entry.revision = none

/-- The identifiers in the accepted ones of some entries. -/
def acceptedRevisions (entries : List Entry) : List (Option Uuid) :=
  (entries.filter fun entry => entry.action = .accepted).map Entry.revision

/-- The accepted entries of a longer trail are those of its two parts. -/
theorem acceptedRevisions_append (entries more : List Entry) :
    acceptedRevisions (entries ++ more) = acceptedRevisions entries ++ acceptedRevisions more := by
  rw [acceptedRevisions, List.filter_append, List.map_append, acceptedRevisions,
    acceptedRevisions]

/-- Entries that decline name no accepted revision. -/
theorem acceptedRevisions_of_declines {entries : List Entry}
    (h : ∀ entry ∈ entries, Declines entry) : acceptedRevisions entries = [] := by
  rw [acceptedRevisions, List.map_eq_nil_iff, List.filter_eq_nil_iff]
  intro entry hentry haccepted
  have hrejected := (h entry hentry).1
  rw [of_decide_eq_true haccepted] at hrejected
  cases hrejected

/-- What the trail and the registry say of the submissions of a world. -/
structure Audited (w : World) : Prop where
  /-- An entry tells of no revision, or of one that its submission was
  told of. -/
  entries : ∀ entry ∈ w.state.trail.entries, Declines entry ∨
    ∃ i sub v, Told w.calls i sub v ∧ Credits sub v entry
  /-- Whoever was told of a revision has an entry. -/
  told : ∀ i sub v, Told w.calls i sub v → ∃ entry ∈ w.state.trail.entries, Credits sub v entry
  /-- No two accepted entries name the same revision. -/
  distinct : (acceptedRevisions w.state.trail.entries).Nodup
  /-- Some submission has made each revision. -/
  produced : ∀ id history, w.state.registry.history? id = some history → ∀ v ∈ history,
    ∃ i, Produces w.calls i v
  /-- What a submission has made is in the history of its script. -/
  kept : ∀ i v, Produces w.calls i v →
    ∃ history, w.state.registry.history? v.script = some history ∧ v ∈ history

/-- In the beginning there is nothing to account for. -/
theorem audited_initial : Audited World.initial where
  entries := fun _ h => by cases h
  told := fun _ _ _ ⟨_, h, _⟩ => by cases h
  distinct := List.nodup_nil
  produced := fun _ _ h => by cases h
  kept := fun _ _ ⟨_, h, _⟩ => by cases h

/-! ### Steps -/

section Steps

variable {w : World} {i : Nat} {sub : Submission} {before after : Progress}

/-- A submission under way is not one that was told. -/
theorem Told.ne {stage : Stage} (hi : w.calls[i]? = some ⟨sub, .underway stage⟩) {j : Nat}
    {sub' : Submission} {v : Revision} (h : Told w.calls j sub' v) : j ≠ i := by
  rintro rfl
  obtain ⟨receipt, hj, -⟩ := h
  rw [hi] at hj
  cases hj

/-- Those who were told stay told, when another submission moves on. -/
theorem Told.set {stage : Stage} (hi : w.calls[i]? = some ⟨sub, .underway stage⟩) {j : Nat}
    {sub' : Submission} {v : Revision} (h : Told w.calls j sub' v) :
    Told (w.calls.set i ⟨sub, after⟩) j sub' v := by
  have hne := h.ne hi
  obtain ⟨receipt, hj, hv⟩ := h
  exact ⟨receipt, calls_set_of_ne hj hne, hv⟩

/-- What was made stays made. -/
theorem Produces.set (hi : w.calls[i]? = some ⟨sub, before⟩)
    (hkeep : ∀ v, before.revision? = some v → after.revision? = some v) {j : Nat} {v : Revision}
    (h : Produces w.calls j v) : Produces (w.calls.set i ⟨sub, after⟩) j v := by
  obtain ⟨call, hj, hv⟩ := h
  by_cases hji : j = i
  · subst hji
    rw [hi, Option.some.injEq] at hj
    subst hj
    exact ⟨_, calls_set_self hi, hkeep v hv⟩
  · exact ⟨call, calls_set_of_ne hj hji, hv⟩

/-- An entry stays in order when another submission moves on. -/
theorem Audited.entries_set (h : Audited w) {stage : Stage}
    (hi : w.calls[i]? = some ⟨sub, .underway stage⟩) {entry : Entry}
    (hentry : entry ∈ w.state.trail.entries) :
    Declines entry ∨ ∃ j sub' v, Told (w.calls.set i ⟨sub, after⟩) j sub' v ∧
      Credits sub' v entry := by
  rcases h.entries entry hentry with hd | ⟨j, sub', v, ht, hc⟩
  · exact Or.inl hd
  · exact Or.inr ⟨j, sub', v, ht.set hi, hc⟩

/-- A submission that arrives leaves the audit as it is. -/
theorem Audited.submit {rules : Rules} (h : Audited w) (sub : Submission) :
    Audited (w.step rules (.submit sub)) := by
  have hnone := revision?_start w.state sub
  have htold : ∀ {j sub' v}, Told (w.calls ++ [⟨sub, Rules.start w.state sub⟩]) j sub' v →
      Told w.calls j sub' v := by
    rintro j sub' v ⟨receipt, hj, hv⟩
    rcases calls_append_cases hj with hj | ⟨-, hcall⟩
    · exact ⟨receipt, hj, hv⟩
    · -- Nobody is told anything on arrival.
      obtain ⟨-, hstart⟩ := Call.mk.inj hcall
      rw [← hstart] at hnone
      cases hnone
  constructor
  case entries =>
    intro entry hentry
    rcases h.entries entry hentry with hd | ⟨j, sub', v, ⟨receipt, hj, hv⟩, hc⟩
    · exact Or.inl hd
    · exact Or.inr ⟨j, sub', v, ⟨receipt, calls_append hj, hv⟩, hc⟩
  case told => exact fun j sub' v ht => h.told j sub' v (htold ht)
  case distinct => exact h.distinct
  case produced =>
    intro id history hh v hv
    obtain ⟨j, call, hj, hp⟩ := h.produced id history hh v hv
    exact ⟨j, call, calls_append hj, hp⟩
  case kept => exact fun j v hp => h.kept j v (produces_append hnone hp)

/-- A step that makes no revision and accepts none. The entries that it
adds, if any, tell of no revision. -/
theorem Audited.decline (h : Audited w) {stage : Stage} {state : State}
    (hi : w.calls[i]? = some ⟨sub, .underway stage⟩)
    (hregistry : state.registry = w.state.registry) (entries : List Entry)
    (htrail : state.trail.entries = w.state.trail.entries ++ entries)
    (hdecline : ∀ entry ∈ entries, Declines entry)
    (hbefore : (Progress.underway stage).revision? = none) (hafter : after.revision? = none)
    (issued : List Uuid) : Audited ⟨state, w.calls.set i ⟨sub, after⟩, issued⟩ := by
  have htold : ∀ {j sub' v}, Told (w.calls.set i ⟨sub, after⟩) j sub' v →
      Told w.calls j sub' v := by
    rintro j sub' v ⟨receipt, hj, hv⟩
    rcases calls_set_cases hj with ⟨-, hcall⟩ | ⟨-, hj⟩
    · -- The submission that moves on is not told of a revision.
      obtain ⟨-, hdone⟩ := Call.mk.inj hcall
      rw [← hdone] at hafter
      cases hafter
    · exact ⟨receipt, hj, hv⟩
  constructor
  case entries =>
    intro entry hentry
    rw [htrail] at hentry
    rcases List.mem_append.mp hentry with hentry | hentry
    · exact h.entries_set hi hentry
    · exact Or.inl (hdecline entry hentry)
  case told =>
    intro j sub' v ht
    obtain ⟨entry, hentry, hc⟩ := h.told j sub' v (htold ht)
    exact ⟨entry, by rw [htrail]; exact List.mem_append_left _ hentry, hc⟩
  case distinct =>
    show (acceptedRevisions state.trail.entries).Nodup
    rw [htrail, acceptedRevisions_append, acceptedRevisions_of_declines hdecline, List.append_nil]
    exact h.distinct
  case produced =>
    show ∀ id history, state.registry.history? id = some history → _
    rw [hregistry]
    intro id history hh v hv
    obtain ⟨j, hp⟩ := h.produced id history hh v hv
    exact ⟨j, hp.set hi fun u hu => (by rw [hbefore] at hu; cases hu)⟩
  case kept =>
    intro j v hp
    show ∃ history, state.registry.history? v.script = some history ∧ v ∈ history
    rw [hregistry]
    rcases produces_set hp with ⟨-, hv⟩ | ⟨-, hp⟩
    · rw [hafter] at hv
      cases hv
    · exact h.kept j v hp

/-- The step that commits. -/
theorem Audited.commit (h : Audited w) (state : State) {stage : Stage}
    (hi : w.calls[i]? = some ⟨sub, .underway stage⟩)
    (hbefore : (Progress.underway stage).revision? = none)
    {script : Uuid} {record : Store.Record} {revision : Revision}
    (hx : Registry.Extends w.state.registry state.registry script record revision)
    (hscript : revision.script = script) (htrail : state.trail = w.state.trail)
    {verdict : Review.Verdict} (issued : List Uuid) :
    Audited ⟨state, w.calls.set i ⟨sub, .underway (.committed verdict record revision)⟩,
      issued⟩ := by
  -- The submission had no revision yet, so it keeps what it had.
  have hkeep : ∀ u, (Progress.underway stage).revision? = some u →
      (Progress.underway (.committed verdict record revision)).revision? = some u := by
    intro u hu
    rw [hbefore] at hu
    cases hu
  have hnew : Produces (w.calls.set i ⟨sub, .underway (.committed verdict record revision)⟩) i
      revision := ⟨_, calls_set_self hi, rfl⟩
  constructor
  case entries =>
    show ∀ entry ∈ state.trail.entries, _
    rw [htrail]
    exact fun entry hentry => h.entries_set hi hentry
  case told =>
    rintro j sub' v ⟨receipt, hj, hv⟩
    show ∃ entry ∈ state.trail.entries, _
    rw [htrail]
    rcases calls_set_cases hj with ⟨-, hcall⟩ | ⟨-, hj⟩
    · -- The submission that commits is told in its next step.
      cases hcall
    · exact h.told j sub' v ⟨receipt, hj, hv⟩
  case distinct =>
    show (acceptedRevisions state.trail.entries).Nodup
    rw [htrail]
    exact h.distinct
  case produced =>
    intro id history hh v hv
    rcases hx.revision_cases hh hv with ⟨earlier, hearlier, hv⟩ | rfl
    · obtain ⟨j, hp⟩ := h.produced id earlier hearlier v hv
      exact ⟨j, hp.set hi hkeep⟩
    · -- The revision is new, and this submission has made it.
      exact ⟨i, hnew⟩
  case kept =>
    intro j v hp
    rcases produces_set hp with ⟨-, hv⟩ | ⟨-, hp⟩
    · obtain rfl : revision = v := Option.some.inj hv
      rw [hscript]
      exact ⟨_, hx.history, List.mem_append_right _ (List.mem_singleton_self _)⟩
    · obtain ⟨history, hh, hv⟩ := h.kept j v hp
      obtain ⟨history', hh', hpre⟩ := hx.history_grows hh
      exact ⟨history', hh', hpre.subset hv⟩

/-- The step that records an accepted revision. No other submission has
made it, so no other entry names it. -/
theorem Audited.accept (h : Audited w) {stage : Stage} {state : State}
    (hi : w.calls[i]? = some ⟨sub, .underway stage⟩) {receipt : Receipt}
    (hbefore : (Progress.underway stage).revision? = some receipt.revision)
    (hproducer : ∀ j k u v, Produces w.calls j u → Produces w.calls k v → u.id = v.id → j = k)
    (hregistry : state.registry = w.state.registry) {entry : Entry}
    (htrail : state.trail = w.state.trail.add entry)
    (hcredits : Credits sub receipt.revision entry) (issued : List Uuid) :
    Audited ⟨state, w.calls.set i ⟨sub, .done (.ok receipt)⟩, issued⟩ := by
  have hentries : state.trail.entries = w.state.trail.entries ++ [entry] := by
    rw [htrail, Store.Trail.entries_add]
  have hmine : Produces w.calls i receipt.revision := ⟨_, hi, hbefore⟩
  have hsame : ∀ u, (Progress.underway stage).revision? = some u →
      (Progress.done (.ok receipt)).revision? = some u := fun u hu => hbefore.symm.trans hu
  have htold : Told (w.calls.set i ⟨sub, .done (.ok receipt)⟩) i sub receipt.revision :=
    ⟨receipt, calls_set_self hi, rfl⟩
  constructor
  case entries =>
    intro e he
    rw [hentries] at he
    rcases List.mem_append.mp he with he | he
    · exact h.entries_set hi he
    · rw [List.mem_singleton.mp he]
      exact Or.inr ⟨i, sub, receipt.revision, htold, hcredits⟩
  case told =>
    rintro j sub' v ⟨receipt', hj, hv⟩
    show ∃ e ∈ state.trail.entries, _
    rw [hentries]
    rcases calls_set_cases hj with ⟨-, hcall⟩ | ⟨-, hj⟩
    · cases hcall
      rw [← hv]
      exact ⟨entry, List.mem_append_right _ (List.mem_singleton_self _), hcredits⟩
    · obtain ⟨e, he, hc⟩ := h.told j sub' v ⟨receipt', hj, hv⟩
      exact ⟨e, List.mem_append_left _ he, hc⟩
  case distinct =>
    show (acceptedRevisions state.trail.entries).Nodup
    have hone : acceptedRevisions [entry] = [some receipt.revision.id] := by
      rw [acceptedRevisions, List.filter_singleton, decide_eq_true hcredits.action]
      show [entry.revision] = _
      rw [hcredits.revision]
    rw [hentries, acceptedRevisions_append, hone]
    refine List.nodup_append.mpr ⟨h.distinct, List.nodup_singleton _, ?_⟩
    intro a ha b hb hab
    obtain ⟨e, he, rfl⟩ := List.mem_map.mp ha
    obtain ⟨he, haccepted⟩ := List.mem_filter.mp he
    rw [List.mem_singleton.mp hb] at hab
    -- The other entry is that of a submission that was told, and this one is under way.
    rcases h.entries e he with hd | ⟨j, sub', v, ht, hc⟩
    · rw [hd.2] at hab
      cases hab
    · rw [hc.revision, Option.some.injEq] at hab
      refine ht.ne hi (hproducer j i v receipt.revision ?_ hmine hab)
      obtain ⟨receipt', hj, hv⟩ := ht
      exact ⟨_, hj, by rw [← hv]; rfl⟩
  case produced =>
    show ∀ id history, state.registry.history? id = some history → _
    rw [hregistry]
    intro id history hh v hv
    obtain ⟨j, hp⟩ := h.produced id history hh v hv
    exact ⟨j, hp.set hi hsame⟩
  case kept =>
    intro j v hp
    show ∃ history, state.registry.history? v.script = some history ∧ v ∈ history
    rw [hregistry]
    rcases produces_set hp with ⟨rfl, hv⟩ | ⟨-, hp⟩
    · obtain rfl : receipt.revision = v := Option.some.inj hv
      exact h.kept j _ hmine
    · exact h.kept j v hp

end Steps

/-- A step keeps the audit, where no two submissions have made the same
revision. -/
theorem audited_move {rules : Rules} {w : World} (h : Audited w) (hg : Grounded rules w)
    (hproducer : ∀ j k u v, Produces w.calls j u → Produces w.calls k v → u.id = v.id → j = k)
    {i : Nat} {sub : Submission} {stage : Stage} (hi : w.calls[i]? = some ⟨sub, .underway stage⟩)
    {m : Moment} {after : State} {progress : Progress}
    (hmove : Move rules sub m w.state stage after progress) (issued : List Uuid) :
    Audited ⟨after, w.calls.set i ⟨sub, progress⟩, issued⟩ := by
  have hstage := hg.stages _ (List.mem_of_getElem? hi) stage rfl
  cases hmove with
  | review | closed | store | unresolved | vanish | lose =>
      exact h.decline hi (by rfl) [] (by rw [List.append_nil]) (fun _ hentry => by cases hentry)
        (by rfl) (by rfl) issued
  | refuse existing submittedAt v hv =>
      refine h.decline hi (by rfl) [_] (by rfl) (fun entry hentry => ?_) (by rfl) (by rfl) issued
      rw [List.mem_singleton.mp hentry]
      exact ⟨rfl, rfl⟩
  | concede existing v id =>
      refine h.decline hi (by rfl) [_] (by rfl) (fun entry hentry => ?_) (by rfl) (by rfl) issued
      rw [List.mem_singleton.mp hentry]
      exact ⟨rfl, rfl⟩
  | commit existing submittedAt v rawCode canonicalCode c registry record revision hc hr =>
      obtain ⟨hrevision, hx⟩ := Registry.extends_of_commit hr
      exact h.commit { w.state with registry } hi rfl hx (by rw [hrevision]; rfl) rfl issued
  | accept v record revision =>
      obtain ⟨hscript, hversion⟩ := hstage
      have hcredits : Credits sub revision
          (entryFor sub.request v m (some record.id) (some revision.id) .accepted) :=
        ⟨rfl, rfl, congrArg some hscript, hversion, rfl⟩
      exact h.accept hi (by rfl) hproducer (by rfl) (by rfl) hcredits issued

/-- The audit holds after every run with distinct identifiers. -/
theorem audited_run (rules : Rules) (events : List Event)
    (hfresh : (World.run rules events).issued.Nodup) :
    Coherent rules (World.run rules events) ∧ Grounded rules (World.run rules events) ∧
      Audited (World.run rules events) := by
  refine World.run_induction (P := fun w => Coherent rules w ∧ Grounded rules w ∧ Audited w)
    ⟨coherent_initial rules, grounded_initial rules, audited_initial⟩ ?_ events hfresh
  rintro w e ⟨hc, hg, ha⟩ hnew
  refine ⟨coherent_step hc e hnew, ?_⟩
  cases e with
  | submit sub => exact ⟨grounded_submit hg sub, ha.submit sub⟩
  | advance i m =>
      rcases World.step_advance rules w i m with hsame | ⟨sub, stage, hi, hstep⟩
      · rw [hsame]
        exact ⟨hg, ha⟩
      · rw [hstep]
        have hmove := move_advance rules sub m w.state stage
        exact ⟨grounded_move hg hi hmove _, audited_move ha hg hc.producer hi hmove _⟩

/-! ### How many entries there are -/

/-- Whether a submission is not over. -/
def Call.isUnderway (call : Call) : Bool :=
  match call.progress with
  | .underway _ => true
  | .done _ => false

/-- A step that ends a submission adds an entry, and no other step does. -/
theorem Move.length_entries {rules : Rules} (hwriting : rules.outage.writing = false)
    {sub : Submission} {m : Moment} {s after : State} {stage : Stage} {progress : Progress}
    (hstage : stage.Grounded rules sub s.registry)
    (hmove : Move rules sub m s stage after progress) :
    after.trail.entries.length + (if Call.isUnderway ⟨sub, progress⟩ then 1 else 0)
      = s.trail.entries.length + 1 := by
  cases hmove with
  | review | store | commit | lose => rfl
  | refuse | accept | concede => exact List.length_append
  | closed _ _ _ hv hw =>
      rw [hwriting] at hw
      cases hw
  | unresolved _ _ _ _ _ e he =>
      obtain ⟨c, hc⟩ := hstage.commitFor_ok
      rw [hc] at he
      cases he
  | vanish _ _ _ _ _ c id hc hr =>
      obtain ⟨_, _, _, _, _, he⟩ := hstage.error_of_commit hc hr
      cases he

/-- The entries and the submissions under way are as many as the
submissions that were let in. -/
theorem length_entries (rules : Rules) (hwriting : rules.outage.writing = false)
    (events : List Event) :
    (World.run rules events).state.trail.entries.length +
        (World.run rules events).calls.countP Call.isUnderway
      = (World.admitted rules events).length := by
  induction events using List.reverseRecOn with
  | nil => rfl
  | append_singleton events e ih =>
      rw [World.admitted, World.observe_append_singleton, List.length_append,
        World.run_append_singleton]
      replace ih : _ = (World.observe rules World.admitted? events).length := ih
      cases e with
      | submit sub =>
          show (World.run rules events).state.trail.entries.length +
            ((World.run rules events).calls ++
              [(⟨sub, Rules.start (World.run rules events).state sub⟩ : Call)]).countP
                Call.isUnderway = _
          rw [List.countP_append, List.countP_singleton, ← Nat.add_assoc, ih, World.admitted?]
          congr 1
          cases hstart : Rules.start (World.run rules events).state sub with
          | underway stage => rfl
          | done answer => rfl
      | advance i m =>
          rw [World.admitted?, Option.toList_none, List.length_nil, Nat.add_zero]
          rcases World.step_advance rules (World.run rules events) i m with hsame |
            ⟨sub, stage, hi, hstep⟩
          · rw [hsame]
            exact ih
          · rw [hstep]
            have hstage : stage.Grounded rules sub (World.run rules events).state.registry :=
              (grounded_run rules events).stages _ (List.mem_of_getElem? hi) stage rfl
            have hone := (move_advance rules sub m (World.run rules events).state
              stage).length_entries hwriting hstage
            -- The submission was under way before the step.
            obtain ⟨hlt, hget⟩ := List.getElem?_eq_some_iff.mp hi
            have hpos : 0 < (World.run rules events).calls.countP Call.isUnderway :=
              List.countP_pos_iff.mpr ⟨_, List.mem_of_getElem? hi, rfl⟩
            have hcount := List.countP_set (p := Call.isUnderway)
              (a := ⟨sub, (rules.advance sub m (World.run rules events).state stage).2⟩) hlt
            rw [hget, if_pos (show Call.isUnderway ⟨sub, .underway stage⟩ = true from rfl)]
              at hcount
            show _ + List.countP _ ((World.run rules events).calls.set i _) = _
            rw [hcount, ← ih]
            show (rules.advance sub m (World.run rules events).state stage).1.trail.entries.length
              + _ = _
            omega

/-! ### When all submissions are over -/

/-- A trail that accounts for the histories, where `admitted` were let
in. -/
structure Accounts (w : World) (admitted : List Submission) : Prop where
  /-- No two accepted entries name the same revision. -/
  distinct : (acceptedRevisions w.state.trail.entries).Nodup
  /-- They name the revisions in the histories. -/
  exact : ∀ id, some id ∈ acceptedRevisions w.state.trail.entries ↔
    ∃ script history v, w.state.registry.history? script = some history ∧ v ∈ history ∧ v.id = id
  /-- Each of them tells what its revision and the one submission that
  made it say. -/
  credits : ∀ entry ∈ w.state.trail.entries, entry.action = .accepted →
    ∃ i call v history, w.calls[i]? = some call ∧ call.progress.revision? = some v ∧
      (∀ j, Produces w.calls j v → j = i) ∧
      w.state.registry.history? v.script = some history ∧ v ∈ history ∧
      Credits call.submission v entry
  /-- All other entries tell of no revision. -/
  declines : ∀ entry ∈ w.state.trail.entries, entry.action = .rejected → entry.revision = none
  /-- Every submission that was let in has one entry. -/
  count : w.state.trail.entries.length = admitted.length

/-- **The audit.** Whatever submissions arrive, and however their steps
alternate, as long as the archive takes code and the identifiers in use
are pairwise distinct: when all submissions are over, the trail accounts
for the histories. -/
theorem trail_accounts_for_histories (rules : Rules) (hwriting : rules.outage.writing = false)
    (events : List Event) (hfresh : (World.run rules events).issued.Nodup)
    (hover : ∀ call ∈ (World.run rules events).calls, ∃ answer, call.progress = .done answer) :
    Accounts (World.run rules events) (World.admitted rules events) := by
  obtain ⟨hcoherent, -, haudited⟩ := audited_run rules events hfresh
  -- Whoever has made a revision was told so.
  have htold : ∀ {i v}, Produces (World.run rules events).calls i v →
      ∃ sub, Told (World.run rules events).calls i sub v := by
    rintro i v ⟨⟨sub, progress⟩, hi, hv⟩
    obtain ⟨answer, rfl⟩ := hover _ (List.mem_of_getElem? hi)
    cases answer with
    | error e => cases hv
    | ok receipt => exact ⟨sub, receipt, hi, Option.some.inj hv⟩
  have hcredits : ∀ entry ∈ (World.run rules events).state.trail.entries,
      entry.action = .accepted → ∃ i sub v, Told (World.run rules events).calls i sub v ∧
        Credits sub v entry := by
    intro entry hentry haccepted
    rcases haudited.entries entry hentry with hd | hc
    · cases hd.1.symm.trans haccepted
    · exact hc
  constructor
  case distinct => exact haudited.distinct
  case exact =>
    intro id
    constructor
    · intro hid
      obtain ⟨entry, hentry, hrevision⟩ := List.mem_map.mp hid
      obtain ⟨hentry, haccepted⟩ := List.mem_filter.mp hentry
      obtain ⟨i, sub, v, ⟨receipt, hi, hv⟩, hc⟩ :=
        hcredits entry hentry (of_decide_eq_true haccepted)
      obtain ⟨history, hh, hmem⟩ := haudited.kept i v ⟨_, hi, congrArg some hv⟩
      rw [hc.revision, Option.some.injEq] at hrevision
      exact ⟨v.script, history, v, hh, hmem, hrevision⟩
    · rintro ⟨script, history, v, hh, hmem, rfl⟩
      obtain ⟨i, hp⟩ := haudited.produced script history hh v hmem
      obtain ⟨sub, ht⟩ := htold hp
      obtain ⟨entry, hentry, hc⟩ := haudited.told i sub v ht
      exact List.mem_map.mpr ⟨entry, List.mem_filter.mpr
        ⟨hentry, decide_eq_true hc.action⟩, hc.revision⟩
  case credits =>
    intro entry hentry haccepted
    obtain ⟨i, sub, v, ⟨receipt, hi, hv⟩, hc⟩ := hcredits entry hentry haccepted
    have hp : Produces (World.run rules events).calls i v := ⟨_, hi, congrArg some hv⟩
    obtain ⟨history, hh, hmem⟩ := haudited.kept i v hp
    exact ⟨i, _, v, history, hi, congrArg some hv,
      fun j hj => hcoherent.producer j i v v hj hp rfl, hh, hmem, hc⟩
  case declines =>
    intro entry hentry hrejected
    rcases haudited.entries entry hentry with hd | ⟨_, _, _, -, hc⟩
    · exact hd.2
    · cases hc.action.symm.trans hrejected
  case count =>
    have hnone : (World.run rules events).calls.countP Call.isUnderway = 0 := by
      rw [List.countP_eq_zero]
      rintro ⟨sub, progress⟩ hcall hunderway
      obtain ⟨answer, rfl⟩ := hover _ hcall
      cases hunderway
    have hcount := length_entries rules hwriting events
    rw [hnone, Nat.add_zero] at hcount
    exact hcount

/-- Whether every submission is over. -/
def World.isOver (w : World) : Bool := w.calls.all fun call => !call.isUnderway

/-- When all is over, every submission has its answer. -/
theorem World.done_of_isOver {w : World} (h : w.isOver = true) {call : Call}
    (hcall : call ∈ w.calls) : ∃ answer, call.progress = .done answer := by
  have hnot := List.all_eq_true.mp h call hcall
  obtain ⟨sub, progress⟩ := call
  cases progress with
  | underway stage => cases hnot
  | done answer => exact ⟨answer, rfl⟩

/-- Of three submissions, two have made a revision, and the third one has
an entry too. -/
theorem trail_accounts_for_histories_race :
    (World.run sampleRules finishedRace).issued.Nodup ∧
    (World.run sampleRules finishedRace).isOver = true ∧
    acceptedRevisions (World.run sampleRules finishedRace).state.trail.entries
      = [some ⟨10⟩, some ⟨28⟩] ∧
    (World.admitted sampleRules finishedRace).length = 3 ∧
    Accounts (World.run sampleRules finishedRace) (World.admitted sampleRules finishedRace) := by
  have hfresh : (World.run sampleRules finishedRace).issued.Nodup := by decide +kernel
  have hover : (World.run sampleRules finishedRace).isOver = true := by decide +kernel
  exact ⟨hfresh, hover, by decide +kernel, by decide +kernel,
    trail_accounts_for_histories sampleRules rfl finishedRace hfresh
      fun call hcall => World.done_of_isOver hover hcall⟩

end ScriptGate.Service
