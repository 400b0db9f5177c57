import ScriptGate.Proofs.Service.Histories

/-!
# `ScriptGate.Proofs.Service.Chronology`: histories in the order of time

A revision carries the time at which its submission read the clock. It is
committed later, and in the meantime other submissions read the clock and
commit. So revisions are not committed in the order of their times. But
those of one script are, as long as the clock never goes backwards:
`histories_are_chronological`.

The invariant is `Timely`. A submission takes its snapshot first and reads
the clock after that, so the revision that the snapshot names carries a
time no later than its own (`NamesEarlier`). A commit succeeds only if
that revision is still the last one of the script (`snapshot_last`). If
the clock were read before the snapshot, a faster submission could commit
a later time in between, and the slower one would still succeed.
-/

set_option autoImplicit false

namespace ScriptGate.Service

open Review (Verdict)
open Store (CodeId Commit Record Registry Revision)
open Store.Registry (Extends extends_of_commit revisionOf scriptOf)

/-! ### The clock -/

/-- The time that an event takes from outside. -/
def Event.time? : Event → Option Instant
  | .submit _ => none
  | .advance _ m => some m.now

/-- The times of some events. -/
def timesOf (events : List Event) : List Instant := events.filterMap Event.time?

/-- One more event brings at most one more time. -/
theorem timesOf_append_singleton (events : List Event) (e : Event) :
    timesOf (events ++ [e]) = timesOf events ++ e.time?.toList := by
  rw [timesOf, List.filterMap_append, timesOf]
  cases he : e.time? with
  | none => rw [List.filterMap_cons_none he, List.filterMap_nil, Option.toList_none]
  | some t => rw [List.filterMap_cons_some he, List.filterMap_nil, Option.toList_some]

/-- The clock never goes backwards. -/
def ClockForward (events : List Event) : Prop :=
  (timesOf events).Pairwise fun s t => s.le t = true

instance (events : List Event) : Decidable (ClockForward events) :=
  inferInstanceAs (Decidable (List.Pairwise _ _))

/-- No event is earlier than one before it. -/
theorem ClockForward.le {events : List Event} {i : Nat} {m : Moment}
    (h : ClockForward (events ++ [.advance i m])) {t : Instant} (ht : t ∈ timesOf events) :
    t.le m.now = true := by
  rw [ClockForward, timesOf_append_singleton, List.pairwise_append] at h
  exact h.2.2 t ht m.now (List.mem_singleton_self _)

/-! ### The invariant -/

/-- The revision that the record names carries a time no later than
`t`. -/
def NamesEarlier (r : Registry) (record : Record) (t : Instant) : Prop :=
  ∃ history u, r.history? record.id = some history ∧ u ∈ history ∧
    u.id = record.latestRevision ∧ u.acceptedAt.le t = true

/-- What the time of a submission has to do with its snapshot. -/
def Stage.Timely (times : List Instant) (r : Registry) : Stage → Prop
  | .reviewed existing submittedAt _ | .stored existing submittedAt _ _ _ =>
      submittedAt ∈ times ∧
      ∀ record, existing = some record → NamesEarlier r record submittedAt
  | .found _ | .committed _ _ _ | .outrun _ _ _ => True

/-- A world whose events so far were at `times`. -/
structure Timely (times : List Instant) (w : World) : Prop where
  /-- Every revision carries one of the times. -/
  read : ∀ id history, w.state.registry.history? id = some history →
    ∀ v ∈ history, v.acceptedAt ∈ times
  /-- No submission has an earlier time than its snapshot. -/
  stages : ∀ call ∈ w.calls, ∀ stage, call.progress = .underway stage →
    stage.Timely times w.state.registry
  /-- No revision has an earlier time than one before it. -/
  sorted : ∀ id history, w.state.registry.history? id = some history →
    history.Pairwise fun u v => u.acceptedAt.le v.acceptedAt = true

/-- In the beginning there are no times to keep to. -/
theorem timely_initial : Timely [] World.initial where
  read := fun _ _ h => by cases h
  stages := fun _ h => by cases h
  sorted := fun _ _ h => by cases h

/-- A snapshot keeps its time, because no revision is ever lost. -/
theorem NamesEarlier.extends {r r' : Registry} {id : Uuid} {record old : Record} {v : Revision}
    {t : Instant} (h : NamesEarlier r old t) (hx : Extends r r' id record v) :
    NamesEarlier r' old t := by
  obtain ⟨history, u, hh, hu, hrest⟩ := h
  obtain ⟨history', hh', hpre⟩ := hx.history_grows hh
  exact ⟨history', u, hh', hpre.subset hu, hrest⟩

/-- What is true of a stage stays true while the registry loses nothing
and the clock goes on. -/
theorem Stage.Timely.mono {times more : List Instant} {r r' : Registry} {stage : Stage}
    (h : stage.Timely times r) (htimes : times ⊆ more)
    (hr : ∀ record t, NamesEarlier r record t → NamesEarlier r' record t) :
    stage.Timely more r' := by
  cases stage with
  | reviewed existing submittedAt v =>
      exact ⟨htimes h.1, fun record he => hr record _ (h.2 record he)⟩
  | stored existing submittedAt v rawCode canonicalCode =>
      exact ⟨htimes h.1, fun record he => hr record _ (h.2 record he)⟩
  | found | committed | outrun => trivial

/-- In a sorted history, the last revision has the latest time. -/
theorem le_last_of_sorted {history : List Revision}
    (h : history.Pairwise fun u v => u.acceptedAt.le v.acceptedAt = true) {u v : Revision}
    (hu : history.getLast? = some u) (hv : v ∈ history) :
    v.acceptedAt.le u.acceptedAt = true := by
  obtain ⟨before, rfl⟩ := List.getLast?_eq_some_iff.mp hu
  rw [List.pairwise_append] at h
  rcases List.mem_append.mp hv with hv | hv
  · exact h.2.2 v hv u (List.mem_singleton_self _)
  · rw [List.mem_singleton.mp hv]
    exact Instant.le_refl _

section Steps

variable {rules : Rules} {w : World} {times more : List Instant} {i : Nat} {sub : Submission}
  {m : Moment}

/-- The clock goes on. -/
theorem Timely.mono (h : Timely times w) (htimes : times ⊆ more) : Timely more w where
  read := fun id history hh v hv => htimes (h.read id history hh v hv)
  stages := fun call hcall stage hstage =>
    (h.stages call hcall stage hstage).mono htimes fun _ _ hn => hn
  sorted := h.sorted

/-- A submission that arrives has not read the clock. -/
theorem Timely.submit (h : Timely times w) : Timely times (w.step rules (.submit sub)) where
  read := h.read
  stages := fun call hcall stage hstage => by
    rcases underway_submit_cases hcall hstage with hcall | ⟨-, existing, rfl, -⟩
    · exact h.stages call hcall stage hstage
    · trivial
  sorted := h.sorted

/-- A step that commits nothing keeps the invariant. -/
theorem Timely.progress (h : Timely times w) {state : State} {after : Progress}
    (hstate : state.registry = w.state.registry)
    (hnext : ∀ stage, after = .underway stage → stage.Timely times w.state.registry)
    (issued : List Uuid) : Timely times ⟨state, w.calls.set i ⟨sub, after⟩, issued⟩ := by
  refine ⟨?_, fun call hcall stage hstage => ?_, ?_⟩
  · show ∀ id history, state.registry.history? id = some history → _
    rw [hstate]
    exact h.read
  · show stage.Timely times state.registry
    rw [hstate]
    rcases List.mem_or_eq_of_mem_set hcall with hcall | rfl
    · exact h.stages call hcall stage hstage
    · exact hnext stage hstage
  · show ∀ id history, state.registry.history? id = some history → _
    rw [hstate]
    exact h.sorted

/-- The review reads the clock after the snapshot was taken. -/
theorem Timely.namesEarlier (h : Timely times w) {record : Record}
    (hrecord : IsSnapshot w.state.registry record) {now : Instant}
    (hnow : ∀ t ∈ times, t.le now = true) : NamesEarlier w.state.registry record now := by
  obtain ⟨history, u, hh, hu, hid, -⟩ := hrecord
  exact ⟨history, u, hh, hu, hid, hnow _ (h.read _ history hh u hu)⟩

section Commits

variable {existing : Option Record} {submittedAt : Instant} {verdict : Verdict}
  {rawCode canonicalCode : CodeId} {c : Commit} {registry : Registry} {record : Record}
  {revision : Revision}

/-- A committed revision has no earlier time than those of its script. -/
theorem Timely.le_committed (h : Timely times w) (hw : Coherent rules w)
    (hstage : (Stage.stored existing submittedAt verdict rawCode canonicalCode).Timely times
      w.state.registry)
    (hc : commitFor existing sub.request verdict submittedAt rawCode canonicalCode = .ok c)
    (hr : w.state.registry.commit c m.freshScript m.freshRevision
      = .ok (registry, record, revision))
    {id : Uuid} (hid : c.script = some id) {history : List Revision}
    (hh : w.state.registry.history? id = some history) {v : Revision} (hv : v ∈ history) :
    v.acceptedAt.le submittedAt = true := by
  obtain ⟨u, hu⟩ : ∃ u, history.getLast? = some u :=
    ⟨_, List.getLast?_eq_some_getLast (List.ne_nil_of_mem hv)⟩
  -- The snapshot names the last revision, whose time is the latest.
  obtain ⟨old, rfl, rfl, hlast⟩ := snapshot_last hw hc hr hid hh hu
  obtain ⟨history', u', hh', hu', hid', hle⟩ := hstage.2 old rfl
  rw [hh, Option.some.injEq] at hh'
  subst hh'
  obtain rfl := hlast u' hu' hid'
  exact Instant.le_trans (le_last_of_sorted (h.sorted _ _ hh) hu hv) hle

/-- The step that commits keeps the invariant. -/
theorem Timely.commit (h : Timely times w) (hw : Coherent rules w)
    (hi : w.calls[i]? = some
      ⟨sub, .underway (.stored existing submittedAt verdict rawCode canonicalCode)⟩)
    (hc : commitFor existing sub.request verdict submittedAt rawCode canonicalCode = .ok c)
    (hr : w.state.registry.commit c m.freshScript m.freshRevision
      = .ok (registry, record, revision))
    (hfresh : (w.issued ++ w.state.registry.taken c m.freshScript m.freshRevision).Nodup)
    (issued : List Uuid) :
    Timely times ⟨{ w.state with registry },
      w.calls.set i ⟨sub, .underway (.committed verdict record revision)⟩, issued⟩ := by
  have hstage := h.stages _ (List.mem_of_getElem? hi) _ rfl
  obtain ⟨hrevision, hx⟩ := extends_of_commit hr
  have htime : revision.acceptedAt = submittedAt := by
    obtain ⟨_, _, _, -, -, -, rfl⟩ := commitFor_eq_ok hc
    rw [hrevision]
    rfl
  constructor
  case read =>
    intro id history hh v hv
    rcases hx.revision_cases hh hv with ⟨earlier, hearlier, hv⟩ | rfl
    · exact h.read id earlier hearlier v hv
    · rw [htime]
      exact hstage.1
  case stages =>
    intro call hcall stage hnext
    rcases List.mem_or_eq_of_mem_set hcall with hcall | rfl
    · exact (h.stages call hcall stage hnext).mono (List.Subset.refl _)
        fun _ _ hn => hn.extends hx
    · cases hnext
      trivial
  case sorted =>
    intro id history hh
    rcases hx.history_cases hh with hh | ⟨-, rfl⟩
    · exact h.sorted id history hh
    · cases hs : c.script with
      | none =>
          -- The history of a new script is empty until now.
          rw [scriptOf, hs, Option.getD_none, hw.sound.history?_fresh hr hfresh hs]
          exact List.pairwise_singleton _ _
      | some id =>
          rw [scriptOf, hs, Option.getD_some]
          cases hold : w.state.registry.history? id with
          | none => exact List.pairwise_singleton _ _
          | some earlier =>
              rw [Option.getD_some, List.pairwise_append]
              refine ⟨h.sorted id earlier hold, List.pairwise_singleton _ _, fun v hv x hx => ?_⟩
              rw [List.mem_singleton.mp hx, htime]
              exact h.le_committed hw hstage hc hr hs hold hv

end Commits

/-- Every step keeps the invariant, if its identifiers are new and the
clock has not gone backwards. -/
theorem timely_move (h : Timely times w) (hw : Coherent rules w) {stage : Stage}
    (hi : w.calls[i]? = some ⟨sub, .underway stage⟩) {after : State} {progress : Progress}
    (hmove : Move rules sub m w.state stage after progress)
    (hfresh : (w.issued ++ stage.taken sub m w.state).Nodup)
    (hnow : ∀ t ∈ times, t.le m.now = true) :
    Timely (times ++ [m.now]) ⟨after, w.calls.set i ⟨sub, progress⟩,
      w.issued ++ stage.taken sub m w.state⟩ := by
  have h' : Timely (times ++ [m.now]) w := h.mono (List.subset_append_left _ _)
  have hstage := h'.stages _ (List.mem_of_getElem? hi) stage rfl
  cases hmove with
  | review existing =>
      have hvalid := hw.stages _ (List.mem_of_getElem? hi) _ rfl
      refine h'.progress (by rfl) ?_ _
      rintro _ ⟨⟩
      -- The review takes its time after the snapshot was taken.
      exact ⟨List.mem_append_right _ (List.mem_singleton_self _),
        fun record he => h.namesEarlier (hvalid record he) hnow⟩
  | store existing submittedAt v hv hwriting =>
      refine h'.progress (by rfl) ?_ _
      rintro _ ⟨⟩
      exact hstage
  | commit existing submittedAt v rawCode canonicalCode c registry record revision hc hr =>
      have htaken : (Stage.stored existing submittedAt v rawCode canonicalCode).taken sub m w.state
          = w.state.registry.taken c m.freshScript m.freshRevision := by
        simp only [Stage.taken, hc]
      rw [htaken] at hfresh
      exact h'.commit hw hi hc hr hfresh _
  | lose =>
      refine h'.progress (by rfl) ?_ _
      rintro _ ⟨⟩
      trivial
  | refuse | closed | unresolved | vanish | accept | concede =>
      exact h'.progress (by rfl) (fun _ hs => by cases hs) _

end Steps

/-- Every world that is reached is timely. -/
theorem timely_run (rules : Rules) (events : List Event)
    (hfresh : (World.run rules events).issued.Nodup) (hclock : ClockForward events) :
    Timely (timesOf events) (World.run rules events) := by
  induction events using List.reverseRecOn with
  | nil => exact timely_initial
  | append_singleton events e ih =>
      rw [World.run_append_singleton] at hfresh ⊢
      rw [timesOf_append_singleton]
      -- What holds of all events holds of those before the last one.
      have hfresh' : (World.run rules events).issued.Nodup :=
        hfresh.sublist (World.issued_prefix_step rules _ e).sublist
      have hclock' : ClockForward events := by
        rw [ClockForward, timesOf_append_singleton, List.pairwise_append] at hclock
        exact hclock.1
      have h := ih hfresh' hclock'
      have hw := coherent_run rules events hfresh'
      cases e with
      | submit sub =>
          show Timely (timesOf events ++ []) _
          rw [List.append_nil]
          exact h.submit
      | advance i m =>
          rcases World.step_advance rules (World.run rules events) i m with
            hsame | ⟨sub, stage, hi, hstep⟩
          · rw [hsame]
            exact h.mono (List.subset_append_left _ _)
          · rw [hstep] at hfresh ⊢
            exact timely_move h hw hi (move_advance rules sub m _ stage) hfresh
              fun t ht => hclock.le ht

/-! ### Histories and records -/

/-- A history in the order of time, with a record that says when it began
and when it was last added to. -/
structure Chronological (record : Record) (history : List Revision) : Prop where
  /-- No revision was accepted before the one in front of it. -/
  sorted : history.Pairwise fun u v => u.acceptedAt.le v.acceptedAt = true
  /-- The script was not changed before it was made. -/
  age : record.createdAt.le record.updatedAt = true
  /-- It was changed last when some revision was accepted. -/
  change : ∃ v ∈ history, v.acceptedAt = record.updatedAt
  /-- No revision was accepted after that. -/
  latest : ∀ v ∈ history, v.acceptedAt.le record.updatedAt = true

/-- **Histories are in the order of time.** Whatever submissions arrive,
and however their steps alternate, as long as the clock never goes
backwards and the identifiers in use are pairwise distinct. -/
theorem histories_are_chronological (rules : Rules) (events : List Event)
    (hfresh : (World.run rules events).issued.Nodup) (hclock : ClockForward events) (id : Uuid) :
    ((World.run rules events).state.registry.record? id = none ∧
      (World.run rules events).state.registry.history? id = none) ∨
    ∃ record history, (World.run rules events).state.registry.record? id = some record ∧
      (World.run rules events).state.registry.history? id = some history ∧
      Chronological record history := by
  have h := timely_run rules events hfresh hclock
  rcases (coherent_run rules events hfresh).sound.reflects id with
    hnone | ⟨record, history, hrecord, hh, href⟩
  · exact Or.inl hnone
  · have hsorted := h.sorted id history hh
    obtain ⟨first, hfirst, hcreated⟩ := href.first
    obtain ⟨last, hlast, -, -, -, hupdated⟩ := href.last
    refine Or.inr ⟨record, history, hrecord, hh, hsorted, ?_, ?_, fun v hv => ?_⟩
    · rw [hcreated, hupdated]
      exact le_last_of_sorted hsorted hlast (List.mem_of_head? hfirst)
    · exact ⟨last, List.mem_of_getLast? hlast, hupdated.symm⟩
    · rw [hupdated]
      exact le_last_of_sorted hsorted hlast hv

/-- In the race, the submission that reads the clock later comes too
late, and the history has the earlier time. -/
theorem histories_are_chronological_race :
    (World.run sampleRules sampleRace).issued.Nodup ∧ ClockForward sampleRace ∧
    ∃ record history, (World.run sampleRules sampleRace).state.registry.record? ⟨9⟩ = some record ∧
      (World.run sampleRules sampleRace).state.registry.history? ⟨9⟩ = some history ∧
      history.map Revision.acceptedAt = [.ofSeconds 1, .ofSeconds 5] ∧
      Chronological record history := by
  have hfresh : (World.run sampleRules sampleRace).issued.Nodup := by decide +kernel
  have hclock : ClockForward sampleRace := by decide +kernel
  have htimes : ((World.run sampleRules sampleRace).state.registry.history? ⟨9⟩).map
      (List.map Revision.acceptedAt) = some [.ofSeconds 1, .ofSeconds 5] := by
    decide +kernel
  refine ⟨hfresh, hclock, ?_⟩
  rcases histories_are_chronological sampleRules sampleRace hfresh hclock ⟨9⟩ with
    ⟨-, hnone⟩ | ⟨record, history, hrecord, hh, hc⟩
  · rw [hnone] at htimes
    cases htimes
  · rw [hh, Option.map_some, Option.some.injEq] at htimes
    exact ⟨record, history, hrecord, hh, htimes, hc⟩

end ScriptGate.Service
