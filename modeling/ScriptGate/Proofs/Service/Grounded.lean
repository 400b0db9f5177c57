import ScriptGate.Proofs.Review.Ruling
import ScriptGate.Proofs.Service.Trace

/-!
# `ScriptGate.Proofs.Service.Grounded`: what a submission has to go on

A submission that is not over carries what its earlier steps have found:
a snapshot, a verdict, the digests of two texts, a record. In the
meantime other submissions change the state. `Stage.Grounded` says what
stays true of it all the same, and `Grounded` that it is true of every
submission in a world. It holds after every run, also when identifiers
are given twice, because it never tells two revisions apart.

Each step of a run is `Legal`: a move that starts from grounded facts. So
an accepted revision has all values that its commit needs
(`Stage.Grounded.commitFor_ok`), and its commit can only fail because
another revision was faster (`Stage.Grounded.error_of_commit`).

What a review sees of an earlier revision comes from an accepted review
too. `shows_trace` is the induction over that: it carries whatever such
reviews hand on.
-/

set_option autoImplicit false

namespace ScriptGate.Service

open Review (Previous Verdict complete_of_accepted)
open Store (CodeId Commit CommitError Record Registry Revision)
open Store.Registry (Current Extends current_commit current_empty extends_of_commit
  record_of_commit scriptOf)

/-- The script of a snapshot is known. -/
def IsKnown (r : Registry) (existing : Option Record) : Prop :=
  ∀ record, existing = some record → r.record? record.id ≠ none

/-- What is true of a submission at `stage`, whatever happened since. -/
def Stage.Grounded (rules : Rules) (sub : Submission) (r : Registry) : Stage → Prop
  | .found existing => IsKnown r existing
  | .reviewed existing submittedAt v =>
      IsKnown r existing ∧ v = rules.review existing sub.request submittedAt
  | .stored existing submittedAt v rawCode canonicalCode =>
      IsKnown r existing ∧ v = rules.review existing sub.request submittedAt ∧
      v.isAccepted = true ∧ rawCode = CodeId.ofCode sub.request.code ∧
      canonicalCode = CodeId.ofCode v.canonical
  | .committed v record revision =>
      record.id = revision.script ∧ v.version = some revision.version
  | .outrun _ v _ => v.isAccepted = true

/-- A world in which records are current and submissions are grounded. -/
structure Grounded (rules : Rules) (w : World) : Prop where
  /-- Every record tells of the last revision of its script. -/
  records : Current w.state.registry
  /-- What the submissions have found out is true. -/
  stages : ∀ call ∈ w.calls, ∀ stage, call.progress = .underway stage →
    stage.Grounded rules call.submission w.state.registry

/-- In the beginning there are no records and no submissions. -/
theorem grounded_initial (rules : Rules) : Grounded rules World.initial where
  records := current_empty
  stages := fun _ h => by cases h

/-! ### Steps -/

/-- Known scripts are not forgotten. -/
def Remembers (r r' : Registry) : Prop := ∀ id, r.record? id ≠ none → r'.record? id ≠ none

/-- A registry that stays the same forgets nothing. -/
theorem Remembers.refl (r : Registry) : Remembers r r := fun _ h => h

/-- What was found out stays true while no script is forgotten. -/
theorem Stage.Grounded.mono {rules : Rules} {sub : Submission} {r r' : Registry} {stage : Stage}
    (h : stage.Grounded rules sub r) (hr : Remembers r r') : stage.Grounded rules sub r' := by
  cases stage with
  | found existing => exact fun record he => hr _ (h record he)
  | reviewed existing submittedAt v => exact ⟨fun record he => hr _ (h.1 record he), h.2⟩
  | stored existing submittedAt v rawCode canonicalCode =>
      exact ⟨fun record he => hr _ (h.1 record he), h.2⟩
  | committed v record revision => exact h
  | outrun existing v id => exact h

section Moves

variable {rules : Rules} {sub : Submission} {m : Moment} {s after : State} {stage : Stage}
  {progress : Progress}

/-- No step forgets a script, and records stay current. -/
theorem Move.registry (hmove : Move rules sub m s stage after progress)
    (hr : Current s.registry) :
    Current after.registry ∧ Remembers s.registry after.registry := by
  cases hmove with
  | commit existing submittedAt v rawCode canonicalCode c registry record revision hc hcommit =>
      obtain ⟨-, hx⟩ := extends_of_commit hcommit
      exact ⟨current_commit hr hcommit, fun id hid => hx.record_stays hid⟩
  | review | refuse | closed | store | unresolved | vanish | lose | accept | concede =>
      exact ⟨hr, .refl _⟩

/-- What a step finds out is true. -/
theorem Move.grounded (hmove : Move rules sub m s stage after progress)
    (hr : Current s.registry) (h : stage.Grounded rules sub s.registry) {next : Stage}
    (hnext : progress = .underway next) : next.Grounded rules sub after.registry := by
  cases hmove with
  | review existing =>
      cases hnext
      exact ⟨h, rfl⟩
  | store existing submittedAt v hv hw =>
      cases hnext
      exact ⟨h.1, h.2, hv, rfl, rfl⟩
  | commit existing submittedAt v rawCode canonicalCode c registry record revision hc hcommit =>
      cases hnext
      obtain ⟨_, _, version, -, -, hversion, rfl⟩ := commitFor_eq_ok hc
      obtain ⟨hrevision, -⟩ := extends_of_commit hcommit
      obtain ⟨hid, -⟩ := record_of_commit hr hcommit
      rw [hrevision]
      exact ⟨hid, hversion⟩
  | lose existing submittedAt v rawCode canonicalCode c id hc hcommit =>
      cases hnext
      exact h.2.2.1
  | refuse | closed | unresolved | vanish | accept | concede => cases hnext

/-- A step keeps a world grounded. -/
theorem grounded_move {w : World} (h : Grounded rules w) {i : Nat}
    (hi : w.calls[i]? = some ⟨sub, .underway stage⟩)
    (hmove : Move rules sub m w.state stage after progress) (issued : List Uuid) :
    Grounded rules ⟨after, w.calls.set i ⟨sub, progress⟩, issued⟩ := by
  have hstage := h.stages _ (List.mem_of_getElem? hi) stage rfl
  obtain ⟨hcurrent, hkeep⟩ := hmove.registry h.records
  refine ⟨hcurrent, fun call hcall next hnext => ?_⟩
  -- The submission that moved, or another one.
  rcases List.mem_or_eq_of_mem_set hcall with hcall | rfl
  · exact (h.stages call hcall next hnext).mono hkeep
  · exact hmove.grounded h.records hstage hnext

end Moves

/-- A submission that arrives keeps a world grounded. -/
theorem grounded_submit {rules : Rules} {w : World} (h : Grounded rules w) (sub : Submission) :
    Grounded rules (w.step rules (.submit sub)) := by
  refine ⟨h.records, fun call hcall stage hstage => ?_⟩
  rcases underway_submit_cases hcall hstage with hcall | ⟨-, existing, rfl, hrecord⟩
  · exact h.stages call hcall stage hstage
  · intro record hr
    -- The snapshot is the record of the script as it is now.
    obtain ⟨id, -, hid⟩ := hrecord record hr
    show w.state.registry.record? record.id ≠ none
    rw [(h.records id record hid).script, hid]
    exact Option.some_ne_none _

/-! ### The steps of a run -/

/-- A step as a service makes it: a move, from what is true. -/
structure Step.Legal (rules : Rules) (x : Step) : Prop where
  move : Move rules x.submission x.moment x.before x.stage x.after x.progress
  records : Current x.before.registry
  stage : x.stage.Grounded rules x.submission x.before.registry

/-- Every world that is reached is grounded, and every step on the way is
legal. -/
theorem grounded_trace (rules : Rules) (events : List Event) :
    Grounded rules (World.run rules events) ∧
      ∀ x ∈ World.trace rules events, x.Legal rules := by
  refine World.trace_induction rules
    (P := fun w steps => Grounded rules w ∧ ∀ x ∈ steps, x.Legal rules) ?_ ?_ ?_ events
  · exact ⟨grounded_initial rules, fun _ h => by cases h⟩
  · rintro w steps sub ⟨h, hlegal⟩
    exact ⟨grounded_submit h sub, hlegal⟩
  · rintro w steps i sub m stage after progress ⟨h, hlegal⟩ hi hmove
    refine ⟨grounded_move h hi hmove _, fun x hx => ?_⟩
    rcases List.mem_append.mp hx with hx | hx
    · exact hlegal x hx
    · rw [List.mem_singleton.mp hx]
      exact ⟨hmove, h.records, h.stages _ (List.mem_of_getElem? hi) stage rfl⟩

/-- Every world that can be reached is grounded. -/
theorem grounded_run (rules : Rules) (events : List Event) :
    Grounded rules (World.run rules events) :=
  (grounded_trace rules events).1

section Accepted

variable {rules : Rules} {sub : Submission} {r : Registry} {existing : Option Record}
  {submittedAt : Instant} {v : Verdict} {rawCode canonicalCode : CodeId}

/-- An accepted revision has all that its commit needs. -/
theorem Stage.Grounded.commitFor_ok
    (h : (Stage.stored existing submittedAt v rawCode canonicalCode).Grounded rules sub r) :
    ∃ c, commitFor existing sub.request v submittedAt rawCode canonicalCode = .ok c := by
  obtain ⟨-, hv, haccepted, -, -⟩ := h
  rw [hv] at haccepted
  obtain ⟨version, -, name, description, hversion, -, hname, hdescription⟩ :=
    complete_of_accepted haccepted
  rw [hv]
  unfold commitFor needed
  rw [show (rules.review existing sub.request submittedAt).name = some name from hname,
    show (rules.review existing sub.request submittedAt).description = some description from
      hdescription,
    show (rules.review existing sub.request submittedAt).version = some version from hversion]
  exact ⟨_, rfl⟩

/-- Its commit fails only when the snapshot is out of date. -/
theorem Stage.Grounded.error_of_commit
    (h : (Stage.stored existing submittedAt v rawCode canonicalCode).Grounded rules sub r)
    {c : Commit} (hc : commitFor existing sub.request v submittedAt rawCode canonicalCode = .ok c)
    {freshScript freshRevision : Uuid} {e : CommitError}
    (he : r.commit c freshScript freshRevision = .error e) :
    ∃ old now, existing = some old ∧ r.record? old.id = some now ∧
      now.latestRevision ≠ old.latestRevision ∧ e = .superseded old.id := by
  obtain ⟨_, _, _, -, -, -, rfl⟩ := commitFor_eq_ok hc
  obtain ⟨id, hid, hcases⟩ := Store.Registry.commit_error_cases he
  obtain ⟨old, rfl, rfl⟩ := Option.map_eq_some_iff.mp hid
  rcases hcases with ⟨hnone, -⟩ | ⟨now, hnow, hlatest, rfl⟩
  · -- The script was known when the snapshot was taken.
    exact absurd hnone (h.1 old rfl)
  · refine ⟨old, now, rfl, hnow, fun heq => hlatest ?_, rfl⟩
    rw [heq]
    rfl

end Accepted

/-! ### What reviews compare with -/

/-- The snapshot that a submission goes by. -/
def Stage.snapshot : Stage → Option Record
  | .found existing | .reviewed existing _ _ | .stored existing _ _ _ _ | .outrun existing _ _ =>
      existing
  | .committed _ _ _ => none

/-- What a review sees of each record and of each snapshot has the
property. -/
structure Shows (Q : Previous → Prop) (w : World) : Prop where
  records : ∀ id record, w.state.registry.record? id = some record → Q record.previous
  snapshots : ∀ call ∈ w.calls, ∀ stage, call.progress = .underway stage →
    ∀ record, stage.snapshot = some record → Q record.previous

/-- An accepted review has the property of what it compared with. -/
def HandedOn (rules : Rules) (Q : Previous → Prop) : Prop :=
  ∀ existing request now, (∀ record, existing = some record → Q record.previous) →
    (rules.review existing request now).isAccepted = true →
    ∀ version, (rules.review existing request now).version = some version →
      Q ⟨version, (rules.review existing request now).namespaceName,
        (rules.review existing request now).name,
        (rules.review existing request now).description⟩

section Shows

variable {rules : Rules} {Q : Previous → Prop}

/-- What a commit adds comes from an accepted review. -/
theorem shows_move {w : World} (haccepted : HandedOn rules Q) (hg : Grounded rules w)
    (h : Shows Q w) {i : Nat} {sub : Submission} {stage : Stage}
    (hi : w.calls[i]? = some ⟨sub, .underway stage⟩) {m : Moment} {after : State}
    {progress : Progress} (hmove : Move rules sub m w.state stage after progress)
    (issued : List Uuid) : Shows Q ⟨after, w.calls.set i ⟨sub, progress⟩, issued⟩ := by
  have hsnapshot := h.snapshots _ (List.mem_of_getElem? hi) stage rfl
  -- A submission goes on with the snapshot that it has, until it commits.
  have hnext : ∀ next, progress = .underway next → ∀ record, next.snapshot = some record →
      Q record.previous := by
    intro next heq
    cases hmove with
    | review | store | lose =>
        cases heq
        exact hsnapshot
    | commit =>
        cases heq
        exact fun _ hnone => by cases hnone
    | refuse | closed | unresolved | vanish | accept | concede => cases heq
  have hrecords : ∀ id record, after.registry.record? id = some record → Q record.previous := by
    cases hmove with
    | commit existing submittedAt v rawCode canonicalCode c registry record revision hc hr =>
        -- The new record is what an accepted review has handed on.
        obtain ⟨-, hverdict, hv, -, -⟩ := hg.stages _ (List.mem_of_getElem? hi) _ rfl
        obtain ⟨_, hx⟩ := extends_of_commit hr
        obtain ⟨-, -, hprevious⟩ := record_of_commit hg.records hr
        obtain ⟨name, description, version, hname, hdescription, hversion, hcommit⟩ :=
          commitFor_eq_ok hc
        intro id old hold
        by_cases hid : id = scriptOf c m.freshScript
        · rw [hid, hx.record, Option.some.injEq] at hold
          rw [← hold, hprevious, hcommit]
          show Q ⟨version, v.namespaceName, some name, some description⟩
          rw [← hname, ← hdescription]
          rw [hverdict] at hv hversion ⊢
          exact haccepted existing sub.request submittedAt hsnapshot hv version hversion
        · rw [(hx.others id hid).1] at hold
          exact h.records id old hold
    | review | refuse | closed | store | unresolved | vanish | lose | accept | concede =>
        exact h.records
  refine ⟨hrecords, fun call hcall next heq => ?_⟩
  rcases List.mem_or_eq_of_mem_set hcall with hcall | rfl
  · exact h.snapshots call hcall next heq
  · exact hnext next heq

/-- Everything that a review can see comes from an accepted review. So it
has every property that accepted reviews hand on. -/
theorem shows_trace (haccepted : HandedOn rules Q) (events : List Event) :
    Shows Q (World.run rules events) ∧
      ∀ x ∈ World.trace rules events, ∀ record, x.stage.snapshot = some record →
        Q record.previous := by
  have key := World.trace_induction rules
    (P := fun w steps => Grounded rules w ∧ Shows Q w ∧
      ∀ x ∈ steps, ∀ record, x.stage.snapshot = some record → Q record.previous) ?_ ?_ ?_ events
  · exact key.2
  · exact ⟨grounded_initial rules, ⟨fun _ _ h => (by cases h), fun _ h => (by cases h)⟩,
      fun _ h => by cases h⟩
  · rintro w steps sub ⟨hg, h, hsteps⟩
    refine ⟨grounded_submit hg sub, ⟨h.records, fun call hcall stage hstage => ?_⟩, hsteps⟩
    rcases underway_submit_cases hcall hstage with hcall | ⟨-, existing, rfl, hrecord⟩
    · exact h.snapshots call hcall stage hstage
    · intro record hr
      obtain ⟨id, -, hid⟩ := hrecord record hr
      exact h.records id record hid
  · rintro w steps i sub m stage after progress ⟨hg, h, hsteps⟩ hi hmove
    refine ⟨grounded_move hg hi hmove _, shows_move haccepted hg h hi hmove _, fun x hx => ?_⟩
    rcases List.mem_append.mp hx with hx | hx
    · exact hsteps x hx
    · rw [List.mem_singleton.mp hx]
      exact h.snapshots _ (List.mem_of_getElem? hi) stage rfl

end Shows

end ScriptGate.Service
