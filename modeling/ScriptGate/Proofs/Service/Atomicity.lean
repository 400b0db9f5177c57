import ScriptGate.Proofs.Service.Grounded
import ScriptGate.Proofs.Service.Histories
import ScriptGate.Proofs.Store.Archive

/-!
# `ScriptGate.Proofs.Service.Atomicity`: what a failed submission leaves

A submission can fail at several points, and by then it may have stored
its code. `failures_are_atomic` says what each failure leaves behind.

* A request out of range, or for a script that is not known, has made no
  step and so changed nothing.
* A refused revision has left one entry in the trail, with the codes of
  its failures.
* A revision that was outrun has left its two texts in the archive and
  one entry in the trail, whose only code is that of the conflict. The
  record of its script was no longer the one that it was reviewed
  against.
* The service itself is never at fault, as long as the archive takes
  code. An accepted review has settled all values that a commit needs,
  and a known script stays known.

`Account` says for every stage which steps a submission has made to get
there, and `account_move` is one step of it. For a submission that runs
on its own, `submit_of_start` says what its whole effect is, and
`submit_cases` puts the ways to fail beside it; it cannot be outrun.
-/

set_option autoImplicit false

namespace ScriptGate.Service

open Review (Failure Verdict)
open Store (Action Archive CodeId Entry Record Registry)
open Store.Registry (Current)

/-! ### What steps change -/

/-- From `s` to `after`, one entry has come to the end of the trail and
nothing else has changed. -/
structure Recorded (s after : State) (entry : Entry) : Prop where
  archive : after.archive = s.archive
  registry : after.registry = s.registry
  entries : after.trail.entries = s.trail.entries ++ [entry]

/-- From `s` to `after`, two texts have been stored and nothing else has
changed. -/
structure TextsStored (s after : State) (raw canonical : Text) : Prop where
  registry : after.registry = s.registry
  trail : after.trail = s.trail
  /-- They are stored one after the other. -/
  archive : after.archive = (s.archive.store raw).store canonical
  /-- What was in the archive is still there. -/
  kept : ∀ id t, s.archive.load? id = some t → after.archive.load? id = some t
  /-- What is there now was there before, or is one of the two texts. -/
  added : ∀ id t, after.archive.load? id = some t →
    s.archive.load? id = some t ∨ ((t = raw ∨ t = canonical) ∧ CodeId.ofCode t = id)

/-- Adding to the trail records the entry. -/
theorem recorded_add (s : State) (entry : Entry) :
    Recorded s { s with trail := s.trail.add entry } entry where
  archive := rfl
  registry := rfl
  entries := s.trail.entries_add entry

/-- Storing two texts leaves both to be loaded, and every text that was there
before. -/
theorem textsStored (s : State) (raw canonical : Text) :
    TextsStored s { s with archive := (s.archive.store raw).store canonical } raw canonical where
  registry := rfl
  trail := rfl
  archive := rfl
  kept := fun _ _ h => Archive.load?_store_of_some (Archive.load?_store_of_some h raw) canonical
  added := by
    intro id t h
    rcases Archive.load?_store_cases h with h | ⟨rfl, hid⟩
    · rcases Archive.load?_store_cases h with h | ⟨rfl, hid⟩
      · exact Or.inl h
      · exact Or.inr ⟨Or.inl rfl, hid⟩
    · exact Or.inr ⟨Or.inr rfl, hid⟩

/-- The step changes nothing. -/
def Step.Quiet (x : Step) : Prop := x.after = x.before

/-- The step adds an entry to the trail and changes nothing else. -/
def Step.Records (x : Step) (entry : Entry) : Prop := Recorded x.before x.after entry

/-- The step stores two texts and changes nothing else. -/
def Step.Stores (x : Step) (raw canonical : Text) : Prop :=
  TextsStored x.before x.after raw canonical

/-- The step wants to commit a revision that was reviewed against `old`,
when the script has another record. -/
def Step.OutOfDate (x : Step) (old : Record) : Prop :=
  ∃ submittedAt v rawCode canonicalCode now,
    x.stage = .stored (some old) submittedAt v rawCode canonicalCode ∧
    x.before.registry.record? old.id = some now ∧ now.latestRevision ≠ old.latestRevision

/-- The entry says that the submission was refused, for failures with
these codes. -/
structure Refuses (sub : Submission) (codes : List String) (entry : Entry) : Prop where
  action : entry.action = .rejected
  /-- No revision was made. -/
  revision : entry.revision = none
  author : entry.author = sub.request.author
  /-- The codes stand in the order of the checks. -/
  failures : entry.failures = codes

/-- What the submission has done that made the steps `xs` and failed with
`e`. -/
def FailsAtomically (rules : Rules) (sub : Submission) (xs : List Step) (e : Refusal) : Prop :=
  match e.classOf with
  | .validation | .notFound => xs = []
  | .rejected => ∃ failures x y entry, e = .rejected failures ∧ xs = [x, y] ∧ x.Quiet ∧
      y.Records entry ∧ Refuses sub (failures.map Failure.code) entry
  | .conflict => ∃ old submittedAt v x y z last entry, e = .superseded old.id ∧
      xs = [x, y, z, last] ∧ x.Quiet ∧ v = rules.review (some old) sub.request submittedAt ∧
      y.Stores sub.request.code v.canonical ∧ z.Quiet ∧ z.OutOfDate old ∧
      last.Records entry ∧ Refuses sub [conflictCode] entry
  | .internal => False

/-! ### The account of a submission -/

/-- The steps that a submission has made to come so far. -/
def Account (rules : Rules) (sub : Submission) : Progress → List Step → Prop
  | .underway (.found _), xs => xs = []
  | .underway (.reviewed _ _ _), xs => ∃ x, xs = [x] ∧ x.Quiet
  | .underway (.stored _ _ v _ _), xs =>
      ∃ x y, xs = [x, y] ∧ x.Quiet ∧ y.Stores sub.request.code v.canonical
  | .underway (.committed _ _ _), _ => True
  | .underway (.outrun existing v id), xs =>
      ∃ old submittedAt x y z, existing = some old ∧ id = old.id ∧ xs = [x, y, z] ∧ x.Quiet ∧
        v = rules.review existing sub.request submittedAt ∧
        y.Stores sub.request.code v.canonical ∧ z.Quiet ∧ z.OutOfDate old
  | .done (.ok _), _ => True
  | .done (.error e), xs => FailsAtomically rules sub xs e

/-- A refused review has failures with these codes, and the entry says
so. -/
theorem refuses_entryFor (sub : Submission) (v : Verdict) (m : Moment) (script : Option Uuid) :
    Refuses sub (v.failures.map Failure.code)
      (entryFor sub.request v m script none .rejected) :=
  ⟨rfl, rfl, rfl, rfl⟩

/-- One more step is one more line of the account. -/
theorem account_move {rules : Rules} (hwriting : rules.outage.writing = false) {i : Nat}
    {sub : Submission} {m : Moment} {s after : State} {stage : Stage} {progress : Progress}
    (hstage : stage.Grounded rules sub s.registry)
    (hmove : Move rules sub m s stage after progress) {xs : List Step}
    (h : Account rules sub (.underway stage) xs) :
    Account rules sub progress (xs ++ [⟨i, sub, m, stage, s, after, progress⟩]) := by
  cases hmove with
  | review existing =>
      obtain rfl : xs = [] := h
      exact ⟨_, rfl, rfl⟩
  | refuse existing submittedAt v hv =>
      obtain ⟨x, rfl, hx⟩ := h
      exact ⟨v.failures, x, _, _, rfl, rfl, hx, recorded_add _ _,
        refuses_entryFor sub v m sub.script⟩
  | closed existing submittedAt v hv hw =>
      rw [hwriting] at hw
      cases hw
  | store existing submittedAt v hv hw =>
      obtain ⟨x, rfl, hx⟩ := h
      exact ⟨x, _, rfl, hx, textsStored _ _ _⟩
  | unresolved existing submittedAt v rawCode canonicalCode e he =>
      obtain ⟨c, hc⟩ := hstage.commitFor_ok
      rw [hc] at he
      cases he
  | commit => trivial
  | vanish existing submittedAt v rawCode canonicalCode c id hc hr =>
      obtain ⟨_, _, _, _, _, he⟩ := hstage.error_of_commit hc hr
      cases he
  | lose existing submittedAt v rawCode canonicalCode c id hc hr =>
      obtain ⟨x, y, rfl, hx, hy⟩ := h
      obtain ⟨old, now, rfl, hnow, hlatest, he⟩ := hstage.error_of_commit hc hr
      cases he
      exact ⟨old, submittedAt, x, y, _, rfl, rfl, rfl, hx, hstage.2.1, hy, rfl,
        submittedAt, v, rawCode, canonicalCode, now, rfl, hnow, hlatest⟩
  | accept => trivial
  | concede existing v id =>
      obtain ⟨old, submittedAt, x, y, z, rfl, rfl, rfl, hx, hv, hy, hz, hout⟩ := h
      -- Only an accepted revision tries to commit, so it had no failures before this one.
      have haccepted : v.isAccepted = true := hstage
      have hfailures : v.failures = [] := List.isEmpty_iff.mp haccepted
      refine ⟨old, submittedAt, v, x, y, z, _, _, rfl, rfl, hx, hv, hy, hz, hout,
        recorded_add _ _, rfl, rfl, rfl, ?_⟩
      show v.failures.map Failure.code ++ [conflictCode] = [conflictCode]
      rw [hfailures, List.map_nil, List.nil_append]

/-- A submission that is over when it arrives has made no step. -/
theorem start_error {s : State} {sub : Submission} {answer : Except Refusal Receipt}
    (h : Rules.start s sub = .done answer) :
    ∃ e, answer = .error e ∧ (e.classOf = .validation ∨ e.classOf = .notFound) := by
  unfold Rules.start at h
  by_cases hc : sub.request.complaints.isEmpty = true
  · simp only [hc, Bool.not_true, Bool.false_eq_true, if_false] at h
    cases hs : sub.script with
    | none =>
        rw [hs] at h
        cases h
    | some id =>
        rw [hs] at h
        simp only [State.target, State.record] at h
        cases hr : s.registry.record? id with
        | none =>
            rw [hr] at h
            cases h
            exact ⟨.unknownScript id, rfl, Or.inr rfl⟩
        | some record =>
            rw [hr] at h
            cases h
  · simp only [hc, Bool.not_false, if_true] at h
    cases h
    exact ⟨.invalidRequest sub.request.complaints, rfl, Or.inl rfl⟩

/-- A submission that has just arrived has nothing to account for. -/
theorem account_start (rules : Rules) (s : State) (sub : Submission) :
    Account rules sub (Rules.start s sub) [] := by
  cases hstart : Rules.start s sub with
  | underway stage =>
      rcases start_cases s sub with ⟨e, he⟩ | ⟨existing, he, -⟩
      · cases he.symm.trans hstart
      · cases he.symm.trans hstart
        rfl
  | done answer =>
      obtain ⟨e, rfl, hclass⟩ := start_error hstart
      show FailsAtomically rules sub [] e
      rcases hclass with hclass | hclass
      · rw [FailsAtomically, hclass]
      · rw [FailsAtomically, hclass]

/-- Every submission of a run has accounted for its steps. -/
structure Accounted (rules : Rules) (w : World) (steps : List Step) : Prop where
  grounded : Grounded rules w
  /-- Only submissions that have arrived make steps. -/
  arrived : ∀ x ∈ steps, x.call < w.calls.length
  calls : ∀ i call, w.calls[i]? = some call →
    Account rules call.submission call.progress (steps.filter fun x => x.call = i)

/-- At every point of a run, all submissions have accounted for their steps. -/
theorem accounted_trace (rules : Rules) (hwriting : rules.outage.writing = false)
    (events : List Event) :
    Accounted rules (World.run rules events) (World.trace rules events) := by
  refine World.trace_induction rules (P := Accounted rules) ?_ ?_ ?_ events
  · exact ⟨grounded_initial rules, fun _ h => (by cases h), fun _ _ h => (by cases h)⟩
  · intro w steps sub h
    refine ⟨grounded_submit h.grounded sub, fun x hx => ?_, fun i call hi => ?_⟩
    · show x.call < (w.calls ++ [_]).length
      rw [List.length_append]
      exact Nat.lt_add_right _ (h.arrived x hx)
    · rcases calls_append_cases hi with hi | ⟨rfl, rfl⟩
      · exact h.calls i call hi
      · -- No step was made by a submission that had not arrived.
        have hnil : (steps.filter fun x => x.call = w.calls.length) = [] := by
          rw [List.filter_eq_nil_iff]
          intro x hx heq
          exact Nat.ne_of_lt (h.arrived x hx) (of_decide_eq_true heq)
        rw [hnil]
        exact account_start rules w.state sub
  · intro w steps i sub m stage after progress h hi hmove
    have hlt : i < w.calls.length := (List.getElem?_eq_some_iff.mp hi).1
    refine ⟨grounded_move h.grounded hi hmove _, fun x hx => ?_, fun j call hj => ?_⟩
    · rw [List.length_set]
      rcases List.mem_append.mp hx with hx | hx
      · exact h.arrived x hx
      · rw [List.mem_singleton.mp hx]
        exact hlt
    · rw [List.filter_append, List.filter_singleton]
      rcases calls_set_cases hj with ⟨rfl, rfl⟩ | ⟨hne, hj⟩
      · rw [decide_eq_true rfl]
        exact account_move hwriting (h.grounded.stages _ (List.mem_of_getElem? hi) stage rfl) hmove
          (h.calls j _ hi)
      · -- The steps of another submission stay the same.
        rw [decide_eq_false (Ne.symm hne)]
        simp only [cond_false, List.append_nil]
        exact h.calls j call hj

/-! ### A submission on its own -/

/-- There is nothing left to do for a submission that is over. -/
theorem finish_done (rules : Rules) (sub : Submission) (m : Moment) (s : State)
    (answer : Except Refusal Receipt) :
    rules.finish sub m s (.done answer) = (s, answer) := by
  rw [Rules.finish]

/-- A submission on its own goes on with a move. -/
theorem exists_move_finish (rules : Rules) (sub : Submission) (m : Moment) (s : State)
    (stage : Stage) :
    ∃ after progress, Move rules sub m s stage after progress ∧
      rules.finish sub m s (.underway stage) = rules.finish sub m after progress := by
  refine ⟨_, _, move_advance rules sub m s stage, ?_⟩
  rw [Rules.finish]

section Alone

variable {rules : Rules} {s : State} {sub : Submission} {m : Moment} {existing : Option Record}

/-- On its own, an accepted revision whose code is stored is committed and
recorded. The script still has the record that was its snapshot. -/
theorem finish_stored (hr : Current s.registry)
    (hsnapshot : ∀ record, existing = some record →
      ∃ id, sub.script = some id ∧ s.registry.record? id = some record)
    {submittedAt : Instant} {v : Verdict} {rawCode canonicalCode : CodeId}
    (hstage : (Stage.stored existing submittedAt v rawCode canonicalCode).Grounded rules sub
      s.registry) :
    ∃ c registry record revision,
      commitFor existing sub.request v submittedAt rawCode canonicalCode = .ok c ∧
      s.registry.commit c m.freshScript m.freshRevision = .ok (registry, record, revision) ∧
      rules.finish sub m s (.underway (.stored existing submittedAt v rawCode canonicalCode))
        = (⟨s.archive, registry, s.trail.add
            (entryFor sub.request v m (some record.id) (some revision.id) .accepted)⟩,
          .ok ⟨record, revision, v.corrections⟩) := by
  obtain ⟨after, progress, hmove, hfinish⟩ := exists_move_finish rules sub m s
    (.stored existing submittedAt v rawCode canonicalCode)
  rw [hfinish]
  cases hmove with
  | unresolved _ _ _ _ _ e he =>
      -- An accepted review has all the values of a commit.
      obtain ⟨c, hc⟩ := hstage.commitFor_ok
      rw [hc] at he
      cases he
  | vanish _ _ _ _ _ c id hc he =>
      -- Scripts do not vanish.
      obtain ⟨_, _, _, _, _, heq⟩ := hstage.error_of_commit hc he
      cases heq
  | lose _ _ _ _ _ c id hc he =>
      -- Nobody else has moved, so the record is still the snapshot.
      obtain ⟨old, now, hold, hnow, hlatest, -⟩ := hstage.error_of_commit hc he
      obtain ⟨id', -, hid⟩ := hsnapshot old hold
      rw [(hr id' old hid).script, hid, Option.some.injEq] at hnow
      exact absurd (congrArg Record.latestRevision hnow.symm) hlatest
  | commit _ _ _ _ _ c registry record revision hc he =>
      obtain ⟨after', progress', hmove', hfinish'⟩ := exists_move_finish rules sub m
        { s with registry } (.committed v record revision)
      rw [hfinish']
      cases hmove' with
      | accept =>
          rw [finish_done]
          exact ⟨c, registry, record, revision, hc, he, rfl⟩

/-- What becomes of a submission that runs on its own and was let in: it
is refused and recorded, or stored, committed and recorded. -/
theorem submit_of_start (hwriting : rules.outage.writing = false) (hr : Current s.registry)
    {sub : Submission} {existing : Option Record}
    (hstart : Rules.start s sub = .underway (.found existing)) (m : Moment) {v : Verdict}
    (hv : v = rules.review existing sub.request m.now) :
    (v.isAccepted = false ∧ rules.submit s sub m
      = ({ s with trail := s.trail.add (entryFor sub.request v m sub.script none .rejected) },
        .error (.rejected v.failures))) ∨
    (v.isAccepted = true ∧ ∃ c registry record revision,
      commitFor existing sub.request v m.now (CodeId.ofCode sub.request.code)
        (CodeId.ofCode v.canonical) = .ok c ∧
      s.registry.commit c m.freshScript m.freshRevision = .ok (registry, record, revision) ∧
      rules.submit s sub m
        = (⟨(s.archive.store sub.request.code).store v.canonical, registry, s.trail.add
            (entryFor sub.request v m (some record.id) (some revision.id) .accepted)⟩,
          .ok ⟨record, revision, v.corrections⟩)) := by
  have hsnapshot : ∀ record, existing = some record →
      ∃ id, sub.script = some id ∧ s.registry.record? id = some record := by
    rcases start_cases s sub with ⟨e, he⟩ | ⟨_, he, -, hsnapshot⟩
    · cases he.symm.trans hstart
    · cases he.symm.trans hstart
      exact hsnapshot
  have hknown : IsKnown s.registry existing := by
    intro record hrecord
    obtain ⟨id, -, hid⟩ := hsnapshot record hrecord
    rw [(hr id record hid).script, hid]
    exact Option.some_ne_none _
  rw [Rules.submit, hstart]
  -- The review changes nothing.
  obtain ⟨_, _, hmove, hfinish⟩ := exists_move_finish rules sub m s (.found existing)
  rw [hfinish]
  cases hmove
  rw [← hv]
  obtain ⟨_, _, hmove, hfinish⟩ := exists_move_finish rules sub m s (.reviewed existing m.now v)
  rw [hfinish]
  cases hmove with
  | refuse _ _ _ hrefused =>
      rw [finish_done]
      exact Or.inl ⟨hrefused, rfl⟩
  | closed _ _ _ _ hw =>
      rw [hwriting] at hw
      cases hw
  | store _ _ _ haccepted hw =>
      refine Or.inr ⟨haccepted, ?_⟩
      exact finish_stored (s := { s with
        archive := (s.archive.store sub.request.code).store v.canonical }) hr hsnapshot
        ⟨hknown, hv, haccepted, rfl, rfl⟩

/-- What becomes of a submission that runs on its own. -/
theorem submit_cases (hwriting : rules.outage.writing = false) (hr : Current s.registry)
    (sub : Submission) (m : Moment) :
    (∃ e, rules.submit s sub m = (s, .error e) ∧
      (e.classOf = .validation ∨ e.classOf = .notFound)) ∨
    (∃ failures entry,
      rules.submit s sub m
        = ({ s with trail := s.trail.add entry }, .error (.rejected failures)) ∧
      Refuses sub (failures.map Failure.code) entry) ∨
    ∃ s' receipt, rules.submit s sub m = (s', .ok receipt) := by
  cases hstart : Rules.start s sub with
  | done answer =>
      obtain ⟨e, rfl, hclass⟩ := start_error hstart
      rw [Rules.submit, hstart, finish_done]
      exact Or.inl ⟨e, rfl, hclass⟩
  | underway stage =>
      obtain ⟨existing, rfl⟩ : ∃ existing, stage = .found existing := by
        rcases start_cases s sub with ⟨e, he⟩ | ⟨existing, he, -⟩
        · cases he.symm.trans hstart
        · cases he.symm.trans hstart
          exact ⟨existing, rfl⟩
      refine Or.inr ?_
      rcases submit_of_start hwriting hr hstart m rfl with
        ⟨-, hsubmit⟩ | ⟨-, _, _, _, _, -, -, hsubmit⟩
      · exact Or.inl ⟨_, _, hsubmit, refuses_entryFor sub _ m sub.script⟩
      · exact Or.inr ⟨_, _, hsubmit⟩

end Alone

/-- What a submission has left that ran on its own, from `s` to `after`,
and failed with `e`. -/
def LeavesAlone (sub : Submission) (s after : State) (e : Refusal) : Prop :=
  match e.classOf with
  | .validation | .notFound => after = s
  | .rejected => ∃ failures entry, e = .rejected failures ∧
      Recorded s after entry ∧ Refuses sub (failures.map Failure.code) entry
  | .conflict | .internal => False

/-- What is true of all failures in a service that some events have
brought where it is. -/
structure Atomic (rules : Rules) (events : List Event) : Prop where
  /-- An accepted review has settled all values. -/
  complete : ∀ existing request now, (rules.review existing request now).isAccepted = true →
    ∃ version namespaceName name description,
      (rules.review existing request now).version = some version ∧
      (rules.review existing request now).namespaceName = some namespaceName ∧
      (rules.review existing request now).name = some name ∧
      (rules.review existing request now).description = some description
  /-- A submission that runs on its own now, and fails. -/
  alone : ∀ sub m after e,
    rules.submit (World.run rules events).state sub m = (after, .error e) →
    LeavesAlone sub (World.run rules events).state after e
  /-- A submission whose steps alternated with those of others, and that
  has failed. -/
  interleaved : ∀ i call e, (World.run rules events).calls[i]? = some call →
    call.progress = .done (.error e) →
    FailsAtomically rules call.submission
      ((World.trace rules events).filter fun x => x.call = i) e

/-- **Failures are atomic.** Whatever submissions arrive, and however their
steps alternate, as long as the archive takes code. -/
theorem failures_are_atomic (rules : Rules) (hwriting : rules.outage.writing = false)
    (events : List Event) : Atomic rules events where
  complete existing request now h := Review.complete_of_accepted h
  alone := by
    intro sub m after e h
    rcases submit_cases hwriting (grounded_run rules events).records sub m with
      ⟨e', he', hclass⟩ | ⟨failures, entry, he', hentry⟩ | ⟨s', receipt, he'⟩
    · cases he'.symm.trans h
      rcases hclass with hclass | hclass
      · rw [LeavesAlone, hclass]
      · rw [LeavesAlone, hclass]
    · cases he'.symm.trans h
      exact ⟨failures, entry, rfl, recorded_add _ _, hentry⟩
    · cases he'.symm.trans h
  interleaved := by
    intro i call e hi he
    have haccount := (accounted_trace rules hwriting events).calls i call hi
    rw [he] at haccount
    exact haccount

/-- How a submission has failed. -/
def Progress.refusal? : Progress → Option Refusal
  | .done (.error e) => some e
  | _ => none

/-- The race of two revisions, until both are over. -/
def finishedRace : List Event :=
  sampleRace ++ [.advance 1 (sampleMoment 11), .advance 2 (sampleMoment 12)]

/-- The slower one has stored its texts, and the trail has the
conflict. -/
theorem failures_are_atomic_race :
    sampleRules.outage.writing = false ∧ Atomic sampleRules finishedRace ∧
      FailsAtomically sampleRules (sampleSubmission (some ⟨9⟩) ['2'])
        ((World.trace sampleRules finishedRace).filter fun x => x.call = 2) (.superseded ⟨9⟩) := by
  have hatomic := failures_are_atomic sampleRules rfl finishedRace
  have hslower : (World.run sampleRules finishedRace).calls[2]?.map
      (fun call => (call.submission, call.progress.refusal?))
        = some (sampleSubmission (some ⟨9⟩) ['2'], some (.superseded ⟨9⟩)) := by
    decide +kernel
  obtain ⟨⟨sub, progress⟩, hi, hcall⟩ := Option.map_eq_some_iff.mp hslower
  obtain ⟨rfl, hrefusal⟩ := Prod.mk.inj hcall
  cases progress with
  | underway stage => cases hrefusal
  | done answer =>
      cases answer with
      | ok receipt => cases hrefusal
      | error e =>
          cases hrefusal
          exact ⟨rfl, hatomic, hatomic.interleaved 2 _ _ hi rfl⟩

end ScriptGate.Service
