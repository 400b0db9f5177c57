import ScriptGate.Proofs.Store.Registry
import ScriptGate.Service.Submission

/-!
# `ScriptGate.Proofs.Service.World`: submissions in any order

A `World` is a service with all submissions that it has seen, each with
how far it has come. Two events change it: a submission arrives, and a
submission that is not over makes one step. `World.run` lets any list of
events happen, so the steps of the submissions alternate in any order.

The world also keeps the identifiers that its steps took into use. That
these are pairwise distinct is all that the theorems about runs assume
about the source of identifiers.

`Move` lists what one step can do, with everything that it reads and
changes, and `move_advance` says that `advance` does nothing else. Facts
about steps are case analyses on `Move` and never unfold `advance`.
-/

set_option autoImplicit false

namespace ScriptGate.Service

open Review (Verdict)
open Store (CodeId Commit Record Registry Revision)

/-! ### The world -/

/-- A submission and how far it has come. -/
structure Call where
  /-- The submission. -/
  submission : Submission
  /-- How far it has come. -/
  progress : Progress

/-- A service and the submissions that it has seen. -/
structure World where
  /-- What the service knows. -/
  state : State
  /-- The submissions, in the order of their arrival. -/
  calls : List Call
  /-- The identifiers in use, oldest first. -/
  issued : List Uuid

/-- What can happen to a world. -/
inductive Event where
  /-- A submission arrives: its fields are checked, and the script that it
  continues is looked up. -/
  | submit (sub : Submission)
  /-- The submission at place `i` makes its next step. -/
  | advance (i : Nat) (m : Moment)

/-- The identifiers that a step from `stage` takes into use. -/
def Stage.taken (sub : Submission) (m : Moment) (s : State) : Stage → List Uuid
  | .found _ => []
  | .reviewed _ _ v => if v.isAccepted then [] else [m.freshEntry]
  | .stored existing submittedAt v rawCode canonicalCode =>
    match commitFor existing sub.request v submittedAt rawCode canonicalCode with
    | .error _ => []
    | .ok commit => s.registry.taken commit m.freshScript m.freshRevision
  | .committed _ _ _ => [m.freshEntry]
  | .outrun _ _ _ => [m.freshEntry]

namespace World

/-- A service that has just started. -/
def initial : World := ⟨.empty, [], []⟩

/-- The world after one event. A step of a submission that is over, or
that never arrived, changes nothing. -/
def step (rules : Rules) (w : World) : Event → World
  | .submit sub => { w with calls := w.calls ++ [⟨sub, Rules.start w.state sub⟩] }
  | .advance i m =>
    match w.calls[i]? with
    | some ⟨sub, .underway stage⟩ =>
      let after := rules.advance sub m w.state stage
      { state := after.1
        calls := w.calls.set i ⟨sub, after.2⟩
        issued := w.issued ++ stage.taken sub m w.state }
    | _ => w

/-- The world after some events, one after the other. -/
def run (rules : Rules) (events : List Event) : World := events.foldl (step rules) initial

/-- The last event happens in the world that the others left. -/
theorem run_append_singleton (rules : Rules) (events : List Event) (e : Event) :
    run rules (events ++ [e]) = (run rules events).step rules e := by
  rw [run, List.foldl_append, List.foldl_cons, List.foldl_nil]
  rfl

/-- An `advance` event moves a submission that is not over, or changes
nothing. -/
theorem step_advance (rules : Rules) (w : World) (i : Nat) (m : Moment) :
    w.step rules (.advance i m) = w ∨
    ∃ sub stage, w.calls[i]? = some ⟨sub, .underway stage⟩ ∧
      w.step rules (.advance i m)
        = { state := (rules.advance sub m w.state stage).1
            calls := w.calls.set i ⟨sub, (rules.advance sub m w.state stage).2⟩
            issued := w.issued ++ stage.taken sub m w.state } := by
  cases hi : w.calls[i]? with
  | none => exact Or.inl (by simp only [step, hi])
  | some call =>
      obtain ⟨sub, progress⟩ := call
      cases progress with
      | underway stage => exact Or.inr ⟨sub, stage, rfl, by simp only [step, hi]⟩
      | done answer => exact Or.inl (by simp only [step, hi])

/-- The identifiers in use are never given back. -/
theorem issued_prefix_step (rules : Rules) (w : World) (e : Event) :
    w.issued <+: (w.step rules e).issued := by
  cases e with
  | submit sub => exact List.prefix_refl _
  | advance i m =>
      rcases step_advance rules w i m with h | ⟨sub, stage, -, h⟩
      · exact ⟨[], by rw [h, List.append_nil]⟩
      · rw [h]
        exact List.prefix_append _ _

/-- **Invariants of a run.** What holds at the start and is kept by every
event whose identifiers are new holds after every run with distinct
identifiers. -/
theorem run_induction {rules : Rules} {P : World → Prop} (hinit : P initial)
    (hstep : ∀ w e, P w → (w.step rules e).issued.Nodup → P (w.step rules e))
    (events : List Event) (hfresh : (run rules events).issued.Nodup) :
    P (run rules events) := by
  induction events using List.reverseRecOn with
  | nil => exact hinit
  | append_singleton events e ih =>
      rw [run_append_singleton] at hfresh ⊢
      -- What was in use before the event is in use after it, so it was distinct too.
      have hpre := issued_prefix_step rules (run rules events) e
      exact hstep _ e (ih (hfresh.sublist hpre.sublist)) hfresh

end World

/-! ### One of the submissions -/

section Calls

variable {calls : List Call} {i j : Nat} {old new call : Call}

/-- When one submission moves on, the others are where they were. -/
theorem calls_set_cases (h : (calls.set i new)[j]? = some call) :
    (j = i ∧ call = new) ∨ (j ≠ i ∧ calls[j]? = some call) := by
  rw [List.getElem?_set] at h
  by_cases hij : i = j
  · rw [if_pos hij] at h
    split at h
    · exact Or.inl ⟨hij.symm, (Option.some.inj h).symm⟩
    · cases h
  · rw [if_neg hij] at h
    exact Or.inr ⟨Ne.symm hij, h⟩

/-- The submission that moves is where it was. -/
theorem calls_set_self (h : calls[i]? = some old) : (calls.set i new)[i]? = some new := by
  rw [List.getElem?_set, if_pos rfl, if_pos (List.getElem?_eq_some_iff.mp h).1]

/-- The other submissions stay. -/
theorem calls_set_of_ne (h : calls[j]? = some call) (hne : j ≠ i) :
    (calls.set i new)[j]? = some call := by
  rw [List.getElem?_set, if_neg (Ne.symm hne), h]

/-- A submission that arrives takes the next place. -/
theorem calls_append_cases (h : (calls ++ [new])[j]? = some call) :
    calls[j]? = some call ∨ (j = calls.length ∧ call = new) := by
  rw [List.getElem?_append] at h
  split at h
  · exact Or.inl h
  · rename_i hle
    obtain ⟨hlt, -⟩ := List.getElem?_eq_some_iff.mp h
    rw [List.length_singleton] at hlt
    exact Or.inr ⟨by omega, List.mem_singleton.mp (List.mem_of_getElem? h)⟩

/-- A submission that begins comes after those that are there. -/
theorem calls_append (h : calls[j]? = some call) : (calls ++ [new])[j]? = some call := by
  rw [List.getElem?_append_left (List.getElem?_eq_some_iff.mp h).1, h]

end Calls

/-! ### One step of a submission -/

/-- What a step can do: from a stage and a state to the state and the
progress after it. -/
inductive Move (rules : Rules) (sub : Submission) (m : Moment) (s : State) :
    Stage → State → Progress → Prop
  /-- The request is reviewed. -/
  | review (existing : Option Record) :
      Move rules sub m s (.found existing) s
        (.underway (.reviewed existing m.now (rules.review existing sub.request m.now)))
  /-- A refused revision is recorded. -/
  | refuse (existing : Option Record) (submittedAt : Instant) (v : Verdict)
      (hv : v.isAccepted = false) :
      Move rules sub m s (.reviewed existing submittedAt v)
        { s with trail := s.trail.add (entryFor sub.request v m sub.script none .rejected) }
        (.done (.error (.rejected v.failures)))
  /-- The archive takes no code. -/
  | closed (existing : Option Record) (submittedAt : Instant) (v : Verdict)
      (hv : v.isAccepted = true) (hw : rules.outage.writing = true) :
      Move rules sub m s (.reviewed existing submittedAt v) s (.done (.error .archiveClosed))
  /-- The code of an accepted revision is stored. -/
  | store (existing : Option Record) (submittedAt : Instant) (v : Verdict)
      (hv : v.isAccepted = true) (hw : rules.outage.writing = false) :
      Move rules sub m s (.reviewed existing submittedAt v)
        { s with archive := (s.archive.store sub.request.code).store v.canonical }
        (.underway (.stored existing submittedAt v (CodeId.ofCode sub.request.code)
          (CodeId.ofCode v.canonical)))
  /-- The accepted revision lacks a value. -/
  | unresolved (existing : Option Record) (submittedAt : Instant) (v : Verdict)
      (rawCode canonicalCode : CodeId) (e : Refusal)
      (he : commitFor existing sub.request v submittedAt rawCode canonicalCode = .error e) :
      Move rules sub m s (.stored existing submittedAt v rawCode canonicalCode) s
        (.done (.error e))
  /-- The revision is committed. -/
  | commit (existing : Option Record) (submittedAt : Instant) (v : Verdict)
      (rawCode canonicalCode : CodeId) (c : Commit) (registry : Registry) (record : Record)
      (revision : Revision)
      (hc : commitFor existing sub.request v submittedAt rawCode canonicalCode = .ok c)
      (hr : s.registry.commit c m.freshScript m.freshRevision
        = .ok (registry, record, revision)) :
      Move rules sub m s (.stored existing submittedAt v rawCode canonicalCode)
        { s with registry } (.underway (.committed v record revision))
  /-- The script is not known. -/
  | vanish (existing : Option Record) (submittedAt : Instant) (v : Verdict)
      (rawCode canonicalCode : CodeId) (c : Commit) (id : Uuid)
      (hc : commitFor existing sub.request v submittedAt rawCode canonicalCode = .ok c)
      (hr : s.registry.commit c m.freshScript m.freshRevision = .error (.unknownScript id)) :
      Move rules sub m s (.stored existing submittedAt v rawCode canonicalCode) s
        (.done (.error (.unknownScript id)))
  /-- Another revision was faster. -/
  | lose (existing : Option Record) (submittedAt : Instant) (v : Verdict)
      (rawCode canonicalCode : CodeId) (c : Commit) (id : Uuid)
      (hc : commitFor existing sub.request v submittedAt rawCode canonicalCode = .ok c)
      (hr : s.registry.commit c m.freshScript m.freshRevision = .error (.superseded id)) :
      Move rules sub m s (.stored existing submittedAt v rawCode canonicalCode) s
        (.underway (.outrun existing v id))
  /-- An accepted revision is recorded. -/
  | accept (v : Verdict) (record : Record) (revision : Revision) :
      Move rules sub m s (.committed v record revision)
        { s with
          trail := s.trail.add
            (entryFor sub.request v m (some record.id) (some revision.id) .accepted) }
        (.done (.ok ⟨record, revision, v.corrections⟩))
  /-- A revision that came too late is recorded. -/
  | concede (existing : Option Record) (v : Verdict) (id : Uuid) :
      Move rules sub m s (.outrun existing v id)
        { s with
          trail := s.trail.add
            { entryFor sub.request v m (existing.map Record.id) none .rejected with
              failures := (entryFor sub.request v m (existing.map Record.id) none
                .rejected).failures ++ [conflictCode] } }
        (.done (.error (.superseded id)))

/-- Every step is a move. -/
theorem move_advance (rules : Rules) (sub : Submission) (m : Moment) (s : State)
    (stage : Stage) :
    Move rules sub m s stage (rules.advance sub m s stage).1 (rules.advance sub m s stage).2 := by
  cases stage with
  | found existing => exact .review existing
  | reviewed existing submittedAt v =>
      cases hv : v.isAccepted with
      | false =>
          have h : rules.advance sub m s (.reviewed existing submittedAt v)
              = ({ s with trail := s.trail.add (entryFor sub.request v m sub.script none .rejected) },
                  .done (.error (.rejected v.failures))) := by
            simp only [Rules.advance, Rules.afterReview, hv, Bool.not_false, if_true]
          rw [h]
          exact .refuse existing submittedAt v hv
      | true =>
          cases hw : rules.outage.writing with
          | true =>
              have h : rules.advance sub m s (.reviewed existing submittedAt v)
                  = (s, .done (.error .archiveClosed)) := by
                simp only [Rules.advance, Rules.afterReview, Rules.store, hv, hw, Bool.not_true,
                  Bool.false_eq_true, if_false, if_true]
              rw [h]
              exact .closed existing submittedAt v hv hw
          | false =>
              have h : rules.advance sub m s (.reviewed existing submittedAt v)
                  = ({ s with archive := (s.archive.store sub.request.code).store v.canonical },
                      .underway (.stored existing submittedAt v
                        (CodeId.ofCode sub.request.code) (CodeId.ofCode v.canonical))) := by
                simp only [Rules.advance, Rules.afterReview, Rules.store, hv, hw, Bool.not_true,
                  Bool.false_eq_true, if_false]
              rw [h]
              exact .store existing submittedAt v hv hw
  | stored existing submittedAt v rawCode canonicalCode =>
      -- The revision lacks a value, or the registry has the last word.
      cases hc : commitFor existing sub.request v submittedAt rawCode canonicalCode with
      | error e =>
          simp only [Rules.advance, Rules.afterStoring, hc]
          exact .unresolved existing submittedAt v rawCode canonicalCode e hc
      | ok c =>
          cases hr : s.registry.commit c m.freshScript m.freshRevision with
          | ok x =>
              obtain ⟨registry, record, revision⟩ := x
              simp only [Rules.advance, Rules.afterStoring, hc, hr]
              exact .commit existing submittedAt v rawCode canonicalCode c registry record
                revision hc hr
          | error e =>
              cases e with
              | unknownScript id =>
                  simp only [Rules.advance, Rules.afterStoring, hc, hr]
                  exact .vanish existing submittedAt v rawCode canonicalCode c id hc hr
              | superseded id =>
                  simp only [Rules.advance, Rules.afterStoring, hc, hr]
                  exact .lose existing submittedAt v rawCode canonicalCode c id hc hr
  | committed v record revision => exact .accept v record revision
  | outrun existing v id => exact .concede existing v id

/-- What a request that is reviewed and accepted is committed with. -/
theorem commitFor_eq_ok {existing : Option Record} {r : Request} {v : Verdict}
    {submittedAt : Instant} {rawCode canonicalCode : CodeId} {c : Commit}
    (h : commitFor existing r v submittedAt rawCode canonicalCode = .ok c) :
    ∃ name description version, v.name = some name ∧ v.description = some description ∧
      v.version = some version ∧
      c = { script := existing.map Record.id, expected := existing.map Record.latestRevision
            kind := r.kind, authors := [r.author], name, description, version
            namespaceName := v.namespaceName, rawCode, canonicalCode
            acceptedAt := submittedAt } := by
  unfold commitFor needed at h
  cases hn : v.name with
  | none =>
      rw [hn] at h
      cases h
  | some name =>
      cases hd : v.description with
      | none =>
          rw [hn, hd] at h
          cases h
      | some description =>
          cases hv : v.version with
          | none =>
              rw [hn, hd, hv] at h
              cases h
          | some version =>
              rw [hn, hd, hv] at h
              exact ⟨name, description, version, rfl, rfl, rfl, (Except.ok.inj h).symm⟩

/-- A commit is not made for want of a value. -/
theorem commitFor_eq_error {existing : Option Record} {r : Request} {v : Verdict}
    {submittedAt : Instant} {rawCode canonicalCode : CodeId} {e : Refusal}
    (h : commitFor existing r v submittedAt rawCode canonicalCode = .error e) :
    ∃ field, e = .unresolved field := by
  unfold commitFor needed at h
  cases hn : v.name with
  | none =>
      rw [hn] at h
      cases h
      exact ⟨.name, rfl⟩
  | some name =>
      cases hd : v.description with
      | none =>
          rw [hn, hd] at h
          cases h
          exact ⟨.description, rfl⟩
      | some description =>
          cases hv : v.version with
          | none =>
              rw [hn, hd, hv] at h
              cases h
              exact ⟨.version, rfl⟩
          | some version =>
              rw [hn, hd, hv] at h
              cases h

/-- A submission that arrives is over, or has a snapshot of the script
that it continues. -/
theorem start_cases (s : State) (sub : Submission) :
    (∃ e, Rules.start s sub = .done (.error e)) ∨
    ∃ existing, Rules.start s sub = .underway (.found existing) ∧
      sub.request.complaints = [] ∧
      ∀ record, existing = some record →
        ∃ id, sub.script = some id ∧ s.registry.record? id = some record := by
  unfold Rules.start
  by_cases hc : sub.request.complaints = []
  · simp only [hc, List.isEmpty_nil, Bool.not_true, Bool.false_eq_true, if_false]
    cases hs : sub.script with
    | none => exact Or.inr ⟨none, rfl, trivial, fun _ h => by cases h⟩
    | some id =>
        simp only [State.target, State.record]
        -- A script that is not known ends the submission at once.
        cases hr : s.registry.record? id with
        | none => exact Or.inl ⟨.unknownScript id, rfl⟩
        | some record =>
            refine Or.inr ⟨some record, rfl, trivial, ?_⟩
            rintro _ ⟨⟩
            exact ⟨id, rfl, hr⟩
  · have hne : sub.request.complaints.isEmpty = false := by
      rw [List.isEmpty_eq_false_iff]
      exact hc
    exact Or.inl ⟨.invalidRequest sub.request.complaints, by
      simp only [hne, Bool.not_false, if_true]⟩

/-- Who is under way after an arrival was under way before, or has just
arrived and has a snapshot at the most. -/
theorem underway_submit_cases {rules : Rules} {w : World} {sub : Submission} {call : Call}
    (hcall : call ∈ (w.step rules (.submit sub)).calls) {stage : Stage}
    (hstage : call.progress = .underway stage) :
    call ∈ w.calls ∨ call.submission = sub ∧ ∃ existing, stage = .found existing ∧
      ∀ record, existing = some record →
        ∃ id, sub.script = some id ∧ w.state.registry.record? id = some record := by
  rcases List.mem_append.mp hcall with hcall | hcall
  · exact Or.inl hcall
  · rw [List.mem_singleton.mp hcall] at hstage ⊢
    rcases start_cases w.state sub with ⟨e, he⟩ | ⟨existing, he, -, hrecord⟩
    · cases he.symm.trans hstage
    · cases he.symm.trans hstage
      exact Or.inr ⟨rfl, existing, rfl, hrecord⟩

end ScriptGate.Service
