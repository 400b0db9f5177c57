import ScriptGate.Proofs.Header.Markers
import ScriptGate.Proofs.Service.Grounded
import ScriptGate.Proofs.Service.Histories
import ScriptGate.Proofs.Store.Archive

/-!
# `ScriptGate.Proofs.Service.Keeping`: accepted code is kept and served

The code of an accepted revision is stored twice, as it was submitted and
in its canonical form, and the revision names both by their digests.
`accepted_code_is_kept` says that both are there for good and that every
script can be served, whatever submissions and previews come in between.
All that it asks of the digests is that no two of the texts that were
stored in the run have the same one.

Three facts come together. `Filed` is the invariant of the archive: it
holds the texts that the steps of the run have stored, and every
submission that is about to commit is among those that have stored
theirs. `exists_makes` finds the step that made a revision, and
`Step.Legal.code_of_makes` says what this step went by. That what is
served has a header is not a matter of the run: a header survives any
edits (`Header.locate_rewrite_ne_none`), both those that made the text
canonical and those that blank it.
-/

set_option autoImplicit false

namespace ScriptGate.Service

open Header (locate metaBlock rewrite)
open Review (Verdict)
open Store (Archive CodeId DistinctDigests Record Registry Revision)

/-! ### The texts of a run -/

/-- The texts that a step gives to the archive. -/
def Step.stored (x : Step) : List Text :=
  match x.stage, x.progress with
  | .reviewed _ _ v, .underway (.stored _ _ _ _ _) => [x.submission.request.code, v.canonical]
  | _, _ => []

/-- The texts that a run gives to the archive, in their order. -/
def World.stored (rules : Rules) (events : List Event) : List Text :=
  (trace rules events).flatMap Step.stored

/-- A submission that is about to commit has stored its texts. -/
def Stage.Filed (sub : Submission) (texts : List Text) : Stage → Prop
  | .stored _ _ v _ _ => sub.request.code ∈ texts ∧ v.canonical ∈ texts
  | _ => True

/-- The archive holds the texts that were stored, and those of every
commit are among them. -/
structure Filed (w : World) (steps : List Step) : Prop where
  /-- The archive holds what the steps have stored. -/
  archive : w.state.archive.Holds (steps.flatMap Step.stored)
  /-- Whoever is about to commit has stored its texts. -/
  stages : ∀ call ∈ w.calls, ∀ stage, call.progress = .underway stage →
    stage.Filed call.submission (steps.flatMap Step.stored)
  /-- So had everyone who has tried to. -/
  steps : ∀ x ∈ steps, x.stage.Filed x.submission (steps.flatMap Step.stored)

/-- A text that was stored stays stored when more texts come. -/
theorem Stage.Filed.mono {sub : Submission} {texts more : List Text} {stage : Stage}
    (h : stage.Filed sub texts) (hsub : texts ⊆ more) : stage.Filed sub more := by
  cases stage with
  | stored existing submittedAt v rawCode canonicalCode => exact ⟨hsub h.1, hsub h.2⟩
  | found | reviewed | committed | outrun => trivial

/-- What a step stores is in the archive after it. -/
theorem Move.archive {rules : Rules} {i : Nat} {sub : Submission} {m : Moment} {s after : State}
    {stage : Stage} {progress : Progress} (hmove : Move rules sub m s stage after progress)
    {texts : List Text} (h : s.archive.Holds texts) :
    after.archive.Holds (texts ++ Step.stored ⟨i, sub, m, stage, s, after, progress⟩) := by
  cases hmove with
  | store existing submittedAt v hv hw =>
      have htwo := (h.store sub.request.code).store v.canonical
      rw [List.append_assoc] at htwo
      exact htwo
  | review | refuse | closed | unresolved | commit | vanish | lose | accept | concede =>
      rw [show Step.stored _ = [] from rfl, List.append_nil]
      exact h

/-- A submission that comes to its commit has just stored its texts. -/
theorem Move.filed {rules : Rules} {i : Nat} {sub : Submission} {m : Moment} {s after : State}
    {stage next : Stage} {progress : Progress} (hmove : Move rules sub m s stage after progress)
    (hnext : progress = .underway next) :
    next.Filed sub (Step.stored ⟨i, sub, m, stage, s, after, progress⟩) := by
  cases hmove with
  | store existing submittedAt v hv hw =>
      cases hnext
      exact ⟨List.mem_cons_self, List.mem_cons_of_mem _ List.mem_cons_self⟩
  | review | commit | lose =>
      cases hnext
      trivial
  | refuse | closed | unresolved | vanish | accept | concede => cases hnext

/-- The archive holds what the run gave to it. -/
theorem filed_trace (rules : Rules) (events : List Event) :
    Filed (World.run rules events) (World.trace rules events) := by
  refine World.trace_induction rules (P := Filed) ?_ ?_ ?_ events
  · exact ⟨Store.Archive.holds_empty, fun _ h => (by cases h), fun _ h => (by cases h)⟩
  · intro w steps sub h
    refine ⟨h.archive, fun call hcall stage hstage => ?_, h.steps⟩
    rcases underway_submit_cases hcall hstage with hcall | ⟨-, existing, rfl, -⟩
    · exact h.stages call hcall stage hstage
    · trivial
  · intro w steps i sub m stage after progress h hi hmove
    -- Nothing is taken out, so whoever had stored its texts still has.
    have hold : steps.flatMap Step.stored ⊆
        (steps ++ [(⟨i, sub, m, stage, w.state, after, progress⟩ : Step)]).flatMap
          Step.stored := by
      rw [List.flatMap_append]
      exact List.subset_append_left _ _
    refine ⟨?_, fun call hcall next hnext => ?_, fun x hx => ?_⟩
    · rw [List.flatMap_append, List.flatMap_singleton]
      exact hmove.archive h.archive
    · rcases List.mem_or_eq_of_mem_set hcall with hcall | rfl
      · exact (h.stages call hcall next hnext).mono hold
      · refine (hmove.filed (i := i) hnext).mono ?_
        rw [List.flatMap_append, List.flatMap_singleton]
        exact List.subset_append_right _ _
    · rcases List.mem_append.mp hx with hx | hx
      · exact (h.steps x hx).mono hold
      · rw [List.mem_singleton.mp hx]
        exact (h.stages _ (List.mem_of_getElem? hi) stage rfl).mono hold

/-! ### Where a revision comes from -/

/-- The step has made the revision `v`. -/
def Step.Makes (x : Step) (v : Revision) : Prop :=
  ∃ verdict record, x.progress = .underway (.committed verdict record v)

/-- Every revision was made in a step of the run. -/
theorem exists_makes (rules : Rules) (events : List Event) {id : Uuid} {history : List Revision}
    (hh : (World.run rules events).state.registry.history? id = some history) {v : Revision}
    (hv : v ∈ history) : ∃ x ∈ World.trace rules events, x.Makes v := by
  have key := World.trace_induction rules (P := fun w steps => ∀ id history,
    w.state.registry.history? id = some history → ∀ v ∈ history, ∃ x ∈ steps, x.Makes v)
    (fun _ _ h => by cases h) (fun _ _ _ h => h) ?_ events
  · exact key id history hh v hv
  intro w steps i sub m stage after progress h hi hmove id history hh v hv
  have hold : (∃ x ∈ steps, x.Makes v) →
      ∃ x ∈ steps ++ [⟨i, sub, m, stage, w.state, after, progress⟩], x.Makes v :=
    fun ⟨x, hx, hmakes⟩ => ⟨x, List.mem_append_left _ hx, hmakes⟩
  cases hmove with
  | commit existing submittedAt verdict rawCode canonicalCode c registry record revision hc hr =>
      rcases (Store.Registry.extends_of_commit hr).2.revision_cases hh hv with
        ⟨earlier, hearlier, hv⟩ | rfl
      · exact hold (h id earlier hearlier v hv)
      · exact ⟨_, List.mem_append_right _ (List.mem_singleton_self _), verdict, record, rfl⟩
  | review | refuse | closed | store | unresolved | vanish | lose | accept | concede =>
      exact hold (h id history hh v hv)

/-- The revision `v` comes from a review of the submission against
`existing`. -/
structure Origin (rules : Rules) (sub : Submission) (existing : Option Record)
    (submittedAt : Instant) (verdict : Verdict) (v : Revision) : Prop where
  /-- The review came to this verdict. -/
  reviewed : verdict = rules.review existing sub.request submittedAt
  accepted : verdict.isAccepted = true
  /-- The revision names the submitted code and the canonical one. -/
  rawCode : v.rawCode = CodeId.ofCode sub.request.code
  canonicalCode : v.canonicalCode = CodeId.ofCode verdict.canonical
  /-- It has the settled version and namespace. -/
  version : verdict.version = some v.version
  namespaceName : v.namespaceName = verdict.namespaceName

/-- What the step went by that made a revision. -/
theorem Step.Legal.origin {rules : Rules} {x : Step} (h : x.Legal rules) {v : Revision}
    (hmakes : x.Makes v) :
    ∃ existing submittedAt verdict,
      x.stage = .stored existing submittedAt verdict v.rawCode v.canonicalCode ∧
      Origin rules x.submission existing submittedAt verdict v := by
  obtain ⟨call, sub, m, stage, before, after, progress⟩ := x
  have hmove : Move rules sub m before stage after progress := h.move
  have hstage : stage.Grounded rules sub before.registry := h.stage
  obtain ⟨verdict, record, hprogress⟩ := hmakes
  cases hmove with
  | commit existing submittedAt verdict rawCode canonicalCode c registry record revision hc hr =>
      cases hprogress
      obtain ⟨-, hverdict, haccepted, hraw, hcanonical⟩ := hstage
      obtain ⟨_, _, version, -, -, hversion, rfl⟩ := commitFor_eq_ok hc
      obtain ⟨hv, -⟩ := Store.Registry.extends_of_commit hr
      rw [hv]
      exact ⟨existing, submittedAt, verdict, rfl, hverdict, haccepted, hraw, hcanonical,
        hversion, rfl⟩
  | review | refuse | closed | store | unresolved | vanish | lose | accept | concede =>
      cases hprogress

/-! ### What is served -/

section Reading

variable {rules : Rules} {s : State} {id : Uuid}

/-- The latest revision of a script is the last one of its history. -/
theorem latestRevision_of_history {history : List Revision} {v : Revision}
    (hh : s.registry.history? id = some history) (hlast : history.getLast? = some v) :
    s.latestRevision id = .ok v := by
  rw [State.latestRevision, State.revisions, hh]
  simp only [bind, Except.bind, hlast]
  rfl

/-- The latest code is loaded by the digest that the latest revision has. -/
theorem latestCode_of_revision {v : Revision} {code : Text} (hv : s.latestRevision id = .ok v)
    (hload : rules.load? s.archive v.canonicalCode = some code) :
    rules.latestCode s id = .ok code := by
  rw [Rules.latestCode, hv]
  simp only [bind, Except.bind, hload]
  rfl

/-- The latest header is the one of the latest code. -/
theorem latestHeader_of_code {code header : Text} (hcode : rules.latestCode s id = .ok code)
    (hheader : metaBlock code = some header) : rules.latestHeader s id = .ok header := by
  rw [Rules.latestHeader, hcode]
  simp only [bind, Except.bind, hheader]
  rfl

/-- What is left of a deleted script is made from its latest code. -/
theorem blanked_of_code {code header : Text} (hcode : rules.latestCode s id = .ok code)
    (hheader : Header.blanked code rules.policy.deletionNotice rules.policy.dependencyKeys
      = some header) : rules.blanked s id = .ok header := by
  rw [Rules.blanked, hcode]
  simp only [bind, Except.bind, hheader]
  rfl

end Reading

section Served

variable {rules : Rules} {events : List Event}

/-- The texts of a submission that has committed are found. -/
theorem load?_of_makes (hreading : rules.outage.reading = false)
    (hdistinct : DistinctDigests (World.stored rules events)) {x : Step}
    (hx : x ∈ World.trace rules events) {existing : Option Record} {submittedAt : Instant}
    {verdict : Verdict} {v : Revision}
    (hstage : x.stage = .stored existing submittedAt verdict v.rawCode v.canonicalCode)
    (h : Origin rules x.submission existing submittedAt verdict v) :
    rules.load? (World.run rules events).state.archive v.rawCode
        = some x.submission.request.code ∧
      rules.load? (World.run rules events).state.archive v.canonicalCode
        = some verdict.canonical := by
  have hfiled := filed_trace rules events
  have hboth := hfiled.steps x hx
  rw [hstage] at hboth
  have hload : ∀ id, rules.load? (World.run rules events).state.archive id
      = (World.run rules events).state.archive.load? id := by
    intro id
    rw [Rules.load?, hreading]
    exact if_neg Bool.false_ne_true
  rw [hload, hload, h.rawCode, h.canonicalCode]
  exact ⟨hfiled.archive.load?_ofCode hdistinct hboth.1,
    hfiled.archive.load?_ofCode hdistinct hboth.2⟩

/-- Every script is served as the canonical text of its last revision. -/
theorem latestCode_of_record (hreading : rules.outage.reading = false)
    (hdistinct : DistinctDigests (World.stored rules events)) {id : Uuid} {record : Record}
    (hr : (World.run rules events).state.registry.record? id = some record) :
    ∃ history v, (World.run rules events).state.registry.history? id = some history ∧
      history.getLast? = some v ∧ record.version = v.version ∧
      record.namespaceName = v.namespaceName ∧
      ∃ x ∈ World.trace rules events, ∃ existing submittedAt verdict,
        x.stage = .stored existing submittedAt verdict v.rawCode v.canonicalCode ∧
        Origin rules x.submission existing submittedAt verdict v ∧
        rules.load? (World.run rules events).state.archive v.canonicalCode
          = some verdict.canonical ∧
        rules.latestCode (World.run rules events).state id = .ok verdict.canonical := by
  obtain ⟨hgrounded, hlegal⟩ := grounded_trace rules events
  obtain ⟨-, history, v, hh, hlast, -, hversion, hname⟩ := hgrounded.records id record hr
  obtain ⟨x, hx, hmakes⟩ := exists_makes rules events hh (List.mem_of_getLast? hlast)
  obtain ⟨existing, submittedAt, verdict, hstage, horigin⟩ := (hlegal x hx).origin hmakes
  have hload := (load?_of_makes hreading hdistinct hx hstage horigin).2
  exact ⟨history, v, hh, hlast, hversion, hname, x, hx, existing, submittedAt, verdict, hstage,
    horigin, hload, latestCode_of_revision (latestRevision_of_history hh hlast) hload⟩

end Served

/-- The canonical text of an accepted revision has a header. -/
theorem Origin.locate_canonical {rules : Rules} {sub : Submission} {existing : Option Record}
    {submittedAt : Instant} {verdict : Verdict} {v : Revision}
    (h : Origin rules sub existing submittedAt verdict v) : locate verdict.canonical ≠ none := by
  obtain ⟨hverdict, haccepted, -⟩ := h
  rw [hverdict, Rules.review] at haccepted ⊢
  rcases Review.review_cases rules.policy rules.checks
    (Rules.candidate existing sub.request submittedAt) (existing.map Record.previous) with
    ⟨-, hr⟩ | ⟨⟨span, hspan⟩, hr⟩
  · rw [hr] at haccepted
    cases haccepted
  · rw [hr]
    exact Header.locate_rewrite_ne_none (by rw [hspan]; exact Option.some_ne_none _) _

/-! ### Submissions and previews -/

/-- What can happen to a service that answers previews too. -/
inductive Visit where
  /-- A submission arrives, or makes a step. -/
  | event (e : Event)
  /-- A preview is answered. -/
  | preview (t : Trial) (now : Instant)

/-- The event of a visit. -/
def Visit.event? : Visit → Option Event
  | event e => some e
  | preview _ _ => none

/-- A world and the previews that were answered in it. -/
structure Session where
  /-- The world. -/
  world : World
  /-- The answers, oldest first. -/
  previews : List (Except Refusal Verdict)

namespace Session

/-- The session after one visit. -/
def step (rules : Rules) (s : Session) : Visit → Session
  | .event e => { s with world := s.world.step rules e }
  | .preview t now =>
    { s with previews := s.previews ++ [rules.preview s.world.state t now] }

/-- The session after some visits, one after the other. -/
def run (rules : Rules) (visits : List Visit) : Session :=
  visits.foldl (step rules) ⟨World.initial, []⟩

/-- Previews leave the world to the submissions. -/
theorem world_run (rules : Rules) (visits : List Visit) :
    (run rules visits).world = World.run rules (visits.filterMap Visit.event?) := by
  have hfrom : ∀ s : Session, (visits.foldl (step rules) s).world
      = (visits.filterMap Visit.event?).foldl (World.step rules) s.world := by
    induction visits with
    | nil => exact fun s => rfl
    | cons visit visits ih =>
        intro s
        cases visit with
        | event e => exact ih (s.step rules (.event e))
        | preview t now => exact ih (s.step rules (.preview t now))
  exact hfrom _

/-- The steps that submissions made in a session. -/
def trace (rules : Rules) (visits : List Visit) : List Step :=
  World.trace rules (visits.filterMap Visit.event?)

/-- The texts that were stored in a session. -/
def stored (rules : Rules) (visits : List Visit) : List Text :=
  World.stored rules (visits.filterMap Visit.event?)

end Session

/-- A state that was reached by `steps` and has all that it needs to serve
what was accepted. -/
structure CodeKept (rules : Rules) (steps : List Step) (s : State) : Prop where
  /-- Every revision was made in a step. -/
  made : ∀ id history, s.registry.history? id = some history → ∀ v ∈ history,
    ∃ x ∈ steps, x.Makes v
  /-- Both texts of the submission are found under the digests that the
  revision names: the submitted one, and the canonical one of the
  verdict. -/
  loaded : ∀ x ∈ steps, ∀ v, x.Makes v →
    ∃ existing submittedAt verdict,
      x.stage = .stored existing submittedAt verdict v.rawCode v.canonicalCode ∧
      verdict = rules.review existing x.submission.request submittedAt ∧
      rules.load? s.archive v.rawCode = some x.submission.request.code ∧
      rules.load? s.archive v.canonicalCode = some verdict.canonical
  /-- Every script is served as its last revision, with a header, and can
  be blanked. -/
  served : ∀ id record, s.registry.record? id = some record →
    ∃ history v code header blanked, s.registry.history? id = some history ∧
      history.getLast? = some v ∧ rules.load? s.archive v.canonicalCode = some code ∧
      rules.latestCode s id = .ok code ∧ metaBlock code = some header ∧
      rules.latestHeader s id = .ok header ∧ rules.blanked s id = .ok blanked

/-- **Code is kept.** Whatever submissions arrive, however their steps
alternate, and whatever previews are answered in between, as long as the
archive can be read and no two of the stored texts have the same digest.
No edits of a header make it disappear. -/
theorem accepted_code_is_kept (rules : Rules) (hreading : rules.outage.reading = false)
    (visits : List Visit) (hdistinct : DistinctDigests (Session.stored rules visits)) :
    CodeKept rules (Session.trace rules visits) (Session.run rules visits).world.state ∧
      ∀ source edits, locate source ≠ none → locate (rewrite source edits) ≠ none := by
  rw [Session.world_run]
  refine ⟨⟨fun id history hh v hv => exists_makes rules _ hh hv, ?_, ?_⟩,
    fun source edits h => Header.locate_rewrite_ne_none h edits⟩
  · intro x hx v hmakes
    obtain ⟨existing, submittedAt, verdict, hstage, horigin⟩ :=
      ((grounded_trace rules _).2 x hx).origin hmakes
    exact ⟨existing, submittedAt, verdict, hstage, horigin.reviewed,
      load?_of_makes hreading hdistinct hx hstage horigin⟩
  · intro id record hr
    obtain ⟨history, v, hh, hlast, -, -, x, -, existing, submittedAt, verdict, -, horigin, hload,
      hcode⟩ := latestCode_of_record hreading hdistinct hr
    -- The canonical text has a header, and still has one when it is blanked.
    have hlocate := horigin.locate_canonical
    obtain ⟨header, hheader⟩ := Header.exists_metaBlock hlocate
    obtain ⟨blanked, hblanked⟩ := Header.exists_metaBlock (Header.locate_rewrite_ne_none hlocate
      (Header.blankingEdits (Header.Metadata.ofSource verdict.canonical)
        rules.policy.deletionNotice rules.policy.dependencyKeys))
    exact ⟨history, v, verdict.canonical, header, blanked, hh, hlast, hload, hcode, hheader,
      latestHeader_of_code hcode hheader, blanked_of_code hcode hblanked⟩

/-- A header without a version, and with the lines `more`. -/
def unversionedCode (more : Text) : Text :=
  "// ==UserScript==\n// @name n\n// @description d\n// @namespace s\n".toList ++ more ++
    "// ==/UserScript==\n".toList

/-- A script that gets a version from the clock. -/
def unversionedSubmission : Submission where
  script := none
  request := ⟨unversionedCode [], 1, .userScript, none, { addMissingVersion := true }⟩

/-- It arrives, and the next revision of it is previewed before it is
stored and after it is committed. -/
def sampleVisits : List Visit :=
  [.event (.submit unversionedSubmission), .event (.advance 0 (sampleMoment 1)),
    .preview ⟨some ⟨9⟩, unversionedSubmission.request⟩ (.ofSeconds 1),
    .event (.advance 0 (sampleMoment 2)), .event (.advance 0 (sampleMoment 3)),
    .preview ⟨some ⟨9⟩, unversionedSubmission.request⟩ (.ofSeconds 2),
    .event (.advance 0 (sampleMoment 4))]

/-- What is served of it has the version, and what was submitted is still
there. -/
theorem accepted_code_is_kept_unversioned :
    Session.stored sampleRules sampleVisits
      = [unversionedCode [], unversionedCode "// @version 0.0.1.19700101000001\n".toList] ∧
    DistinctDigests (Session.stored sampleRules sampleVisits) ∧
    ((Session.run sampleRules sampleVisits).world.state.registry.record? ⟨9⟩).isSome = true ∧
    CodeKept sampleRules (Session.trace sampleRules sampleVisits)
      (Session.run sampleRules sampleVisits).world.state := by
  have hstored : Session.stored sampleRules sampleVisits
      = [unversionedCode [], unversionedCode "// @version 0.0.1.19700101000001\n".toList] := by
    decide +kernel
  have hdistinct : DistinctDigests (Session.stored sampleRules sampleVisits) := by
    rw [hstored]
    exact Store.distinctDigests_pair (by decide +kernel)
  exact ⟨hstored, hdistinct, by decide +kernel,
    (accepted_code_is_kept sampleRules rfl sampleVisits hdistinct).1⟩

end ScriptGate.Service
