import ScriptGate.Http.Service
import ScriptGate.Json.Printer
import ScriptGate.Proofs.Service.Atomicity
import ScriptGate.Proofs.Service.Keeping

/-!
# `ScriptGate.Proofs.Service.Preview`: a preview tells what a submission does

A preview reviews a request as a submission would, and stops there. A
submission goes on: it stores two texts, reads the values of its commit
from the verdict and from the snapshot, and the registry makes a record
of them that keeps part of the earlier one. `preview_predicts_submit`
says that nothing is lost on the way. After any run, a request whose
preview says that it would be accepted is accepted when it is submitted
on its own at the same time, and what is committed, answered and served
is what the preview has said. One whose preview reports failures is
refused for these failures, and one that gets no preview fails in the
same way.

Both begin alike. `start_preview_cases` compares the two beginnings, and
from there `submit_of_start` says what a submission on its own does.
`GoTogether` has the three ways in which they can go on, and
`fulfils_of_commit` is the one that has something to show. That the new
record has the reported values is `record_of_commit`; that the canonical
text is what is served afterwards follows from what the archive holds
(`Store.Archive.Holds`), with the two new texts.

Submitters do not get the verdict but its report. So `Predicts` says the
same of the report: it has the values of the receipt and the code as it is
served (`Receipt.foretold`), or the failures in the answer to the
submission, and it is what the page for trials shows (`ShowsTrial`).
-/

set_option autoImplicit false

namespace ScriptGate.Service

open Review (Verdict)
open Store (CodeId Commit DistinctDigests Record Registry Revision)
open Store.Registry (Current)

/-- The trial of a submission. -/
def Submission.trial (sub : Submission) : Trial := ⟨sub.script, sub.request⟩

/-- A submission and its preview begin alike. The request is out of range,
or the script is not known, or there is a snapshot and the preview shows
the review against it. -/
theorem start_preview_cases (rules : Rules) (s : State) (sub : Submission) (now : Instant) :
    (∃ complaints, Rules.start s sub = .done (.error (.invalidRequest complaints)) ∧
      rules.preview s sub.trial now = .error (.invalidTrial complaints)) ∨
    (∃ id, Rules.start s sub = .done (.error (.unknownScript id)) ∧
      rules.preview s sub.trial now = .error (.unknownScript id)) ∨
    ∃ existing, s.target sub.script = .ok existing ∧
      Rules.start s sub = .underway (.found existing) ∧
      rules.preview s sub.trial now = .ok (rules.review existing sub.request now) := by
  cases hc : sub.request.complaints.isEmpty with
  | false =>
      refine Or.inl ⟨sub.request.complaints, ?_, ?_⟩
      · simp only [Rules.start, hc, Bool.not_false, if_true]
      · simp only [Rules.preview, Submission.trial, hc, Bool.not_false, if_true]
        rfl
  | true =>
      simp only [Rules.start, Rules.preview, Submission.trial, hc, Bool.not_true,
        Bool.false_eq_true, if_false]
      refine Or.inr ?_
      cases sub.script with
      | none => exact Or.inr ⟨none, rfl, rfl, rfl⟩
      | some id =>
          simp only [State.target, State.record]
          cases s.registry.record? id with
          | none => exact Or.inl ⟨id, rfl, rfl⟩
          | some record => exact Or.inr ⟨some record, rfl, rfl, rfl⟩

/-- The snapshot of a script is its record. -/
theorem record_of_target {s : State} {id : Uuid} {existing : Option Record}
    (h : s.target (some id) = .ok existing) :
    ∃ old, existing = some old ∧ s.registry.record? id = some old := by
  simp only [State.target, State.record] at h
  cases hr : s.registry.record? id with
  | none =>
      rw [hr] at h
      cases h
  | some old =>
      rw [hr] at h
      cases h
      exact ⟨old, rfl, rfl⟩

/-- What became of a submission is what the verdict `v` says. -/
structure Fulfils (rules : Rules) (sub : Submission) (v : Verdict) (after : State)
    (receipt : Receipt) : Prop where
  /-- A submission for a script makes a revision of this script. -/
  script : ∀ id, sub.script = some id → receipt.record.id = id
  /-- The record in the receipt is the one that the registry has. -/
  record : after.registry.record? receipt.record.id = some receipt.record
  /-- So is the revision, which is the last one of the script. -/
  revision : ∃ history, after.registry.history? receipt.record.id = some history ∧
    history.getLast? = some receipt.revision
  version : v.version = some receipt.record.version ∧ v.version = some receipt.revision.version
  namespaceName : v.namespaceName = receipt.record.namespaceName ∧
    v.namespaceName = receipt.revision.namespaceName
  name : v.name = some receipt.record.name
  description : v.description = some receipt.record.description
  corrections : v.corrections = receipt.corrections
  /-- The canonical text is what the script is served as. -/
  served : rules.latestCode after receipt.record.id = .ok v.canonical

section Alone

variable {rules : Rules} {s : State} {sub : Submission} {m : Moment} {v : Verdict}
  {existing : Option Record}

/-- What a commit makes of an accepted review is what the verdict says, if
the archive finds the canonical text. -/
theorem fulfils_of_commit (hr : Current s.registry) (htarget : s.target sub.script = .ok existing)
    {submittedAt : Instant} {rawCode : CodeId} {c : Commit} {after : State} {record : Record}
    {revision : Revision}
    (hc : commitFor existing sub.request v submittedAt rawCode (CodeId.ofCode v.canonical) = .ok c)
    (hcommit : s.registry.commit c m.freshScript m.freshRevision
      = .ok (after.registry, record, revision))
    (hload : rules.load? after.archive (CodeId.ofCode v.canonical) = some v.canonical) :
    Fulfils rules sub v after ⟨record, revision, v.corrections⟩ := by
  obtain ⟨name, description, version, hname, hdescription, hversion, rfl⟩ := commitFor_eq_ok hc
  obtain ⟨hrevision, hx⟩ := Store.Registry.extends_of_commit hcommit
  obtain ⟨hid, -, hprevious⟩ := Store.Registry.record_of_commit hr hcommit
  obtain ⟨hversion', hnamespace', hname', hdescription'⟩ := Review.Previous.mk.inj hprevious
  have hhistory := hx.history
  rw [← hid] at hhistory
  -- The new revision is the one that is served.
  have hlatest := latestRevision_of_history hhistory List.getLast?_concat
  constructor
  case script =>
    intro id hscript
    rw [hscript] at htarget
    obtain ⟨old, rfl, hold⟩ := record_of_target htarget
    exact hid.trans (hr id old hold).script
  case record =>
    have hrecord := hx.record
    rwa [← hid] at hrecord
  case revision => exact ⟨_, hhistory, List.getLast?_concat⟩
  case version =>
    rw [hversion, hversion', hrevision]
    exact ⟨rfl, rfl⟩
  case namespaceName =>
    rw [hnamespace', hrevision]
    exact ⟨rfl, rfl⟩
  case name => rw [hname, ← hname']
  case description => rw [hdescription, ← hdescription']
  case corrections => rfl
  case served =>
    refine latestCode_of_revision hlatest ?_
    rw [hrevision]
    exact hload

end Alone

/-- A refusal of a trial, as a submission gets it. The fields of the request
are not those of the trial. -/
def Refusal.ofSubmission : Refusal → Refusal
  | .invalidTrial complaints => .invalidRequest complaints
  | e => e

/-- How a preview and the submission, when it runs on its own, go together. -/
inductive GoTogether (rules : Rules) (s : State) (sub : Submission) (m : Moment) : Prop
  /-- There is no preview, and the submission fails likewise. -/
  | unavailable (e : Refusal) (preview : rules.preview s sub.trial m.now = .error e)
      (outOfReach : e.classOf = .validation ∨ e.classOf = .notFound)
      (submit : (rules.submit s sub m).2 = .error e.ofSubmission)
  /-- The preview reports failures, and the submission is refused for them. -/
  | refused (v : Verdict) (preview : rules.preview s sub.trial m.now = .ok v)
      (failed : v.isAccepted = false)
      (submit : (rules.submit s sub m).2 = .error (.rejected v.failures))
  /-- The submission is accepted, and does what the preview says. -/
  | fulfilled (v : Verdict) (receipt : Receipt)
      (preview : rules.preview s sub.trial m.now = .ok v) (accepted : v.isAccepted = true)
      (submit : (rules.submit s sub m).2 = .ok receipt)
      (fulfils : Fulfils rules sub v (rules.submit s sub m).1 receipt)

/-- They do so after any run. -/
theorem goTogether_run {rules : Rules} {events : List Event}
    (hwriting : rules.outage.writing = false) (hreading : rules.outage.reading = false)
    (sub : Submission) (m : Moment)
    (hdistinct : ∀ v, rules.preview (World.run rules events).state sub.trial m.now = .ok v →
      DistinctDigests (World.stored rules events ++ [sub.request.code, v.canonical])) :
    GoTogether rules (World.run rules events).state sub m := by
  have hr := (grounded_run rules events).records
  rcases start_preview_cases rules (World.run rules events).state sub m.now with
    ⟨complaints, hstart, hpreview⟩ | ⟨id, hstart, hpreview⟩ | ⟨existing, htarget, hstart, hpreview⟩
  · refine .unavailable _ hpreview (Or.inl rfl) ?_
    rw [Rules.submit, hstart, finish_done]
    rfl
  · refine .unavailable _ hpreview (Or.inr rfl) ?_
    rw [Rules.submit, hstart, finish_done]
    rfl
  rcases submit_of_start hwriting hr hstart m rfl with
    ⟨hrefused, hsubmit⟩ | ⟨haccepted, c, registry, record, revision, hc, hcommit, hsubmit⟩
  · exact .refused _ hpreview hrefused (congrArg Prod.snd hsubmit)
  · refine .fulfilled _ _ hpreview haccepted (congrArg Prod.snd hsubmit) ?_
    rw [hsubmit]
    refine fulfils_of_commit hr htarget hc hcommit ?_
    -- The archive holds the texts of the run and the two of this submission.
    have hholds := ((filed_trace rules events).archive.store sub.request.code).store
      (rules.review existing sub.request m.now).canonical
    rw [List.append_assoc] at hholds
    rw [Rules.load?, hreading, if_neg Bool.false_ne_true]
    exact hholds.load?_ofCode (hdistinct _ hpreview)
      (List.mem_append_right _ (List.mem_cons_of_mem _ List.mem_cons_self))

/-- The refusal has the same class for a submission as for a trial. -/
theorem Refusal.classOf_ofSubmission (e : Refusal) : e.ofSubmission.classOf = e.classOf := by
  cases e with
  | invalidTrial complaints => rfl
  | _ => rfl

namespace GoTogether

variable {rules : Rules} {s : State} {sub : Submission} {m : Moment}

/-- A review accepts exactly the submissions that are accepted. -/
theorem accepted_iff (h : GoTogether rules s sub m) :
    (∃ v, rules.preview s sub.trial m.now = .ok v ∧ v.isAccepted = true) ↔
      ∃ receipt, (rules.submit s sub m).2 = .ok receipt := by
  cases h with
  | unavailable e hp _ hs => simp [hp, hs]
  | refused v hp hv hs => simp [hp, hs, hv]
  | fulfilled v receipt hp hv hs _ => simp [hp, hs, hv]

/-- An accepted submission has had an accepted preview, and fulfils it. -/
theorem fulfils_of_ok (h : GoTogether rules s sub m) {v : Verdict} {receipt : Receipt}
    (hv : rules.preview s sub.trial m.now = .ok v) (hr : (rules.submit s sub m).2 = .ok receipt) :
    v.isAccepted = true ∧ Fulfils rules sub v (rules.submit s sub m).1 receipt := by
  cases h with
  | unavailable e hp _ hs => cases hp.symm.trans hv
  | refused v' hp _ hs => cases hs.symm.trans hr
  | fulfilled v' receipt' hp haccepted hs hf =>
      cases hp.symm.trans hv
      cases hs.symm.trans hr
      exact ⟨haccepted, hf⟩

/-- A preview with failures comes true. -/
theorem submit_of_failed (h : GoTogether rules s sub m) {v : Verdict}
    (hv : rules.preview s sub.trial m.now = .ok v) (hfailed : v.isAccepted = false) :
    (rules.submit s sub m).2 = .error (.rejected v.failures) := by
  cases h with
  | unavailable e hp _ hs => cases hp.symm.trans hv
  | refused v' hp _ hs =>
      cases hp.symm.trans hv
      exact hs
  | fulfilled v' receipt hp haccepted hs _ =>
      cases hp.symm.trans hv
      rw [haccepted] at hfailed
      cases hfailed

/-- What keeps a trial from being reviewed keeps the submission from it. -/
theorem submit_of_error (h : GoTogether rules s sub m) {e : Refusal}
    (he : rules.preview s sub.trial m.now = .error e) :
    (rules.submit s sub m).2 = .error e.ofSubmission := by
  cases h with
  | unavailable e' hp _ hs =>
      cases hp.symm.trans he
      exact hs
  | refused v hp _ hs => cases hp.symm.trans he
  | fulfilled v receipt hp _ hs _ => cases hp.symm.trans he

/-- Refusals for other causes than failures of the review come to both or to
none of them. -/
theorem class_iff (h : GoTogether rules s sub m) {kind : RefusalClass} (hkind : kind ≠ .rejected) :
    (∃ e, rules.preview s sub.trial m.now = .error e ∧ e.classOf = kind) ↔
      ∃ e, (rules.submit s sub m).2 = .error e ∧ e.classOf = kind := by
  cases h with
  | unavailable e hp _ hs => simp [hp, hs, e.classOf_ofSubmission]
  | refused v hp _ hs =>
      simp only [hp, hs, reduceCtorEq, false_and, exists_false, Except.error.injEq,
        exists_eq_left', false_iff]
      exact fun heq => hkind heq.symm
  | fulfilled v receipt hp _ hs _ => simp [hp, hs]

end GoTogether

/-! ### What is reported -/

/-- The report of a preview of the submission that gets this receipt, if the
script is served as `code` afterwards. -/
def Receipt.foretold (r : Receipt) (code : Text) : Json :=
  .record [("accepted", .bool true), ("failures", .array []),
    ("corrections", .array (r.corrections.map Review.Correction.report)),
    ("rewrittenCode", .text code), ("version", .text r.revision.version),
    ("namespace", .optText r.revision.namespaceName), ("name", .text r.record.name),
    ("description", .text r.record.description)]

/-- The report of an accepted verdict has nothing but what the submission
leaves. -/
theorem Fulfils.report_eq {rules : Rules} {sub : Submission} {v : Verdict} {after : State}
    {receipt : Receipt} (h : Fulfils rules sub v after receipt) (haccepted : v.isAccepted = true) :
    v.report = receipt.foretold v.canonical := by
  have hfailures : v.failures = [] := List.isEmpty_iff.mp haccepted
  rw [Verdict.report, Receipt.foretold, haccepted, hfailures, h.corrections, h.version.2,
    h.namespaceName.2, h.name, h.description]
  rfl

/-- What the report says under the name `accepted`. -/
theorem member?_accepted (v : Verdict) :
    v.report.member? "accepted" = some (.bool v.isAccepted) := rfl

/-- A preview and a rejection report failures in the same way. -/
theorem member?_failures (v : Verdict) :
    v.report.member? "failures" = (Refusal.rejected v.failures).report.member? "failures" := rfl

/-- The call sends this trial to the page for trials. -/
structure SendsTrial (c : Http.Call) (t : Trial) : Prop where
  method : c.method = "POST".toList
  page : Http.Page.ofPath? c.path = some .trial
  body : Http.received Request.parseTrial c = .ok t

/-- The reply shows the outcome of a preview: the report of the verdict, or
that of the refusal. -/
def ShowsTrial (reply : Http.Reply) : Except Refusal Verdict → Prop
  | .ok v => reply.status = 200 ∧ ∃ message, reply.content = .json
      (.record [("success", .bool true), ("message", .text message), ("data", v.report)])
  | .error e => reply.status = e.classOf.status ∧ reply.content = .json e.report

/-- The headers of a reply are not what it shows. -/
theorem ShowsTrial.withHeaders {reply : Http.Reply} {outcome : Except Refusal Verdict}
    (h : ShowsTrial reply outcome) (headers : List (String × Text)) :
    ShowsTrial { reply with headers } outcome := by
  cases outcome with
  | ok v => exact h
  | error e => exact h

/-- The page for trials shows the preview of what it is sent. -/
theorem showsTrial_tryOut (rules : Rules) (s : State) (now : Instant) {c : Http.Call} {t : Trial}
    (h : SendsTrial c t) :
    ShowsTrial (Http.tryOut rules s now c) (rules.preview s t now) := by
  unfold Http.tryOut
  rw [h.body]
  simp only
  cases rules.preview s t now with
  | ok v => exact ⟨rfl, _, rfl⟩
  | error e => exact ⟨rfl, rfl⟩

/-- Whoever sends a trial is shown its preview. -/
theorem showsTrial_serve (rules : Rules) (o : Http.Origins) (s : State) (m : Moment)
    {c : Http.Call} {t : Trial} (h : SendsTrial c t) :
    ShowsTrial (Http.serve rules o s m c).2 (rules.preview s t m.now) := by
  have hmethod : c.method ≠ "OPTIONS".toList := by
    rw [h.method]
    decide
  have hpost : String.ofList c.method = "POST" := by rw [h.method, String.ofList_toList]
  have hreply : (Http.answer rules s m c).2 = Http.tryOut rules s m.now c := by
    simp only [Http.answer, h.page, hpost]
    rfl
  rw [Http.serve, if_neg hmethod]
  simp only [hreply]
  exact (showsTrial_tryOut rules s m.now h).withHeaders _

/-! ### The dry run -/

/-- What a preview of a submission at the time `m.now` says of the
submission itself, when that runs on its own. -/
structure Predicts (rules : Rules) (s : State) (sub : Submission) (m : Moment) : Prop where
  /-- It would be accepted exactly when it is. -/
  accepted : (∃ v, rules.preview s sub.trial m.now = .ok v ∧ v.isAccepted = true) ↔
    ∃ receipt, (rules.submit s sub m).2 = .ok receipt
  /-- Then it is accepted as the preview has said. -/
  fulfilled : ∀ v receipt, rules.preview s sub.trial m.now = .ok v →
    (rules.submit s sub m).2 = .ok receipt →
    Fulfils rules sub v (rules.submit s sub m).1 receipt
  /-- Otherwise it is refused for the failures in the preview. -/
  rejected : ∀ v, rules.preview s sub.trial m.now = .ok v → v.isAccepted = false →
    (rules.submit s sub m).2 = .error (.rejected v.failures)
  /-- A request is out of range for both or for none of them. -/
  validation : (∃ e, rules.preview s sub.trial m.now = .error e ∧ e.classOf = .validation) ↔
    ∃ e, (rules.submit s sub m).2 = .error e ∧ e.classOf = .validation
  /-- A script is unknown to both or to none of them. -/
  notFound : (∃ e, rules.preview s sub.trial m.now = .error e ∧ e.classOf = .notFound) ↔
    ∃ e, (rules.submit s sub m).2 = .error e ∧ e.classOf = .notFound
  /-- Where there is no preview, the submission fails for the same cause. -/
  cause : ∀ e, rules.preview s sub.trial m.now = .error e →
    (rules.submit s sub m).2 = .error e.ofSubmission
  /-- The report says that it would be accepted exactly when it is. -/
  reported : (∃ v, rules.preview s sub.trial m.now = .ok v ∧
      v.report.member? "accepted" = some (.bool true)) ↔
    ∃ receipt, (rules.submit s sub m).2 = .ok receipt
  /-- Then it reports the receipt, and the code as it is served. -/
  foretold : ∀ v receipt, rules.preview s sub.trial m.now = .ok v →
    (rules.submit s sub m).2 = .ok receipt →
    ∃ code, rules.latestCode (rules.submit s sub m).1 receipt.record.id = .ok code ∧
      v.report = receipt.foretold code
  /-- Otherwise it has the failures in the answer to the submission. -/
  refused : ∀ v, rules.preview s sub.trial m.now = .ok v →
    v.report.member? "accepted" = some (.bool false) →
    ∃ e, (rules.submit s sub m).2 = .error e ∧ e.classOf = .rejected ∧
      v.report.member? "failures" = e.report.member? "failures"
  /-- Whoever sends the trial is shown this report, or the refusal. -/
  answered : ∀ o c, SendsTrial c sub.trial →
    ShowsTrial (Http.serve rules o s m c).2 (rules.preview s sub.trial m.now)
  /-- Whoever asks for a preview changes nothing. -/
  unchanged : ∀ o c, Http.Page.ofPath? c.path = some .trial → (Http.serve rules o s m c).1 = s

/-- Whoever asks for a preview changes nothing. -/
theorem serve_trial (rules : Rules) (o : Http.Origins) (s : State) (m : Moment) {c : Http.Call}
    (hpath : Http.Page.ofPath? c.path = some .trial) : (Http.serve rules o s m c).1 = s := by
  unfold Http.serve
  split
  · rfl
  · simp only [Http.answer, hpath]
    split
    · rfl
    · rfl
    · rfl
    · rfl

/-- **The dry run.** After any submissions whose steps alternate in any
order, as long as the archive works and the two texts of the submission
bring no digest that another text has: the preview of a submission
predicts it. -/
theorem preview_predicts_submit (rules : Rules) (hwriting : rules.outage.writing = false)
    (hreading : rules.outage.reading = false) (events : List Event) (sub : Submission) (m : Moment)
    (hdistinct : ∀ v, rules.preview (World.run rules events).state sub.trial m.now = .ok v →
      DistinctDigests (World.stored rules events ++ [sub.request.code, v.canonical])) :
    Predicts rules (World.run rules events).state sub m := by
  have h := goTogether_run hwriting hreading sub m hdistinct
  constructor
  case accepted => exact h.accepted_iff
  case fulfilled => exact fun v receipt hv hr => (h.fulfils_of_ok hv hr).2
  case rejected => exact fun v hv hfailed => h.submit_of_failed hv hfailed
  case validation => exact h.class_iff (by decide)
  case notFound => exact h.class_iff (by decide)
  case cause => exact fun e he => h.submit_of_error he
  case reported =>
    simp only [member?_accepted, Option.some.injEq, Json.bool.injEq]
    exact h.accepted_iff
  case foretold =>
    intro v receipt hv hr
    obtain ⟨haccepted, hf⟩ := h.fulfils_of_ok hv hr
    exact ⟨v.canonical, hf.served, hf.report_eq haccepted⟩
  case refused =>
    intro v hv hfailed
    rw [member?_accepted, Option.some.injEq, Json.bool.injEq] at hfailed
    exact ⟨_, h.submit_of_failed hv hfailed, rfl, member?_failures v⟩
  case answered => exact fun o c hsends => showsTrial_serve rules o _ m hsends
  case unchanged => exact fun o c hpath => serve_trial rules o _ m hpath

/-! ### The same code once more -/

/-- A script that is over. -/
def sampleScript : List Event :=
  [.submit (sampleSubmission none ['1']), .advance 0 (sampleMoment 1),
    .advance 0 (sampleMoment 2), .advance 0 (sampleMoment 3), .advance 0 (sampleMoment 4)]

/-- Somebody else submits its code again, as a library. -/
def sampleRepetition : Submission where
  script := some ⟨9⟩
  request := ⟨sampleCode ['1'], 2, .library, some ['l'], { keepVersion := true }⟩

/-- The call that asks for its preview. -/
def sampleCall : Http.Call where
  method := "POST".toList
  target := "/api/validate".toList
  headers := [("Content-Type".toList, "application/json".toList)]
  body := (Json.record [("scriptId", .text (Uuid.text ⟨9⟩)), ("code", .text (sampleCode ['1'])),
    ("authorId", .nat 2), ("kind", .str "library"), ("displayName", .str "l"),
    ("options", .record [("versionCheckOverride", .bool true)])]).print

/-- Its fields make up the trial. -/
theorem sendsTrial_sampleCall : SendsTrial sampleCall sampleRepetition.trial where
  method := rfl
  page := by decide +kernel
  body := by
    have hread : (Request.parseTrial sampleCall.body).toOption = some sampleRepetition.trial := by
      decide +kernel
    rw [Http.received, if_neg (by decide +kernel), if_neg (by decide +kernel)]
    cases hparse : Request.parseTrial sampleCall.body with
    | error objection =>
        rw [hparse] at hread
        cases hread
    | ok trial =>
        rw [hparse] at hread
        obtain rfl := Option.some.inj hread
        rfl

/-- The preview says that this is fine, and so it is. -/
theorem preview_predicts_submit_repetition :
    SendsTrial sampleCall sampleRepetition.trial ∧
    (∃ receipt, (sampleRules.submit (World.run sampleRules sampleScript).state sampleRepetition
      (sampleMoment 5)).2 = .ok receipt ∧ receipt.record.id = ⟨9⟩) ∧
    Predicts sampleRules (World.run sampleRules sampleScript).state sampleRepetition
      (sampleMoment 5) := by
  have hstored : World.stored sampleRules sampleScript = [sampleCode ['1'], sampleCode ['1']] := by
    decide +kernel
  have hpreview : (sampleRules.preview (World.run sampleRules sampleScript).state
      sampleRepetition.trial (sampleMoment 5).now).toOption.map
        (fun v => (v.isAccepted, v.canonical)) = some (true, sampleCode ['1']) := by
    decide +kernel
  cases hv : sampleRules.preview (World.run sampleRules sampleScript).state
      sampleRepetition.trial (sampleMoment 5).now with
  | error e =>
      rw [hv] at hpreview
      cases hpreview
  | ok v =>
      rw [hv] at hpreview
      obtain ⟨haccepted, hcanonical⟩ := Prod.mk.inj (Option.some.inj hpreview)
      have hpredicts := preview_predicts_submit sampleRules rfl rfl sampleScript sampleRepetition
        (sampleMoment 5) fun v' hv' => by
          obtain rfl := Except.ok.inj (hv.symm.trans hv')
          rw [hstored, hcanonical]
          refine Store.distinctDigests_of_forall_eq (t := sampleCode ['1']) fun s hs => ?_
          simpa [sampleRepetition] using hs
      obtain ⟨receipt, hreceipt⟩ := hpredicts.accepted.mp ⟨v, hv, haccepted⟩
      exact ⟨sendsTrial_sampleCall, ⟨receipt, hreceipt, (hpredicts.fulfilled v receipt hv hreceipt).script ⟨9⟩ rfl⟩,
        hpredicts⟩

end ScriptGate.Service
