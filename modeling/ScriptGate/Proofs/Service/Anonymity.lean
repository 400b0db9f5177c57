import ScriptGate.Http.Service
import ScriptGate.Proofs.Review.Anonymity
import ScriptGate.Proofs.Service.Atomicity

/-!
# `ScriptGate.Proofs.Service.Anonymity`: names of fingerprints stay inside

The names of fingerprints are for the operators. They are not only left
out of one report: a failure carries the name of its fingerprint, from
the verdict into the progress of a submission and into the refusal that
ends it, and refusals are described, reported and recorded. So the
property is about two services. `names_stay_inside` says that services
which differ in nothing but names can not be told apart, by whatever
calls over HTTP, by whatever submissions and previews, and however the
steps of submissions alternate.

Both are compared with the service without names. A service that is made
anonymous makes the same steps, through the stages of the original made
anonymous (`advance_anonymous`), and so it comes to the same state and to
the same answer without the name in it (`submit_anonymous`). Answers show
the same with and without the name (`Refusal.report_anonymous`), so over
HTTP there is no difference left (`serve_anonymous`).
-/

set_option autoImplicit false

namespace ScriptGate.Service

open Review (Failure Verdict)
open Store (Record)

/-! ### Without names -/

/-- The rules without names of fingerprints. -/
def Rules.anonymous (rules : Rules) : Rules := { rules with checks := rules.checks.anonymous }

/-- The refusal without names of fingerprints. -/
def Refusal.anonymous : Refusal → Refusal
  | .rejected failures => .rejected (failures.map Failure.anonymous)
  | e => e

/-- The stage without names of fingerprints. -/
def Stage.anonymous : Stage → Stage
  | .found existing => .found existing
  | .reviewed existing submittedAt v => .reviewed existing submittedAt v.anonymous
  | .stored existing submittedAt v rawCode canonicalCode =>
      .stored existing submittedAt v.anonymous rawCode canonicalCode
  | .committed v record revision => .committed v.anonymous record revision
  | .outrun existing v id => .outrun existing v.anonymous id

/-- The progress without names of fingerprints. -/
def Progress.anonymous : Progress → Progress
  | .underway stage => .underway stage.anonymous
  | .done answer => .done (answer.mapError Refusal.anonymous)

/-- The world without names of fingerprints. -/
def World.anonymous (w : World) : World :=
  { w with calls := w.calls.map fun call => ⟨call.submission, call.progress.anonymous⟩ }

/-- Only a rejection has names. -/
theorem Refusal.anonymous_of_class {e : Refusal} (h : e.classOf ≠ .rejected) :
    e.anonymous = e := by
  cases e with
  | rejected failures => exact absurd rfl h
  | _ => rfl

section Shown

variable (e : Refusal)

/-- The class of a refusal has no name in it. -/
@[simp] theorem Refusal.classOf_anonymous : e.anonymous.classOf = e.classOf := by
  cases e <;> rfl

/-- What is said of the cause has no name in it. -/
theorem Refusal.cause_anonymous : e.anonymous.cause = e.cause := by
  cases e with
  | rejected failures => exact Failure.summary_anonymous failures
  | _ => rfl

/-- The details of a refusal have no name in them. -/
theorem Refusal.details_anonymous : e.anonymous.details = e.details := by
  cases e with
  | rejected failures =>
      show [("failures", Json.array ((failures.map Failure.anonymous).map Failure.report))]
        = [("failures", Json.array (failures.map Failure.report))]
      simp only [List.map_map, Function.comp_def, Failure.report_anonymous]
  | _ => rfl

/-- The description of a refusal has no name in it. -/
@[simp] theorem Refusal.description_anonymous : e.anonymous.description = e.description := by
  rw [Refusal.description, Refusal.description, Refusal.classOf_anonymous,
    Refusal.cause_anonymous]

/-- What goes out of a refusal has no names. -/
@[simp] theorem Refusal.report_anonymous : e.anonymous.report = e.report := by
  rw [Refusal.report, Refusal.report, Refusal.message, Refusal.message, Refusal.classOf_anonymous,
    Refusal.cause_anonymous, Refusal.details_anonymous]

end Shown

/-! ### Steps -/

section Steps

variable (rules : Rules) (sub : Submission) (m : Moment) (s : State)

/-- The review of a request, at the service as at its checks. -/
theorem review_anonymous (existing : Option Record) (r : Request) (now : Instant) :
    rules.anonymous.review existing r now = (rules.review existing r now).anonymous :=
  Review.review_anonymous _ _ _ _

/-- The trail records codes of failures, and these have no names. -/
theorem entryFor_anonymous (r : Request) (v : Verdict) (script revision : Option Uuid)
    (action : Store.Action) :
    entryFor r v.anonymous m script revision action = entryFor r v m script revision action := by
  simp only [entryFor, Verdict.anonymous, List.map_map, Function.comp_def, Failure.code_anonymous]

/-- On arrival nothing has a name. -/
theorem start_anonymous : (Rules.start s sub).anonymous = Rules.start s sub := by
  cases hstart : Rules.start s sub with
  | underway stage =>
      rcases start_cases s sub with ⟨e, he⟩ | ⟨existing, he, -⟩
      · cases he.symm.trans hstart
      · cases he.symm.trans hstart
        rfl
  | done answer =>
      obtain ⟨e, rfl, hclass⟩ := start_error hstart
      show Progress.done (.error e.anonymous) = _
      rw [Refusal.anonymous_of_class]
      rcases hclass with hclass | hclass
      · rw [hclass]
        decide
      · rw [hclass]
        decide

/-- A step of the service without names is the step of the service. -/
theorem advance_anonymous (stage : Stage) :
    rules.anonymous.advance sub m s stage.anonymous
      = ((rules.advance sub m s stage).1, (rules.advance sub m s stage).2.anonymous) := by
  cases stage with
  | found existing =>
      simp only [Stage.anonymous, Rules.advance, review_anonymous]
      rfl
  | reviewed existing submittedAt v =>
      simp only [Stage.anonymous, Rules.advance, Rules.afterReview, Verdict.isAccepted_anonymous,
        entryFor_anonymous]
      cases v.isAccepted with
      | false => rfl
      | true =>
          cases hw : rules.outage.writing with
          | true =>
              simp only [Rules.store, Rules.anonymous, hw]
              rfl
          | false =>
              simp only [Rules.store, Rules.anonymous, hw]
              rfl
  | stored existing submittedAt v rawCode canonicalCode =>
      have hsame : commitFor existing sub.request v.anonymous submittedAt rawCode canonicalCode
          = commitFor existing sub.request v submittedAt rawCode canonicalCode := rfl
      simp only [Stage.anonymous, Rules.advance, Rules.afterStoring, hsame]
      cases hc : commitFor existing sub.request v submittedAt rawCode canonicalCode with
      | error e =>
          -- The only failures here are those of the service itself.
          obtain ⟨field, rfl⟩ := commitFor_eq_error hc
          rfl
      | ok c =>
          cases hr : s.registry.commit c m.freshScript m.freshRevision with
          | ok x => simp only [hr]; rfl
          | error e =>
              cases e with
              | unknownScript id => simp only [hr]; rfl
              | superseded id => simp only [hr]; rfl
  | committed v record revision =>
      simp only [Stage.anonymous, Rules.advance, entryFor_anonymous]
      rfl
  | outrun existing v id =>
      simp only [Stage.anonymous, Rules.advance, entryFor_anonymous]
      rfl

/-- A submission on its own, from some point to its end. -/
theorem finish_anonymous (p : Progress) :
    rules.anonymous.finish sub m s p.anonymous
      = ((rules.finish sub m s p).1, (rules.finish sub m s p).2.mapError Refusal.anonymous) := by
  fun_induction rules.finish sub m s p with
  | case1 s answer => rw [Progress.anonymous, finish_done]
  | case2 s stage s' p' h ih =>
      rw [Progress.anonymous, Rules.finish]
      simp only [advance_anonymous, h]
      exact ih

/-- A submission on its own leaves the same state. Only a refusal may name
something else. -/
theorem submit_anonymous :
    rules.anonymous.submit s sub m
      = ((rules.submit s sub m).1, (rules.submit s sub m).2.mapError Refusal.anonymous) := by
  rw [Rules.submit, Rules.submit, ← finish_anonymous, start_anonymous]

/-- A preview names no fingerprint if the scanner does not. -/
theorem preview_anonymous (t : Trial) (now : Instant) :
    rules.anonymous.preview s t now = (rules.preview s t now).map Verdict.anonymous := by
  unfold Rules.preview
  simp only [review_anonymous]
  split
  · rfl
  · cases s.target t.script with
    | error e => rfl
    | ok existing => rfl

end Steps

/-! ### Runs -/

/-- The identifiers that a stage takes do not depend on names. -/
theorem taken_anonymous (sub : Submission) (m : Moment) (s : State) (stage : Stage) :
    stage.anonymous.taken sub m s = stage.taken sub m s := by
  cases stage with
  | reviewed existing submittedAt v =>
      simp only [Stage.anonymous, Stage.taken, Verdict.isAccepted_anonymous]
  | found | stored | committed | outrun => rfl

/-- An event in the world without names is the event in the world. -/
theorem step_anonymous (rules : Rules) (w : World) (e : Event) :
    w.anonymous.step rules.anonymous e = (w.step rules e).anonymous := by
  cases e with
  | submit sub =>
      simp only [World.step, World.anonymous, List.map_append, List.map_cons, List.map_nil,
        start_anonymous]
  | advance i m =>
      have hcall : w.anonymous.calls[i]?
          = w.calls[i]?.map fun call => ⟨call.submission, call.progress.anonymous⟩ :=
        List.getElem?_map
      cases hi : w.calls[i]? with
      | none =>
          rw [hi, Option.map_none] at hcall
          simp only [World.step, hcall, hi]
      | some call =>
          obtain ⟨sub, progress⟩ := call
          rw [hi, Option.map_some] at hcall
          cases progress with
          | done answer =>
              simp only [Progress.anonymous] at hcall
              simp only [World.step, hcall, hi]
          | underway stage =>
              simp only [Progress.anonymous] at hcall
              simp only [World.step, hcall, hi, advance_anonymous, taken_anonymous]
              simp only [World.anonymous, List.map_set]

/-- A run of the service without names is the run of the service. -/
theorem run_anonymous (rules : Rules) (events : List Event) :
    World.run rules.anonymous events = (World.run rules events).anonymous := by
  induction events using List.reverseRecOn with
  | nil => rfl
  | append_singleton events e ih =>
      rw [World.run_append_singleton, World.run_append_singleton, ih, step_anonymous]

end ScriptGate.Service

namespace ScriptGate.Http

open Review (Verdict)
open Service (Moment Refusal Rules State)

/-! ### Over HTTP -/

section Serving

variable (rules : Rules) (o : Origins) (s : State) (m : Moment) (c : Call)

/-- The reply to a refusal has no name. -/
theorem refused_anonymous (e : Refusal) : refused e.anonymous = refused e := by
  rw [refused, refused, Refusal.classOf_anonymous, Refusal.report_anonymous]

/-- What answers a result does not change when names go from its refusal. -/
theorem replyOf_mapError {α : Type} (f : α → Reply) (r : Except Refusal α) :
    replyOf f (r.mapError Refusal.anonymous) = replyOf f r := by
  cases r with
  | ok a => rfl
  | error e => exact refused_anonymous e

/-- The trial page reads no names. -/
theorem tryOut_anonymous (now : Instant) :
    tryOut rules.anonymous s now c = tryOut rules s now c := by
  unfold tryOut
  cases received Request.parseTrial c with
  | error reply => rfl
  | ok trial =>
      simp only [Service.preview_anonymous]
      cases rules.preview s trial now with
      | error e => rfl
      | ok v =>
          simp only [Except.map, replyOf, Verdict.isAccepted_anonymous, Verdict.report_anonymous]
          rw [Verdict.anonymous, List.length_map]

/-- The endpoint of submissions reads no names. -/
theorem submit_anonymous (script : Option Uuid) :
    submit rules.anonymous s m script c = submit rules s m script c := by
  unfold submit
  cases received Request.parse c with
  | error reply => rfl
  | ok request => simp only [Service.submit_anonymous, replyOf_mapError]

/-- The pages that write read no names. -/
theorem writePage_anonymous (p : Page) :
    writePage rules.anonymous s m c p = writePage rules s m c p := by
  unfold writePage
  split
  · rw [tryOut_anonymous]
  · rw [submit_anonymous]
  · split
    · rfl
    · rw [submit_anonymous]
  · rfl

/-- Pages are read without fingerprints. -/
theorem readPage_anonymous (now : Instant) (p : Page) :
    readPage rules.anonymous s now c p = readPage rules s now c p := rfl

/-- The service without names answers every call as the service does. -/
theorem serve_anonymous : serve rules.anonymous o s m c = serve rules o s m c := by
  unfold serve answer
  simp only [writePage_anonymous, readPage_anonymous]

end Serving

/-- Answers some calls, one after the other. -/
def converse (rules : Rules) (o : Origins) : State → List (Moment × Call) → State × List Reply
  | s, [] => (s, [])
  | s, (m, c) :: calls =>
      let answered := serve rules o s m c
      let rest := converse rules o answered.1 calls
      (rest.1, answered.2 :: rest.2)

/-- A whole conversation goes the same way without names, down to the state
it leaves. -/
theorem converse_anonymous (rules : Rules) (o : Origins) (s : State)
    (calls : List (Moment × Call)) :
    converse rules.anonymous o s calls = converse rules o s calls := by
  induction calls generalizing s with
  | nil => rfl
  | cons call calls ih => rw [converse, converse, serve_anonymous, ih]

end ScriptGate.Http

namespace ScriptGate.Service

open Review (Verdict)

/-! ### Two services -/

/-- The rules with these fingerprints of known code. -/
def Rules.knowing (rules : Rules) (fs : List Fingerprint) : Rules :=
  { rules with checks := rules.checks.knowing fs }

/-- Rules that differ in names alone are the same without them. -/
theorem anonymous_knowing (rules : Rules) {fs gs : List Fingerprint}
    (h : Fingerprint.SameButNames fs gs) :
    (rules.knowing fs).anonymous = (rules.knowing gs).anonymous := by
  have hscan : (fun body => (Fingerprint.scan fs body).map Fingerprint.Hit.anonymous)
      = fun body => (Fingerprint.scan gs body).map Fingerprint.Hit.anonymous :=
    funext h.scan_eq
  simp only [Rules.anonymous, Rules.knowing, Review.Checks.anonymous, Review.Checks.knowing, hscan]

/-- What goes out of a result: the report of a value, or the words and the
report of a refusal. -/
def shown {α : Type} (report : α → Json) : Except Refusal α → Except (Text × Json) Json
  | .ok a => .ok (report a)
  | .error e => .error (e.description, e.report)

/-- What a submission was told, if it is over. -/
def Progress.told? : Progress → Option (Except (Text × Json) Json)
  | .underway _ => none
  | .done answer => some (shown Receipt.report answer)

/-- Nobody who asks the two services can tell them apart. -/
structure Indistinguishable (rules rules' : Rules) : Prop where
  /-- They answer all calls over HTTP in the same way, and know the same
  afterwards. -/
  conversations : ∀ o s calls, Http.converse rules o s calls = Http.converse rules' o s calls
  /-- A submission leaves the same behind, and is told the same. -/
  submissions : ∀ s sub m, (rules.submit s sub m).1 = (rules'.submit s sub m).1 ∧
    shown Receipt.report (rules.submit s sub m).2 = shown Receipt.report (rules'.submit s sub m).2
  /-- A preview shows the same. -/
  previews : ∀ s t now, shown Verdict.report (rules.preview s t now)
    = shown Verdict.report (rules'.preview s t now)
  /-- The same code is served. -/
  code : ∀ s id, rules.latestCode s id = rules'.latestCode s id ∧
    rules.latestHeader s id = rules'.latestHeader s id ∧ rules.blanked s id = rules'.blanked s id
  /-- When the steps of submissions alternate, the services know the same
  all the time, and tell every submission the same. -/
  runs : ∀ events, (World.run rules events).state = (World.run rules' events).state ∧
    (World.run rules events).calls.map (fun call => (call.submission, call.progress.told?))
      = (World.run rules' events).calls.map (fun call => (call.submission, call.progress.told?))

/-- What is shown of a result does not change when names go from its refusal. -/
theorem shown_mapError {α : Type} (report : α → Json) (r : Except Refusal α) :
    shown report (r.mapError Refusal.anonymous) = shown report r := by
  cases r with
  | ok a => rfl
  | error e =>
      simp only [Except.mapError, shown, Refusal.description_anonymous, Refusal.report_anonymous]

/-- A submission is told the same without names. -/
theorem told?_anonymous (p : Progress) : p.anonymous.told? = p.told? := by
  cases p with
  | underway stage => rfl
  | done answer => exact congrArg some (shown_mapError _ answer)

/-- Two services that can not be told from a third one can not be told
apart. -/
theorem Indistinguishable.of_common {rules rules' common : Rules}
    (h : Indistinguishable common rules) (h' : Indistinguishable common rules') :
    Indistinguishable rules rules' where
  conversations := fun o s calls =>
    (h.conversations o s calls).symm.trans (h'.conversations o s calls)
  submissions := fun s sub m =>
    ⟨(h.submissions s sub m).1.symm.trans (h'.submissions s sub m).1,
      (h.submissions s sub m).2.symm.trans (h'.submissions s sub m).2⟩
  previews := fun s t now => (h.previews s t now).symm.trans (h'.previews s t now)
  code := fun s id =>
    ⟨(h.code s id).1.symm.trans (h'.code s id).1,
      (h.code s id).2.1.symm.trans (h'.code s id).2.1,
      (h.code s id).2.2.symm.trans (h'.code s id).2.2⟩
  runs := fun events =>
    ⟨(h.runs events).1.symm.trans (h'.runs events).1,
      (h.runs events).2.symm.trans (h'.runs events).2⟩

/-- The service without names can not be told from the service. -/
theorem indistinguishable_anonymous (rules : Rules) : Indistinguishable rules.anonymous rules where
  conversations := fun o s calls => Http.converse_anonymous rules o s calls
  submissions := by
    intro s sub m
    rw [submit_anonymous, shown_mapError]
    exact ⟨rfl, rfl⟩
  previews := by
    intro s t now
    rw [preview_anonymous]
    cases rules.preview s t now with
    | error e => rfl
    | ok v => exact congrArg Except.ok v.report_anonymous
  code := fun s id => ⟨rfl, rfl, rfl⟩
  runs := by
    intro events
    rw [run_anonymous]
    refine ⟨rfl, ?_⟩
    simp only [World.anonymous, List.map_map, Function.comp_def, told?_anonymous]

/-- **Names stay inside.** Services that differ in nothing but the names of
their fingerprints can not be told apart. -/
theorem names_stay_inside (rules : Rules) {fs gs : List Fingerprint}
    (h : Fingerprint.SameButNames fs gs) :
    Indistinguishable (rules.knowing fs) (rules.knowing gs) := by
  have hcommon := indistinguishable_anonymous (rules.knowing gs)
  rw [← anonymous_knowing rules h] at hcommon
  exact (indistinguishable_anonymous (rules.knowing fs)).of_common hcommon

/-- A fingerprint that nobody may publish and that has this name. -/
def namedFingerprint (name : Text) : Fingerprint := ⟨name, .char (.single 'n'), []⟩

/-- A script with a body that matches it. -/
def namedRequest : Request :=
  ⟨sampleCode ['1'] ++ ['n', ';'], 1, .userScript, none, {}⟩

/-- The two verdicts on it are different, because the failures carry the
names. -/
theorem names_stay_inside_named :
    Fingerprint.SameButNames [namedFingerprint ['a']] [namedFingerprint ['b']] ∧
    ((sampleRules.knowing [namedFingerprint ['a']]).review none namedRequest
      (.ofSeconds 0)).failures = [.disallowedSignature ['a']] ∧
    ((sampleRules.knowing [namedFingerprint ['b']]).review none namedRequest
      (.ofSeconds 0)).failures = [.disallowedSignature ['b']] ∧
    Indistinguishable (sampleRules.knowing [namedFingerprint ['a']])
      (sampleRules.knowing [namedFingerprint ['b']]) := by
  have hsame : Fingerprint.SameButNames [namedFingerprint ['a']] [namedFingerprint ['b']] :=
    .cons ⟨rfl, rfl⟩ .nil
  exact ⟨hsame, by decide +kernel, by decide +kernel, names_stay_inside sampleRules hsame⟩

end ScriptGate.Service
