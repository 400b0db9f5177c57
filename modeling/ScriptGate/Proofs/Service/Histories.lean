import Mathlib.Data.List.Nodup
import ScriptGate.Proofs.Review.Ruling
import ScriptGate.Proofs.Service.World

/-!
# `ScriptGate.Proofs.Service.Histories`: what successive revisions have in common

A submission is reviewed against a snapshot, and other submissions may
commit before it does. `successive_revisions_follow` says that every
history is in order all the same. A revision has a newer version than the
one before it, unless its own submission asked to keep the version. It
has a namespace, and that of the one before it, unless its own submission
asked to change the namespace.

The invariant is `Coherent`. A snapshot names a revision that is in the
history of its script, with the version and the namespace of that
revision. A commit succeeds only if this is the last one, because no two
revisions share an identifier. So the review that looked at the snapshot
has in fact looked at the revision that the new one follows, and
`settled_of_accepted` says what such a review settles.

Steps that commit nothing keep the invariant by `Coherent.progress`, and
the step that commits by `coherent_commit`.
-/

set_option autoImplicit false

namespace ScriptGate.Service

open Review (Options Verdict)
open Store (CodeId Commit Record Registry Revision)
open Store.Registry (Extends Reflects Sound extends_of_commit scriptOf sound_commit)

/-! ### Who made a revision -/

/-- The revision that a submission has committed, if it has come so
far. -/
def Progress.revision? : Progress → Option Revision
  | .underway (.committed _ _ revision) => some revision
  | .done (.ok receipt) => some receipt.revision
  | _ => none

/-- The submission at place `i` has committed the revision `v`. -/
def Produces (calls : List Call) (i : Nat) (v : Revision) : Prop :=
  ∃ call, calls[i]? = some call ∧ call.progress.revision? = some v

/-- What a submission with the options `o` may make of the revision `u`. -/
structure Follows (o : Options) (u v : Revision) : Prop where
  /-- The version is newer, unless it is to be kept. -/
  version : Version.isNewer v.version u.version = true ∨ o.keepVersion = true
  /-- There is a namespace. -/
  named : v.namespaceName.isSome = true
  /-- It is the same, unless it is to be changed. -/
  namespaceName : v.namespaceName = u.namespaceName ∨ o.changeNamespace = true

/-- Some submission has made `v`, and was allowed to make it of `u`. -/
def Credited (calls : List Call) (u v : Revision) : Prop :=
  ∃ (i : Nat) (call : Call), calls[i]? = some call ∧ call.progress.revision? = some v ∧
    Follows call.submission.request.options u v

section Calls

variable {calls : List Call} {i : Nat} {sub : Submission} {before after : Progress}

/-- When one submission moves on, all others have made what they had
made. -/
theorem produces_set {j : Nat} {v : Revision}
    (h : Produces (calls.set i ⟨sub, after⟩) j v) :
    (j = i ∧ after.revision? = some v) ∨ (j ≠ i ∧ Produces calls j v) := by
  obtain ⟨call, hj, hv⟩ := h
  rcases calls_set_cases hj with ⟨rfl, rfl⟩ | ⟨hne, hj⟩
  · exact Or.inl ⟨rfl, hv⟩
  · exact Or.inr ⟨hne, call, hj, hv⟩

/-- A submission that has arrived just now has made nothing. -/
theorem produces_append {j : Nat} {v : Revision} (hnone : after.revision? = none)
    (h : Produces (calls ++ [⟨sub, after⟩]) j v) : Produces calls j v := by
  obtain ⟨call, hj, hv⟩ := h
  rcases calls_append_cases hj with hj | ⟨-, rfl⟩
  · exact ⟨call, hj, hv⟩
  · cases hnone.symm.trans hv

/-- A submission that goes on keeps the credit for what it has made. -/
theorem Credited.set (hi : calls[i]? = some ⟨sub, before⟩) {u v : Revision}
    (hkeep : ∀ w, before.revision? = some w → after.revision? = some w)
    (h : Credited calls u v) : Credited (calls.set i ⟨sub, after⟩) u v := by
  obtain ⟨j, call, hj, hv, hf⟩ := h
  by_cases hji : j = i
  · subst hji
    cases hi.symm.trans hj
    -- The submission that moves on keeps what it had made.
    exact ⟨j, _, calls_set_self hi, hkeep v hv, hf⟩
  · exact ⟨j, call, calls_set_of_ne hj hji, hv, hf⟩

/-- A submission that begins takes no credit from the others. -/
theorem Credited.append {u v : Revision} (h : Credited calls u v) (call : Call) :
    Credited (calls ++ [call]) u v := by
  obtain ⟨j, c, hj, hv, hf⟩ := h
  exact ⟨j, c, calls_append hj, hv, hf⟩

/-- A submission that arrives has made nothing. -/
theorem revision?_start (s : State) (sub : Submission) :
    (Rules.start s sub).revision? = none := by
  rcases start_cases s sub with ⟨e, he⟩ | ⟨existing, he, -⟩
  · rw [he]
    rfl
  · rw [he]
    rfl

end Calls

/-! ### The invariant -/

/-- The record is that of some moment in the life of its script. The
revision that was the last one then is still in the history. -/
def IsSnapshot (r : Registry) (record : Record) : Prop :=
  ∃ history u, r.history? record.id = some history ∧ u ∈ history ∧
    u.id = record.latestRevision ∧ u.version = record.version ∧
    u.namespaceName = record.namespaceName

/-- What a submission at `stage` has found out. -/
def Stage.Valid (rules : Rules) (sub : Submission) (r : Registry) : Stage → Prop
  | .found existing => ∀ record, existing = some record → IsSnapshot r record
  | .reviewed existing submittedAt v => (∀ record, existing = some record → IsSnapshot r record) ∧
      v = rules.review existing sub.request submittedAt
  | .stored existing submittedAt v _ _ =>
      (∀ record, existing = some record → IsSnapshot r record) ∧
      v = rules.review existing sub.request submittedAt ∧ v.isAccepted = true
  | .committed _ _ _ => True
  | .outrun _ _ _ => True

/-- What holds in every world that can be reached. -/
structure Coherent (rules : Rules) (w : World) : Prop where
  /-- Records reflect their histories. -/
  sound : Sound w.state.registry w.issued
  /-- Every submission that is not over has found out what its stage
  says. -/
  stages : ∀ call ∈ w.calls, ∀ stage, call.progress = .underway stage →
    stage.Valid rules call.submission w.state.registry
  /-- Every revision has a namespace. -/
  named : ∀ id history, w.state.registry.history? id = some history →
    ∀ v ∈ history, v.namespaceName.isSome = true
  /-- The identifier of a revision that was made is in use. -/
  produced : ∀ i v, Produces w.calls i v → v.id ∈ w.issued
  /-- No two submissions made the same revision. -/
  producer : ∀ i j u v, Produces w.calls i u → Produces w.calls j v → u.id = v.id → i = j
  /-- Every revision follows the one before it. -/
  follows : ∀ id history, w.state.registry.history? id = some history → ∀ k u v,
    history[k]? = some u → history[k + 1]? = some v → Credited w.calls u v

/-- In the beginning there are no histories. -/
theorem coherent_initial (rules : Rules) : Coherent rules World.initial where
  sound := Store.Registry.sound_empty
  stages := fun _ h => by cases h
  named := fun _ _ h => by cases h
  produced := fun _ _ ⟨_, h, _⟩ => by cases h
  producer := fun _ _ _ _ ⟨_, h, _⟩ => by cases h
  follows := fun _ _ h => by cases h

/-- A record of the registry is a snapshot. -/
theorem isSnapshot_of_record {r : Registry} {issued : List Uuid} (hs : Sound r issued) {id : Uuid}
    {record : Record} (hr : r.record? id = some record) : IsSnapshot r record := by
  obtain ⟨history, hh, href⟩ := hs.of_record hr
  obtain ⟨v, hv, hid, hversion, hname, -⟩ := href.last
  exact ⟨history, v, by rw [href.script, hh], List.mem_of_getLast? hv, hid.symm, hversion.symm,
    hname.symm⟩

/-- A snapshot stays one, because no revision is ever lost. -/
theorem IsSnapshot.extends {r r' : Registry} {id : Uuid} {record old : Record} {v : Revision}
    (h : IsSnapshot r old) (hx : Extends r r' id record v) : IsSnapshot r' old := by
  obtain ⟨history, u, hh, hu, hrest⟩ := h
  obtain ⟨history', hh', hpre⟩ := hx.history_grows hh
  exact ⟨history', u, hh', hpre.subset hu, hrest⟩

/-- What a submission has found out stays true when another one commits. -/
theorem Stage.Valid.extends {rules : Rules} {sub : Submission} {r r' : Registry} {id : Uuid}
    {record : Record} {v : Revision} {stage : Stage} (h : stage.Valid rules sub r)
    (hx : Extends r r' id record v) : stage.Valid rules sub r' := by
  cases stage with
  | found existing => exact fun old ho => (h old ho).extends hx
  | reviewed existing submittedAt verdict =>
      exact ⟨fun old ho => (h.1 old ho).extends hx, h.2⟩
  | stored existing submittedAt verdict rawCode canonicalCode =>
      exact ⟨fun old ho => (h.1 old ho).extends hx, h.2⟩
  | committed verdict record revision => trivial
  | outrun existing verdict script => trivial

/-! ### Steps -/

/-- A step that commits nothing keeps the invariant. -/
theorem Coherent.progress {rules : Rules} {w : World} (h : Coherent rules w) {i : Nat}
    {sub : Submission} {before after : Progress} {state : State}
    (hi : w.calls[i]? = some ⟨sub, before⟩) (hstate : state.registry = w.state.registry)
    (hsame : after.revision? = before.revision?)
    (hvalid : ∀ stage, after = .underway stage → stage.Valid rules sub w.state.registry)
    (taken : List Uuid) :
    Coherent rules ⟨state, w.calls.set i ⟨sub, after⟩, w.issued ++ taken⟩ := by
  -- What the calls have made is what they had made.
  have key : ∀ j v, Produces (w.calls.set i ⟨sub, after⟩) j v → Produces w.calls j v := by
    intro j v hp
    rcases produces_set hp with ⟨rfl, hv⟩ | ⟨-, hp⟩
    · exact ⟨_, hi, by rw [← hsame, hv]⟩
    · exact hp
  constructor
  case sound =>
    show Sound state.registry (w.issued ++ taken)
    rw [hstate]
    exact h.sound.mono (List.subset_append_left _ _)
  case stages =>
    show ∀ call ∈ w.calls.set i ⟨sub, after⟩, ∀ stage, call.progress = .underway stage →
      stage.Valid rules call.submission state.registry
    rw [hstate]
    intro call hcall stage hstage
    rcases List.mem_or_eq_of_mem_set hcall with hcall | rfl
    · exact h.stages call hcall stage hstage
    · exact hvalid stage hstage
  case named =>
    show ∀ id history, state.registry.history? id = some history → _
    rw [hstate]
    exact h.named
  case produced =>
    exact fun j v hp => List.mem_append_left _ (h.produced j v (key j v hp))
  case producer =>
    exact fun j k u v hu hv => h.producer j k u v (key j u hu) (key k v hv)
  case follows =>
    show ∀ id history, state.registry.history? id = some history → _
    rw [hstate]
    intro id history hh k u v hu hv
    exact (h.follows id history hh k u v hu hv).set hi fun w hw => by rw [hsame, hw]

/-- A submission that arrives keeps the invariant. -/
theorem Coherent.submit {rules : Rules} {w : World} (h : Coherent rules w) (sub : Submission) :
    Coherent rules (w.step rules (.submit sub)) := by
  have hnone := revision?_start w.state sub
  constructor
  case sound => exact h.sound
  case stages =>
    intro call hcall stage hstage
    rcases underway_submit_cases hcall hstage with hcall | ⟨-, existing, rfl, hrecord⟩
    · exact h.stages call hcall stage hstage
    · intro record hr
      obtain ⟨id, -, hid⟩ := hrecord record hr
      exact isSnapshot_of_record h.sound hid
  case named => exact h.named
  case produced => exact fun j v hp => h.produced j v (produces_append hnone hp)
  case producer =>
    exact fun j k u v hu hv =>
      h.producer j k u v (produces_append hnone hu) (produces_append hnone hv)
  case follows =>
    exact fun id history hh k u v hu hv => (h.follows id history hh k u v hu hv).append _

section Commits

variable {rules : Rules} {w : World} {sub : Submission} {m : Moment} {existing : Option Record}
  {submittedAt : Instant} {verdict : Verdict} {rawCode canonicalCode : CodeId} {c : Commit}
  {registry : Registry} {record : Record} {revision : Revision}

/-- What a committed revision has of the review that accepted it. -/
theorem settled_of_commit
    (hvalid : (Stage.stored existing submittedAt verdict rawCode canonicalCode).Valid rules sub
      w.state.registry)
    (hc : commitFor existing sub.request verdict submittedAt rawCode canonicalCode = .ok c)
    (hr : w.state.registry.commit c m.freshScript m.freshRevision
      = .ok (registry, record, revision)) :
    revision.namespaceName.isSome = true ∧
      ∀ old, existing = some old →
        (Version.isNewer revision.version old.version = true ∨
          sub.request.options.keepVersion = true) ∧
        ∀ name, old.namespaceName = some name →
          revision.namespaceName = some name ∨ sub.request.options.changeNamespace = true := by
  obtain ⟨-, rfl, haccepted⟩ := hvalid
  obtain ⟨version, name, hversion, hname, hfollows⟩ := Review.settled_of_accepted haccepted
  obtain ⟨_, _, version', -, -, hversion', rfl⟩ := commitFor_eq_ok hc
  obtain ⟨rfl, -⟩ := extends_of_commit hr
  rw [show (rules.review existing sub.request submittedAt).version = some version from hversion,
    Option.some.injEq] at hversion'
  subst hversion'
  have hname' : (rules.review existing sub.request submittedAt).namespaceName = some name := hname
  refine ⟨?_, ?_⟩
  · show (rules.review existing sub.request submittedAt).namespaceName.isSome = true
    rw [hname', Option.isSome_some]
  · intro old hold
    -- The review was told of the version and the namespace of the snapshot.
    obtain ⟨hnewer, hsame⟩ := hfollows old.previous (by rw [hold, Option.map_some])
    refine ⟨hnewer, fun before hbefore => ?_⟩
    show (rules.review existing sub.request submittedAt).namespaceName = some before ∨ _
    rw [hname', Option.some.injEq]
    exact hsame before hbefore

/-- A commit that continues a script has a snapshot of it. The revision
that the snapshot names is the last one. -/
theorem snapshot_last (h : Coherent rules w)
    (hc : commitFor existing sub.request verdict submittedAt rawCode canonicalCode = .ok c)
    (hr : w.state.registry.commit c m.freshScript m.freshRevision
      = .ok (registry, record, revision))
    {id : Uuid} (hid : c.script = some id) {history : List Revision}
    (hh : w.state.registry.history? id = some history) {u : Revision}
    (hu : history.getLast? = some u) :
    ∃ old, existing = some old ∧ old.id = id ∧
      ∀ v ∈ history, v.id = old.latestRevision → v = u := by
  rcases Store.Registry.commit_cases hr with ⟨hnone, -⟩ | ⟨id', now, hid', hnow, hexp, -⟩
  · rw [hid] at hnone
    cases hnone
  rw [hid, Option.some.injEq] at hid'
  subst hid'
  obtain ⟨_, _, _, -, -, -, rfl⟩ := commitFor_eq_ok hc
  cases existing with
  | none => cases hid
  | some old =>
      obtain rfl : old.id = id := Option.some.inj hid
      have hlatest : old.latestRevision = now.latestRevision := Option.some.inj hexp
      refine ⟨old, rfl, rfl, fun v hv hvid => ?_⟩
      -- The record of the script names the last revision, and so does the snapshot.
      obtain ⟨history', hh', href⟩ := h.sound.of_record hnow
      rw [hh, Option.some.injEq] at hh'
      subst hh'
      obtain ⟨last, hlast, hlastid, -⟩ := href.last
      rw [hu, Option.some.injEq] at hlast
      subst hlast
      have hsame : v.id = u.id := by rw [hvid, hlatest, hlastid]
      -- No two revisions of a script share an identifier.
      exact List.inj_on_of_nodup_map (h.sound.distinct _ _ hh) hv (List.mem_of_getLast? hu) hsame

/-- So its review has compared with the last revision. -/
theorem reviewed_last (h : Coherent rules w)
    (hvalid : (Stage.stored existing submittedAt verdict rawCode canonicalCode).Valid rules sub
      w.state.registry)
    (hc : commitFor existing sub.request verdict submittedAt rawCode canonicalCode = .ok c)
    (hr : w.state.registry.commit c m.freshScript m.freshRevision
      = .ok (registry, record, revision))
    {id : Uuid} (hid : c.script = some id) {history : List Revision}
    (hh : w.state.registry.history? id = some history) {u : Revision}
    (hu : history.getLast? = some u) :
    ∃ old, existing = some old ∧ old.version = u.version ∧
      old.namespaceName = u.namespaceName := by
  obtain ⟨old, rfl, rfl, hlast⟩ := snapshot_last h hc hr hid hh hu
  obtain ⟨history', v, hh', hv, hvid, hversion, hname⟩ := hvalid.1 old rfl
  rw [hh, Option.some.injEq] at hh'
  subst hh'
  obtain rfl := hlast v hv hvid
  exact ⟨old, rfl, hversion.symm, hname.symm⟩

/-- A committed revision follows the last one of its script. -/
theorem follows_last (h : Coherent rules w)
    (hvalid : (Stage.stored existing submittedAt verdict rawCode canonicalCode).Valid rules sub
      w.state.registry)
    (hc : commitFor existing sub.request verdict submittedAt rawCode canonicalCode = .ok c)
    (hr : w.state.registry.commit c m.freshScript m.freshRevision
      = .ok (registry, record, revision))
    {id : Uuid} (hid : c.script = some id) {history : List Revision}
    (hh : w.state.registry.history? id = some history) {u : Revision}
    (hu : history.getLast? = some u) : Follows sub.request.options u revision := by
  obtain ⟨old, hold, hversion, hname⟩ := reviewed_last h hvalid hc hr hid hh hu
  obtain ⟨hnamed, hsettled⟩ := settled_of_commit hvalid hc hr
  obtain ⟨hnewer, hsame⟩ := hsettled old hold
  -- The last revision has a namespace, so the review compared with it.
  have hbefore := h.named id history hh u (List.mem_of_getLast? hu)
  obtain ⟨name, hu⟩ := Option.isSome_iff_exists.mp hbefore
  refine ⟨by rw [← hversion]; exact hnewer, hnamed, ?_⟩
  rw [hu]
  exact hsame name (by rw [hname, hu])

/-- Two successive revisions of a history with one more revision are
successive before that, or are its last revision and the new one. -/
theorem successive_append_singleton {history : List Revision} {k : Nat} {u v x : Revision}
    (hu : (history ++ [x])[k]? = some u) (hv : (history ++ [x])[k + 1]? = some v) :
    (history[k]? = some u ∧ history[k + 1]? = some v) ∨ (history.getLast? = some u ∧ v = x) := by
  have hlt : k + 1 < (history ++ [x]).length := (List.getElem?_eq_some_iff.mp hv).1
  rw [List.length_append, List.length_singleton] at hlt
  rw [List.getElem?_append_left (by omega)] at hu
  by_cases hlast : k + 1 < history.length
  · rw [List.getElem?_append_left hlast] at hv
    exact Or.inl ⟨hu, hv⟩
  · have hk : k = history.length - 1 := by omega
    rw [List.getElem?_append_right (by omega)] at hv
    refine Or.inr ⟨?_, List.mem_singleton.mp (List.mem_of_getElem? hv)⟩
    rw [List.getLast?_eq_getElem?, ← hk, hu]

/-- The step that commits keeps the invariant. -/
theorem coherent_commit (h : Coherent rules w) {i : Nat}
    (hi : w.calls[i]? = some
      ⟨sub, .underway (.stored existing submittedAt verdict rawCode canonicalCode)⟩)
    (hc : commitFor existing sub.request verdict submittedAt rawCode canonicalCode = .ok c)
    (hr : w.state.registry.commit c m.freshScript m.freshRevision
      = .ok (registry, record, revision))
    (hfresh : (w.issued ++ w.state.registry.taken c m.freshScript m.freshRevision).Nodup) :
    Coherent rules
      ⟨{ w.state with registry },
        w.calls.set i ⟨sub, .underway (.committed verdict record revision)⟩,
        w.issued ++ w.state.registry.taken c m.freshScript m.freshRevision⟩ := by
  have hvalid := h.stages _ (List.mem_of_getElem? hi) _ rfl
  obtain ⟨hrevision, hx⟩ := extends_of_commit hr
  have htaken : revision.id ∈ w.state.registry.taken c m.freshScript m.freshRevision := by
    rw [hrevision]
    cases hs : c.script with
    | none =>
        rw [Store.Registry.taken_of_new hr hs]
        exact List.mem_cons_of_mem _ (List.mem_singleton_self _)
    | some id =>
        rw [Store.Registry.taken_of_old hr hs]
        exact List.mem_singleton_self _
  -- No submission has made a revision with the new identifier before.
  have hnew : ∀ j v, Produces w.calls j v → v.id ≠ revision.id := by
    intro j v hp heq
    exact (List.nodup_append.mp hfresh).2.2 _ (h.produced j v hp) _ htaken heq
  constructor
  case sound => exact sound_commit h.sound hr hfresh
  case stages =>
    intro call hcall stage hstage
    rcases List.mem_or_eq_of_mem_set hcall with hcall | rfl
    · exact (h.stages call hcall stage hstage).extends hx
    · cases hstage
      trivial
  case named =>
    intro id history hh v hv
    rcases hx.revision_cases hh hv with ⟨earlier, hearlier, hv⟩ | rfl
    · exact h.named id earlier hearlier v hv
    · exact (settled_of_commit hvalid hc hr).1
  case produced =>
    intro j v hp
    rcases produces_set hp with ⟨-, hv⟩ | ⟨-, hold⟩
    · cases hv
      exact List.mem_append_right _ htaken
    · exact List.mem_append_left _ (h.produced j v hold)
  case producer =>
    intro j k u v hu hv heq
    rcases produces_set hu with ⟨hj, hnow⟩ | ⟨-, hold⟩
    · obtain rfl : revision = u := Option.some.inj hnow
      -- `u` is the new revision.
      rcases produces_set hv with ⟨hk, -⟩ | ⟨-, hold⟩
      · rw [hj, hk]
      · exact absurd heq.symm (hnew k v hold)
    · -- `u` was made before.
      rcases produces_set hv with ⟨-, hnow⟩ | ⟨-, hold'⟩
      · obtain rfl : revision = v := Option.some.inj hnow
        exact absurd heq (hnew j u hold)
      · exact h.producer j k u v hold hold' heq
  case follows =>
    intro id history hh k u v hu hv
    rcases hx.history_cases hh with hold | ⟨-, rfl⟩
    · exact (h.follows id history hold k u v hu hv).set hi fun _ hw => by cases hw
    · -- Both are earlier revisions, or `v` is the new one.
      rcases successive_append_singleton hu hv with ⟨hu', hv'⟩ | ⟨hlast, rfl⟩
      · cases hold : w.state.registry.history? (scriptOf c m.freshScript) with
        | none =>
            rw [hold] at hu'
            cases hu'
        | some earlier =>
            rw [hold] at hu' hv'
            exact (h.follows _ earlier hold k u v hu' hv').set hi fun _ hw => by cases hw
      · refine ⟨i, ⟨sub, .underway (.committed verdict record v)⟩, ?_, rfl, ?_⟩
        · exact calls_set_self hi
        · cases hs : c.script with
          | none =>
              -- The history of a new script is empty until now.
              rw [scriptOf, hs, Option.getD_none, h.sound.history?_fresh hr hfresh hs] at hlast
              cases hlast
          | some id =>
              rw [scriptOf, hs, Option.getD_some] at hlast
              cases hold : w.state.registry.history? id with
              | none =>
                  rw [hold] at hlast
                  cases hlast
              | some earlier =>
                  rw [hold] at hlast
                  exact follows_last h hvalid hc hr hs hold hlast

end Commits

/-- Every step keeps the invariant, if its identifiers are new. -/
theorem coherent_move {rules : Rules} {w : World} (h : Coherent rules w) {i : Nat}
    {sub : Submission} {stage : Stage} (hi : w.calls[i]? = some ⟨sub, .underway stage⟩)
    {m : Moment} {state : State} {progress : Progress}
    (hmove : Move rules sub m w.state stage state progress)
    (hfresh : (w.issued ++ stage.taken sub m w.state).Nodup) :
    Coherent rules ⟨state, w.calls.set i ⟨sub, progress⟩,
      w.issued ++ stage.taken sub m w.state⟩ := by
  have hvalid := h.stages _ (List.mem_of_getElem? hi) stage rfl
  cases hmove with
  | review existing =>
      refine h.progress hi (by rfl) (by rfl) ?_ _
      rintro _ ⟨⟩
      exact ⟨hvalid, rfl⟩
  | refuse | closed | unresolved | vanish | accept | concede =>
      exact h.progress hi (by rfl) (by rfl) (fun _ hs => by cases hs) _
  | store existing submittedAt v hv hw =>
      refine h.progress hi (by rfl) (by rfl) ?_ _
      rintro _ ⟨⟩
      exact ⟨hvalid.1, hvalid.2, hv⟩
  | lose =>
      refine h.progress hi (by rfl) (by rfl) ?_ _
      rintro _ ⟨⟩
      trivial
  | commit existing submittedAt v rawCode canonicalCode c registry record revision hc hr =>
      have htaken : (Stage.stored existing submittedAt v rawCode canonicalCode).taken sub m w.state
          = w.state.registry.taken c m.freshScript m.freshRevision := by
        simp only [Stage.taken, hc]
      rw [htaken] at hfresh ⊢
      exact coherent_commit h hi hc hr hfresh

/-- Whatever happens next keeps the world coherent, as long as its
identifiers are new. -/
theorem coherent_step {rules : Rules} {w : World} (h : Coherent rules w) (e : Event)
    (hfresh : (w.step rules e).issued.Nodup) : Coherent rules (w.step rules e) := by
  cases e with
  | submit sub => exact h.submit sub
  | advance i m =>
      rcases World.step_advance rules w i m with hsame | ⟨sub, stage, hi, hstep⟩
      · rw [hsame]
        exact h
      · rw [hstep] at hfresh ⊢
        exact coherent_move h hi (move_advance rules sub m w.state stage) hfresh

/-- Every world that can be reached with distinct identifiers is coherent. -/
theorem coherent_run (rules : Rules) (events : List Event)
    (hfresh : (World.run rules events).issued.Nodup) : Coherent rules (World.run rules events) :=
  World.run_induction (coherent_initial rules) (fun _ e h => coherent_step h e) events hfresh

/-- **Histories are in order.** Whatever submissions arrive, and however
their steps alternate, as long as the identifiers in use are pairwise
distinct. Of two successive revisions of a script, the later one was made
by exactly one submission, and it follows the earlier one as far as that
submission did not ask otherwise. -/
theorem successive_revisions_follow (rules : Rules) (events : List Event)
    (hfresh : (World.run rules events).issued.Nodup) {id : Uuid} {history : List Revision}
    (hh : (World.run rules events).state.registry.history? id = some history) {k : Nat}
    {u v : Revision} (hu : history[k]? = some u) (hv : history[k + 1]? = some v) :
    ∃ (i : Nat) (call : Call), (World.run rules events).calls[i]? = some call ∧
      call.progress.revision? = some v ∧
      (∀ j, Produces (World.run rules events).calls j v → j = i) ∧
      Follows call.submission.request.options u v := by
  have h := coherent_run rules events hfresh
  obtain ⟨i, call, hi, hrev, hf⟩ := h.follows id history hh k u v hu hv
  refine ⟨i, call, hi, hrev, fun j hj => ?_, hf⟩
  exact h.producer j i v v hj ⟨call, hi, hrev⟩ rfl

/-! ### A race -/

/-- Rules with the standard policy, no fingerprints and a grammar check
that takes everything. -/
def sampleRules : Rules where
  policy := .standard
  checks := ⟨fun _ => none, fun _ => none, fun _ => false⟩

/-- A small script that declares `version`. -/
def sampleCode (version : Text) : Text :=
  "// ==UserScript==\n// @name n\n// @description d\n// @namespace s\n// @version ".toList ++
    version ++ "\n// ==/UserScript==\n".toList

/-- A revision that declares `version`, with the wish to correct it. -/
def sampleSubmission (script : Option Uuid) (version : Text) : Submission where
  script := script
  request := ⟨sampleCode version, 1, .userScript, none, { lenient := true }⟩

/-- The second `n`, with three identifiers of its own. -/
def sampleMoment (n : Nat) : Moment :=
  ⟨.ofSeconds n, ⟨BitVec.ofNat 128 (3 * n)⟩, ⟨BitVec.ofNat 128 (3 * n + 1)⟩,
    ⟨BitVec.ofNat 128 (3 * n + 2)⟩⟩

/-- A new script, and two revisions that are both reviewed against its
first one. -/
def sampleRace : List Event :=
  [.submit (sampleSubmission none ['1']), .advance 0 (sampleMoment 1),
    .advance 0 (sampleMoment 2), .advance 0 (sampleMoment 3), .advance 0 (sampleMoment 4),
    .submit (sampleSubmission (some ⟨9⟩) ['1']), .submit (sampleSubmission (some ⟨9⟩) ['2']),
    .advance 1 (sampleMoment 5), .advance 2 (sampleMoment 6), .advance 1 (sampleMoment 7),
    .advance 2 (sampleMoment 8), .advance 1 (sampleMoment 9), .advance 2 (sampleMoment 10)]

/-- The faster one declares the version that the script has, and gets a
newer one. The slower one leaves no revision. -/
theorem successive_revisions_follow_race :
    (World.run sampleRules sampleRace).issued.Nodup ∧
    ∃ history u v, (World.run sampleRules sampleRace).state.registry.history? ⟨9⟩ = some history ∧
      history = [u, v] ∧ u.version = ['1'] ∧ v.version = ['1', '.', '0', '.', '0', '.', '1'] ∧
      ∃ (i : Nat) (call : Call), (World.run sampleRules sampleRace).calls[i]? = some call ∧
        call.progress.revision? = some v ∧
        (∀ j, Produces (World.run sampleRules sampleRace).calls j v → j = i) ∧
        Follows call.submission.request.options u v := by
  have hfresh : (World.run sampleRules sampleRace).issued.Nodup := by decide +kernel
  have hversions :
      ((World.run sampleRules sampleRace).state.registry.history? ⟨9⟩).map
        (List.map Revision.version) = some [['1'], ['1', '.', '0', '.', '0', '.', '1']] := by
    decide +kernel
  obtain ⟨history, hh, hmap⟩ := Option.map_eq_some_iff.mp hversions
  obtain ⟨u, rest, rfl, hu, hrest⟩ := List.map_eq_cons_iff.mp hmap
  obtain ⟨v, rest, rfl, hv, hnil⟩ := List.map_eq_cons_iff.mp hrest
  obtain rfl : rest = [] := List.map_eq_nil_iff.mp hnil
  exact ⟨hfresh, [u, v], u, v, hh, rfl, hu, hv,
    successive_revisions_follow sampleRules sampleRace hfresh hh
      (show [u, v][0]? = some u from rfl) (show [u, v][0 + 1]? = some v from rfl)⟩

end ScriptGate.Service
