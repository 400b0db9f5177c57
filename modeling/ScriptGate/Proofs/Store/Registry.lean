import ScriptGate.Proofs.Keyed
import ScriptGate.Store.Registry
import Mathlib.Data.List.Induction

/-!
# `ScriptGate.Proofs.Store.Registry`: commits lose nothing

A run of commits starts from the empty registry. Each commit of the run
succeeds or fails on what the earlier ones left. `Ledger` is the
registry after a run, together with the identifiers that the run took
into use: a successful commit takes one for its revision, and one more
when it makes a script.

`commit_cases` says everything that a successful commit does, and all
other facts here come from it. `Sound` is the invariant of a run: every
record reflects its history (`Reflects`), and the identifiers of scripts
and revisions are among those in use, the revisions of a script being
distinct. `sound_commit` keeps it through one commit, as long as the
identifiers that the commit takes are new, and `sound_run` through a
run.

`Current` is the part of it that no identifiers can break: every record
tells of the last revision of its script.

`commits_lose_nothing` is the main fact, for every run whose identifiers
are pairwise distinct. Its last part is why no accepted revision is
lost: after a commit against the revision `v`, the history of the script
goes on after `v`, so `v` is never again the latest, and no second
commit against it succeeds.
-/

set_option autoImplicit false

namespace ScriptGate

namespace Store

/-! ### One commit -/

namespace Registry

/-- What `append` leaves under a script: the new record there, and the
old one everywhere else. -/
theorem record?_append (r : Registry) (script id : Uuid) (record : Record)
    (revision : Revision) :
    (r.append script record revision).record? id
      = if script = id then some record else r.record? id :=
  Keyed.get?_put _ _ _ _

/-- The history of the script gets one revision longer. The other histories
stay. -/
theorem history?_append (r : Registry) (script id : Uuid) (record : Record)
    (revision : Revision) :
    (r.append script record revision).history? id
      = if script = id then some ((r.history? script).getD [] ++ [revision])
        else r.history? id :=
  Keyed.get?_put _ _ _ _

/-- A commit that succeeds makes a new script, or continues a script
whose latest revision is the expected one. Either way it appends one
revision. -/
theorem commit_cases {r r' : Registry} {c : Commit} {freshScript freshRevision : Uuid}
    {record : Record} {revision : Revision}
    (h : r.commit c freshScript freshRevision = .ok (r', record, revision)) :
    (c.script = none ∧ record = newRecord c freshScript freshRevision ∧
      revision = revisionOf c freshScript freshRevision ∧
      r' = r.append freshScript record revision) ∨
    ∃ id old, c.script = some id ∧ r.record? id = some old ∧
      c.expected = some old.latestRevision ∧ record = updatedRecord old c freshRevision ∧
      revision = revisionOf c id freshRevision ∧ r' = r.append id record revision := by
  unfold commit base? at h
  cases hs : c.script with
  | none =>
      rw [hs] at h
      have hok : (r.append freshScript (newRecord c freshScript freshRevision)
          (revisionOf c freshScript freshRevision), newRecord c freshScript freshRevision,
          revisionOf c freshScript freshRevision) = (r', record, revision) := Except.ok.inj h
      simp only [Prod.mk.injEq] at hok
      obtain ⟨rfl, rfl, rfl⟩ := hok
      exact Or.inl ⟨rfl, rfl, rfl, rfl⟩
  | some id =>
      rw [hs] at h
      cases hr : r.record? id with
      | none =>
          simp only [hr] at h
          cases h
      | some old =>
          simp only [hr] at h
          -- A commit against any other revision than the latest one fails.
          by_cases he : some old.latestRevision = c.expected
          · rw [if_pos he] at h
            have hok : (r.append id (updatedRecord old c freshRevision)
                (revisionOf c id freshRevision), updatedRecord old c freshRevision,
                revisionOf c id freshRevision) = (r', record, revision) := Except.ok.inj h
            simp only [Prod.mk.injEq] at hok
            obtain ⟨rfl, rfl, rfl⟩ := hok
            exact Or.inr ⟨id, old, rfl, hr, he.symm, rfl, rfl, rfl⟩
          · rw [if_neg he] at h
            cases h

/-- The script of a commit, old or new. -/
def scriptOf (c : Commit) (freshScript : Uuid) : Uuid := c.script.getD freshScript

/-- What a successful commit does to the registry as a whole. -/
structure Extends (r r' : Registry) (id : Uuid) (record : Record) (revision : Revision) :
    Prop where
  /-- The script has the new record. -/
  record : r'.record? id = some record
  /-- Its history has the new revision after all its earlier ones. -/
  history : r'.history? id = some ((r.history? id).getD [] ++ [revision])
  /-- Every other script stays as it is. -/
  others : ∀ other, other ≠ id →
    r'.record? other = r.record? other ∧ r'.history? other = r.history? other

/-- Appending a revision is all that a successful commit does. -/
theorem extends_append (r : Registry) (id : Uuid) (record : Record) (revision : Revision) :
    Extends r (r.append id record revision) id record revision where
  record := by rw [record?_append, if_pos rfl]
  history := by rw [history?_append, if_pos rfl]
  others := fun other hne => by
    rw [record?_append, history?_append, if_neg (Ne.symm hne), if_neg (Ne.symm hne)]
    exact ⟨rfl, rfl⟩

/-- A successful commit appends its revision to the history of its
script and changes no other script. -/
theorem extends_of_commit {r r' : Registry} {c : Commit} {freshScript freshRevision : Uuid}
    {record : Record} {revision : Revision}
    (h : r.commit c freshScript freshRevision = .ok (r', record, revision)) :
    revision = revisionOf c (scriptOf c freshScript) freshRevision ∧
      Extends r r' (scriptOf c freshScript) record revision := by
  rcases commit_cases h with ⟨hs, -, hv, rfl⟩ | ⟨id, old, hs, -, -, -, hv, rfl⟩
  · rw [scriptOf, hs, Option.getD_none]
    exact ⟨hv, extends_append _ _ _ _⟩
  · rw [scriptOf, hs, Option.getD_some]
    exact ⟨hv, extends_append _ _ _ _⟩

/-- Histories only grow. -/
theorem Extends.history_grows {r r' : Registry} {script id : Uuid} {record : Record}
    {revision : Revision} (h : Extends r r' script record revision) {history : List Revision}
    (hh : r.history? id = some history) :
    ∃ history', r'.history? id = some history' ∧ history <+: history' := by
  by_cases hid : id = script
  · subst hid
    exact ⟨_, h.history, by rw [hh, Option.getD_some]; exact List.prefix_append _ _⟩
  · exact ⟨history, by rw [(h.others id hid).2, hh], List.prefix_refl _⟩

/-- Every history after a commit is an old one, or that of the script with
one more revision. -/
theorem Extends.history_cases {r r' : Registry} {script id : Uuid} {record : Record}
    {revision : Revision} (h : Extends r r' script record revision) {history : List Revision}
    (hh : r'.history? id = some history) :
    r.history? id = some history ∨
      id = script ∧ history = (r.history? script).getD [] ++ [revision] := by
  by_cases hid : id = script
  · subst hid
    rw [h.history, Option.some.injEq] at hh
    exact Or.inr ⟨rfl, hh.symm⟩
  · rw [(h.others id hid).2] at hh
    exact Or.inl hh

/-- Every revision after a commit was in a history before, or is the new
one. -/
theorem Extends.revision_cases {r r' : Registry} {script id : Uuid} {record : Record}
    {revision : Revision} (h : Extends r r' script record revision) {history : List Revision}
    (hh : r'.history? id = some history) {v : Revision} (hv : v ∈ history) :
    (∃ earlier, r.history? id = some earlier ∧ v ∈ earlier) ∨ v = revision := by
  rcases h.history_cases hh with hh | ⟨rfl, rfl⟩
  · exact Or.inl ⟨history, hh, hv⟩
  · rcases List.mem_append.mp hv with hv | hv
    · -- An earlier revision of the script, which was known then.
      cases hearlier : r.history? id with
      | none =>
          rw [hearlier] at hv
          cases hv
      | some earlier =>
          rw [hearlier] at hv
          exact Or.inl ⟨earlier, rfl, hv⟩
    · exact Or.inr (List.mem_singleton.mp hv)

/-- The identifiers that a commit takes into use: none when it fails. -/
def taken (r : Registry) (c : Commit) (freshScript freshRevision : Uuid) : List Uuid :=
  match r.commit c freshScript freshRevision with
  | .error _ => []
  | .ok _ => if c.script.isNone then [freshScript, freshRevision] else [freshRevision]

/-- A commit that makes a script takes an identifier for it and one for the
revision. -/
theorem taken_of_new {r r' : Registry} {c : Commit} {freshScript freshRevision : Uuid}
    {record : Record} {revision : Revision}
    (h : r.commit c freshScript freshRevision = .ok (r', record, revision))
    (hs : c.script = none) :
    r.taken c freshScript freshRevision = [freshScript, freshRevision] := by
  rw [taken, h, hs]
  rfl

/-- A commit that continues a script takes one identifier. -/
theorem taken_of_old {r r' : Registry} {c : Commit} {id freshScript freshRevision : Uuid}
    {record : Record} {revision : Revision}
    (h : r.commit c freshScript freshRevision = .ok (r', record, revision))
    (hs : c.script = some id) : r.taken c freshScript freshRevision = [freshRevision] := by
  rw [taken, h, hs]
  rfl

/-! ### The invariant -/

/-- A record says what its history says. -/
structure Reflects (id : Uuid) (record : Record) (history : List Revision) : Prop where
  /-- The record is that of the script. -/
  script : record.id = id
  /-- So is every revision. -/
  owned : ∀ v ∈ history, v.script = id
  /-- The script is as old as its first revision. -/
  first : ∃ v, history.head? = some v ∧ record.createdAt = v.acceptedAt
  /-- All else is as in its last revision. -/
  last : ∃ v, history.getLast? = some v ∧ record.latestRevision = v.id ∧
    record.version = v.version ∧ record.namespaceName = v.namespaceName ∧
    record.updatedAt = v.acceptedAt

/-- A registry whose records reflect their histories, where `issued` are
the identifiers in use. -/
structure Sound (r : Registry) (issued : List Uuid) : Prop where
  /-- A script has both a record and a history, which agree, or
  neither. -/
  reflects : ∀ id, (r.record? id = none ∧ r.history? id = none) ∨
    ∃ record history, r.record? id = some record ∧ r.history? id = some history ∧
      Reflects id record history
  /-- The identifiers of scripts are in use. -/
  scripts : ∀ id history, r.history? id = some history → id ∈ issued
  /-- The identifiers of revisions are in use. -/
  revisions : ∀ id history, r.history? id = some history → ∀ v ∈ history, v.id ∈ issued
  /-- No two revisions of a script share an identifier. -/
  distinct : ∀ id history, r.history? id = some history → (history.map Revision.id).Nodup

/-- The empty registry reflects its histories, as there are none. -/
theorem sound_empty : Sound empty [] where
  reflects := fun _ => Or.inl ⟨rfl, rfl⟩
  scripts := fun _ _ h => by cases h
  revisions := fun _ _ h => by cases h
  distinct := fun _ _ h => by cases h

/-- More identifiers in use do not matter. -/
theorem Sound.mono {r : Registry} {issued more : List Uuid} (h : Sound r issued)
    (hsub : issued ⊆ more) : Sound r more where
  reflects := h.reflects
  scripts := fun id history hh => hsub (h.scripts id history hh)
  revisions := fun id history hh v hv => hsub (h.revisions id history hh v hv)
  distinct := h.distinct

/-- A script with a history has a record that reflects it. -/
theorem Sound.of_history {r : Registry} {issued : List Uuid} (h : Sound r issued) {id : Uuid}
    {history : List Revision} (hh : r.history? id = some history) :
    ∃ record, r.record? id = some record ∧ Reflects id record history := by
  rcases h.reflects id with ⟨-, hnone⟩ | ⟨record, history', hrec, hhist, href⟩
  · rw [hnone] at hh
    cases hh
  · rw [hhist] at hh
    cases hh
    exact ⟨record, hrec, href⟩

/-- A script with a record has a history that the record reflects. -/
theorem Sound.of_record {r : Registry} {issued : List Uuid} (h : Sound r issued) {id : Uuid}
    {record : Record} (hr : r.record? id = some record) :
    ∃ history, r.history? id = some history ∧ Reflects id record history := by
  rcases h.reflects id with ⟨hnone, -⟩ | ⟨record', history, hrec, hhist, href⟩
  · rw [hnone] at hr
    cases hr
  · rw [hrec] at hr
    cases hr
    exact ⟨history, hhist, href⟩

/-- An extension by a revision with a new identifier is sound again, when
the new record reflects the longer history. -/
theorem sound_extends {r r' : Registry} {issued more : List Uuid} {id : Uuid} {record : Record}
    {revision : Revision} (hs : Sound r issued) (hx : Extends r r' id record revision)
    (href : Reflects id record ((r.history? id).getD [] ++ [revision]))
    (hid : id ∈ issued ++ more) (hrev : revision.id ∈ more)
    (hnew : revision.id ∉ issued) : Sound r' (issued ++ more) where
  reflects := fun other => by
    by_cases ho : other = id
    · subst ho
      exact Or.inr ⟨record, _, hx.record, hx.history, href⟩
    · rw [(hx.others other ho).1, (hx.others other ho).2]
      exact hs.reflects other
  scripts := fun other history hh => by
    by_cases ho : other = id
    · rw [ho]
      exact hid
    · rw [(hx.others other ho).2] at hh
      exact List.mem_append_left _ (hs.scripts other history hh)
  revisions := fun other history hh v hv => by
    by_cases ho : other = id
    · subst ho
      rw [hx.history, Option.some.injEq] at hh
      rw [← hh, List.mem_append, List.mem_singleton] at hv
      -- `v` is an earlier revision, or the new one.
      rcases hv with hv | rfl
      · cases hold : r.history? other with
        | none => simp [hold] at hv
        | some old =>
            rw [hold, Option.getD_some] at hv
            exact List.mem_append_left _ (hs.revisions other old hold v hv)
      · exact List.mem_append_right _ hrev
    · rw [(hx.others other ho).2] at hh
      exact List.mem_append_left _ (hs.revisions other history hh v hv)
  distinct := fun other history hh => by
    by_cases ho : other = id
    · subst ho
      rw [hx.history, Option.some.injEq] at hh
      rw [← hh]
      cases hold : r.history? other with
      | none => simp
      | some old =>
          rw [Option.getD_some, List.map_append, List.nodup_append]
          refine ⟨hs.distinct other old hold, by simp, ?_⟩
          intro a ha b hb hab
          -- The identifiers of earlier revisions are in use, and the new one was not.
          obtain ⟨v, hv, rfl⟩ := List.mem_map.mp ha
          rw [List.map_singleton, List.mem_singleton] at hb
          exact hnew (by rw [← hb, ← hab]; exact hs.revisions other old hold v hv)
    · rw [(hx.others other ho).2] at hh
      exact hs.distinct other history hh

/-- A new record reflects the history with its first revision. -/
theorem reflects_new (c : Commit) (script revision : Uuid) :
    Reflects script (newRecord c script revision) [revisionOf c script revision] where
  script := rfl
  owned := fun v hv => by rw [List.mem_singleton.mp hv]; rfl
  first := ⟨_, rfl, rfl⟩
  last := ⟨_, rfl, rfl, rfl, rfl, rfl⟩

/-- An updated record reflects the history with one more revision. -/
theorem reflects_updated {id : Uuid} {old : Record} {history : List Revision}
    (h : Reflects id old history) (c : Commit) (revision : Uuid) :
    Reflects id (updatedRecord old c revision) (history ++ [revisionOf c id revision]) where
  script := h.script
  owned := fun v hv => by
    rcases List.mem_append.mp hv with hv | hv
    · exact h.owned v hv
    · rw [List.mem_singleton.mp hv]
      rfl
  first := by
    obtain ⟨v, hv, hc⟩ := h.first
    exact ⟨v, by rw [List.head?_append, hv, Option.some_or], hc⟩
  last := ⟨_, List.getLast?_concat, rfl, rfl, rfl, rfl⟩

/-- Nothing is known under the identifier of a new script. -/
theorem Sound.history?_fresh {r r' : Registry} {issued : List Uuid} {c : Commit}
    {freshScript freshRevision : Uuid} {record : Record} {revision : Revision}
    (hs : Sound r issued)
    (h : r.commit c freshScript freshRevision = .ok (r', record, revision))
    (hfresh : (issued ++ r.taken c freshScript freshRevision).Nodup) (hnone : c.script = none) :
    r.history? freshScript = none := by
  rw [taken_of_new h hnone] at hfresh
  cases hh : r.history? freshScript with
  | none => rfl
  | some history =>
      exact absurd rfl ((List.nodup_append.mp hfresh).2.2 _ (hs.scripts _ history hh)
        freshScript (by simp))

/-- A commit keeps the registry sound when the identifiers that it takes
are new. -/
theorem sound_commit {r r' : Registry} {issued : List Uuid} {c : Commit}
    {freshScript freshRevision : Uuid} {record : Record} {revision : Revision}
    (hs : Sound r issued)
    (h : r.commit c freshScript freshRevision = .ok (r', record, revision))
    (hfresh : (issued ++ r.taken c freshScript freshRevision).Nodup) :
    Sound r' (issued ++ r.taken c freshScript freshRevision) := by
  have hdis := (List.nodup_append.mp hfresh).2.2
  rcases commit_cases h with ⟨hscript, rfl, rfl, rfl⟩ | ⟨id, old, hscript, hold, -, rfl, rfl, rfl⟩
  · have hnone := hs.history?_fresh h hfresh hscript
    rw [taken_of_new h hscript] at hdis ⊢
    refine sound_extends hs (extends_append _ _ _ _) ?_ (by simp) (by simp [revisionOf])
      (fun hmem => hdis _ hmem freshRevision (by simp) rfl)
    rw [hnone]
    exact reflects_new c freshScript freshRevision
  · rw [taken_of_old h hscript] at hdis ⊢
    obtain ⟨history, hh, href⟩ := hs.of_record hold
    refine sound_extends hs (extends_append _ _ _ _) ?_
      (List.mem_append_left _ (hs.scripts id history hh)) (by simp [revisionOf])
      (fun hmem => hdis _ hmem freshRevision (by simp) rfl)
    rw [hh, Option.getD_some]
    exact reflects_updated href c freshRevision

/-! ### Identifiers that are not new -/

/-- A commit that fails names a script. It is not known, or it is not at
the expected revision. -/
theorem commit_error_cases {r : Registry} {c : Commit} {freshScript freshRevision : Uuid}
    {e : CommitError} (h : r.commit c freshScript freshRevision = .error e) :
    ∃ id, c.script = some id ∧
      ((r.record? id = none ∧ e = .unknownScript id) ∨
        ∃ old, r.record? id = some old ∧ some old.latestRevision ≠ c.expected ∧
          e = .superseded id) := by
  unfold commit base? at h
  cases hs : c.script with
  | none =>
      rw [hs] at h
      cases h
  | some id =>
      rw [hs] at h
      refine ⟨id, rfl, ?_⟩
      cases hr : r.record? id with
      | none =>
          simp only [hr] at h
          exact Or.inl ⟨rfl, (Except.error.inj h).symm⟩
      | some old =>
          simp only [hr] at h
          by_cases he : some old.latestRevision = c.expected
          · rw [if_pos he] at h
            cases h
          · rw [if_neg he] at h
            exact Or.inr ⟨old, rfl, he, (Except.error.inj h).symm⟩

/-- A script that has a record keeps having one. -/
theorem Extends.record_stays {r r' : Registry} {script id : Uuid} {record : Record}
    {revision : Revision} (h : Extends r r' script record revision)
    (hr : r.record? id ≠ none) : r'.record? id ≠ none := by
  by_cases hid : id = script
  · rw [hid, h.record]
    exact Option.some_ne_none _
  · rw [(h.others id hid).1]
    exact hr

/-- A record that is that of its script and tells of the last revision. -/
structure IsCurrent (r : Registry) (id : Uuid) (record : Record) : Prop where
  /-- The record is that of the script. -/
  script : record.id = id
  /-- It names the last revision, and says what that one says. -/
  last : ∃ history v, r.history? id = some history ∧ history.getLast? = some v ∧
    record.latestRevision = v.id ∧ record.version = v.version ∧
    record.namespaceName = v.namespaceName

/-- A registry with none but such records. A registry that is not `Sound`,
because an identifier was given twice, has them too. -/
def Current (r : Registry) : Prop :=
  ∀ id record, r.record? id = some record → IsCurrent r id record

/-- The empty registry has no records that could be out of date. -/
theorem current_empty : Current empty := fun _ _ h => by cases h

/-- What a commit says is in the new record. -/
theorem record_of_commit {r r' : Registry} (hr : Current r) {c : Commit}
    {freshScript freshRevision : Uuid} {record : Record} {revision : Revision}
    (h : r.commit c freshScript freshRevision = .ok (r', record, revision)) :
    record.id = scriptOf c freshScript ∧ record.latestRevision = freshRevision ∧
      record.previous = ⟨c.version, c.namespaceName, some c.name, some c.description⟩ := by
  rcases commit_cases h with ⟨hs, rfl, -, -⟩ | ⟨id, old, hs, hold, -, rfl, -, -⟩
  · rw [scriptOf, hs, Option.getD_none]
    exact ⟨rfl, rfl, rfl⟩
  · rw [scriptOf, hs, Option.getD_some]
    exact ⟨(hr id old hold).script, rfl, rfl⟩

/-- A commit keeps all records current, whatever identifiers it takes. -/
theorem current_commit {r r' : Registry} (hr : Current r) {c : Commit}
    {freshScript freshRevision : Uuid} {record : Record} {revision : Revision}
    (h : r.commit c freshScript freshRevision = .ok (r', record, revision)) : Current r' := by
  obtain ⟨hrevision, hx⟩ := extends_of_commit h
  obtain ⟨hid, hlatest, hprevious⟩ := record_of_commit hr h
  have hversion : record.version = c.version := congrArg Review.Previous.version hprevious
  have hname : record.namespaceName = c.namespaceName :=
    congrArg Review.Previous.namespaceName hprevious
  intro id old hold
  by_cases heq : id = scriptOf c freshScript
  · subst heq
    rw [hx.record, Option.some.injEq] at hold
    subst hold
    refine ⟨hid, _, revision, hx.history, List.getLast?_concat, ?_⟩
    rw [hlatest, hversion, hname, hrevision]
    exact ⟨rfl, rfl, rfl⟩
  · -- Another script stays as it is.
    rw [(hx.others id heq).1] at hold
    obtain ⟨hscript, history, v, hh, hlast⟩ := hr id old hold
    exact ⟨hscript, history, v, by rw [(hx.others id heq).2, hh], hlast⟩

end Registry

/-! ### Runs -/

open Registry (Extends Reflects Sound scriptOf taken)

/-- One commit of a run, with the identifiers that it may take. -/
structure Attempt where
  /-- What is to be accepted. -/
  commit : Commit
  /-- An identifier for a script. -/
  freshScript : Uuid
  /-- An identifier for a revision. -/
  freshRevision : Uuid

/-- What the attempt comes to in `r`. -/
def Attempt.result (a : Attempt) (r : Registry) :
    Except CommitError (Registry × Record × Revision) :=
  r.commit a.commit a.freshScript a.freshRevision

/-- What a run of commits leaves. -/
structure Ledger where
  /-- The scripts. -/
  registry : Registry
  /-- The identifiers that the run took into use, oldest first. -/
  issued : List Uuid

namespace Ledger

/-- The ledger before any commit. -/
def empty : Ledger := ⟨.empty, []⟩

/-- The ledger after one more attempt. One that fails changes
nothing. -/
def step (l : Ledger) (a : Attempt) : Ledger :=
  match a.result l.registry with
  | .error _ => l
  | .ok (registry, _, _) =>
    ⟨registry, l.issued ++ taken l.registry a.commit a.freshScript a.freshRevision⟩

/-- The ledger after some attempts, one after the other. -/
def run (as : List Attempt) : Ledger := as.foldl step empty

/-- The last attempt is made on what the others left. -/
theorem run_append_singleton (as : List Attempt) (a : Attempt) :
    run (as ++ [a]) = (run as).step a := by
  rw [run, List.foldl_append, List.foldl_cons, List.foldl_nil]
  rfl

/-- An attempt that fails leaves the ledger as it is. -/
theorem step_of_error {l : Ledger} {a : Attempt} {e : CommitError}
    (h : a.result l.registry = .error e) : l.step a = l := by
  rw [step, h]

/-- An attempt that succeeds leaves the registry it makes, and its
identifiers are in use. -/
theorem step_of_ok {l : Ledger} {a : Attempt} {r : Registry} {record : Record}
    {revision : Revision} (h : a.result l.registry = .ok (r, record, revision)) :
    l.step a
      = ⟨r, l.issued ++ taken l.registry a.commit a.freshScript a.freshRevision⟩ := by
  rw [step, h]

/-- The identifiers in use are never given back. -/
theorem issued_prefix_step (l : Ledger) (a : Attempt) : l.issued <+: (l.step a).issued := by
  cases h : a.result l.registry with
  | error e =>
      exact ⟨[], by rw [step_of_error h, List.append_nil]⟩
  | ok x =>
      obtain ⟨r, record, revision⟩ := x
      rw [step_of_ok h]
      exact List.prefix_append _ _

/-- More attempts only put identifiers after those in use. -/
theorem issued_prefix_foldl (as : List Attempt) (l : Ledger) :
    l.issued <+: (as.foldl step l).issued := by
  induction as generalizing l with
  | nil => exact List.prefix_refl _
  | cons a as ih => exact (issued_prefix_step l a).trans (ih (l.step a))

/-- The identifiers of a run stay in use in every longer run. -/
theorem issued_prefix_run (before after : List Attempt) :
    (run before).issued <+: (run (before ++ after)).issued := by
  rw [run, run, List.foldl_append]
  exact issued_prefix_foldl after _

/-- A run keeps every history as the beginning of a later one. -/
theorem history_prefix_foldl (as : List Attempt) (l : Ledger) {id : Uuid}
    {history : List Revision} (hh : l.registry.history? id = some history) :
    ∃ history', (as.foldl step l).registry.history? id = some history' ∧
      history <+: history' := by
  induction as generalizing l history with
  | nil => exact ⟨history, hh, List.prefix_refl _⟩
  | cons a as ih =>
      cases h : a.result l.registry with
      | error e =>
          rw [List.foldl_cons, step_of_error h]
          exact ih l hh
      | ok x =>
          obtain ⟨r, record, revision⟩ := x
          -- The step extends the history, and the rest of the run extends that one.
          obtain ⟨history₁, hh₁, hpre₁⟩ := (Registry.extends_of_commit h).2.history_grows hh
          have hstep : (l.step a).registry.history? id = some history₁ := by
            rw [step_of_ok h]
            exact hh₁
          obtain ⟨history₂, hh₂, hpre₂⟩ := ih (l.step a) hstep
          exact ⟨history₂, hh₂, hpre₁.trans hpre₂⟩

/-- A history only grows as a run goes on. -/
theorem history_prefix_run (before after : List Attempt) {id : Uuid} {history : List Revision}
    (hh : (run before).registry.history? id = some history) :
    ∃ history', (run (before ++ after)).registry.history? id = some history' ∧
      history <+: history' := by
  rw [run, List.foldl_append]
  exact history_prefix_foldl after _ hh

/-- One step keeps the ledger sound while its identifiers are
distinct. -/
theorem sound_step {l : Ledger} {a : Attempt} (hs : Sound l.registry l.issued)
    (hfresh : (l.step a).issued.Nodup) : Sound (l.step a).registry (l.step a).issued := by
  cases h : a.result l.registry with
  | error e =>
      rw [step_of_error h]
      exact hs
  | ok x =>
      obtain ⟨r, record, revision⟩ := x
      rw [step_of_ok h] at hfresh ⊢
      exact Registry.sound_commit hs h hfresh

/-- The registry is sound after every run with distinct identifiers.
Induction on the last attempt: what was in use before it is in use after
it, so it was distinct too. -/
theorem sound_run (as : List Attempt) (hfresh : (run as).issued.Nodup) :
    Sound (run as).registry (run as).issued := by
  induction as using List.reverseRecOn with
  | nil => exact Registry.sound_empty
  | append_singleton as a ih =>
      have hpre := issued_prefix_run as [a]
      rw [run_append_singleton] at hfresh hpre ⊢
      exact sound_step (ih (hfresh.sublist hpre.sublist)) hfresh

/-- What never changes about a script. -/
structure SameIdentity (old new : Record) : Prop where
  id : new.id = old.id
  kind : new.kind = old.kind
  authors : new.authors = old.authors
  createdAt : new.createdAt = old.createdAt

/-- One step leaves the identity of every script. A new script does not
take the place of a known one, because its identifier is new. -/
theorem identity_step {l : Ledger} {a : Attempt} (hs : Sound l.registry l.issued)
    (hfresh : (l.step a).issued.Nodup) {id : Uuid} {old : Record}
    (hold : l.registry.record? id = some old) :
    ∃ new, (l.step a).registry.record? id = some new ∧ SameIdentity old new := by
  cases h : a.result l.registry with
  | error e =>
      rw [step_of_error h]
      exact ⟨old, hold, rfl, rfl, rfl, rfl⟩
  | ok x =>
      obtain ⟨r, record, revision⟩ := x
      rw [step_of_ok h] at hfresh ⊢
      obtain ⟨history, hh, -⟩ := hs.of_record hold
      have hother := (Registry.extends_of_commit h).2
      rcases Registry.commit_cases h with ⟨hnone, -, -, -⟩ | ⟨id', old', hsome, hold', -, hrec, -, -⟩
      · -- A new script would take the place of `id` only under the identifier of `id`.
        have hne : id ≠ a.freshScript := by
          rintro rfl
          rw [hs.history?_fresh h hfresh hnone] at hh
          cases hh
        rw [scriptOf, hnone, Option.getD_none] at hother
        exact ⟨old, by rw [(hother.others id hne).1, hold], rfl, rfl, rfl, rfl⟩
      · rw [scriptOf, hsome, Option.getD_some] at hother
        by_cases hid : id = id'
        · subst hid
          rw [hold'] at hold
          cases hold
          refine ⟨record, hother.record, ?_⟩
          rw [hrec]
          exact ⟨rfl, rfl, rfl, rfl⟩
        · exact ⟨old, by rw [(hother.others id hid).1, hold], rfl, rfl, rfl, rfl⟩

/-- A run leaves the identity of every script. -/
theorem identity_run (before after : List Attempt)
    (hfresh : (run (before ++ after)).issued.Nodup) {id : Uuid} {old : Record}
    (hold : (run before).registry.record? id = some old) :
    ∃ new, (run (before ++ after)).registry.record? id = some new ∧ SameIdentity old new := by
  induction after using List.reverseRecOn with
  | nil =>
      rw [List.append_nil]
      exact ⟨old, hold, rfl, rfl, rfl, rfl⟩
  | append_singleton after a ih =>
      rw [← List.append_assoc] at hfresh ⊢
      have hpre := issued_prefix_run (before ++ after) [a]
      -- The identifiers before the last attempt are distinct too.
      have hfresh' := hfresh.sublist hpre.sublist
      obtain ⟨mid, hmid, hsame⟩ := ih hfresh'
      rw [run_append_singleton] at hfresh ⊢
      obtain ⟨new, hnew, hsame'⟩ := identity_step (sound_run _ hfresh') hfresh hmid
      exact ⟨new, hnew, hsame'.id.trans hsame.id, hsame'.kind.trans hsame.kind,
        hsame'.authors.trans hsame.authors, hsame'.createdAt.trans hsame.createdAt⟩

/-! ### One success against each revision -/

/-- The attempt at place `i` of a run continues the script `id` after the
revision `expected`, and succeeds. -/
def ContinuedAt (as : List Attempt) (i : Nat) (id expected : Uuid) : Prop :=
  ∃ a r record revision, as[i]? = some a ∧ a.commit.script = some id ∧
    a.commit.expected = some expected ∧
    a.result (run (as.take i)).registry = .ok (r, record, revision)

/-- A commit that continues a script finds the expected revision at the
end of its history. -/
theorem ContinuedAt.history {as : List Attempt} {i : Nat} {id expected : Uuid}
    (h : ContinuedAt as i id expected) (hfresh : (run as).issued.Nodup) :
    ∃ history v, (run (as.take i)).registry.history? id = some history ∧
      history.getLast? = some v ∧ v.id = expected := by
  obtain ⟨a, r, record, revision, -, hscript, hexp, hok⟩ := h
  have hpre := issued_prefix_run (as.take i) (as.drop i)
  rw [List.take_append_drop] at hpre
  have hs := sound_run (as.take i) (hfresh.sublist hpre.sublist)
  rcases Registry.commit_cases hok with ⟨hnone, -⟩ | ⟨id', old, hsome, hold, hlatest, -⟩
  · rw [hscript] at hnone
    cases hnone
  · rw [hscript, Option.some.injEq] at hsome
    subst hsome
    obtain ⟨history, hh, href⟩ := hs.of_record hold
    -- The record names the last revision, and the commit expects what the record names.
    obtain ⟨v, hv, hid, -⟩ := href.last
    refine ⟨history, v, hh, hv, ?_⟩
    rw [hexp, Option.some.injEq] at hlatest
    rw [hlatest, hid]

/-- After it, the history goes on with a later revision. -/
theorem ContinuedAt.history_succ {as : List Attempt} {i : Nat} {id expected : Uuid}
    (h : ContinuedAt as i id expected) {history : List Revision}
    (hh : (run (as.take i)).registry.history? id = some history) :
    ∃ w, (run (as.take (i + 1))).registry.history? id = some (history ++ [w]) := by
  obtain ⟨a, r, record, revision, hi, hscript, -, hok⟩ := h
  have htake : as.take (i + 1) = as.take i ++ [a] := by
    rw [List.take_add_one, hi, Option.toList_some]
  have hx := (Registry.extends_of_commit hok).2.history
  rw [scriptOf, hscript, Option.getD_some, hh, Option.getD_some] at hx
  exact ⟨revision, by rw [htake, run_append_singleton, step_of_ok hok]; exact hx⟩

/-- No two attempts continue a script after the same revision. -/
theorem not_continuedAt_twice {as : List Attempt} {i j : Nat} {id expected : Uuid}
    (hfresh : (run as).issued.Nodup) (hi : ContinuedAt as i id expected)
    (hj : ContinuedAt as j id expected) : ¬i < j := by
  intro hlt
  obtain ⟨history, v, hh, hv, hid⟩ := hi.history hfresh
  obtain ⟨w, hsucc⟩ := hi.history_succ hh
  obtain ⟨later, u, hlater, hu, hid'⟩ := hj.history hfresh
  -- The run up to `j` goes on from the commit at `i`.
  have hsplit : as.take (i + 1) ++ (as.take j).drop (i + 1) = as.take j := by
    rw [show as.take (i + 1) = (as.take j).take (i + 1) by
      rw [List.take_take, Nat.min_eq_left hlt], List.take_append_drop]
  obtain ⟨later', hlater', rest, hrest⟩ := history_prefix_run _ ((as.take j).drop (i + 1)) hsucc
  rw [hsplit, hlater, Option.some.injEq] at hlater'
  subst hlater'
  -- `v` stands before `w`, and `u` at or after it, under one identifier.
  have hpre := issued_prefix_run (as.take j) (as.drop j)
  rw [List.take_append_drop] at hpre
  have hdistinct := (sound_run (as.take j) (hfresh.sublist hpre.sublist)).distinct id later hlater
  have hmemv : v ∈ history := List.mem_of_getLast? hv
  have hmemu : u ∈ w :: rest := by
    have hne : [w] ++ rest ≠ [] := by simp
    rw [← hrest, List.append_assoc, List.getLast?_append, List.getLast?_eq_some_getLast hne,
      Option.some_or] at hu
    rw [← Option.some.inj hu]
    exact List.getLast_mem hne
  rw [← hrest, List.append_assoc, List.map_append, List.nodup_append] at hdistinct
  exact hdistinct.2.2 v.id (List.mem_map_of_mem hmemv) u.id (List.mem_map_of_mem hmemu)
    (by rw [hid, hid'])

/-! ### The whole run -/

/-- What holds of a run as a whole, and of each of its commits. -/
structure Lossless (as : List Attempt) : Prop where
  /-- Records and histories have the same scripts. -/
  scripts : ∀ id, id ∈ (run as).registry.records.keys ↔ id ∈ (run as).registry.histories.keys
  /-- No history is empty, and every record reflects its history. -/
  records : ∀ id record history, (run as).registry.record? id = some record →
    (run as).registry.history? id = some history → history ≠ [] ∧ Reflects id record history
  /-- A commit that fails leaves everything as it is. -/
  failure : ∀ before a after e, as = before ++ a :: after →
    a.result (run before).registry = .error e → run (before ++ [a]) = run before
  /-- A commit that succeeds appends one revision to one history, which is
  new when the script is, and changes nothing else. -/
  success : ∀ before a after r record revision, as = before ++ a :: after →
    a.result (run before).registry = .ok (r, record, revision) →
    (run (before ++ [a])).registry = r ∧ revision.id = a.freshRevision ∧
      (a.commit.script = none → (run before).registry.history? a.freshScript = none) ∧
      Extends (run before).registry r (scriptOf a.commit a.freshScript) record revision
  /-- Identifier, kind, authors and age of a script never change. -/
  identity : ∀ before after, as = before ++ after → ∀ id old,
    (run before).registry.record? id = some old →
    ∃ new, (run as).registry.record? id = some new ∧ SameIdentity old new
  /-- Every history is the beginning of what it is later. -/
  kept : ∀ before after, as = before ++ after → ∀ id history,
    (run before).registry.history? id = some history →
    ∃ history', (run as).registry.history? id = some history' ∧ history <+: history'
  /-- At most one commit succeeds against each revision of a script. -/
  once : ∀ id expected i j, ContinuedAt as i id expected → ContinuedAt as j id expected → i = j

end Ledger

open Ledger (Lossless run)

/-- A run of commits loses nothing, whatever they are, as long as the
identifiers made for it are pairwise distinct. -/
theorem commits_lose_nothing (as : List Attempt) (hfresh : (run as).issued.Nodup) :
    Lossless as where
  scripts id := by
    have hs := Ledger.sound_run as hfresh
    rw [Keyed.mem_keys_iff, Keyed.mem_keys_iff]
    constructor
    · rintro ⟨record, h⟩
      obtain ⟨history, hh, -⟩ := hs.of_record h
      exact ⟨history, hh⟩
    · rintro ⟨history, h⟩
      obtain ⟨record, hr, -⟩ := hs.of_history h
      exact ⟨record, hr⟩
  records id record history hr hh := by
    obtain ⟨record', hr', href⟩ := (Ledger.sound_run as hfresh).of_history hh
    rw [hr, Option.some.injEq] at hr'
    subst hr'
    refine ⟨?_, href⟩
    rintro rfl
    obtain ⟨v, hv, -⟩ := href.last
    cases hv
  failure before a after e has he := by
    rw [Ledger.run_append_singleton, Ledger.step_of_error he]
  success before a after r record revision has hok := by
    -- What is in use after this commit is distinct too.
    have hpre := Ledger.issued_prefix_run (before ++ [a]) after
    rw [List.append_assoc, List.singleton_append, ← has] at hpre
    have hfresh' := hfresh.sublist hpre.sublist
    obtain ⟨hv, hx⟩ := Registry.extends_of_commit hok
    refine ⟨by rw [Ledger.run_append_singleton, Ledger.step_of_ok hok], by rw [hv]; rfl, ?_, hx⟩
    intro hnone
    rw [Ledger.run_append_singleton, Ledger.step_of_ok hok] at hfresh'
    have hs := Ledger.sound_run before (List.nodup_append.mp hfresh').1
    exact hs.history?_fresh hok hfresh' hnone
  identity before after has id old hold := by
    rw [has] at hfresh ⊢
    exact Ledger.identity_run before after hfresh hold
  kept before after has id history hh := by
    rw [has]
    exact Ledger.history_prefix_run before after hh
  once id expected i j hi hj := by
    -- Whichever attempt came first has kept the other one from succeeding.
    rcases Nat.lt_trichotomy i j with h | h | h
    · exact absurd h (Ledger.not_continuedAt_twice hfresh hi hj)
    · exact h
    · exact absurd h (Ledger.not_continuedAt_twice hfresh hj hi)

/-- An attempt to accept `version` for the script `script`, seen at the
revision `expected`. -/
def sampleAttempt (script expected : Option Uuid) (version : Text) (n : Nat) : Attempt where
  commit :=
    { script, expected, kind := .userScript, authors := [1], name := ['n'], description := ['d']
      version, namespaceName := some ['s'], rawCode := ⟨['r']⟩, canonicalCode := ⟨['c']⟩
      acceptedAt := .ofSeconds n }
  freshScript := ⟨BitVec.ofNat 128 (2 * n)⟩
  freshRevision := ⟨BitVec.ofNat 128 (2 * n + 1)⟩

/-- A new script, and two attempts against its first revision. -/
def sampleRace : List Attempt :=
  [sampleAttempt none none ['1'] 1, sampleAttempt (some ⟨2⟩) (some ⟨3⟩) ['2'] 2,
    sampleAttempt (some ⟨2⟩) (some ⟨3⟩) ['3'] 3]

/-- Of the two, the second takes no identifier, because it fails. -/
theorem commits_lose_nothing_race :
    (run sampleRace).issued = [⟨2⟩, ⟨3⟩, ⟨5⟩] ∧ (run sampleRace).issued.Nodup ∧
      Lossless sampleRace :=
  ⟨by decide, by decide, commits_lose_nothing sampleRace (by decide)⟩

end Store
end ScriptGate
