import ScriptGate.Proofs.Review.Presentable
import ScriptGate.Proofs.Service.Grounded
import ScriptGate.Proofs.Service.Histories

/-!
# `ScriptGate.Proofs.Service.Presentable`: every record can be shown

Lists of scripts show name, description, version and namespace of each
record. `records_are_presentable` says that none of them is ever blank
and that no description is beyond the limit, whatever was submitted and
however the steps of the submissions alternated.

A record comes from an accepted review, which may have compared with an
earlier record. `Review.presentable_of_accepted` is what one review hands
on to the next, and `shows_trace` the induction over the run.
-/

set_option autoImplicit false

namespace ScriptGate.Service

open Review (Previous Visible)
open Store (Record)

/-- A record of which each part can be read. -/
structure Presentable (limit : Nat) (r : Record) : Prop where
  name : Visible r.name
  version : Visible r.version
  namespaceName : ∃ n, r.namespaceName = some n ∧ Visible n
  description : Visible r.description
  /-- The description is within the limit, counted in characters. -/
  length : r.description.length ≤ limit

/-- Accepted reviews hand on that there is something to read. -/
theorem handedOn_presentable {rules : Rules} (hlimit : 1 ≤ rules.policy.descriptionLimit) :
    HandedOn rules (Previous.Presentable rules.policy.descriptionLimit) := by
  intro existing request now hprevious haccepted version hversion
  refine Review.presentable_of_accepted hlimit (fun before hbefore => ?_) haccepted hversion
  obtain ⟨record, hrecord, rfl⟩ := Option.map_eq_some_iff.mp hbefore
  exact hprevious record hrecord

/-- **Records.** Under any policy whose limit is not zero, and after any
submissions whose steps alternate in any order. -/
theorem records_are_presentable (rules : Rules) (hlimit : 1 ≤ rules.policy.descriptionLimit)
    (events : List Event) {id : Uuid} {record : Record}
    (hr : (World.run rules events).state.registry.record? id = some record) :
    Presentable rules.policy.descriptionLimit record := by
  obtain ⟨hversion, hnamespace, ⟨_, hname, hvisible⟩, ⟨_, hdescription, hbegins, hle⟩⟩ :=
    (shows_trace (handedOn_presentable hlimit) events).1.records id record hr
  cases hname
  cases hdescription
  exact ⟨hvisible, hversion, hnamespace, hbegins.visible, hle⟩

/-- Rules that leave one character of a description. -/
def briefRules : Rules where
  policy := { Review.Policy.standard with descriptionLimit := 1 }
  checks := sampleRules.checks

/-- A library that goes by a typed name, and a revision of it that
declares no more than a version. -/
def briefEvents : List Event :=
  [.submit ⟨none, ⟨"// ==UserScript==\n// @description\t long\n// @version 1\n".toList ++
      "// ==/UserScript==\n".toList, 1, .library, some " l ".toList,
      { lenient := true, addMissingNamespace := true }⟩⟩,
    .advance 0 (sampleMoment 1), .advance 0 (sampleMoment 2), .advance 0 (sampleMoment 3),
    .advance 0 (sampleMoment 4),
    .submit ⟨some ⟨9⟩, ⟨"// ==UserScript==\n// @version 2\n// ==/UserScript==\n".toList, 1,
      .userScript, none, {}⟩⟩,
    .advance 1 (sampleMoment 5), .advance 1 (sampleMoment 6), .advance 1 (sampleMoment 7)]

/-- All that the revision does not declare is inherited. -/
theorem records_are_presentable_brief :
    ∃ record, (World.run briefRules briefEvents).state.registry.record? ⟨9⟩ = some record ∧
      record.version = ['2'] ∧ record.name = ['l'] ∧ record.description = ['l'] ∧
      Presentable 1 record := by
  have hrecord : ((World.run briefRules briefEvents).state.registry.record? ⟨9⟩).map
      (fun record => (record.version, record.name, record.description))
        = some (['2'], ['l'], ['l']) := by
    decide +kernel
  obtain ⟨record, hr, hvalues⟩ := Option.map_eq_some_iff.mp hrecord
  obtain ⟨hversion, hrest⟩ := Prod.mk.inj hvalues
  obtain ⟨hname, hdescription⟩ := Prod.mk.inj hrest
  exact ⟨record, hr, hversion, hname, hdescription,
    records_are_presentable briefRules (by decide) briefEvents hr⟩

end ScriptGate.Service
