import ScriptGate.Proofs.Review.Served
import ScriptGate.Proofs.Service.Keeping

/-!
# `ScriptGate.Proofs.Service.Serving`: records and what is served

Clients compare the version in the header that they are served with the
version that they have, and the service compares the next revision with
the record. `served_header_gives_back` says that both see the same
version and the same namespace, under the standard policy and after any
submissions, except that the header can lack a carriage return at the end
of a value (`Review.GivenBack`).

The exception is real. `stray_return_is_not_served` is a script whose
record says one version and whose header another.

What is served is the canonical text of the last revision, and
`Review.givenBack_of_accepted` says what an accepted review has written
into it. That needs to know of the previous version and namespace that
they fit into a line. All reviews hand this on (`handedOn_declarable`),
so it is true of every snapshot of a run (`shows_trace`).
-/

set_option autoImplicit false

namespace ScriptGate.Service

open Header (Metadata namespaceKey versionKey)
open Review (GivenBack Policy Previous)
open Store (DistinctDigests Record)

/-- The policies that leave version and namespace in the header, and whose
default namespaces fit into it. -/
structure Writes (p : Policy) : Prop where
  version : versionKey ∉ p.forbiddenKeys
  namespaceName : namespaceKey ∉ p.forbiddenKeys
  base : Header.IsValue p.namespaceBase

/-- The standard policy is one of them. -/
theorem writes_standard : Writes .standard where
  version := by decide +kernel
  namespaceName := by decide +kernel
  base := Review.isValue_of_forall (by decide) fun _ hc => Header.isBlank_of_all (by decide) hc

/-- What an accepted review settles fits into a line, if what it compared
with does. -/
theorem handedOn_declarable {rules : Rules} (hp : Writes rules.policy) :
    HandedOn rules Previous.Declarable := by
  intro existing request now hprevious haccepted version hversion
  obtain ⟨version', name, hversion', hname, hv, hn, -⟩ :=
    Review.givenBack_of_accepted hp.version hp.namespaceName hp.base (fun before hbefore => by
      obtain ⟨record, hrecord, rfl⟩ := Option.map_eq_some_iff.mp hbefore
      exact hprevious record hrecord) haccepted
  refine ⟨?_, fun n hn' => ?_⟩
  · obtain rfl : version' = version := Option.some.inj (hversion'.symm.trans hversion)
    exact hv
  · obtain rfl : name = n := Option.some.inj (hname.symm.trans hn')
    exact hn

/-- **Serving.** Under the standard policy, after any submissions whose
steps alternate in any order, as long as the archive can be read and no
two of the stored texts have the same digest. What a script is served as
gives the version and the namespace of its record back. -/
theorem served_header_gives_back (rules : Rules) (hpolicy : rules.policy = .standard)
    (hreading : rules.outage.reading = false) (events : List Event)
    (hdistinct : DistinctDigests (World.stored rules events)) {id : Uuid} {record : Record}
    (hr : (World.run rules events).state.registry.record? id = some record) :
    ∃ code, rules.latestCode (World.run rules events).state id = .ok code ∧
      GivenBack (Metadata.ofSource code) versionKey record.version ∧
      ∃ name, record.namespaceName = some name ∧
        GivenBack (Metadata.ofSource code) namespaceKey name := by
  have hp : Writes rules.policy := by
    rw [hpolicy]
    exact writes_standard
  obtain ⟨history, v, -, -, hversion, hname, x, hx, existing, submittedAt, verdict, hstage,
    horigin, -, hcode⟩ := latestCode_of_record hreading hdistinct hr
  -- The snapshot of the submission shows values that fit into a line.
  have hsnapshot := (shows_trace (handedOn_declarable hp) events).2 x hx
  rw [hstage] at hsnapshot
  have haccepted := horigin.accepted
  rw [horigin.reviewed] at haccepted
  obtain ⟨version', name, hversion', hname', -, -, hgiven, hgiven'⟩ :=
    Review.givenBack_of_accepted hp.version hp.namespaceName hp.base (fun before hbefore => by
      obtain ⟨old, hold, rfl⟩ := Option.map_eq_some_iff.mp hbefore
      exact hsnapshot old hold) haccepted
  refine ⟨verdict.canonical, hcode, ?_, name, ?_, ?_⟩
  · obtain rfl : version' = v.version := by
      rw [← Option.some.injEq, ← horigin.version, horigin.reviewed]
      exact hversion'.symm
    rw [hversion, horigin.reviewed]
    exact hgiven
  · rw [hname, horigin.namespaceName, horigin.reviewed]
    exact hname'
  · rw [horigin.reviewed]
    exact hgiven'

/-! ### A carriage return too many -/

/-- The version stands on a line that ends in two carriage returns and a
line feed, and above it a line has room for it. -/
def strayReturnCode : Text :=
  ("// ==UserScript==\n// @name n\n// @description d\n// @namespace s\n// @version\n" ++
    "// @version 1\r\r\n// ==/UserScript==\nx;\n").toList

/-- The script is accepted. -/
def strayReturnEvents : List Event :=
  [.submit ⟨none, ⟨strayReturnCode, 1, .userScript, none, {}⟩⟩, .advance 0 (sampleMoment 1),
    .advance 0 (sampleMoment 2), .advance 0 (sampleMoment 3), .advance 0 (sampleMoment 4)]

/-- What is stored of it as its canonical text. The settled version has
gone to the free line, which ends in a line feed alone. -/
def strayReturnCanonical : Text :=
  ("// ==UserScript==\n// @name n\n// @description d\n// @namespace s\n" ++
    "// @version 1\r\n// @version 1\r\r\n// ==/UserScript==\nx;\n").toList

/-- The canonical text that is about to be committed. -/
def Stage.canonical? : Stage → Option Text
  | .stored _ _ v _ _ => some v.canonical
  | _ => none

/-- The two texts of the run have different digests. -/
theorem distinctDigests_strayReturn :
    DistinctDigests (World.stored sampleRules strayReturnEvents) := by
  have hstored : World.stored sampleRules strayReturnEvents
      = [strayReturnCode, strayReturnCanonical] := by
    decide +kernel
  rw [hstored]
  exact Store.distinctDigests_pair (by decide +kernel)

/-- The record of the script has a version that ends in a carriage return. -/
theorem record_strayReturn :
    ∃ record, (World.run sampleRules strayReturnEvents).state.registry.record? ⟨9⟩ = some record ∧
      record.version = ['1', '\r'] :=
  Option.map_eq_some_iff.mp (by decide +kernel)

/-- Clients are served a version that is not the one of the record. -/
theorem stray_return_is_not_served :
    ∃ record code,
      (World.run sampleRules strayReturnEvents).state.registry.record? ⟨9⟩ = some record ∧
      sampleRules.latestCode (World.run sampleRules strayReturnEvents).state ⟨9⟩ = .ok code ∧
      record.version = ['1', '\r'] ∧
      (Metadata.ofSource code).firstNonBlank versionKey = some ['1'] := by
  have hcanonical : ∀ x ∈ World.trace sampleRules strayReturnEvents,
      x.stage.canonical? = none ∨ x.stage.canonical? = some strayReturnCanonical := by
    decide +kernel
  obtain ⟨record, hr, hv⟩ := record_strayReturn
  -- What is served was at hand when its revision was committed.
  obtain ⟨_, _, -, -, -, -, x, hx, _, _, _, hstage, -, -, hcode⟩ :=
    latestCode_of_record rfl distinctDigests_strayReturn hr
  have hserved := hcanonical x hx
  rw [hstage] at hserved
  have hcode' := hserved.resolve_left (Option.some_ne_none _)
  rw [Option.some.inj hcode'] at hcode
  exact ⟨record, _, hr, hcode, hv, by decide +kernel⟩

/-- All the same, what is served lacks no more than the carriage
return. -/
theorem served_header_gives_back_stray :
    DistinctDigests (World.stored sampleRules strayReturnEvents) ∧
    ∃ record, (World.run sampleRules strayReturnEvents).state.registry.record? ⟨9⟩ = some record ∧
      record.version = ['1', '\r'] ∧
      ∃ code, sampleRules.latestCode (World.run sampleRules strayReturnEvents).state ⟨9⟩
          = .ok code ∧
        GivenBack (Metadata.ofSource code) versionKey record.version ∧
        ∃ name, record.namespaceName = some name ∧
          GivenBack (Metadata.ofSource code) namespaceKey name := by
  obtain ⟨record, hr, hv⟩ := record_strayReturn
  exact ⟨distinctDigests_strayReturn, record, hr, hv,
    served_header_gives_back sampleRules rfl rfl strayReturnEvents distinctDigests_strayReturn
      hr⟩

end ScriptGate.Service
