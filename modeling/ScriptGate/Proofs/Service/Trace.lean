import Mathlib.Data.List.Induction
import ScriptGate.Proofs.Service.World

/-!
# `ScriptGate.Proofs.Service.Trace`: what happened in a run

A world is what a run leaves. Some facts are about the way there: which
step changed the archive, what a refused submission did before it was
over, how many submissions were let in. `World.observe` looks at every
event of a run just before it happens and lists what there is to see.

`World.trace` are the steps of a run, each with the state before it and
the state after it, and `World.admitted` the submissions that passed the
look at their fields and at the script that they continue.

`World.trace_induction` is how facts about them are proved. A fact about
a world and the steps so far has to survive an arrival, and one step that
is a `Move`.
-/

set_option autoImplicit false

namespace ScriptGate.Service

/-- A step that a submission made. -/
structure Step where
  /-- The place of the submission in the world. -/
  call : Nat
  /-- The submission. -/
  submission : Submission
  /-- What the step took from outside. -/
  moment : Moment
  /-- Where the submission stood before. -/
  stage : Stage
  /-- What the service knew before. -/
  before : State
  /-- What it knew after. -/
  after : State
  /-- How far the submission came. -/
  progress : Progress

namespace World

/-- What `look` sees in the events of a run that starts in `w`. -/
def observeFrom {α : Type} (rules : Rules) (look : World → Event → Option α) :
    World → List Event → List α
  | _, [] => []
  | w, e :: es => (look w e).toList ++ observeFrom rules look (w.step rules e) es

/-- What `look` sees in the events of a run. -/
def observe {α : Type} (rules : Rules) (look : World → Event → Option α) (events : List Event) :
    List α :=
  observeFrom rules look initial events

/-- One more event adds what is seen of it, after all that was seen before. -/
theorem observe_append_singleton {α : Type} (rules : Rules) (look : World → Event → Option α)
    (events : List Event) (e : Event) :
    observe rules look (events ++ [e])
      = observe rules look events ++ (look (run rules events) e).toList := by
  -- Induction on the events, from whatever world they start in.
  have hfrom : ∀ (w : World), observeFrom rules look w (events ++ [e])
      = observeFrom rules look w events ++ (look (events.foldl (step rules) w) e).toList := by
    induction events with
    | nil => exact fun w => List.append_nil _
    | cons e' events ih =>
        intro w
        rw [List.cons_append, observeFrom, ih, observeFrom, List.append_assoc, List.foldl_cons]
  exact hfrom initial

/-- The step that an event makes. A submission that is over, or that never
arrived, makes none. -/
def step? (rules : Rules) (w : World) : Event → Option Step
  | .submit _ => none
  | .advance i m =>
    match w.calls[i]? with
    | some ⟨sub, .underway stage⟩ =>
      let after := rules.advance sub m w.state stage
      some ⟨i, sub, m, stage, w.state, after.1, after.2⟩
    | _ => none

/-- The submission that an event lets in. Its fields are in range, and the
script that it continues is known. -/
def admitted? (w : World) : Event → Option Submission
  | .submit sub =>
    match Rules.start w.state sub with
    | .underway _ => some sub
    | .done _ => none
  | .advance _ _ => none

/-- The steps of a run, in their order. -/
def trace (rules : Rules) (events : List Event) : List Step := observe rules (step? rules) events

/-- The submissions that were let in, in the order of their arrival. -/
def admitted (rules : Rules) (events : List Event) : List Submission :=
  observe rules admitted? events

/-- **Invariants of a trace.** What holds at the start and is kept by
every arrival and by every step holds of a run and of its steps. -/
theorem trace_induction (rules : Rules) {P : World → List Step → Prop} (hinit : P initial [])
    (hsubmit : ∀ w steps sub, P w steps → P (w.step rules (.submit sub)) steps)
    (hmove : ∀ w steps i sub m stage after progress, P w steps →
      w.calls[i]? = some ⟨sub, .underway stage⟩ → Move rules sub m w.state stage after progress →
      P ⟨after, w.calls.set i ⟨sub, progress⟩, w.issued ++ stage.taken sub m w.state⟩
        (steps ++ [⟨i, sub, m, stage, w.state, after, progress⟩]))
    (events : List Event) : P (run rules events) (trace rules events) := by
  induction events using List.reverseRecOn with
  | nil => exact hinit
  | append_singleton events e ih =>
      rw [run_append_singleton, trace, observe_append_singleton]
      cases e with
      | submit sub =>
          rw [step?, Option.toList_none, List.append_nil]
          exact hsubmit _ _ sub ih
      | advance i m =>
          -- The event moves a submission, or there is none to be moved.
          cases hi : (run rules events).calls[i]? with
          | none =>
              simp only [step?, step, hi, Option.toList_none, List.append_nil]
              exact ih
          | some call =>
              obtain ⟨sub, progress⟩ := call
              cases progress with
              | done answer =>
                  simp only [step?, step, hi, Option.toList_none, List.append_nil]
                  exact ih
              | underway stage =>
                  simp only [step?, step, hi, Option.toList_some]
                  exact hmove _ _ i sub m stage _ _ ih hi
                    (move_advance rules sub m (run rules events).state stage)

end World
end ScriptGate.Service
