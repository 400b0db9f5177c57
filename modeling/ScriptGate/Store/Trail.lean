import ScriptGate.Calendar
import ScriptGate.Review.Finding
import ScriptGate.Uuid

/-!
# `ScriptGate.Store.Trail`: what became of each submission

The trail has an entry for every submission that was reviewed. Entries
are only ever added at its end.
-/

set_option autoImplicit false

namespace ScriptGate.Store

open Review (Correction)

/-- What became of a submission. -/
inductive Action where
  /-- It is a revision now. -/
  | accepted
  /-- It was refused, or another one was faster. -/
  | rejected
  deriving DecidableEq, Repr

/-- The name of an action. -/
def Action.text : Action → String
  | accepted => "accepted"
  | rejected => "rejected"

/-- What became of one submission. -/
structure Entry where
  /-- The identifier of the entry. -/
  id : Uuid
  /-- The script; none for a refused first revision. -/
  script : Option Uuid
  /-- The revision that was made. -/
  revision : Option Uuid
  /-- The submitting author. -/
  author : Nat
  /-- What became of it. -/
  action : Action
  /-- The version that the review settled. -/
  version : Option Text
  /-- The codes of the failures, in the order of the checks. -/
  failures : List String
  /-- What the review corrected. -/
  corrections : List Correction
  /-- When the entry was made. -/
  recordedAt : Instant
  deriving DecidableEq, Repr

/-- The entries, oldest first. -/
structure Trail where
  /-- The entries, oldest first. -/
  entries : List Entry
  deriving DecidableEq, Repr

namespace Trail

/-- The trail without entries. -/
def empty : Trail := ⟨[]⟩

/-- The trail with one more entry. -/
def add (t : Trail) (e : Entry) : Trail := ⟨t.entries ++ [e]⟩

/-- The new entry is the last one, and those before it stay. -/
@[simp] theorem entries_add (t : Trail) (e : Entry) : (t.add e).entries = t.entries ++ [e] := rfl

/-- The entries of a script, or all of them, most recent first. -/
def log (t : Trail) (script : Option Uuid) : List Entry :=
  t.entries.reverse.filter fun e => script.all fun id => e.script == some id

end Trail
end ScriptGate.Store
