import ScriptGate.Keyed
import ScriptGate.Text.Basic

/-!
# `ScriptGate.Header.Edits`: what to change in a header

`Edits` names the directives to replace or remove and the directives to
add when they are missing. Both lists keep the order in which their keys
were first given, and giving a key again overwrites its value, so no key
stands twice in either list. That is part of the type.
-/

set_option autoImplicit false

namespace ScriptGate.Header

/-- Changes to the directives of a header. -/
structure Edits where
  /-- Keys whose first value is replaced, or, where no value is given,
  whose directives are removed. -/
  changes : Keyed Text (Option Text)
  /-- Keys that are added with this value unless they are present. -/
  additions : Keyed Text Text

namespace Edits

/-- No changes. -/
def empty : Edits := ⟨.empty, .empty⟩

/-- Replaces the value of the first `key` directive, or removes every
`key` directive when there is no value. -/
def replaceOrRemove (e : Edits) (key : Text) (value : Option Text) : Edits :=
  { e with changes := e.changes.put key value }

/-- Replaces the value of the first `key` directive. No line is made. -/
def replace (e : Edits) (key value : Text) : Edits := e.replaceOrRemove key (some value)

/-- Removes every `key` directive. -/
def remove (e : Edits) (key : Text) : Edits := e.replaceOrRemove key none

/-- Adds a `key` directive at the end of the header unless there is one
after the removals. -/
def addIfMissing (e : Edits) (key value : Text) : Edits :=
  { e with additions := e.additions.put key value }

/-- Whether nothing is changed. -/
def isEmpty (e : Edits) : Bool := e.changes.isEmpty && e.additions.isEmpty

/-- The keys that are removed. -/
def removedKeys (e : Edits) : List Text :=
  (e.changes.entries.filter (fun c => c.2.isNone)).map Prod.fst

end Edits
end ScriptGate.Header
