import ScriptGate.Header.Directive

/-!
# `ScriptGate.Header.Metadata`: the values of each key

`Metadata` groups directives by key. Keys stand in the order in which
they were first seen, and every key keeps all its values in the order
of their lines.
-/

set_option autoImplicit false

namespace ScriptGate.Header

/-- Keys in first-seen order, each with all its values. -/
structure Metadata where
  /-- The keys with their values. -/
  entries : List (Text × List Text)
  deriving DecidableEq, Repr

namespace Metadata

/-- `entries` with `value` added at the end of the values of `key`. -/
def insert (key value : Text) : List (Text × List Text) → List (Text × List Text)
  | [] => [(key, [value])]
  | (k, vs) :: rest =>
    if k = key then (k, vs ++ [value]) :: rest else (k, vs) :: insert key value rest

/-- The metadata of a list of keys with their values. -/
def ofPairs (pairs : List (Text × Text)) : Metadata :=
  ⟨pairs.foldl (fun es p => insert p.1 p.2 es) []⟩

/-- The metadata of a list of directives. -/
def ofDirectives (ds : List Directive) : Metadata :=
  ofPairs (ds.map fun d => (d.key, d.value))

/-- The metadata of the header of `source`. -/
def ofSource (source : Text) : Metadata := ofDirectives (directives source)

/-- All values of `key`. -/
def all (m : Metadata) (key : Text) : List Text :=
  ((m.entries.find? (fun e => e.1 == key)).map Prod.snd).getD []

/-- The first value of `key`. -/
def first (m : Metadata) (key : Text) : Option Text := (m.all key).head?

/-- The first value of `key` that is not blank. -/
def firstNonBlank (m : Metadata) (key : Text) : Option Text :=
  (m.all key).find? (fun v => !Text.allBlank v)

/-- Whether `key` has a directive. -/
def contains (m : Metadata) (key : Text) : Bool := m.entries.any (fun e => e.1 == key)

/-- The keys, in first-seen order. -/
def keys (m : Metadata) : List Text := m.entries.map Prod.fst

/-- The number of distinct keys. -/
def size (m : Metadata) : Nat := m.entries.length

end Metadata

/-! ### The keys that identify a script -/

/-- The key of the displayed name. -/
def nameKey : Text := "name".toList

/-- The key of the namespace, which tells scripts of one name apart. -/
def namespaceKey : Text := "namespace".toList

/-- The key of the version of this revision. -/
def versionKey : Text := "version".toList

/-- The key of the displayed description. -/
def descriptionKey : Text := "description".toList

end ScriptGate.Header
