import ScriptGate.AllowList
import ScriptGate.Json.Source

/-!
# `ScriptGate.Fingerprint`: recognising known code

A fingerprint is a pattern for code that must not be published, or that
only its authors may publish. `scan` reports the first fingerprint of
the list that matches somewhere in a script body, and where.

Fingerprints come from a JSON list. An entry is an object with `id`,
`pattern` and perhaps `originatingAuthors`, or an array of these three.
-/

set_option autoImplicit false

namespace ScriptGate

/-- A fingerprint as it is configured. -/
structure FingerprintText where
  /-- The name of the fingerprint, which stays internal. -/
  id : Text
  /-- The text of its pattern. -/
  pattern : Text
  /-- The authors who may publish the code. -/
  originatingAuthors : List Nat
  deriving DecidableEq, Repr

/-- A pattern for known code. -/
structure Fingerprint where
  /-- The name of the fingerprint, which stays internal. -/
  id : Text
  /-- What the code looks like. -/
  pattern : Pattern
  /-- The authors who may publish the code. -/
  originatingAuthors : List Nat
  deriving DecidableEq, Repr

namespace Fingerprint

/-- The fingerprint of a configured one. -/
def ofText (f : FingerprintText) : Except SetupError Fingerprint :=
  match Pattern.parse? f.pattern with
  | some p => .ok ⟨f.id, p, f.originatingAuthors⟩
  | none => .error (.invalidPattern f.pattern)

/-- Known code in a body, as a scanner reports it. -/
structure Hit where
  /-- The name of what was recognised, which stays internal. -/
  id : Text
  /-- Offset of the first byte of the match. -/
  start : Nat
  /-- Offset right after the last byte of the match. -/
  stop : Nat
  /-- The authors who may publish the code. -/
  originatingAuthors : List Nat
  deriving DecidableEq, Repr

/-- What a match of `f` between these offsets is reported as. -/
def hit (f : Fingerprint) (span : Nat × Nat) : Hit := ⟨f.id, span.1, span.2, f.originatingAuthors⟩

/-- The first of the fingerprints that matches in `body`. -/
def scan (fs : List Fingerprint) (body : Text) : Option Hit :=
  fs.findSome? fun f => (f.pattern.findSpan? body).map f.hit

end Fingerprint

namespace FingerprintText

open Json (Source)

/-- The number of an author. -/
def author? : Source → Option Nat
  | .number (.natural n) => some n
  | _ => none

/-- A list of authors. -/
def authors? : Source → Option (List Nat)
  | .array items true => items.mapM author?
  | _ => none

/-- A string. -/
def text? : Source → Option Text
  | .text t => some t
  | _ => none

/-- The one member called `name`; none at all is `some none`, and two of
them are an error. -/
def single? (name : String) (members : List (Text × Source)) : Option (Option Source) :=
  match members.filter fun m => m.1 == name.toList with
  | [] => some none
  | [m] => some (some m.2)
  | _ => none

/-- One entry of a signature file. -/
def ofSource? : Source → Option FingerprintText
  | .object members true => do
    guard (Source.membersWellFormed members)
    let id ← (← single? "id" members).bind text?
    let pattern ← (← single? "pattern" members).bind text?
    match ← single? "originatingAuthors" members with
    | none => pure ⟨id, pattern, []⟩
    | some s => (authors? s).map fun authors => ⟨id, pattern, authors⟩
  | .array [id, pattern] true => do pure ⟨← text? id, ← text? pattern, []⟩
  | .array [id, pattern, authors] true => do
    pure ⟨← text? id, ← text? pattern, ← authors? authors⟩
  | _ => none

/-- The entries of a signature file, when all of it is well formed. -/
def ofFile? (content : Text) : Option (List FingerprintText) :=
  let d := Json.Document.ofText content
  match d.root with
  | .array items true => if d.complete then items.mapM ofSource? else none
  | _ => none

end FingerprintText

namespace Fingerprint

/-- The fingerprints of a signature file. `path` names the file in
messages. -/
def ofFile (path content : Text) : Except SetupError (List Fingerprint) :=
  match FingerprintText.ofFile? content with
  | none => .error (.malformed path)
  | some fs => fs.mapM ofText

end Fingerprint
end ScriptGate
