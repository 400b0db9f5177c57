import ScriptGate.Header.Directive
import ScriptGate.Header.Edits

/-!
# `ScriptGate.Header.Rewrite`: edits as splices

`rewrite` turns edits into splices of the source text: a removed line
becomes nothing, a replaced value its new text, and added lines go in
front of the closing marker. Every byte outside a splice stays as it
is.

Splices are byte ranges. `applySplices?` has no result for ranges that
overlap, leave the text or cut a character. For the splices of
`rewrite` it always has one.
-/

set_option autoImplicit false

namespace ScriptGate.Header

/-- Replacement of the bytes from `start` to `stop` by `replacement`. -/
structure Splice where
  /-- Offset of the first replaced byte. -/
  start : Nat
  /-- Offset right after the last replaced byte. -/
  stop : Nat
  /-- What stands there afterwards. -/
  replacement : Text
  deriving DecidableEq, Repr

namespace Splice

/-- Order by start, then by end. -/
def before (a b : Splice) : Bool :=
  a.start < b.start || (a.start == b.start && a.stop ≤ b.stop)

end Splice

/-- Applies sorted splices to `rest`, the part of the text that starts
at byte `cursor`. The finished part is kept reversed in `acc`. -/
def applySplicesAux (acc : Text) (cursor : Nat) (rest : Text) : List Splice → Option Text
  | [] => some (acc.reverse ++ rest)
  | s :: ss => do
    guard (cursor ≤ s.start ∧ s.start ≤ s.stop)
    let (kept, rest) ← Text.splitAtByte? (s.start - cursor) rest
    let (_, rest) ← Text.splitAtByte? (s.stop - s.start) rest
    applySplicesAux (s.replacement.reverse ++ (kept.reverse ++ acc)) s.stop rest ss

/-- `source` with the splices applied in the order of their places. -/
def applySplices? (source : Text) (splices : List Splice) : Option Text :=
  applySplicesAux [] 0 source (splices.mergeSort Splice.before)

/-- The splices for one changed key among the directives `ds`. -/
def changeSplices (ds : List Directive) : Text × Option Text → List Splice
  | (key, none) =>
    (ds.filter (fun d => d.key == key)).map fun d => ⟨d.line.start, d.line.next, []⟩
  | (key, some value) =>
    match ds.find? (fun d => d.key == key) with
    | none => []
    | some d =>
      [⟨d.valueStart, d.valueStop, if d.hasSeparator then value else ' ' :: value⟩]

/-- The directive line that declares `value` for `key`. -/
def addedLine (terminator : Text) : Text × Text → Text
  | (key, value) => (DirectiveText.mk key [' '] value).write ++ terminator

/-- The additions whose key is not among `present`. -/
def missingAdditions (present : List Text) (additions : List (Text × Text)) :
    List (Text × Text) :=
  additions.filter fun a => !present.contains a.1

/-- The splices that carry out `edits` on a script with directives `ds`
and the header `span`. -/
def editSplices (source : Text) (span : Span) (edits : Edits) : List Splice :=
  let ds := directives source
  let present := (ds.map (·.key)).filter fun k => !edits.removedKeys.contains k
  let added := (missingAdditions present edits.additions.entries).map
    (addedLine (span.lineTerminator source))
  edits.changes.entries.flatMap (changeSplices ds) ++
    if added.isEmpty then []
    else [⟨span.closingLineStart, span.closingLineStart, added.flatten⟩]

/-- `source` with `edits` applied to its header. A text without a header
stays as it is. -/
def rewrite (source : Text) (edits : Edits) : Text :=
  match locate source with
  | none => source
  | some span => (applySplices? source (editSplices source span edits)).getD source

end ScriptGate.Header
