import ScriptGate.Text.Lines

/-!
# `ScriptGate.Header.Span`: where the header of a script lies

The header runs from the first line that says exactly
`// ==UserScript==` to the first line after it that says exactly
`// ==/UserScript==`. `locate` returns its byte span, which ends right
after the closing marker and leaves that line's terminator outside.

`split` gives the text on both sides of the span, `body` joins them and
`metaBlock` is the header as a text of its own.
-/

set_option autoImplicit false

namespace ScriptGate.Header

open Text (Line)

/-- The line that opens a header. -/
def openingMarker : Text := "// ==UserScript==".toList

/-- The line that closes a header. -/
def closingMarker : Text := "// ==/UserScript==".toList

/-- A byte span of a script. -/
structure Span where
  /-- Offset of the first byte. -/
  start : Nat
  /-- Offset right after the last byte. -/
  stop : Nat
  deriving DecidableEq, Repr

/-- The opening and the closing line of the header among `ls`. -/
def markerLines (ls : List Line) : Option (Line × Line) :=
  match ls.dropWhile (fun l => l.content != openingMarker) with
  | [] => none
  | opening :: rest => (rest.find? (fun l => l.content == closingMarker)).map (opening, ·)

/-- The span of the header of `source`. -/
def locate (source : Text) : Option Span :=
  (markerLines (Text.lines source)).map fun (opening, closing) =>
    ⟨opening.start, closing.contentEnd⟩

namespace Span

/-- The header from its opening marker through its closing marker. -/
def text (span : Span) (source : Text) : Text :=
  (Text.slice? source span.start span.stop).getD []

/-- Offset of the first byte of the closing marker. -/
def closingLineStart (span : Span) : Nat :=
  span.stop - Text.byteLength closingMarker

/-- The terminator that the header uses: the one of its first line. -/
def lineTerminator (span : Span) (source : Text) : Text :=
  match (Text.chunks (span.text source)).head?.map List.reverse with
  | some ('\n' :: '\r' :: _) => ['\r', '\n']
  | _ => ['\n']

end Span

/-- The text before the header and the text after its closing marker.
Without a header all of `source` comes before it. -/
def split (source : Text) : Text × Text :=
  match locate source with
  | none => (source, [])
  | some span =>
    ((Text.splitAtByte? span.start source).elim source Prod.fst,
      (Text.splitAtByte? span.stop source).elim [] Prod.snd)

/-- The script without its header. -/
def body (source : Text) : Text :=
  let (before, after) := split source
  before ++ after

/-- The line terminator that `t` begins with, if it begins with one. -/
def leadingTerminator : Text → Text
  | '\r' :: '\n' :: _ => ['\r', '\n']
  | '\n' :: _ => ['\n']
  | _ => []

/-- The header as a text of its own, with the terminator that follows
the closing marker in `source`. -/
def metaBlock (source : Text) : Option Text := do
  let span ← locate source
  pure (span.text source ++ leadingTerminator (split source).2)

end ScriptGate.Header
