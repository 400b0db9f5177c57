import ScriptGate.Header.Span
import ScriptGate.Text.Blank

/-!
# `ScriptGate.Header.Directive`: the directives of a header

A directive is a header line of the form `// @key` or
`// @key separator value`. The key is a non-empty run of characters
other than white space, the separator a non-empty run of white space,
and the value is the rest of the line, which may be empty.

`DirectiveText.read?` splits one line content into these parts and
`DirectiveText.write` puts them together again; `write_of_read?` says
that the second undoes the first. `directives` lists the directives of
a script in the order of their lines.
-/

set_option autoImplicit false

namespace ScriptGate.Header

open Text (Line)

/-- The parts of one directive. -/
structure DirectiveText where
  /-- The name after the at sign. -/
  key : Text
  /-- The white space after the key, empty when nothing follows it. -/
  separator : Text
  /-- What follows the separator. -/
  value : Text
  deriving DecidableEq, Repr

namespace DirectiveText

/-- The characters in front of a key. -/
def mark : Text := ['/', '/', ' ', '@']

/-- The line content that the parts make up. -/
def write (d : DirectiveText) : Text := mark ++ d.key ++ d.separator ++ d.value

/-- The directive that a line content is, if it is one. -/
def read? (content : Text) : Option DirectiveText :=
  match Text.dropStart? mark content with
  | none => none
  | some rest =>
    let key := rest.takeWhile (fun c => !Text.isBlank c)
    let tail := rest.dropWhile (fun c => !Text.isBlank c)
    if key = [] then none
    else some ⟨key, tail.takeWhile Text.isBlank, tail.dropWhile Text.isBlank⟩

/-- What was read is what stands in the line. -/
theorem write_of_read? {content : Text} {d : DirectiveText} (h : read? content = some d) :
    d.write = content := by
  unfold read? Text.dropStart? at h
  split at h
  · simp at h
  · rename_i rest hrest
    split at hrest
    · rename_i hp
      obtain ⟨rest', rfl⟩ := List.isPrefixOf_iff_prefix.mp hp
      simp only [List.drop_left, Option.some.injEq] at hrest
      subst hrest
      dsimp only at h
      split at h
      · simp at h
      · simp only [Option.some.injEq] at h
        subst h
        simp [write]
    · simp at hrest

end DirectiveText

/-- A directive in its place in the script. -/
structure Directive extends DirectiveText where
  /-- The line that holds the directive. -/
  line : Line
  deriving DecidableEq, Repr

namespace Directive

/-- Offset of the first byte of the value. On a line that ends with its
key the value is the empty text at the end of the line. -/
def valueStart (d : Directive) : Nat :=
  d.line.start + Text.byteLength DirectiveText.mark + Text.byteLength d.key +
    Text.byteLength d.separator

/-- Offset right after the value, which is the end of the line. -/
def valueStop (d : Directive) : Nat := d.line.contentEnd

/-- Whether white space separates the key from a value. -/
def hasSeparator (d : Directive) : Bool := d.separator ≠ []

/-- The directive on line `l`, if there is one. -/
def ofLine? (l : Line) : Option Directive :=
  (DirectiveText.read? l.content).map fun d => { toDirectiveText := d, line := l }

end Directive

/-- The directives of `source`, in the order of their lines. A script
without a header has none. -/
def directives (source : Text) : List Directive :=
  match locate source with
  | none => []
  | some span =>
    ((Text.lines source).filter fun l =>
      span.start < l.start && l.start < span.closingLineStart).filterMap Directive.ofLine?

end ScriptGate.Header
