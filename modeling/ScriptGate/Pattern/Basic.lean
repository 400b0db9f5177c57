import ScriptGate.Text.Blank
import ScriptGate.Unicode.Word
import ScriptGate.Unicode.Fold

/-!
# `ScriptGate.Pattern.Basic`: regular expressions

`CharSet` describes one character, `Assertion` a place between two
characters, and `Pattern` a stretch of text. Everything that flags say
about a pattern is settled in it: letters without regard to case are
`CharSet.folded` sets, and the three kinds of line ends are assertions
of their own.
-/

set_option autoImplicit false

namespace ScriptGate

/-- A set of characters. -/
inductive CharSet where
  /-- The characters from `low` to `high`. -/
  | range (low high : Char)
  /-- Decimal digits of any script. -/
  | digit
  /-- White space. -/
  | blank
  /-- Characters of words. -/
  | word
  /-- Letters. -/
  | letter
  /-- No character. -/
  | none
  /-- The characters outside a set. -/
  | complement (s : CharSet)
  /-- The characters of either set. -/
  | union (s t : CharSet)
  /-- The characters of both sets. -/
  | inter (s t : CharSet)
  /-- The characters that differ only in case from one of the set. -/
  | folded (s : CharSet)
  deriving DecidableEq, Repr

namespace CharSet

/-- Whether `c` is a character of words. -/
def isWord (c : Char) : Bool :=
  if c.toNat < 128 then c.isAlphanum || c == '_' else Unicode.wordTable.contains c

/-- Whether `c` belongs to the set. -/
def contains : CharSet → Char → Bool
  | range low high, c => low ≤ c && c ≤ high
  | digit, c => if c.toNat < 128 then c.isDigit else Unicode.decimalTable.contains c
  | blank, c => Text.isBlank c
  | word, c => isWord c
  | letter, c => if c.toNat < 128 then c.isAlpha else Unicode.letterTable.contains c
  | none, _ => false
  | complement s, c => !s.contains c
  | union s t, c => s.contains c || t.contains c
  | inter s t, c => s.contains c && t.contains c
  | folded s, c => (Unicode.caseVariants c).any s.contains

/-- The set of one character. -/
def single (c : Char) : CharSet := range c c

/-- The union of a list of sets. -/
def unions : List CharSet → CharSet
  | [] => none
  | [s] => s
  | s :: ss => union s (unions ss)

end CharSet

/-- A condition on a place in a text. -/
inductive Assertion where
  /-- The text begins here. -/
  | textStart
  /-- The text ends here. -/
  | textEnd
  /-- A line begins here; a line feed ends lines. -/
  | lineStart
  /-- A line ends here; a line feed ends lines. -/
  | lineEnd
  /-- A line begins here; carriage returns end lines too. -/
  | returnLineStart
  /-- A line ends here; carriage returns end lines too. -/
  | returnLineEnd
  /-- A word begins or ends here. -/
  | wordBoundary
  /-- No word begins or ends here. -/
  | notWordBoundary
  /-- A word begins here. -/
  | wordStart
  /-- A word ends here. -/
  | wordEnd
  /-- No character of words comes before. -/
  | wordStartHalf
  /-- No character of words comes after. -/
  | wordEndHalf
  deriving DecidableEq, Repr

/-- Whether the assertion holds between the characters `before` and
`after`; either is missing at an end of the text. -/
def Assertion.holds (before after : Option Char) : Assertion → Bool
  | textStart => before.isNone
  | textEnd => after.isNone
  | lineStart => before.isNone || before == some '\n'
  | lineEnd => after.isNone || after == some '\n'
  | returnLineStart =>
    before.isNone || before == some '\n' || (before == some '\r' && after != some '\n')
  | returnLineEnd =>
    after.isNone || after == some '\r' || (after == some '\n' && before != some '\r')
  | wordBoundary => before.any CharSet.isWord != after.any CharSet.isWord
  | notWordBoundary => before.any CharSet.isWord == after.any CharSet.isWord
  | wordStart => !before.any CharSet.isWord && after.any CharSet.isWord
  | wordEnd => before.any CharSet.isWord && !after.any CharSet.isWord
  | wordStartHalf => !before.any CharSet.isWord
  | wordEndHalf => !after.any CharSet.isWord

/-- A regular expression. -/
inductive Pattern where
  /-- The empty text. -/
  | empty
  /-- One character of a set. -/
  | char (s : CharSet)
  /-- The empty text where a condition holds. -/
  | assert (a : Assertion)
  /-- One pattern after the other. -/
  | seq (p q : Pattern)
  /-- The first pattern or, failing it, the second. -/
  | alt (p q : Pattern)
  /-- A pattern from `least` times up to `most` times, where `none` is
  without bound: as often as possible if `greedy`, else as seldom. -/
  | rep (least : Nat) (most : Option Nat) (greedy : Bool) (p : Pattern)
  deriving DecidableEq, Repr

end ScriptGate
