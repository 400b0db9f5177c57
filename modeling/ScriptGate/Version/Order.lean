import ScriptGate.Text.Basic

/-!
# `ScriptGate.Version.Order`: the order of versions

A version is any text. It is compared segment by segment between its
dots, and a segment that is missing counts as `0`, so that `1` and `1.0`
are equal. A segment is a row of tokens, its maximal runs of digits and
of other characters: numbers compare by value whatever their length,
words by code points, and a word comes before a number.
-/

set_option autoImplicit false

namespace ScriptGate.Version

/-- A maximal run of one kind inside a segment. -/
inductive Token where
  /-- A run without digits. -/
  | word (text : Text)
  /-- A run of digits, without its leading zeros. -/
  | number (digits : Text)
  deriving DecidableEq, Repr

namespace Token

/-- Numbers without leading zeros compare by length, then digit by
digit. -/
def compare : Token → Token → Ordering
  | word a, word b => List.compareLex Ord.compare a b
  | word _, number _ => .lt
  | number _, word _ => .gt
  | number a, number b =>
    (Ord.compare a.length b.length).then (List.compareLex Ord.compare a b)

end Token

/-- The maximal runs of digits and of other characters, each with
whether it holds digits. -/
def runs (segment : Text) : List (Bool × Text) :=
  segment.foldr
    (fun c rs =>
      match rs with
      | [] => [(Text.isDigit c, [c])]
      | (k, r) :: rest =>
        if k = Text.isDigit c then (k, c :: r) :: rest else (Text.isDigit c, [c]) :: rs)
    []

/-- The token of one run. -/
def tokenOfRun : Bool × Text → Token
  | (true, r) => .number (r.dropWhile (· == '0'))
  | (false, r) => .word r

/-- The tokens of a segment. -/
def tokens (segment : Text) : List Token := (runs segment).map tokenOfRun

/-- The texts between the dots of `version`. -/
def segments (version : Text) : List Text := version.splitOn '.'

/-- The segment that stands for a missing one. -/
def zeroSegment : Text := ['0']

/-- The order of two segments. -/
def compareSegment (a b : Text) : Ordering :=
  List.compareLex Token.compare (tokens a) (tokens b)

/-- The order of no segments and a row of segments. -/
def compareNil : List Text → Ordering
  | [] => .eq
  | b :: bs => (compareSegment zeroSegment b).then (compareNil bs)

/-- The order of two rows of segments. -/
def compareSegments : List Text → List Text → Ordering
  | [], bs => compareNil bs
  | a :: as, [] => (compareSegment a zeroSegment).then (compareSegments as [])
  | a :: as, b :: bs => (compareSegment a b).then (compareSegments as bs)

/-- The order of two versions. -/
def compare (a b : Text) : Ordering := compareSegments (segments a) (segments b)

/-- Whether `candidate` comes strictly after `previous`. -/
def isNewer (candidate previous : Text) : Bool := compare candidate previous == .gt

/-- `versions` in ascending order, equal ones in their given order. -/
def sort (versions : List Text) : List Text :=
  versions.mergeSort fun a b => compare a b != .gt

end ScriptGate.Version
