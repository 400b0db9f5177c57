import ScriptGate.Version.Order

/-!
# `ScriptGate.Version.Successor`: the version after a version

A version of fewer than four segments gets a build segment of its own:
it is filled up with `0` to three segments and `1` follows. A longer
version keeps everything but the last run of digits of its last segment,
which is counted up by one; a segment without digits gets a `1` at its
end.
-/

set_option autoImplicit false

namespace ScriptGate.Version

/-- One more than a decimal number given backwards. The nines at its end
become zeros, and the digit before them, or a new one, is raised. -/
def incrementReversed (digits : Text) : Text :=
  let nines := digits.takeWhile (· == '9')
  List.replicate nines.length '0' ++
    match digits.dropWhile (· == '9') with
    | [] => ['1']
    | d :: ds => Char.ofNat (d.toNat + 1) :: ds

/-- One more than a decimal number of any length. -/
def increment (digits : Text) : Text := (incrementReversed digits.reverse).reverse

/-- A segment around its last run of digits: the text before the run,
the run, and the text after it. -/
def lastDigitRun (segment : Text) : Text × Text × Text :=
  let r := segment.reverse
  let rest := r.dropWhile (fun c => !Text.isDigit c)
  ((rest.dropWhile Text.isDigit).reverse, (rest.takeWhile Text.isDigit).reverse,
    (r.takeWhile (fun c => !Text.isDigit c)).reverse)

/-- The segment with its last run of digits counted up by one. -/
def bump (segment : Text) : Text :=
  match lastDigitRun segment with
  | (_, [], _) => segment ++ ['1']
  | (before, run, after) => before ++ increment run ++ after

/-- The version that follows `version`. -/
def next (version : Text) : Text :=
  let ss := segments version
  let ss' :=
    if ss.length < 4 then ss ++ List.replicate (3 - ss.length) zeroSegment ++ [['1']]
    else ss.dropLast ++ (ss.getLast?.map bump).toList
  List.intercalate ['.'] ss'

end ScriptGate.Version
