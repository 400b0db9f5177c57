/-!
# `ScriptGate.Unicode.Table`: sets of characters by their boundaries

A set of code points is kept by the numbers at which membership
changes, in ascending order: the first member, the first non-member
after it, and so on. A code point belongs to the set exactly if the
number of boundaries at or below it is odd.
-/

set_option autoImplicit false

namespace ScriptGate.Unicode

/-- A set of code points by its boundaries. -/
structure RangeTable where
  /-- The boundaries in ascending order. -/
  boundaries : Array Nat

namespace RangeTable

/-- The number of boundaries at or below `n`, which lies between `low`
and `high`. Each step halves the gap. -/
def rank (t : RangeTable) (n : Nat) : Nat → Nat → Nat → Nat
  | 0, low, _ => low
  | fuel + 1, low, high =>
    if high ≤ low then low
    else
      let middle := (low + high) / 2
      if t.boundaries[middle]?.any (· ≤ n) then rank t n fuel (middle + 1) high
      else rank t n fuel low middle

/-- Whether `c` belongs to the set. -/
def contains (t : RangeTable) (c : Char) : Bool :=
  t.rank c.toNat (t.boundaries.size.log2 + 2) 0 t.boundaries.size % 2 == 1

end RangeTable
end ScriptGate.Unicode
