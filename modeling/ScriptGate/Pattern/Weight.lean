import ScriptGate.Pattern.Basic

/-!
# `ScriptGate.Pattern.Weight`: how large a pattern is

Patterns from outside are limited in two ways, by their nesting and by
their weight, which counts every round of a bounded repetition. The
weight of a set grows with the number of byte sequences that it takes to
write its members in UTF-8.
-/

set_option autoImplicit false

namespace ScriptGate

/-- What one state of a matching automaton weighs. -/
def stateWeight : Nat := 32

/-- The number of automaton states for one character of the set. -/
def CharSet.states : CharSet → Nat
  | range low high => if high.toNat < 128 then 1 else if low = high then 3 else 8
  | digit => 120
  | blank => 12
  | word => 1800
  | letter => 1500
  | none => 1
  | complement s => s.states + 8
  | union s t => s.states + t.states
  | inter s t => s.states + t.states
  | folded s => s.states + 1

namespace Pattern

/-- The weight of a pattern. A repetition without bound counts its
required rounds and one more. -/
def weight : Pattern → Nat
  | empty => stateWeight
  | char s => s.states * stateWeight
  | assert _ => stateWeight
  | seq p q => p.weight + q.weight
  | alt p q => p.weight + q.weight + stateWeight
  | rep least most _ p =>
    match most with
    | none => max least 1 * p.weight + stateWeight
    | some most => least * p.weight + (most - least) * (p.weight + stateWeight)

/-- The weight up to which patterns are accepted. -/
def maxWeight : Nat := 10 * Nat.pow 2 20

end Pattern
end ScriptGate
