import ScriptGate.Pattern.Basic

/-!
# `ScriptGate.Pattern.Matcher`: where a pattern matches

`ends p input i` lists the places where a match of `p` that begins at
`i` can end, in order of preference and each once. The first of them is
the match, because whatever follows `p` depends on nothing but that
place. So a sequence tries the ends of its first part in order, an
alternative puts the ends of its first branch in front, and a repetition
is a search, depth first, over the places reached after each round.

The search never visits a place twice with the same number of rounds
behind it, which keeps it finite where the repeated pattern matches the
empty text, and fast where it matches the same stretch in many ways.
Places seen are the bits of a natural number, counted from `i`.
-/

set_option autoImplicit false

namespace ScriptGate.Pattern

/-- A text in which patterns are looked for. -/
abbrev Input := Array Char

/-- Whether an assertion holds at place `i`. -/
def holdsAt (input : Input) (i : Nat) (a : Assertion) : Bool :=
  a.holds (if i = 0 then none else input[i - 1]?) input[i]?

/-- The places of `js` that are not among `seen`, each once, in front of
those kept reversed in `acc`. -/
def distinctAux (base : Nat) (seen : Nat) (acc : List Nat) : List Nat → List Nat
  | [] => acc.reverse
  | j :: js =>
    if seen.testBit (j - base) then distinctAux base seen acc js
    else distinctAux base (seen ||| 1 <<< (j - base)) (j :: acc) js

/-- The places of `js`, each once. No place lies before `base`. -/
def distinct (base : Nat) : List Nat → List Nat
  | [] => []
  | [j] => [j]
  | js => distinctAux base 0 [] js

/-- What is still to do in the search for repetitions. -/
inductive Visit where
  /-- Try another round at place `j` after `rounds` of them. -/
  | enter (rounds j : Nat)
  /-- Stop at place `j`. -/
  | leave (j : Nat)

/-- The visits that follow one at place `j`: another round to each place
of `next`, and stopping. A round that stays at `j` without bound on the
rounds stops there. -/
def visitsAfter (bounded greedy : Bool) (rounds j : Nat) (next : List Nat) : List Visit :=
  let again := next.map fun k =>
    if bounded then Visit.enter (rounds + 1) k
    else if k = j then Visit.leave j else Visit.enter 0 k
  if greedy then again ++ [.leave j] else .leave j :: again

/-- Carries out visits in order. `width` is more than the distance of
any place from `base`. The places left so far are kept reversed in
`acc`. -/
def explore (step : Nat → List Nat) (most : Option Nat) (greedy : Bool) (base width : Nat) :
    Nat → List Visit → Nat → List Nat → List Nat
  | 0, _, _, acc => acc.reverse
  | _, [], _, acc => acc.reverse
  | fuel + 1, .leave j :: rest, seen, acc =>
    explore step most greedy base width fuel rest seen (j :: acc)
  | fuel + 1, .enter rounds j :: rest, seen, acc =>
    let mark := rounds * width + (j - base)
    if seen.testBit mark then explore step most greedy base width fuel rest seen acc
    else if most == some rounds then
      explore step most greedy base width fuel rest (seen ||| 1 <<< mark) (j :: acc)
    else
      explore step most greedy base width fuel
        (visitsAfter most.isSome greedy rounds j (step j) ++ rest) (seen ||| 1 <<< mark) acc

/-- Where up to `most` rounds of `step` from `i` on can end in an input
of length `size`. -/
def roundsFrom (step : Nat → List Nat) (most : Option Nat) (greedy : Bool) (size i : Nat) :
    List Nat :=
  let width := size + 1 - i
  let fuel := (most.getD 0 + 1) * width * (width + 2) + 1
  distinct i (explore step most greedy i width fuel [.enter 0 i] 0 [])

/-- Where exactly `n` rounds of `step` from one of `js` can end. -/
def roundsExactly (step : Nat → List Nat) (base : Nat) : Nat → List Nat → List Nat
  | 0, js => js
  | _, [] => []
  | n + 1, js => roundsExactly step base n (distinct base (js.flatMap step))

/-- The places where a match from `i` on can end, the preferred one
first. -/
def ends (input : Input) : Pattern → Nat → List Nat
  | empty, i => [i]
  | char s, i =>
    match input[i]? with
    | none => []
    | some c => if s.contains c then [i + 1] else []
  | assert a, i => if holdsAt input i a then [i] else []
  | seq p q, i => distinct i ((ends input p i).flatMap (ends input q))
  | alt p q, i => distinct i (ends input p i ++ ends input q i)
  | rep least most greedy p, i =>
    let step := ends input p
    let start := roundsExactly step i least [i]
    distinct i (start.flatMap fun j =>
      roundsFrom step (most.map (· - least)) greedy input.size j)

/-- The leftmost match that begins at `i` or at one of the `n` places
after it, from its start to its preferred end. -/
def findFrom (p : Pattern) (input : Input) : Nat → Nat → Option (Nat × Nat)
  | 0, i => (ends input p i).head?.map (i, ·)
  | n + 1, i =>
    match (ends input p i).head? with
    | some j => some (i, j)
    | none => findFrom p input n (i + 1)

/-- The leftmost match in the input, by places. -/
def find? (p : Pattern) (input : Input) : Option (Nat × Nat) := findFrom p input input.size 0

/-- Whether the pattern matches somewhere in `t`. -/
def isMatch (p : Pattern) (t : Text) : Bool := (p.find? t.toArray).isSome

/-- The byte span of the leftmost match in `t`. -/
def findSpan? (p : Pattern) (t : Text) : Option (Nat × Nat) :=
  (p.find? t.toArray).map fun (i, j) =>
    (Text.byteLength (t.take i), Text.byteLength (t.take j))

end ScriptGate.Pattern
