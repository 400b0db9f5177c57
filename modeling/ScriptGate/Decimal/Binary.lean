import ScriptGate.Text.Basic

/-!
# `ScriptGate.Decimal.Binary`: binary fractions and their shortest decimals

A `Binary` is `mantissa * 2 ^ exponent` with a mantissa below `2 ^ 53`
and an exponent from -1074 to 971. These are the non-negative finite
numbers of the 64-bit binary format, and all arithmetic here is exact on
natural numbers.

`ofQuotient?` rounds a quotient to the nearest such number, a tie to the
even mantissa. `shortest` is the way back: the fewest decimal digits
that round to the number again, and of those the nearest.
-/

set_option autoImplicit false

namespace ScriptGate.Decimal

/-- The number `mantissa * 2 ^ exponent`. -/
structure Binary where
  /-- The mantissa, below `2 ^ 53`. -/
  mantissa : Nat
  /-- The power of two, from -1074 to 971. -/
  exponent : Int
  deriving DecidableEq, Repr

namespace Binary

/-- `num / den` rounded to the nearest natural number, a tie to the even
one. -/
def roundQuotient (num den : Nat) : Nat :=
  let q := num / den
  let r := num % den
  if 2 * r < den then q else if den < 2 * r then q + 1 else q + q % 2

/-- `num / den` divided by `2 ^ e`, as a quotient again. -/
def scaled (num den : Nat) (e : Int) : Nat × Nat :=
  if 0 ≤ e then (num, den * Nat.pow 2 e.toNat) else (num * Nat.pow 2 (-e).toNat, den)

/-- The nearest binary fraction of a quotient; none when it is too
large. -/
def ofQuotient? (num den : Nat) : Option Binary :=
  if num = 0 then some ⟨0, 0⟩
  else
    let guess : Int := (num.log2 : Int) - den.log2 - 52
    let (n, d) := scaled num den guess
    let e := max (-1074) (if n / d < Nat.pow 2 52 then guess - 1 else guess)
    let (n, d) := scaled num den e
    let m := roundQuotient n d
    let b : Binary := if m = Nat.pow 2 53 then ⟨Nat.pow 2 52, e + 1⟩ else ⟨m, e⟩
    if b.exponent ≤ 971 then some b else none

/-- The number as a quotient of natural numbers. -/
def quotient (b : Binary) : Nat × Nat :=
  if 0 ≤ b.exponent then (b.mantissa * Nat.pow 2 b.exponent.toNat, 1)
  else (b.mantissa, Nat.pow 2 (-b.exponent).toNat)

/-- The binary fraction nearest to a product. -/
def mul? (a b : Binary) : Option Binary :=
  ofQuotient? (a.quotient.1 * b.quotient.1) (a.quotient.2 * b.quotient.2)

/-- The binary fraction nearest to a quotient, for a divisor that is not
zero. -/
def div? (a b : Binary) : Option Binary :=
  ofQuotient? (a.quotient.1 * b.quotient.2) (a.quotient.2 * b.quotient.1)

/-- The position of the leading decimal digit of `num / den`: the `k`
with `10 ^ k ≤ num / den < 10 ^ (k + 1)`. The quotient is at least
`10 ^ -fuel`. -/
def leadingPlace (fuel num den : Nat) : Int :=
  if den ≤ num then ((Text.decimal (num / den)).length : Int) - 1
  else
    match fuel with
    | 0 => 0
    | fuel + 1 => leadingPlace fuel (num * 10) den - 1

/-- `digits * 10 ^ place`. -/
structure Digits where
  /-- The decimal digits as a natural number. -/
  digits : Nat
  /-- The power of ten of the last digit. -/
  place : Int
  deriving DecidableEq, Repr

/-- Whether `d` rounds to `b`: it lies no farther away than halfway to
the neighbours, and exactly halfway only if `b` has an even mantissa. -/
def Digits.roundsTo (d : Digits) (b : Binary) : Bool :=
  let below := if b.mantissa = Nat.pow 2 52 ∧ -1074 < b.exponent then 1 else 2
  -- all three in units of a quarter of the last place of `b`
  let (n, q) := scaled 1 1 (b.exponent - 2)
  let (n, q) :=
    if 0 ≤ d.place then (d.digits * Nat.pow 10 d.place.toNat * n, q)
    else (d.digits * n, q * Nat.pow 10 (-d.place).toNat)
  let low := (4 * b.mantissa - below) * q
  let high := (4 * b.mantissa + 2) * q
  if b.mantissa % 2 = 0 then low ≤ n && n ≤ high else low < n && n < high

/-- The decimals of `width` digits next to `b` on both sides, the nearer
one first. -/
def neighbours (b : Binary) (width : Nat) : List Digits :=
  let (num, den) := b.quotient
  let place := leadingPlace 400 num den - width + 1
  let (n, d) :=
    if 0 ≤ place then (num, den * Nat.pow 10 place.toNat)
    else (num * Nat.pow 10 (-place).toNat, den)
  let low : Digits := ⟨n / d, place⟩
  let high : Digits := ⟨n / d + 1, place⟩
  if 2 * (n % d) ≤ d then [low, high] else [high, low]

/-- The shortest decimal that rounds to `b`. Seventeen digits always
do. -/
def shortest (b : Binary) : Digits :=
  if b.mantissa = 0 then ⟨0, 0⟩
  else
    ((List.range 17).findSome? fun i =>
      (neighbours b (i + 1)).find? fun d => d.roundsTo b).getD ⟨b.mantissa, 0⟩

/-- An exponent of ten, with a sign only below zero. -/
def exponentText (e : Int) : Text :=
  'e' :: (if e < 0 then '-' :: Text.decimal e.natAbs else Text.decimal e.natAbs)

/-- A decimal as it is written: with a point, and without an exponent as
long as the point stands at most sixteen places behind the first digit
or at most four zeros before it. -/
def Digits.text (d : Digits) : Text :=
  let ds := Text.decimal d.digits
  let point : Int := ds.length + d.place
  if 0 ≤ d.place ∧ point ≤ 16 then
    ds ++ List.replicate d.place.toNat '0' ++ ['.', '0']
  else if 0 < point ∧ point ≤ 16 then ds.take point.toNat ++ '.' :: ds.drop point.toNat
  else if -5 < point ∧ point ≤ 0 then
    '0' :: '.' :: (List.replicate (-point).toNat '0' ++ ds)
  else
    match ds with
    | [] => []
    | [d] => d :: exponentText (point - 1)
    | d :: rest => d :: '.' :: (rest ++ exponentText (point - 1))

end Binary
end ScriptGate.Decimal
