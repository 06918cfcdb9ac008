/-!
# The shortest decimal for a binary number

A double is `m · 2 ^ q`. The reals that round to it form an interval whose ends belong to it when
`m` is even. Of the decimals in that interval, those with the fewest digits are meant, and of
these the nearest to the number.

If the interval holds a multiple of `10 ^ k`, it holds one of the two multiples next to the
number, so `Decimal.shortest` tries these two for ever finer `10 ^ k`. All is exact arithmetic on
natural numbers.
-/

namespace TagText

namespace Decimal

/-- Which of two decimals at the same distance is taken. -/
inductive Tie where
  | up
  | even

/-- A positive binary number `mantissa · 2 ^ exponent`. `boundary` says that the next smaller
double is only half as far as the next greater one. -/
structure Binary where
  mantissa : Nat
  exponent : Int
  boundary : Bool

/-- A decimal `digits · 10 ^ exponent`. -/
structure Scaled where
  digits : Nat
  exponent : Int

/-- The number of decimal digits of `n`. -/
def digitCount (n : Nat) : Nat := (Nat.toDigits 10 n).length

/-- The greatest `e` with `10 ^ e ≤ num / den`, for positive `num` and `den`. -/
def leadingExponent (num den : Nat) : Int :=
  if den ≤ num then (digitCount (num / den) : Int) - 1
  else -(digitCount ((den + num - 1) / num - 1) : Int)

/-- `x · base ^ n` for a natural `n`, and `x` for a negative one. -/
def scaleUp (x base : Nat) (n : Int) : Nat := x * Nat.pow base n.toNat

/-- The multiple of `10 ^ k` that reads back as `b` and is nearest to it, if there is one. -/
def onGrid (tie : Tie) (b : Binary) (k : Int) : Option Scaled :=
  -- in units of a quarter of the last binary place, and over the common denominator `den`
  let unit := scaleUp (scaleUp 1 2 (b.exponent - 2)) 10 (-k)
  let den := scaleUp (scaleUp 1 2 (2 - b.exponent)) 10 k
  let value := 4 * b.mantissa * unit
  let low := value - (if b.boundary then 1 else 2) * unit
  let high := value + 2 * unit
  let inside (d : Nat) : Bool :=
    if b.mantissa % 2 = 0 then low ≤ d * den && d * den ≤ high
    else low < d * den && d * den < high
  let d := value / den
  let upper : Bool :=
    if 2 * value < (2 * d + 1) * den then false
    else if (2 * d + 1) * den < 2 * value then true
    else match tie with
      | .up => true
      | .even => d % 2 = 1
  let nearer := if upper then d + 1 else d
  let other := if upper then d else d + 1
  if inside nearer then some ⟨nearer, k⟩
  else if inside other then some ⟨other, k⟩
  else none

/-- The first hit on the grids `10 ^ k`, `10 ^ (k - 1)`, and so on, of `n` grids. -/
def firstHit (tie : Tie) (b : Binary) (k : Int) : Nat → Option Scaled
  | 0 => none
  | n + 1 =>
    match onGrid tie b k with
    | some s => some s
    | none => firstHit tie b (k - 1) n

/-- The decimal with the fewest digits that reads back as `b`, the nearest of these. Seventeen
digits are always enough for a double. -/
def shortest (tie : Tie) (b : Binary) : Scaled :=
  let num := b.mantissa * scaleUp 1 2 b.exponent
  let den := scaleUp 1 2 (-b.exponent)
  (firstHit tie b (leadingExponent num den) 17).getD ⟨0, 0⟩

end Decimal

/-- What a double is. -/
inductive Double where
  | nan
  | infinite (negative : Bool)
  | zero (negative : Bool)
  | finite (negative : Bool) (size : Decimal.Binary)

namespace Double

/-- The values of the fifty-two bits of fraction, which are the lowest. -/
def fractions : Nat := 0x10000000000000

/-- The values of the eleven bits of exponent, which are the next. -/
def exponents : Nat := 0x800

/-- The parts of a double, from its bits: the sign is the highest of them. -/
def ofFloat (x : Float) : Double :=
  let bits := x.toBits.toNat
  let negative := fractions * exponents ≤ bits
  let biased : Nat := bits / fractions % exponents
  let fraction := bits % fractions
  if biased = 2047 then if fraction = 0 then .infinite negative else .nan
  else if biased = 0 then
    if fraction = 0 then .zero negative else .finite negative ⟨fraction, -1074, false⟩
  else
    .finite negative
      ⟨fractions + fraction, (biased : Int) - 1075, decide (fraction = 0) && decide (1 < biased)⟩

end Double

end TagText
