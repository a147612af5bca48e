/-!
# The shortest decimal of a double

A finite positive double is `m · 2 ^ q` for natural `m` and integral `q`; the reals that round to
it form an interval around it, which contains its ends exactly if `m` is even. `Binary.shortest`
picks, among the decimals in that interval, one with the fewest digits and of those the nearest;
halfway between two it takes the even digit.

For each number of digits from one up to seventeen only the two neighbours of the value on the
decimal grid of that length have to be tried, since if any point of the grid lies in the interval
then one of those two does. All arithmetic is exact, on natural numbers.
-/

namespace Switchboard

/-- The number `significand · 10 ^ exponent`. -/
structure Decimal where
  significand : Nat
  exponent : Int
deriving DecidableEq, Repr

namespace Decimal

/-- The number of decimal digits of a natural number; zero has one. -/
def digitCount (n : Nat) : Nat := (Nat.toDigits 10 n).length

/-- Moves trailing zeros of the significand into the exponent, at most `fuel` of them. -/
def trim : Nat → Decimal → Decimal
  | 0, d => d
  | fuel + 1, d =>
    if d.significand ≠ 0 ∧ d.significand % 10 = 0 then
      trim fuel ⟨d.significand / 10, d.exponent + 1⟩
    else d

end Decimal

/-- The positive number `mantissa · 2 ^ exponent`; `gapBelow` tells that the next smaller double is
only half as far away as the next greater one. -/
structure Binary where
  mantissa : Nat
  exponent : Int
  gapBelow : Bool
deriving DecidableEq, Repr

namespace Binary

/-- The finite positive double with these bits; the sign bit is ignored. -/
def ofBits (bits : Nat) : Binary :=
  let fraction : Nat := bits % Nat.pow 2 52
  let biased : Nat := bits / Nat.pow 2 52 % Nat.pow 2 11
  if biased = 0 then ⟨fraction, -1074, false⟩
  else ⟨Nat.pow 2 52 + fraction, (biased : Int) - 1075, fraction = 0 && 1 < biased⟩

/-- Numerators of the value and of both ends of its interval, over one denominator. -/
structure Interval where
  low : Nat
  value : Nat
  high : Nat
  denominator : Nat
  closed : Bool

/-- The interval of the reals that round to the number. -/
def interval (b : Binary) : Interval :=
  let up := Nat.pow 2 (b.exponent - 2).toNat
  let down := Nat.pow 2 (2 - b.exponent).toNat
  { low := (4 * b.mantissa - if b.gapBelow then 1 else 2) * up
    value := 4 * b.mantissa * up
    high := (4 * b.mantissa + 2) * up
    denominator := down
    closed := b.mantissa % 2 = 0 }

/-- The exponent of the leading decimal digit of a positive fraction. -/
def leadingExponent (numerator denominator : Nat) : Int :=
  if denominator ≤ numerator then (Decimal.digitCount (numerator / denominator) : Int) - 1
  else -(Decimal.digitCount ((denominator + numerator - 1) / numerator - 1) : Int)

/-- Whether `c · 10 ^ k` lies in the interval, given the scaled numerators. -/
def Interval.holds (i : Interval) (c up down : Nat) : Bool :=
  let point := c * up * i.denominator
  if i.closed then i.low * down ≤ point && point ≤ i.high * down
  else i.low * down < point && point < i.high * down

/-- The decimal of the interval on the grid of multiples of `10 ^ k` that is nearest to the value;
halfway between two it is the even one. -/
def Interval.onGrid (i : Interval) (k : Int) : Option Decimal :=
  let up := Nat.pow 10 k.toNat
  let down := Nat.pow 10 (-k).toNat
  let unit := up * i.denominator
  let scaled := i.value * down
  let c := scaled / unit
  let rest := scaled % unit
  match i.holds c up down, i.holds (c + 1) up down with
  | true, true =>
    if 2 * rest < unit || (2 * rest = unit && c % 2 = 0) then some ⟨c, k⟩ else some ⟨c + 1, k⟩
  | true, false => some ⟨c, k⟩
  | false, true => some ⟨c + 1, k⟩
  | false, false => none

/-- The shortest decimal that rounds to the number, and of those the nearest. -/
def shortest (b : Binary) : Decimal :=
  if b.mantissa = 0 then ⟨0, 0⟩
  else
    let i := b.interval
    let lead := leadingExponent i.value i.denominator
    let found := (List.range 17).findSome? fun (n : Nat) => i.onGrid (lead - n)
    Decimal.trim 20 (found.getD ⟨0, 0⟩)

end Binary

end Switchboard
