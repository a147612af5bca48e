/-!
# Numerals

Reading numerals digit by digit, for the formats that contain them.

* `Text.digitValue?`: the value of a digit in a base up to sixteen;
* `Text.number`: the number that a list of digit values denotes;
* `Text.decimalFloat`: the double nearest to a decimal;
* `Significand.toFloat`: a double close to a decimal, found by arithmetic on doubles.
-/

namespace Switchboard.Text

/-- The value of a hexadecimal digit. -/
def hexValue? (c : Char) : Option Nat :=
  if '0' ≤ c && c ≤ '9' then some (c.toNat - '0'.toNat)
  else if 'a' ≤ c && c ≤ 'f' then some (c.toNat - 'a'.toNat + 10)
  else if 'A' ≤ c && c ≤ 'F' then some (c.toNat - 'A'.toNat + 10)
  else none

/-- The value of a digit in a base up to sixteen. -/
def digitValue? (base : Nat) (c : Char) : Option Nat :=
  (hexValue? c).filter (· < base)

/-- A decimal digit. -/
def isDigit (c : Char) : Bool := '0' ≤ c && c ≤ '9'

/-- The number that digits denote, the most significant first. -/
def number (base : Nat) (digits : List Nat) : Nat :=
  digits.foldl (fun n d => n * base + d) 0

/-- The number written by these digits; nothing if there is none or one is no digit of the base. -/
def number? (base : Nat) (cs : List Char) : Option Nat :=
  if cs.isEmpty then none else (cs.mapM (digitValue? base)).map (number base)

/-- The double nearest to `whole.fraction · 10 ^ exponent`, given by its digits. What is far beyond
the largest and the smallest double is told by the place of the first digit that is not zero. -/
def decimalFloat (negative : Bool) (whole fraction : List Char) (exponent : Int) : Float :=
  let digits := ((whole ++ fraction).map fun c => (digitValue? 10 c).getD 0).dropWhile (· = 0)
  let shift := exponent - fraction.length
  let place := shift + digits.length
  let magnitude :=
    if digits.isEmpty ∨ place < -400 then 0
    else if 400 < place then 1.0 / 0.0
    else Float.ofScientific (number 10 digits) (shift < 0) shift.natAbs
  if negative then -magnitude else magnitude

/-- The digits of a decimal that fit into 64 bits, and the power of ten that they are to be taken
by. Once a digit has not fitted, the significand is full. -/
structure Significand where
  digits : Nat
  exponent : Int
  full : Bool

namespace Significand

/-- Adds a digit before the point. One that does not fit counts as a zero. -/
def addWhole (s : Significand) (d : Nat) : Significand :=
  if !s.full && s.digits * 10 + d < Nat.pow 2 64 then { s with digits := s.digits * 10 + d }
  else { s with exponent := s.exponent + 1, full := true }

/-- Adds a digit behind the point. From the first that does not fit on they do not count. -/
def addFraction (s : Significand) (d : Nat) : Significand :=
  if !s.full && s.digits * 10 + d < Nat.pow 2 64 then
    { s with digits := s.digits * 10 + d, exponent := s.exponent - 1 }
  else { s with full := true }

/-- The significand of the digits before and behind the point. -/
def ofDigits (whole fraction : List Char) : Significand :=
  let value := fun c => (digitValue? 10 c).getD 0
  let s := (whole.map value).foldl addWhole ⟨0, 0, false⟩
  (fraction.map value).foldl addFraction { s with full := false }

/-- A double times a power of ten, in steps for which the power of ten is a double. -/
def scale (x : Float) (exponent : Int) : Float :=
  if exponent < -308 then
    if x == 0 then x else scale (x / Float.ofScientific 1 false 308) (exponent + 308)
  else if exponent < 0 then x / Float.ofScientific 1 false exponent.natAbs
  else if exponent ≤ 308 then x * Float.ofScientific 1 false exponent.natAbs
  else if x == 0 then x
  else x / 0
termination_by exponent.natAbs
decreasing_by omega

/-- The double that the significand comes to by arithmetic on doubles, which rounds at every step.
It may be one of the two next to the nearest one. -/
def toFloat (s : Significand) (negative : Bool) (exponent : Int) : Float :=
  let magnitude := scale (Float.ofScientific s.digits false 0) (s.exponent + exponent)
  if negative then -magnitude else magnitude

end Significand

/-- Splits off the longest run of decimal digits. -/
def spanDigits (cs : List Char) : List Char × List Char := cs.span isDigit

example : number? 10 ['0', '4', '2'] = some 42 ∧ number? 16 ['f', 'F'] = some 255 := by decide

end Switchboard.Text
