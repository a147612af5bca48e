import Switchboard.Decimal.Shortest
import Switchboard.Value.Basic

/-!
# Printing values

`Value.compact` writes a value as JSON without spaces. A double is written with the fewest digits
that read back to it; `Layout.value` says where they stand.
-/

namespace Switchboard

/-- How the digits of a decimal are laid out. -/
structure Layout where
  /-- The least exponent of the leading digit that is written positionally. -/
  positionalFrom : Int
  /-- The least exponent of the leading digit that is too great for positional notation. -/
  positionalBelow : Int
  /-- What stands before a positive exponent. -/
  positiveSign : String
  /-- Whether a whole number in positional notation ends in a point and a zero. -/
  keepsPoint : Bool

namespace Layout

/-- Values are written positionally from `1e-5` up to `1e16`, always with a digit after the point;
other exponents carry a sign. -/
def value : Layout := ⟨-5, 16, "+", true⟩

/-- The digits of a number with a point behind the first one. -/
def pointed (digits : List Char) : String :=
  match digits with
  | [] => "0"
  | [d] => d.toString
  | d :: rest => String.ofList (d :: '.' :: rest)

/-- Writes a decimal. -/
def render (layout : Layout) (d : Decimal) : String :=
  let digits := Nat.toDigits 10 d.significand
  let lead := d.exponent + digits.length - 1
  if d.significand = 0 then (if layout.keepsPoint then "0.0" else "0")
  else if layout.positionalFrom ≤ lead && lead < layout.positionalBelow then
    if 0 ≤ d.exponent then
      String.ofList (digits ++ List.replicate d.exponent.toNat '0') ++
        (if layout.keepsPoint then ".0" else "")
    else if 0 ≤ lead then
      String.ofList (digits.take (lead + 1).toNat) ++ "." ++
        String.ofList (digits.drop (lead + 1).toNat)
    else "0." ++ String.ofList (List.replicate (-lead - 1).toNat '0' ++ digits)
  else
    let sign := if lead < 0 then "-" else layout.positiveSign
    pointed digits ++ "e" ++ sign ++ toString lead.natAbs

/-- Writes a finite double. -/
def renderFloat (layout : Layout) (x : Float) : String :=
  let bits := x.toBits.toNat
  let text := layout.render (Binary.ofBits bits).shortest
  if Nat.pow 2 63 ≤ bits then "-" ++ text else text

end Layout

namespace Value

/-- The digits of a number below sixteen. -/
def hexDigit (n : Nat) : Char := Nat.digitChar n

/-- How a character is written inside a JSON string. -/
def escape (c : Char) : List Char :=
  if c = '"' then ['\\', '"']
  else if c = '\\' then ['\\', '\\']
  else if c = '\n' then ['\\', 'n']
  else if c = '\r' then ['\\', 'r']
  else if c = '\t' then ['\\', 't']
  else if c.toNat = 8 then ['\\', 'b']
  else if c.toNat = 12 then ['\\', 'f']
  else if c.toNat < 32 then
    ['\\', 'u', '0', '0', hexDigit (c.toNat / 16), hexDigit (c.toNat % 16)]
  else [c]

/-- A JSON string. -/
def quote (s : String) : String := "\"" ++ String.ofList (s.toList.flatMap escape) ++ "\""

/-- The text of a double; one that is not finite has none and is null. -/
def doubleText (x : Float) : String :=
  if x.isFinite then Layout.value.renderFloat x else "null"

mutual

/-- A value as JSON without spaces. -/
def compact : Value → String
  | .null => "null"
  | .bool b => if b then "true" else "false"
  | .int n => toString n
  | .double x => doubleText x
  | .string s => quote s
  | .array items => "[" ++ ",".intercalate (compactItems items) ++ "]"
  | .object fields => "\x7b" ++ ",".intercalate (compactFields fields) ++ "\x7d"

/-- The items of an array. -/
def compactItems : List Value → List String
  | [] => []
  | v :: rest => compact v :: compactItems rest

/-- The fields of an object. -/
def compactFields : List (String × Value) → List String
  | [] => []
  | (name, v) :: rest => (quote name ++ ":" ++ compact v) :: compactFields rest

end

end Value

end Switchboard
