import Switchboard.Text.Number
import Switchboard.Value.Basic

/-!
# Reading values

`Value.parse?` reads one JSON value with nothing but space around it. A number without a point and
an exponent is an integer if it fits into 64 bits, except `-0`, which is a double; doubles are read
by arithmetic on doubles. Of two fields with one name the later counts.

Every reader takes the characters and gives back what it has read and the rest. Nesting is bounded
by the number of characters, which is what the fuel counts.
-/

namespace Switchboard.Value

/-- Drops the space between the parts of a value. -/
def skipSpace (cs : List Char) : List Char :=
  cs.dropWhile fun c => c = ' ' || c = '\n' || c = '\r' || c = '\t'

/-- Reads four hexadecimal digits. -/
def readHex4 : List Char → Option (Nat × List Char)
  | a :: b :: c :: d :: rest => (Text.number? 16 [a, b, c, d]).map (·, rest)
  | _ => none

/-- Reads the character named by an escape, without its backslash. A character above U+FFFF is
written as a surrogate pair; a surrogate alone is refused. -/
def readEscape : List Char → Option (Char × List Char)
  | '"' :: rest => some ('"', rest)
  | '\\' :: rest => some ('\\', rest)
  | '/' :: rest => some ('/', rest)
  | 'b' :: rest => some (Char.ofNat 8, rest)
  | 'f' :: rest => some (Char.ofNat 12, rest)
  | 'n' :: rest => some ('\n', rest)
  | 'r' :: rest => some ('\r', rest)
  | 't' :: rest => some ('\t', rest)
  | 'u' :: rest => do
    let (high, rest) ← readHex4 rest
    if 0xDC00 ≤ high && high < 0xE000 then none
    else if 0xD800 ≤ high && high < 0xDC00 then
      match rest with
      | '\\' :: 'u' :: rest =>
        let (low, rest) ← readHex4 rest
        if 0xDC00 ≤ low && low < 0xE000 then
          some (Char.ofNat (0x10000 + (high - 0xD800) * 0x400 + (low - 0xDC00)), rest)
        else none
      | _ => none
    else some (Char.ofNat high, rest)
  | _ => none

/-- Reads a string behind its opening quote, up to its closing quote. -/
def readString : Nat → List Char → Option (List Char × List Char)
  | 0, _ => none
  | _, [] => none
  | fuel + 1, c :: rest =>
    if c = '"' then some ([], rest)
    else if c = '\\' then do
      let (d, rest) ← readEscape rest
      let (ds, rest) ← readString fuel rest
      some (d :: ds, rest)
    else if c.toNat < 32 then none
    else do
      let (ds, rest) ← readString fuel rest
      some (c :: ds, rest)

/-- The digits of an exponent with its sign, if one follows. -/
def readExponent : List Char → Option (Option Int × List Char)
  | c :: rest =>
    if c = 'e' || c = 'E' then
      let (sign, rest) := match rest with
        | '-' :: rest => (-1, rest)
        | '+' :: rest => (1, rest)
        | rest => ((1 : Int), rest)
      let (digits, rest) := Text.spanDigits rest
      (Text.number? 10 digits).map fun n => (some (sign * n), rest)
    else some (none, c :: rest)
  | [] => some (none, [])

/-- Reads a number. -/
def readNumber (cs : List Char) : Option (Value × List Char) := do
  let (negative, rest) := match cs with
    | '-' :: rest => (true, rest)
    | rest => (false, rest)
  let (whole, rest) := Text.spanDigits rest
  let magnitude ← Text.number? 10 whole
  let n : Int := if negative then -(magnitude : Int) else magnitude
  if 1 < whole.length && whole.head? = some '0' then none
  let (fraction, rest) ← match rest with
    | '.' :: rest =>
      let (digits, rest) := Text.spanDigits rest
      if digits.isEmpty then none else some (some digits, rest)
    | rest => some (none, rest)
  let (exponent, rest) ← readExponent rest
  if fraction.isNone && exponent.isNone && minInt ≤ n && n ≤ maxInt && (n ≠ 0 || !negative) then
    some (.int n, rest)
  else
    let significand := Text.Significand.ofDigits whole (fraction.getD [])
    let x := significand.toFloat negative (exponent.getD 0)
    if x.isFinite then some (.double x, rest) else none

/-- Reads the characters of a word and answers with a value. -/
def readWord (word : String) (v : Value) (cs : List Char) : Option (Value × List Char) :=
  if word.toList.isPrefixOf cs then some (v, cs.drop word.length) else none

mutual

/-- Reads one value. -/
def read : Nat → List Char → Option (Value × List Char)
  | 0, _ => none
  | fuel + 1, cs =>
    match skipSpace cs with
    | '"' :: rest => (readString (rest.length + 1) rest).map fun (s, rest) =>
        (.string (String.ofList s), rest)
    | '[' :: rest =>
      match skipSpace rest with
      | ']' :: rest => some (.array [], rest)
      | rest => (readItems fuel rest).map fun (items, rest) => (.array items, rest)
    | '\x7b' :: rest =>
      match skipSpace rest with
      | '\x7d' :: rest => some (.object [], rest)
      | rest => (readFields fuel rest).map fun (fields, rest) => (ofPairs fields, rest)
    | 't' :: rest => readWord "true" (.bool true) ('t' :: rest)
    | 'f' :: rest => readWord "false" (.bool false) ('f' :: rest)
    | 'n' :: rest => readWord "null" .null ('n' :: rest)
    | cs => readNumber cs

/-- Reads the items of an array that has one, with the closing bracket. -/
def readItems : Nat → List Char → Option (List Value × List Char)
  | 0, _ => none
  | fuel + 1, cs => do
    let (v, rest) ← read fuel cs
    match skipSpace rest with
    | ',' :: rest =>
      let (vs, rest) ← readItems fuel rest
      some (v :: vs, rest)
    | ']' :: rest => some ([v], rest)
    | _ => none

/-- Reads the fields of an object that has one, with the closing brace. -/
def readFields : Nat → List Char → Option (List (String × Value) × List Char)
  | 0, _ => none
  | fuel + 1, cs => do
    match skipSpace cs with
    | '"' :: rest =>
      let (name, rest) ← readString (rest.length + 1) rest
      match skipSpace rest with
      | ':' :: rest =>
        let (v, rest) ← read fuel rest
        let field := (String.ofList name, v)
        match skipSpace rest with
        | ',' :: rest =>
          let (fields, rest) ← readFields fuel rest
          some (field :: fields, rest)
        | '\x7d' :: rest => some ([field], rest)
        | _ => none
      | _ => none
    | _ => none

end

/-- Reads a text that is one value. -/
def parse? (text : String) : Option Value :=
  let cs := text.toList
  match read (2 * cs.length + 2) cs with
  | some (v, rest) => if (skipSpace rest).isEmpty then some v else none
  | none => none

end Switchboard.Value
