import Switchboard.Config.Layers
import Switchboard.Text.Blank
import Switchboard.Text.Bytes
import Switchboard.Text.Escape

/-!
# Values in shorthand

A value can be written in a shorthand: `true`, `false`, numbers, texts with or without quotes,
lists in brackets and tables in braces. A text that is not shorthand to its end stands for
itself.

In a text in double quotes a backslash starts an escape. Of the characters before the first escape
as many bytes are kept as there are characters; ASCII characters are all kept. If the last byte kept
lies inside a character, the text is torn, and nothing can be read from it.

* `Shorthand.value?`: the value that a text stands for.
-/

namespace Switchboard.Shorthand

/-- Why something cannot be read from a text. -/
inductive Fault where
  /-- The text is not shorthand. -/
  | irregular
  /-- What is kept of a text in quotes ends inside a character. -/
  | torn
deriving DecidableEq, Repr

/-- White space between the parts of a value. -/
def isSpace (c : Char) : Bool := c = ' ' || c = '\t' || c = '\n' || c = '\r' || c = Char.ofNat 12

/-- Drops white space. -/
def skipSpace (cs : List Char) : List Char := cs.dropWhile isSpace

/-- A character that ends a text without quotes. -/
def isSeparator (c : Char) : Bool := c = ',' || c = '\x7b' || c = '\x7d' || c = '[' || c = ']'

/-- A character of names without quotes. -/
def isNameChar (c : Char) : Bool := c.isAlphanum || c = '_' || c = '-'

/-! ### Texts in quotes -/

/-- Splits off the characters up to the closing quote, the first one without a backslash. -/
def splitQuoted : List Char → Option (List Char × List Char)
  | [] => none
  | '"' :: rest => some ([], rest)
  | '\\' :: c :: rest => (splitQuoted rest).map fun (cs, rest) => ('\\' :: c :: cs, rest)
  | c :: rest => (splitQuoted rest).map fun (cs, rest) => (c :: cs, rest)

/-- Replaces escapes by the characters that they stand for, with one unit of fuel for each character
and one more. -/
def unescape : Nat → List Char → Option (List Char)
  | 0, _ => none
  | _, [] => some []
  | fuel + 1, c :: rest =>
    if c = '\\' then do
      let (d, rest) ← Text.readEscape rest
      let ds ← unescape fuel rest
      some (d :: ds)
    else if Text.isPlain c then (unescape fuel rest).map (c :: ·)
    else none

/-- The text that stands between quotes. -/
def unquote (cs : List Char) : Except Fault String :=
  let before := cs.takeWhile (· ≠ '\\')
  let escapes := cs.dropWhile (· ≠ '\\')
  if !before.all Text.isPlain then .error .irregular
  else if escapes.isEmpty then .ok (String.ofList before)
  else
    match Text.takeBytes before.length before with
    | none => .error .torn
    | some kept =>
      match unescape (escapes.length + 1) escapes with
      | some rest => .ok (String.ofList (kept ++ rest))
      | none => .error .irregular

/-- Reads a text behind its opening quote, up to and with the closing one. -/
def readQuoted (cs : List Char) : Except Fault (String × List Char) :=
  match splitQuoted cs with
  | some (inner, rest) => (unquote inner).map (·, rest)
  | none => .error .irregular

/-! ### Numbers and texts without quotes -/

/-- Splits off a sign. -/
def splitSign : List Char → Bool × List Char
  | '-' :: rest => (true, rest)
  | '+' :: rest => (false, rest)
  | cs => (false, cs)

/-- The exponent of a decimal, which may be left out. -/
def exponent? : List Char → Option Int
  | [] => some 0
  | c :: rest =>
    if c = 'e' ∨ c = 'E' then
      let (negative, digits) := splitSign rest
      (Text.number? 10 digits).map fun n => if negative then -(n : Int) else n
    else none

/-- A decimal with a point: digits on at least one side of it, and perhaps an exponent. -/
def decimal? (cs : List Char) : Option Float := do
  let (negative, rest) := splitSign cs
  let (whole, rest) := Text.spanDigits rest
  match rest with
  | '.' :: rest =>
    let (fraction, rest) := Text.spanDigits rest
    if whole.isEmpty && fraction.isEmpty then none
    let exponent ← exponent? rest
    some (Text.decimalFloat negative whole fraction exponent)
  | _ => none

/-- An integer of 64 bits, without a sign or with one. -/
def integer? (cs : List Char) : Option Int := do
  let (negative, digits) := splitSign cs
  let n ← Text.number? 10 digits
  if negative then if n ≤ Nat.pow 2 63 then some (-(n : Int)) else none
  else if n < Nat.pow 2 64 then some n else none

/-- The value of a text without quotes. -/
def bare (cs : List Char) : Value :=
  match decimal? cs, integer? cs with
  | some x, _ => .double x
  | none, some n => .int n
  | none, none => .string (String.ofList cs)

/-! ### Values -/

/-- Reads the name of a field. -/
def readName : List Char → Except Fault (String × List Char)
  | '"' :: rest => readQuoted rest
  | cs =>
    let name := cs.takeWhile isNameChar
    if name.isEmpty then .error .irregular
    else .ok (String.ofList name, cs.dropWhile isNameChar)

mutual

/-- Reads a value with the white space around it. -/
def readValue : Nat → List Char → Except Fault (Value × List Char)
  | 0, _ => .error .irregular
  | fuel + 1, cs => do
    let (v, rest) ← match skipSpace cs with
      | 't' :: 'r' :: 'u' :: 'e' :: rest => .ok (.bool true, rest)
      | 'f' :: 'a' :: 'l' :: 's' :: 'e' :: rest => .ok (.bool false, rest)
      | '\x7b' :: rest =>
        (readFields fuel rest).map fun (fields, rest) => (Value.ofPairs fields, rest)
      | '[' :: rest => (readItems fuel rest).map fun (items, rest) => (Value.array items, rest)
      | '"' :: rest => (readQuoted rest).map fun (s, rest) => (Value.string s, rest)
      | '\'' :: rest =>
        match rest with
        | c :: '\'' :: rest => .ok (.string c.toString, rest)
        | _ => .error .irregular
      | cs =>
        let text := cs.takeWhile fun c => !isSeparator c
        .ok (bare (Text.trimChars text), cs.dropWhile fun c => !isSeparator c)
    return (v, skipSpace rest)

/-- Reads the items of a list up to its closing bracket. A comma may stand behind the last. -/
def readItems : Nat → List Char → Except Fault (List Value × List Char)
  | 0, _ => .error .irregular
  | fuel + 1, cs =>
    match cs with
    | ']' :: rest => .ok ([], rest)
    | cs => do
      let (v, rest) ← readValue fuel cs
      match rest with
      | ',' :: rest =>
        let (vs, rest) ← readItems fuel rest
        return (v :: vs, rest)
      | ']' :: rest => return ([v], rest)
      | _ => .error .irregular

/-- Reads the fields of a table up to its closing brace. A comma may stand behind the last. -/
def readFields : Nat → List Char → Except Fault (List (String × Value) × List Char)
  | 0, _ => .error .irregular
  | fuel + 1, cs =>
    match cs with
    | '\x7d' :: rest => .ok ([], rest)
    | cs => do
      let (name, rest) ← readName (skipSpace cs)
      match skipSpace rest with
      | '=' :: rest =>
        let (v, rest) ← readValue fuel rest
        match rest with
        | ',' :: rest =>
          let (fields, rest) ← readFields fuel rest
          return ((name, v) :: fields, rest)
        | '\x7d' :: rest => return ([(name, v)], rest)
        | _ => .error .irregular
      | _ => .error .irregular

end

/-- The value that a text stands for; nothing if a text in quotes inside it is torn. -/
def value? (text : String) : Option Value :=
  let cs := text.toList
  match readValue (2 * cs.length + 2) cs with
  | .ok (v, []) => some v
  | .error .torn => none
  | _ => some (.string text)

end Switchboard.Shorthand
