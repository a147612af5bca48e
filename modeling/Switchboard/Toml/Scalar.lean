import Switchboard.Text.Escape
import Switchboard.Value.Basic

/-!
# TOML: strings, numbers and dates

The readers of this file take the characters and give back what they have read and the rest. Line
ends inside strings of several lines become line feeds. A date or a time is kept as an object with
its text under a name of its own, since no configuration holds one.
-/

namespace Switchboard.Toml

/-- Blank within a line. -/
def isSpace (c : Char) : Bool := c = ' ' || c = '\t'

/-- Drops blanks within a line. -/
def skipSpace (cs : List Char) : List Char := cs.dropWhile isSpace

/-- The rest behind a line end, if there is one. -/
def newline? : List Char → Option (List Char)
  | '\n' :: rest => some rest
  | '\r' :: '\n' :: rest => some rest
  | _ => none

/-! ### Strings -/

/-- The rest of a string in single quotes on one line. -/
def readLiteral : List Char → Option (List Char × List Char)
  | [] => none
  | c :: rest =>
    if c = '\'' then some ([], rest)
    else if Text.isPlain c then (readLiteral rest).map fun (ds, rest) => (c :: ds, rest)
    else none

/-- Drops blanks and line ends. -/
def skipLines : List Char → List Char
  | '\r' :: '\n' :: rest => skipLines rest
  | c :: rest => if isSpace c || c = '\n' then skipLines rest else c :: rest
  | [] => []

/-- Behind a backslash: the text from the next line on without its blanks, if only blanks stand
between the backslash and the line end. -/
def continuation? (cs : List Char) : Option (List Char) :=
  (newline? (skipSpace cs)).map skipLines

/-- The closing quotes of a string of several lines: three, behind up to two that belong to it. -/
def closing (quote : Char) (cs : List Char) : Option (List Char × List Char) :=
  let count := (cs.takeWhile (· = quote)).length
  if 3 ≤ count then
    let used := if count ≤ 5 then count else 5
    some (List.replicate (used - 3) quote, cs.drop used)
  else none

/-- The rest of a string in double quotes over several lines. -/
def readMultiBasic : Nat → List Char → Option (List Char × List Char)
  | 0, _ => none
  | _, [] => none
  | fuel + 1, c :: rest =>
    if c = '"' then
      match closing '"' (c :: rest) with
      | some done => some done
      | none => (readMultiBasic fuel rest).map fun (ds, rest) => (c :: ds, rest)
    else if c = '\\' then
      match continuation? rest with
      | some rest => readMultiBasic fuel rest
      | none => do
        let (d, rest) ← Text.readEscape rest
        let (ds, rest) ← readMultiBasic fuel rest
        some (d :: ds, rest)
    else
      match newline? (c :: rest) with
      | some rest => (readMultiBasic fuel rest).map fun (ds, rest) => ('\n' :: ds, rest)
      | none =>
        if Text.isPlain c then (readMultiBasic fuel rest).map fun (ds, rest) => (c :: ds, rest)
        else none

/-- The rest of a string in single quotes over several lines. -/
def readMultiLiteral : Nat → List Char → Option (List Char × List Char)
  | 0, _ => none
  | _, [] => none
  | fuel + 1, c :: rest =>
    if c = '\'' then
      match closing '\'' (c :: rest) with
      | some done => some done
      | none => (readMultiLiteral fuel rest).map fun (ds, rest) => (c :: ds, rest)
    else
      match newline? (c :: rest) with
      | some rest => (readMultiLiteral fuel rest).map fun (ds, rest) => ('\n' :: ds, rest)
      | none =>
        if Text.isPlain c then (readMultiLiteral fuel rest).map fun (ds, rest) => (c :: ds, rest)
        else none

/-- Reads a string that starts with a quote. A line end right behind three opening quotes does not
belong to it. -/
def readString (cs : List Char) : Option (String × List Char) :=
  let fuel := cs.length + 1
  let done := fun (ds, rest) => (String.ofList ds, rest)
  match cs with
  | '"' :: '"' :: '"' :: rest => (readMultiBasic fuel ((newline? rest).getD rest)).map done
  | '\'' :: '\'' :: '\'' :: rest => (readMultiLiteral fuel ((newline? rest).getD rest)).map done
  | '"' :: rest => Text.readQuoted rest
  | '\'' :: rest => (readLiteral rest).map done
  | _ => none

/-! ### Numbers -/

/-- Digits of a base, with single underscores between them, as a number. -/
def digits? (base : Nat) (cs : List Char) : Option (List Char) :=
  match cs with
  | [] => none
  | first :: rest =>
    let rec go : List Char → Option (List Char)
      | [] => some []
      | ['_'] => none
      | '_' :: c :: rest =>
        if (Text.digitValue? base c).isSome then (go rest).map (c :: ·) else none
      | c :: rest =>
        if (Text.digitValue? base c).isSome then (go rest).map (c :: ·) else none
    if (Text.digitValue? base first).isSome then (go rest).map (first :: ·) else none

/-- A decimal number without superfluous leading zeros. -/
def decimal? (cs : List Char) : Option (List Char) :=
  (digits? 10 cs).filter fun ds => ds.length = 1 || ds.head? ≠ some '0'

/-- Splits off a sign. -/
def splitSign : List Char → Bool × List Char
  | '-' :: rest => (true, rest)
  | '+' :: rest => (false, rest)
  | cs => (false, cs)

/-- The number that digits of a base denote, if it fits into a signed integer of 64 bits. -/
def fit? (negative : Bool) (base : Nat) (ds : List Char) : Option Value := do
  let n ← Text.number? base ds
  let k : Int := if negative then -(n : Int) else n
  if -(Nat.pow 2 63 : Int) ≤ k ∧ k < Nat.pow 2 63 then some (.int k) else none

/-- An integer. -/
def integer? : List Char → Option Value
  | '0' :: 'x' :: rest => digits? 16 rest >>= fit? false 16
  | '0' :: 'o' :: rest => digits? 8 rest >>= fit? false 8
  | '0' :: 'b' :: rest => digits? 2 rest >>= fit? false 2
  | cs =>
    let (negative, rest) := splitSign cs
    decimal? rest >>= fit? negative 10

/-- The exponent of a float, behind its letter. -/
def exponent? (cs : List Char) : Option Int := do
  let (negative, rest) := splitSign cs
  let n ← digits? 10 rest >>= Text.number? 10
  some (if negative then -(n : Int) else n)

/-- A float: it has a fraction or an exponent, or is infinite or no number. Digits that are beyond
the largest number are refused. -/
def float? (cs : List Char) : Option Value := do
  let (negative, rest) := splitSign cs
  if rest = ['i', 'n', 'f'] then
    some (.double (if negative then -1.0 / 0.0 else 1.0 / 0.0))
  else if rest = ['n', 'a', 'n'] then some (.double (0.0 / 0.0))
  else
    let isMark := fun (c : Char) => c = '.' || c = 'e' || c = 'E'
    let whole ← decimal? (rest.takeWhile fun c => !isMark c)
    let (fraction, rest) ← match rest.dropWhile fun c => !isMark c with
      | '.' :: rest =>
        let isExponent := fun (c : Char) => c = 'e' || c = 'E'
        (digits? 10 (rest.takeWhile fun c => !isExponent c)).map
          (·, rest.dropWhile fun c => !isExponent c)
      | [] => none
      | rest => some ([], rest)
    let exponent ← match rest with
      | [] => some 0
      | _ :: rest => exponent? rest
    let x := Text.decimalFloat negative whole fraction exponent
    if x == 1.0 / 0.0 then none else some (.double x)

/-! ### Dates and times -/

/-- A number of exactly so many digits between two bounds. -/
def fixed? (cs : List Char) (count low high : Nat) : Option (Nat × List Char) := do
  let n ← Text.number? 10 (cs.take count)
  if (cs.take count).length = count ∧ low ≤ n ∧ n ≤ high then some (n, cs.drop count) else none

/-- The rest behind a character. -/
def expect? (c : Char) : List Char → Option (List Char)
  | d :: rest => if c = d then some rest else none
  | [] => none

/-- The number of days of a month. -/
def daysIn (year month : Nat) : Nat :=
  if month = 2 then
    if year % 4 = 0 ∧ (year % 100 ≠ 0 ∨ year % 400 = 0) then 29 else 28
  else if month = 4 ∨ month = 6 ∨ month = 9 ∨ month = 11 then 30
  else 31

/-- The rest behind a date. -/
def date? (cs : List Char) : Option (List Char) := do
  let (year, rest) ← fixed? cs 4 0 9999
  let rest ← expect? '-' rest
  let (month, rest) ← fixed? rest 2 1 12
  let rest ← expect? '-' rest
  let (_, rest) ← fixed? rest 2 1 (daysIn year month)
  some rest

/-- The rest behind a time of the day. -/
def time? (cs : List Char) : Option (List Char) := do
  let (_, rest) ← fixed? cs 2 0 23
  let rest ← expect? ':' rest
  let (_, rest) ← fixed? rest 2 0 59
  let rest ← expect? ':' rest
  let (_, rest) ← fixed? rest 2 0 60
  match rest with
  | '.' :: rest =>
    let (digits, rest) := Text.spanDigits rest
    if digits.isEmpty then none else some rest
  | rest => some rest

/-- Whether the characters are an offset from universal time. -/
def isOffset (cs : List Char) : Bool :=
  match cs with
  | [c] => c = 'Z' || c = 'z'
  | sign :: rest =>
    (sign = '+' || sign = '-') &&
      ((do
        let (_, rest) ← fixed? rest 2 0 23
        let rest ← expect? ':' rest
        let (_, rest) ← fixed? rest 2 0 59
        some rest.isEmpty).getD false)
  | [] => false

/-- Whether the characters are a date, a time, or both. -/
def isMoment (cs : List Char) : Bool :=
  match date? cs with
  | some [] => true
  | some (c :: rest) =>
    (c = 'T' || c = 't' || c = ' ') &&
      match time? rest with
      | some rest => rest.isEmpty || isOffset rest
      | none => false
  | none => time? cs = some []

/-- The value of a date or a time. -/
def moment (cs : List Char) : Value :=
  .object [("$moment", .string (String.ofList cs))]

/-- A character of numbers and dates. -/
def isTokenChar (c : Char) : Bool :=
  c.isAlphanum || c = '+' || c = '-' || c = '_' || c = '.' || c = ':'

/-- Reads a truth value, a number, a date or a time. Between a date and a time there may be a
space. -/
def readToken (cs : List Char) : Option (Value × List Char) :=
  let token := cs.takeWhile isTokenChar
  let rest := cs.dropWhile isTokenChar
  if token = "true".toList then some (.bool true, rest)
  else if token = "false".toList then some (.bool false, rest)
  else if (date? token).isSome || (time? token).isSome then
    let long := match date? token, rest with
      | some [], ' ' :: c :: _ => Text.isDigit c
      | _, _ => false
    let token := if long then token ++ ' ' :: (rest.drop 1).takeWhile isTokenChar else token
    let rest := if long then (rest.drop 1).dropWhile isTokenChar else rest
    if isMoment token then some (moment token, rest) else none
  else
    match integer? token with
    | some v => some (v, rest)
    | none => (float? token).map (·, rest)

end Switchboard.Toml
