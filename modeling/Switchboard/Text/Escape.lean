import Switchboard.Text.Number

/-!
# Texts in double quotes

Reading a text that stands in double quotes on one line. A backslash starts an escape: a letter for
a control character, a quote or a backslash, or the number of a character in four or eight
hexadecimal digits. Control characters themselves are refused, the tabulator apart.
-/

namespace Switchboard.Text

/-- A character that may stand for itself: the tabulator, and everything from the space on but the
delete character. -/
def isPlain (c : Char) : Bool := c = '\t' || (32 ≤ c.toNat && c.toNat ≠ 127)

/-- The character of so many hexadecimal digits. -/
def readHex (count : Nat) (cs : List Char) : Option (Char × List Char) := do
  let digits := cs.take count
  if digits.length ≠ count then none
  let n ← number? 16 digits
  if n < 0xD800 || (0xE000 ≤ n && n < 0x110000) then some (Char.ofNat n, cs.drop count) else none

/-- The character named by an escape, without its backslash. -/
def readEscape : List Char → Option (Char × List Char)
  | 'b' :: rest => some (Char.ofNat 8, rest)
  | 't' :: rest => some ('\t', rest)
  | 'n' :: rest => some ('\n', rest)
  | 'f' :: rest => some (Char.ofNat 12, rest)
  | 'r' :: rest => some ('\r', rest)
  | '"' :: rest => some ('"', rest)
  | '\\' :: rest => some ('\\', rest)
  | 'u' :: rest => readHex 4 rest
  | 'U' :: rest => readHex 8 rest
  | _ => none

/-- Reads up to the closing quote, with one unit of fuel for each character. -/
def readQuotedChars : Nat → List Char → Option (List Char × List Char)
  | 0, _ => none
  | _, [] => none
  | fuel + 1, c :: rest =>
    if c = '"' then some ([], rest)
    else if c = '\\' then do
      let (d, rest) ← readEscape rest
      let (ds, rest) ← readQuotedChars fuel rest
      some (d :: ds, rest)
    else if isPlain c then do
      let (ds, rest) ← readQuotedChars fuel rest
      some (c :: ds, rest)
    else none

/-- Reads a text behind its opening quote, up to and with the closing one. -/
def readQuoted (cs : List Char) : Option (String × List Char) :=
  (readQuotedChars (cs.length + 1) cs).map fun (ds, rest) => (String.ofList ds, rest)

end Switchboard.Text
