/-!
# Characters by bytes

Counting in bytes, `Text.takeBytes` takes characters from the front of a text, `Text.dropBytes`
drops them, and `Text.cut` takes the ones between two places. There is no result where a place lies
inside a character or behind the end.
-/

namespace Switchboard.Text

/-- The characters that the first so many bytes encode. -/
def takeBytes : Nat → List Char → Option (List Char)
  | 0, _ => some []
  | _, [] => none
  | count, c :: rest =>
    if c.utf8Size ≤ count then (takeBytes (count - c.utf8Size) rest).map (c :: ·) else none

/-- The characters behind the first so many bytes. -/
def dropBytes : Nat → List Char → Option (List Char)
  | 0, cs => some cs
  | _, [] => none
  | count, c :: rest => if c.utf8Size ≤ count then dropBytes (count - c.utf8Size) rest else none

/-- The characters from the byte at one place up to the byte at another. -/
def cut (start stop : Nat) (cs : List Char) : Option (List Char) :=
  (dropBytes start cs).bind (takeBytes (stop - start))

end Switchboard.Text
