import Switchboard.Text.CharClass

/-!
# White space

`Text.blank` is the property White_Space: twenty-five code points from the tabulator to the
ideographic space. A zero-width space does not belong to it.
-/

namespace Switchboard.Text

/-- White space: tabulator to carriage return, the space, the next-line control, the no-break space
and the spaces and separators of the blocks above. -/
def blank : CharClass :=
  [9, 5, 18, 1, 100, 1, 26, 1, 5599, 1, 2431, 11, 29, 2, 5, 1, 47, 1, 4000, 1]

/-- White space. -/
def isBlank (c : Char) : Bool := blank.has c.toNat

/-- A text of white space only; the empty text is one. -/
def allBlank (s : String) : Bool := s.toList.all isBlank

/-- Drops white space from both ends. -/
def trimChars (cs : List Char) : List Char :=
  ((cs.dropWhile isBlank).reverse.dropWhile isBlank).reverse

/-- Drops white space from both ends. -/
def trim (s : String) : String := String.ofList (trimChars s.toList)

example : blank.has 0x20 ∧ blank.has 0xA0 ∧ blank.has 0x3000 ∧ ¬ blank.has 0x200B := by decide

end Switchboard.Text
