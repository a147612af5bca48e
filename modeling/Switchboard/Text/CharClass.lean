/-!
# Classes of characters

A `CharClass` lists a set of code points by run lengths: so many code points outside the class from
the start, then so many inside, then so many outside, and so on; behind the last run all code
points are outside.
-/

namespace Switchboard.Text

/-- A set of code points by alternating run lengths, the first run outside. -/
abbrev CharClass := List Nat

/-- Whether a code point belongs to a class. -/
def CharClass.has : CharClass → Nat → Bool
  | outside :: inside :: rest, n =>
    if n < outside then false
    else if n < outside + inside then true
    else CharClass.has rest (n - outside - inside)
  | _, _ => false

end Switchboard.Text
