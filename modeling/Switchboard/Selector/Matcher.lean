import Switchboard.Selector.Basic
import Switchboard.Text.Quoted

/-!
# Matching event names

A `Matcher` is a pattern made ready for matching. `Matcher.accepts` decides whether an event name
fits it.

A word is searched in the bytes of the name: `Matcher.occurrences` lists the offsets at which the
word is found, every search but the first starting one byte behind the last find, so overlapping
occurrences are found too. An occurrence counts if on either side there is the end of the name or a
delimiter.
-/

namespace Switchboard

/-- A pattern that is ready for matching. -/
structure Matcher where
  operator : Operator
  text : String
deriving DecidableEq, Repr

namespace Matcher

/-- The matcher of a pattern; a selector without an operator has none. -/
def ofSelector? (s : Selector) : Option Matcher :=
  if s.isPattern then some ⟨s.operator, s.name⟩ else none

/-- The bytes that separate words: point, colon and dash. -/
def delimiters : List UInt8 := [46, 58, 45]

/-- The bytes of a text. -/
def bytesOf (s : String) : List UInt8 := s.toList.flatMap String.utf8EncodeChar

/-- Whether a word stands at an offset. -/
def standsAt (bytes : Array UInt8) : List UInt8 → Nat → Bool
  | [], start => start ≤ bytes.size
  | b :: word, start => bytes[start]? == some b && standsAt bytes word (start + 1)

/-- The least offset from `start` on at which a word stands. -/
def findFrom? (word : List UInt8) (bytes : Array UInt8) (start : Nat) : Option Nat :=
  if start ≤ bytes.size then
    if standsAt bytes word start then some start else findFrom? word bytes (start + 1)
  else none
termination_by bytes.size + 1 - start

theorem findFrom?_bounds {word : List UInt8} {bytes : Array UInt8} {start n : Nat}
    (h : findFrom? word bytes start = some n) : start ≤ n ∧ n ≤ bytes.size := by
  fun_induction findFrom? word bytes start with
  | case1 start hs _ => cases h; omega
  | case2 start hs _ ih => have := ih h; omega
  | case3 => cases h

/-- The offsets from `start` on at which a word stands. -/
def occurrences (word : List UInt8) (bytes : Array UInt8) (start : Nat) : List Nat :=
  match h : findFrom? word bytes start with
  | none => []
  | some n => n :: occurrences word bytes (n + 1)
termination_by bytes.size + 1 - start
decreasing_by
  have := findFrom?_bounds h
  omega

/-- Whether nothing or a delimiter stands before an offset. -/
def boundedLeft (bytes : Array UInt8) (begin : Nat) : Bool :=
  begin = 0 || (bytes[begin - 1]?).any delimiters.contains

/-- Whether nothing or a delimiter stands at an offset. -/
def boundedRight (bytes : Array UInt8) (stop : Nat) : Bool :=
  stop = bytes.size || (bytes[stop]?).any delimiters.contains

/-- Whether a word occurs in a text between delimiters or ends. -/
def containsWord (text word : String) : Bool :=
  let bytes := (bytesOf text).toArray
  let length := (bytesOf word).length
  !word.isEmpty &&
    (occurrences (bytesOf word) bytes 0).any fun begin =>
      boundedLeft bytes begin && boundedRight bytes (begin + length)

/-- Whether some part of a list is another list. -/
def hasInfix (part : List Char) : List Char → Bool
  | [] => part.isEmpty
  | c :: rest => part.isPrefixOf (c :: rest) || hasInfix part rest

/-- Whether an event name fits the pattern. -/
def accepts (m : Matcher) (name : String) : Bool :=
  match m.operator with
  | .exact => name == m.text
  | .beginsWith => m.text.toList.isPrefixOf name.toList
  | .endsWith => m.text.toList.isSuffixOf name.toList
  | .containsString => hasInfix m.text.toList name.toList
  | .containsWord => containsWord name m.text
  | .notEquals => name != m.text

/-- The matcher as a record with its fields. -/
def inspect (m : Matcher) : String :=
  "PatternMatcher \x7b operator: " ++ m.operator.label ++ ", text: " ++ Text.quoted m.text ++
    " \x7d"

end Matcher

end Switchboard
