import Switchboard.Text.Lowercase

/-!
# Selectors

A selector names the events that a binding listens to. It is an optional operator of two
characters followed by a name; without an operator it stands for the event of that name alone,
with one it is a pattern.

* `Operator`: the way a pattern looks at an event name;
* `Selector.parse?`, `Selector.text`: reading and writing selectors;
* `Selector.text_of_parse?`: a text that is read is the text of the selector that it gives.
-/

namespace Switchboard

/-- The way a selector is compared with an event name. -/
inductive Operator where
  /-- No operator: the name itself. -/
  | exact
  | beginsWith
  | endsWith
  | containsString
  | containsWord
  | notEquals
deriving DecidableEq, Repr, Inhabited

namespace Operator

/-- The operators of patterns, in the order in which they are looked up. -/
def patterns : List Operator := [beginsWith, endsWith, containsString, containsWord, notEquals]

/-- The characters written before a name. -/
def token : Operator → String
  | exact => ""
  | beginsWith => "^="
  | endsWith => "$="
  | containsString => "*="
  | containsWord => "~="
  | notEquals => "!="

/-- The pattern operator written with two characters. -/
def ofChars? : Char → Char → Option Operator
  | '^', '=' => some beginsWith
  | '$', '=' => some endsWith
  | '*', '=' => some containsString
  | '~', '=' => some containsWord
  | '!', '=' => some notEquals
  | _, _ => none

/-- The pattern operator with a token. -/
def ofToken? (text : String) : Option Operator := patterns.find? fun op => op.token == text

/-- The name of an operator. -/
def name : Operator → String
  | exact => "none"
  | beginsWith => "begins-with"
  | endsWith => "ends-with"
  | containsString => "contains-string"
  | containsWord => "contains-word"
  | notEquals => "not-equals"

/-- The name of an operator as one capitalised word. -/
def label : Operator → String
  | exact => "None"
  | beginsWith => "BeginsWith"
  | endsWith => "EndsWith"
  | containsString => "ContainsString"
  | containsWord => "ContainsWord"
  | notEquals => "NotEquals"

/-- Whether the operator makes a pattern. -/
def isPattern (op : Operator) : Bool := op != exact

/-- Reads an operator given by its token or, in any case of its letters, by its name; the empty text
means that there is none. -/
def parse? (text : String) : Option Operator :=
  match ofToken? text with
  | some op => some op
  | none =>
    let lower := Text.asciiLowercase text
    if lower = "" then some exact
    else (exact :: patterns).find? fun op => op.name == lower

theorem ofChars?_token {a b : Char} {op : Operator} (h : ofChars? a b = some op) :
    op.token.toList = [a, b] ∧ op.isPattern = true := by
  unfold ofChars? at h
  split at h <;> simp_all [token, isPattern] <;> (subst h; decide)

end Operator

/-- The characters of names: ASCII letters and digits, point, colon, underscore and dash. -/
def isNameChar (c : Char) : Bool :=
  c.isAlphanum || c = '.' || c = ':' || c = '_' || c = '-'

/-- Whether a text is a name: one or more of the characters of names. -/
def isName (cs : List Char) : Bool := !cs.isEmpty && cs.all isNameChar

/-- A selector: an operator and a name. -/
structure Selector where
  operator : Operator
  name : String
  isName_name : isName name.toList = true
deriving DecidableEq, Repr

namespace Selector

/-- Splits a text into its operator and what follows it. -/
def split : List Char → Operator × List Char
  | a :: b :: rest =>
    match Operator.ofChars? a b with
    | some op => (op, rest)
    | none => (.exact, a :: b :: rest)
  | cs => (.exact, cs)

/-- Reads a selector. -/
def parse? (text : String) : Option Selector :=
  if h : isName (split text.toList).2 = true then
    some ⟨(split text.toList).1, String.ofList (split text.toList).2,
      by rw [String.toList_ofList]; exact h⟩
  else none

/-- The text of a selector: the token of its operator and its name. -/
def text (s : Selector) : String := s.operator.token ++ s.name

/-- Whether the selector is a pattern. -/
def isPattern (s : Selector) : Bool := s.operator.isPattern

/-- Reads an event name: a selector that is not a pattern. -/
def eventName? (text : String) : Option Selector := (parse? text).filter fun s => !s.isPattern

/-- Whether a text is a selector. -/
def isValid (text : String) : Bool := (parse? text).isSome

/-- Whether a text is an event name. -/
def isEventName (text : String) : Bool := (eventName? text).isSome

theorem split_eq (cs : List Char) : (split cs).1.token.toList ++ (split cs).2 = cs := by
  unfold split
  split
  · split
    · rename_i h; simp [(Operator.ofChars?_token h).1]
    · simp [Operator.token]
  · simp [Operator.token]

/-- A text that is read is the text of the selector that it gives. -/
theorem text_of_parse? {t : String} {s : Selector} (h : parse? t = some s) : s.text = t := by
  unfold parse? at h
  split at h
  · cases h
    apply String.toList_injective
    simp [text, split_eq]
  · cases h

end Selector

end Switchboard
