import Switchboard.Text.Alphanumeric
import Switchboard.Text.Blank
import Switchboard.Text.Bytes
import Switchboard.Text.Lowercase
import Switchboard.Text.Number

/-!
# Directives of the log

A directive sets the level of some part of the log: `level`, `module` or `module=level`. In front of
the equals sign there may be brackets with the name of a span and, in braces, with fields of it.

White space around a directive is passed over. The places of its parts are counted behind the white
space, but the parts are cut out of the whole text; white space in front so moves every part, and if
a part then begins or ends inside a character, the directive is torn.

* `LogDirective.check`: whether a directive can be read, and if not, why.
-/

namespace Switchboard.LogDirective

/-- Why a directive cannot be read. -/
inductive Fault where
  /-- It is not written like a directive. -/
  | malformed
  /-- Its level is no level. -/
  | level
  /-- A part of it begins or ends inside a character. -/
  | torn
deriving DecidableEq, Repr

/-- The part of a directive that is being read, with the place where it begins. -/
inductive Part where
  | nothing
  /-- A module or a level. -/
  | name (start : Nat)
  | span (start : Nat)
  | field (start : Nat)
  /-- Behind the braces. -/
  | fields
  /-- Behind the brackets. -/
  | brackets
  | level (start : Nat)
  /-- Behind a comma. -/
  | ended
deriving DecidableEq, Repr

/-- The part of a text between two places. -/
def part (text : List Char) (start stop : Nat) : Except Fault (List Char) :=
  match Text.cut start stop text with
  | some cs => .ok cs
  | none => .error .torn

/-- The part of a text from a place on. -/
def partFrom (text : List Char) (start : Nat) : Except Fault (List Char) :=
  match Text.dropBytes start text with
  | some cs => .ok cs
  | none => .error .torn

/-- The names of the levels. -/
def levels : List String := ["off", "error", "warn", "info", "debug", "trace"]

/-- A number of a level, counted from `off`. -/
def isLevelNumber (cs : List Char) : Bool :=
  let digits := match cs with
    | '+' :: rest => rest
    | cs => cs
  match Text.number? 10 digits with
  | some n => n < levels.length
  | none => false

/-- Checks a level: nothing, a number or a name in letters of any case. -/
def checkLevel (cs : List Char) : Except Fault Unit :=
  if cs.isEmpty || isLevelNumber cs || Text.asciiLowercase (String.ofList cs) ∈ levels then .ok ()
  else .error .level

/-- Checks a field, which has a name. -/
def checkField (cs : List Char) : Except Fault Unit :=
  if cs.isEmpty then .error .malformed else .ok ()

/-- A character that a directive may start with, an opening bracket apart. -/
def opens (c : Char) : Bool := c = '-' || c = ':' || c = '_' || Text.isAlphanumeric c

/-- Reads the character at a place. -/
def step (text : List Char) (place : Nat) (c : Char) : Part → Except Fault Part
  | .nothing =>
    if c = '[' then .ok (.span (place + 1))
    else if opens c then .ok (.name place)
    else .error .malformed
  | .name start =>
    if c = '=' then (part text start place).map fun _ => .level (place + 1)
    else if c = '[' then (part text start place).map fun _ => .span (place + 1)
    else if c = ',' then (partFrom text start).map fun _ => .ended
    else .ok (.name start)
  | .span start =>
    if c = ']' then (part text start place).map fun _ => .brackets
    else if c = '\x7b' then (part text start place).map fun _ => .field (place + 1)
    else .ok (.span start)
  | .field start =>
    if c = '\x7d' then ((part text start place).bind checkField).map fun _ => .fields
    else if c = ',' then ((part text start place).bind checkField).map fun _ => .field (place + 1)
    else .ok (.field start)
  | .fields => if c = ']' then .ok .brackets else .error .malformed
  | .brackets => if c = '=' then .ok (.level (place + 1)) else .error .malformed
  | .level start =>
    if c = ',' then ((part text start place).bind checkLevel).map fun _ => .ended
    else .ok (.level start)
  | .ended => .error .malformed

/-- Reads the characters from a place on. -/
def scan (text : List Char) : Nat → List Char → Part → Except Fault Part
  | _, [], p => .ok p
  | place, c :: rest, p => (step text place c p).bind (scan text (place + c.utf8Size) rest)

/-- Checks a part that the end of the text ends. -/
def finish (text : List Char) : Part → Except Fault Unit
  | .name start => (partFrom text start).map fun _ => ()
  | .level start => (partFrom text start).bind checkLevel
  | .brackets => .ok ()
  | .ended => .ok ()
  | _ => .error .malformed

/-- Whether a directive can be read, and if not, why. -/
def check (directive : String) : Except Fault Unit :=
  let text := directive.toList
  (scan text 0 (Text.trimChars text) .nothing).bind (finish text)

/-- What is said about a directive that is passed over. -/
def complaint (directive reason : String) : String :=
  "Ignoring invalid log directive '" ++ directive ++ "': " ++ reason

/-- The complaints about directives that are passed over, in order, and the first directive that is
torn, at which reading ends. -/
def checkAll : List String → List String × Option String
  | [] => ([], none)
  | directive :: rest =>
    match check directive with
    | .ok () => checkAll rest
    | .error .torn => ([], some directive)
    | .error .malformed =>
      let (complaints, torn) := checkAll rest
      (complaint directive "invalid filter directive" :: complaints, torn)
    | .error .level =>
      let (complaints, torn) := checkAll rest
      (complaint directive ("error parsing level filter: expected one of \"off\", \"error\", " ++
        "\"warn\", \"info\", \"debug\", \"trace\", or a number 0-5") :: complaints, torn)

end Switchboard.LogDirective
