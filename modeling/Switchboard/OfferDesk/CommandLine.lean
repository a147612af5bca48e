import Switchboard.Text.Number

/-!
# The command line of the offer desk

The arguments are options and words. An option has a long name and perhaps a letter; its value
follows as the next argument, or behind an equals sign, or right behind the letter. A value that is
an argument of its own must not look like an option. Behind two dashes everything is a word.

The first word names a command; the options before it are those of the program, everything behind
it belongs to the command. An argument that asks for help or for the version ends the reading; what
stands before it has to be in order so far. The value of an option is looked at when the next option
is read. A value that is an argument of its own and stands right before the command is looked at
behind everything else, so help on a command is given whatever that value is.

`Call.parse?` reads the arguments, or refuses them.
-/

namespace Switchboard.OfferDesk

/-- An option: its name, and the letter it can be given by. -/
structure OptionName where
  name : String
  letter : Option Char

/-- Whether an argument looks like an option: it starts with a dash and is longer than that. -/
def looksLikeOption (argument : String) : Bool :=
  match argument.toList with
  | '-' :: _ :: _ => true
  | _ => false

/-- The option that an argument starts, with the value that stands in the same argument. -/
def optionStart? (options : List OptionName) (argument : String) :
    Option (String × Option String) :=
  match argument.toList with
  | '-' :: '-' :: cs =>
    let name := String.ofList (cs.takeWhile (· ≠ '='))
    let value := match cs.dropWhile (· ≠ '=') with
      | _ :: value => some (String.ofList value)
      | [] => none
    if options.any (·.name = name) then some (name, value) else none
  | '-' :: letter :: cs =>
    let value := match cs with
      | [] => none
      | '=' :: value => some (String.ofList value)
      | value => some (String.ofList value)
    (options.find? (·.letter = some letter)).map fun option => (option.name, value)
  | _ => none

/-- An option with its value. -/
structure OptionValue where
  name : String
  value : String
  /-- Whether the value is an argument of its own. -/
  separate : Bool
deriving DecidableEq, Repr

/-- Options with their values, in the order in which they are given. -/
abbrev OptionValues := List OptionValue

namespace OptionValues

/-- The value of an option. -/
def get? (values : OptionValues) (name : String) : Option String :=
  (List.find? (·.name = name) values).map (·.value)

/-- Whether an option is given more than once. -/
def repeated : OptionValues → Bool
  | [] => false
  | v :: rest => rest.any (·.name = v.name) || repeated rest

/-- The values that are looked at before a command that follows them: all but a last one that is an
argument of its own. -/
def settled : OptionValues → OptionValues
  | [] => []
  | [v] => if v.separate then [] else [v]
  | v :: rest => v :: settled rest

end OptionValues

/-- Where the reading of arguments ends. -/
inductive Ending where
  | complete
  | help
  | version
deriving DecidableEq, Repr

/-- The ending that an argument asks for. Only the program itself has a version. -/
def Ending.asked? (leading : Bool) (argument : String) : Option Ending :=
  match argument.toList with
  | '-' :: 'h' :: _ => some help
  | '-' :: 'V' :: _ => if leading then some version else none
  | _ =>
    if argument = "--help" then some help
    else if leading ∧ argument = "--version" then some version
    else none

/-- What is read from arguments: the values of options, words, and where the reading ends. -/
structure Arguments where
  values : OptionValues
  words : List String
  ending : Ending

namespace Arguments

/-- Nothing but words. -/
def ofWords (words : List String) : Arguments := ⟨[], words, .complete⟩

/-- Puts the value of an option in front. -/
def addValue (v : OptionValue) (a : Arguments) : Arguments := { a with values := v :: a.values }

/-- Puts a word in front. -/
def addWord (word : String) (a : Arguments) : Arguments := { a with words := word :: a.words }

/-- Splits arguments. If `leading`, the first word ends the options, and it is kept with everything
behind it. -/
def split (options : List OptionName) (leading : Bool) : List String → Option Arguments
  | [] => some (ofWords [])
  | argument :: rest =>
    if argument = "--" then if leading then none else some (ofWords rest)
    else if looksLikeOption argument then
      match Ending.asked? leading argument, optionStart? options argument, rest with
      | some ending, _, _ => some ⟨[], [], ending⟩
      | none, some (name, some value), rest =>
        (split options leading rest).map (addValue ⟨name, value, false⟩)
      | none, some (name, none), value :: rest =>
        if looksLikeOption value then none
        else (split options leading rest).map (addValue ⟨name, value, true⟩)
      | none, _, _ => none
    else if leading then some (ofWords (argument :: rest))
    else (split options leading rest).map (addWord argument)

end Arguments

/-- An amount of dollars: an unsigned integer of 32 bits, perhaps with a sign. -/
def amount? (text : String) : Option Nat :=
  let (negative, digits) := match text.toList with
    | '-' :: rest => (true, rest)
    | '+' :: rest => (false, rest)
    | cs => (false, cs)
  (Text.number? 10 digits).filter fun n => if negative then n = 0 else n < Nat.pow 2 32

/-- An offer of a customer, with the events that it goes through. -/
structure Order where
  events : List String
  customer : String
  dollars : Nat
  lowest : Option Nat
  /-- The text in an answer at which the work stops. -/
  stopText : Option String
deriving DecidableEq, Repr

/-- What the program is asked to do. -/
inductive Command where
  | trigger (order : Order)
  /-- Lists the handlers for an event. -/
  | resolve (event : String)
deriving DecidableEq, Repr

/-- A call of the program. -/
structure Invocation where
  configFile : String
  profile : Option String
  command : Command
deriving DecidableEq, Repr

/-- What help is about. -/
inductive Topic where
  | program
  | trigger
  | resolve
  /-- The command for help itself. -/
  | help
deriving DecidableEq, Repr

/-- What the words of a call ask for. -/
inductive Demand where
  | command (c : Command)
  | help (topic : Topic)
deriving DecidableEq, Repr

/-- Reads an optional amount. -/
def readAmount? : Option String → Option (Option Nat)
  | none => some none
  | some text => (amount? text).map some

namespace Demand

/-- The options of the command that triggers events. -/
def triggerOptions : List OptionName :=
  [⟨"customer", none⟩, ⟨"dollars", none⟩, ⟨"floor", none⟩, ⟨"until", none⟩]

/-- Reads the arguments of the command that triggers events. -/
def parseTrigger? (arguments : List String) : Option Demand := do
  let a ← (Arguments.split triggerOptions false arguments).filter fun a => !a.values.repeated
  let dollars ← readAmount? (a.values.get? "dollars")
  let lowest ← readAmount? (a.values.get? "floor")
  if a.ending = .complete then
    let customer ← a.values.get? "customer"
    if a.words.isEmpty then none
    else
      some (.command (.trigger ⟨a.words, customer, dollars.getD 0, lowest, a.values.get? "until"⟩))
  else some (.help .trigger)

/-- Reads the arguments of the command that lists handlers. -/
def parseResolve? (arguments : List String) : Option Demand := do
  let a ← Arguments.split [] false arguments
  match a.ending, a.words with
  | .complete, [event] => some (.command (.resolve event))
  | .complete, _ => none
  | _, [] | _, [_] => some (.help .resolve)
  | _, _ => none

/-- Reads the names behind the command for help. -/
def parseHelp? : List String → Option Demand
  | [] => some (.help .program)
  | ["trigger"] => some (.help .trigger)
  | ["resolve"] => some (.help .resolve)
  | ["help"] => some (.help .help)
  | _ => none

/-- Reads the name of a command with the arguments behind it. -/
def parse? : List String → Option Demand
  | "trigger" :: arguments => parseTrigger? arguments
  | "resolve" :: arguments => parseResolve? arguments
  | "help" :: names => parseHelp? names
  | _ => none

end Demand

/-- What the arguments come to. -/
inductive Call where
  | run (i : Invocation)
  | help (topic : Topic)
  | version
deriving DecidableEq, Repr

namespace Call

/-- The options of the program. -/
def options : List OptionName := [⟨"config", some 'c'⟩, ⟨"profile", some 'p'⟩]

/-- The configuration file unless another one is named. -/
def usualConfigFile : String := "reacton.toml"

/-- Whether values of options of the program are in order: none is given twice, and the name of the
configuration file is not empty. -/
def inOrder (values : OptionValues) : Bool :=
  !values.repeated && values.get? "config" ≠ some ""

/-- What the options of the program and a command come to. -/
def ofCommand (values : OptionValues) (c : Command) : Call :=
  run ⟨(values.get? "config").getD usualConfigFile, values.get? "profile", c⟩

/-- Reads the arguments of the program. -/
def parse? (arguments : List String) : Option Call := do
  let a ← Arguments.split options true arguments
  match a.ending with
  | .help => if inOrder a.values then some (.help .program) else none
  | .version => if inOrder a.values then some .version else none
  | .complete =>
    if inOrder a.values.settled then
      match ← Demand.parse? a.words with
      | .help topic => some (.help topic)
      | .command c => if inOrder a.values then some (ofCommand a.values c) else none
    else none

end Call

end Switchboard.OfferDesk
