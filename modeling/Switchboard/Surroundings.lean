import Switchboard.Table

/-!
# What surrounds a program

The files with their contents, the log files that can be written, environment variables, two
directories and the time. A program takes all of it as one value, so that what the program does is
a function of its arguments and its surroundings.
-/

namespace Switchboard

/-- A minute of the calendar. -/
structure Moment where
  year : Nat
  month : Nat
  day : Nat
  hour : Nat
  minute : Nat
deriving DecidableEq, Repr

/-- A log file: its directory and its name. -/
structure LogFile where
  directory : String
  name : String
deriving DecidableEq, Repr

/-- What is in a file. -/
inductive FileContent where
  | text (s : String)
  /-- The file cannot be read, or not as a text. -/
  | unreadable
deriving DecidableEq, Repr

/-- The text in a file, if there is one. -/
def FileContent.text? : FileContent → Option String
  | text s => some s
  | unreadable => none

/-- What surrounds a program. -/
structure Surroundings where
  /-- What is in the file at a path, if there is a file. -/
  file? : String → Option FileContent
  /-- Whether a log file can be opened, after its directory has been made. -/
  opens : LogFile → Bool
  environment : Table String
  workingDirectory : String
  /-- The directory for the configurations of a user, which not every system has. -/
  userDirectory : Option String
  now : Moment

namespace Surroundings

/-- Whether there is a file at a path, be it a text or not. -/
def isFile (s : Surroundings) (path : String) : Bool := (s.file? path).isSome

/-- The text of the file at a path. -/
def read? (s : Surroundings) (path : String) : Option String :=
  (s.file? path).bind FileContent.text?

end Surroundings

end Switchboard
