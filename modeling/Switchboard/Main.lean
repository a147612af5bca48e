import Std.Time
import Switchboard.OfferDesk.Run

/-!
# The program of the offer desk

Gathers what surrounds the program, runs `OfferDesk.run`, and prints what it leaves behind.
-/

namespace Switchboard.OfferDesk.Program

/-- The variable that an entry of the environment, `name=text`, sets. -/
def setting (entry : String) : String × String :=
  let cs := entry.toList
  (String.ofList (cs.takeWhile (· ≠ '=')), String.ofList ((cs.dropWhile (· ≠ '=')).drop 1))

/-- The environment variables. -/
def readEnvironment : IO (Table String) := do
  let bytes ← IO.FS.readBinFile "/proc/self/environ"
  let text := (String.fromUTF8? bytes).getD ""
  return Table.ofList (((text.splitOn "\x00").filter (· ≠ "")).map setting)

/-- Whether there is a file at a path. -/
def isFile (path : String) : IO Bool := do
  try return (← ((← IO.currentDir) / path).metadata).type == .file catch _ => return false

/-- What is in the file at a path, if there is a file. -/
def readFile? (path : String) : IO (Option FileContent) := do
  if ← isFile path then
    try return some (.text (← IO.FS.readFile path)) catch _ => return some .unreadable
  else return none

/-- The universal time. -/
def readClock : IO Moment := do
  let t := Std.Time.DateTime.ofTimestamp (← Std.Time.Timestamp.now) Std.Time.TimeZone.ZoneRules.UTC
  return ⟨t.year.toInt.toNat, t.month.toNat, t.day.toNat, t.hour.toNat, t.minute.toNat⟩

/-- Opens a log file, in a directory that is made if need be. -/
def openLog (file : LogFile) : IO Bool := do
  try
    IO.FS.createDirAll file.directory
    let _ ← IO.FS.Handle.mk (Path.join file.directory file.name) .append
    return true
  catch _ => return false

/-- What surrounds the program, as far as its arguments reach. -/
def gather (arguments : List String) : IO Surroundings := do
  let environment ← readEnvironment
  let contents ← (configPaths arguments environment).filterMapM fun path => do
    return (← readFile? path).map (path, ·)
  let userDirectory := match Table.get? "XDG_CONFIG_HOME" environment with
    | some directory => some directory
    | none => (Table.get? "HOME" environment).map fun home => Path.join home ".config"
  return {
    file? := fun path => Table.get? path (Table.ofList contents)
    opens := fun _ => true
    environment := environment
    workingDirectory := (← IO.currentDir).toString
    userDirectory := userDirectory
    now := ← readClock }

/-- Prints a report. -/
def print (r : Report) : IO UInt32 := do
  r.output.forM IO.println
  r.errors.forM IO.eprintln
  return UInt32.ofNat r.exit.code

/-- Runs the program with its arguments. -/
def start (arguments : List String) : IO UInt32 := do
  let s ← gather arguments
  let report := run arguments s
  match report.logFile with
  | none => print report
  | some file =>
    if ← openLog file then print report
    else print (run arguments { s with opens := fun _ => false })

end Switchboard.OfferDesk.Program

/-- The program of the offer desk. -/
def main (arguments : List String) : IO UInt32 := Switchboard.OfferDesk.Program.start arguments
