import BooleanSearch.Backend.Wire
import BooleanSearch.Command.Run
import Std.Time.Format

/-! The program: a command line is planned, its requests are carried out, a report is written. -/

namespace BooleanSearch.Program

open Backend Command

/-- The text of a file, unless there is none at the path. -/
def textOfFile? (path : String) : IO (Option String) := do
  try
    return some (← IO.FS.readFile path)
  catch _ =>
    return none

/-- The files that a command line may speak of. -/
def filesFor (arguments : List String) : IO Files := do
  -- An argument is a path on its own, or behind the sign of its option.
  let paths := arguments ++ arguments.filterMap (valueFor? "--config")
  let mut entries : List (String × String) := []
  for path in Settings.standardPath :: paths do
    if let some text ← textOfFile? path then
      entries := entries ++ [(path, text)]
  return Files.ofPaths entries

/-- The variables that the settings of a command line name. -/
def environmentFor (files : Files) (arguments : List String) : IO Environment := do
  let path := ((readCall none arguments).bind (·.settingsPath)).getD Settings.standardPath
  match Settings.ofFiles files path with
  | .error _ => return []
  | .ok settings =>
    let backend := settings.backend
    [backend.usernameVariable, backend.passwordVariable].filterMapM fun name => do
      return (← IO.getEnv name).map (name, ·)

/-- A number with at least two digits. -/
def twoDigits (number : Int) : String :=
  (if number < 10 then "0" else "") ++ Number.intText number

/-- The present time. -/
def clockNow : IO Log.Clock := do
  let now ← Std.Time.PlainDateTime.now
  let day := [twoDigits now.month.val, twoDigits now.day.val]
  let time := [twoDigits now.hour.val, twoDigits now.minute.val, twoDigits now.second.val]
  return ⟨"-".intercalate day ++ " " ++ ":".intercalate time, String.join (day ++ time)⟩

/-- A number of seconds in whole milliseconds. -/
def milliseconds : Number.Binary64 → Nat
  | .finite false quanta => quanta * 1000 / Number.Binary64.unit
  | _ => 0

/-- Carries out an exchange; requests leave as lines, and replies come in as lines. -/
def perform (exchange : Exchange ε α) (events : List Event) : IO (Outcome ε α) := do
  match exchange with
  | .done result => return ⟨result, events.reverse, ⟨[], fun _ => .zero⟩⟩
  | .log record next => perform next (.logged record :: events)
  | .pause seconds next =>
    IO.sleep (milliseconds seconds).toUInt32
    perform next (.paused seconds :: events)
  | .draw next => perform (next (.ofHundredths (← IO.rand 0 30))) events
  | .send request next =>
    IO.println request.line
    let reply := Reply.ofLine (← (← IO.getStdin).getLine)
    perform (next reply) (.sent request reply :: events)

/-- Writes the log file of a report, if it has one. -/
def writeLog (report : Report) : IO Unit := do
  if let some (path, text) := report.logFile then
    IO.FS.createDirAll (Path.ofNames (Path.names path).dropLast)
    IO.FS.writeFile path text

/-- Writes a report; its exit code comes back. -/
def writeReport (report : Report) : IO UInt32 := do
  IO.print report.output
  IO.eprint report.diagnostics
  writeLog report
  return report.exitCode.toUInt32

/-- Carries out a plan; its exit code comes back. -/
def carryOut : Plan → IO UInt32
  | .misused => do
    IO.eprintln "Usage: [--config PATH] translate|explain|search|index ARGUMENT"
    writeReport (.early 2)
  | .crashed crash => do
    IO.eprintln (crash.message?.getD "The notation of the settings cannot be read")
    writeReport (.early 1)
  | .ready setup action steps => do
    writeReport (.ofOutcome setup action (← perform steps []))

end BooleanSearch.Program

open BooleanSearch in
/-- Runs a command line. -/
def main (arguments : List String) : IO UInt32 := do
  let files ← Program.filesFor arguments
  let environment ← Program.environmentFor files arguments
  Program.carryOut (Command.plan files environment (← Program.clockNow) arguments)
