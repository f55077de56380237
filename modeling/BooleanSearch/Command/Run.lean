import BooleanSearch.Command.Arguments
import BooleanSearch.Log.Setup
import BooleanSearch.Settings.Source
import BooleanSearch.Text.Control

/-! Runs of the program: from a command line to what is written, and to the exit code. -/

namespace BooleanSearch.Command

open Backend

/-- Why a run breaks off before its job starts. -/
inductive Crash
  /-- A path is given that holds a character that no path can hold. -/
  | noPath
  /-- The settings cannot be read. -/
  | settings (error : Settings.LoadError)
  /-- The log cannot be set up. -/
  | log (fault : Log.Fault)
deriving Repr, DecidableEq

/-- The wording of a crash, unless it lies in the notation of a text. -/
def Crash.message? : Crash → Option String
  | .noPath => some "embedded null byte"
  | .settings error => error.message?
  | .log fault => some fault.message

/-- What a command line comes to. -/
inductive Plan
  /-- The command line cannot be understood. -/
  | misused
  /-- The run breaks off. -/
  | crashed (crash : Crash)
  /-- A job is to be done. -/
  | ready (setup : Log.Setup) (action : Action) (steps : Exchange Failure String)

/-- What a misused command line comes to. -/
def Misuse.plan : Misuse → Plan
  | .unclear => .misused
  | .noPath => .crashed .noPath

/-- How the log is set up for an action. -/
def setupFor (files : Files) (clock : Log.Clock) (settings : LogSettings) (action : Action) :
    Except Log.Fault Log.Setup := do
  let setup ← Log.Setup.forAction clock settings.level action.name settings.toFile
    settings.directory
  match setup.fault? files with
  | some fault => throw fault
  | none => return setup

/-- What a job comes to with its settings. -/
def Job.plan (files : Files) (environment : Environment) (clock : Log.Clock)
    (settings : Settings) (reader : Yaml.Reader) (job : Job) : Plan :=
  match setupFor files clock settings.log job.action with
  | .error fault => .crashed (.log fault)
  | .ok setup =>
    .ready setup job.action
      (job.steps settings (.ofSettings settings.backend environment) reader)

/-- What is wrong with the path of the settings that a call gives. -/
def Call.misuse? (files : Files) (call : Call) : Option Misuse :=
  match call.settingsPath.map (givenText files) with
  | some (.error misuse) => some misuse
  | _ => none

/-- What a call comes to. -/
def Call.plan (files : Files) (environment : Environment) (clock : Log.Clock)
    (reader : Yaml.Reader) (call : Call) : Plan :=
  match call.misuse? files with
  | some misuse => misuse.plan
  | none =>
    match call.command.bind Action.ofName? with
    -- Instead of a command an option may stand there, which is still looked at.
    | none => (((readCall none call.line).bind (Call.misuse? files)).getD .unclear).plan
    | some action =>
      -- The settings are read before the arguments of the command are looked at.
      match Settings.ofFiles files (call.settingsPath.getD Settings.standardPath) reader with
      | .error error => .crashed (.settings error)
      | .ok settings =>
        match jobOf files action call.arguments with
        | .error misuse => misuse.plan
        | .ok job => job.plan files environment clock settings reader

/-- What a command line comes to; its files may be read by any reader. -/
def plan (files : Files) (environment : Environment) (clock : Log.Clock)
    (arguments : List String) (reader : Yaml.Reader := Yaml.read) : Plan :=
  match readCall none arguments with
  | some call => call.plan files environment clock reader
  | none => .misused

/-- What a run leaves behind. -/
structure Report where
  /-- The number that says how the run went. -/
  exitCode : Nat
  /-- What was written for further use. -/
  output : String
  /-- What was written for the user to see. -/
  diagnostics : String
  /-- The path and the text of the log file, if one was kept. -/
  logFile : Option (String × String)
deriving Repr, DecidableEq

/-- What a run leaves behind that ended before its job. -/
def Report.early (exitCode : Nat) : Report := ⟨exitCode, "", "", none⟩

/-- What a run leaves behind whose job had an outcome. -/
def Report.ofOutcome (setup : Log.Setup) (action : Action) (outcome : Outcome Failure String) :
    Report :=
  -- Records are written as they are; what else is written goes through the command-line library,
  -- which leaves out what would tell a terminal how to show it.
  match outcome.result with
  | .ok output =>
    ⟨0, Text.withoutControls output, setup.console outcome.records,
      setup.logFile outcome.records⟩
  | .error failure =>
    let records := outcome.records ++ [failure.record action]
    ⟨1, "", setup.console records ++ Text.withoutControls failure.closing,
      setup.logFile records⟩

end BooleanSearch.Command
