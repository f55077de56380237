import BooleanSearch.Directories
import BooleanSearch.Log.Fault
import BooleanSearch.Log.Record

/-! Setups of a log: which records the console shows, and which the log file keeps. -/

namespace BooleanSearch.Log

/-- When something is logged: the time in front of lines, and the stamp in the name of a file. -/
structure Clock where
  /-- The time that stands in front of every line. -/
  time : String
  /-- The digits that tell log files of one action apart. -/
  stamp : String
deriving Repr, DecidableEq

/-- Where records go. -/
structure Setup where
  /-- The least level that the console shows. -/
  level : Int
  /-- The names that lead to the log file, if one is kept. -/
  file : Option (List String)
  /-- When records are logged. -/
  clock : Clock
deriving Repr, DecidableEq

/-- The names of the directory in which the log files of an action stand. -/
def directoryNames (directory action : String) : List String :=
  Path.names (if directory == "" then "log" else directory) ++ Path.names action

/-- The setup for an action; a log file is kept only for an action that has a name. -/
def Setup.forAction (clock : Clock) (levelName action : String) (toFile : Bool)
    (directory : String) : Except Fault Setup :=
  let file :=
    if toFile && action != "" then
      some (directoryNames directory action ++ [action ++ "_" ++ clock.stamp ++ ".log"])
    else none
  (levelOfName levelName).map fun level => ⟨level, file, clock⟩

/-- The level below which no record is taken, whatever would be done with it. -/
def Setup.floor (setup : Setup) : Int :=
  -- Without a level of its own the log takes warnings and what is weightier.
  if setup.level == 0 then 30 else min 10 setup.level

/-- Whether a record is taken at all. -/
def Setup.takes (setup : Setup) (record : Record) : Bool :=
  setup.floor ≤ record.level

/-- The records that the console shows. -/
def Setup.shown (setup : Setup) (records : List Record) : List Record :=
  records.filter fun record => setup.takes record && setup.level ≤ record.level

/-- The records that a log file keeps, whatever the console shows. -/
def Setup.kept (setup : Setup) (records : List Record) : List Record :=
  records.filter fun record => setup.takes record && 10 ≤ record.level

/-- The lines of records. -/
def Setup.lines (setup : Setup) (records : List Record) : String :=
  String.join (records.map (Record.line setup.clock.time))

/-- What the console shows of records. -/
def Setup.console (setup : Setup) (records : List Record) : String :=
  setup.lines (setup.shown records)

/-- The path and the text of the log file, if one is kept. -/
def Setup.logFile (setup : Setup) (records : List Record) : Option (String × String) :=
  setup.file.map fun names =>
    (Path.ofNames (Path.straight names), setup.lines (setup.kept records))

/-- Why the log file of a setup cannot be kept beside some files. -/
def Setup.fault? (setup : Setup) (files : Files) : Option Fault :=
  setup.file.bind fun names =>
    -- No path holds the character with code zero, whatever directories there are.
    if (Path.ofNames names).toList.contains '\x00' then some .noPath
    else
      match Tree.makeAll ⟨files, []⟩ names.dropLast.reverse with
      | .ok _ => none
      | .error obstacle => some (.blocked obstacle)

end BooleanSearch.Log
