/-! Records of a log: what is said, and how weighty it is. -/

namespace BooleanSearch.Log

/-- A record: a message and its level; weightier messages have larger levels. -/
structure Record where
  /-- How weighty the message is. -/
  level : Int
  /-- What is said. -/
  message : String
deriving Repr, DecidableEq

/-- A record for those who look for a fault. -/
def Record.debug (message : String) : Record := ⟨10, message⟩

/-- A record of something done. -/
def Record.info (message : String) : Record := ⟨20, message⟩

/-- A record of a failure. -/
def Record.error (message : String) : Record := ⟨40, message⟩

/-- The levels that have names. -/
def namedLevels : List (String × Int) := [
  ("NOTSET", 0), ("DEBUG", 10), ("INFO", 20), ("WARN", 30), ("WARNING", 30), ("ERROR", 40),
  ("FATAL", 50), ("CRITICAL", 50)]

/-- The four letters that show a level; other levels have no letters of their own. -/
def abbreviation (level : Int) : String :=
  if level == 0 then "NOTS"
  else if level == 10 then "DEBG"
  else if level == 20 then "INFO"
  else if level == 30 then "WARN"
  else if level == 40 || level == 50 then "ERRO"
  else "Leve"

/-- The line of a record, which may hold further line breaks. -/
def Record.line (time : String) (record : Record) : String :=
  time ++ " [" ++ abbreviation record.level ++ "] " ++ record.message ++ "\n"

end BooleanSearch.Log
