import BooleanSearch.Number.Binary64
import BooleanSearch.Query.Document

/-! Settings: where to log, which fields to search, and how to reach the search backend. -/

namespace BooleanSearch

open Number

/-- What is logged, and where. -/
structure LogSettings where
  /-- The name of the least level that the console shows. -/
  level : String
  /-- Whether a log file is kept. -/
  toFile : Bool
  /-- The directory of the log files. -/
  directory : String
deriving Repr, DecidableEq

/-- How the search backend is reached. -/
structure BackendSettings where
  /-- The address of the backend. -/
  url : String
  /-- The index that is searched. -/
  index : String
  /-- The seconds that a request may take. -/
  timeout : Binary64
  /-- The attempts that are made for one request. -/
  maxAttempts : Int
  /-- The environment variable that holds the user's name. -/
  usernameVariable : String
  /-- The environment variable that holds the user's password. -/
  passwordVariable : String
deriving Repr, DecidableEq

/-- All settings. -/
structure Settings where
  /-- What is logged, and where. -/
  log : LogSettings
  /-- The fields that documents refer to. -/
  fields : Query.FieldNames
  /-- How the search backend is reached. -/
  backend : BackendSettings
deriving Repr, DecidableEq

/-- The log settings that hold where nothing else is said. -/
def LogSettings.standard : LogSettings := ⟨"INFO", false, "log"⟩

/-- The backend settings that hold where nothing else is said. -/
def BackendSettings.standard : BackendSettings :=
  ⟨"http://localhost:9200", "query_parser_test", .ofHundredths 1000, 4, "SEARCH_USERNAME",
    "SEARCH_PASSWORD"⟩

/-- The settings that hold where nothing else is said. -/
def Settings.standard : Settings := ⟨.standard, .standard, .standard⟩

end BooleanSearch
