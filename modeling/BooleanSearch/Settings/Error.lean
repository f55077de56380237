import BooleanSearch.Text.Quoted

/-! Why values are no settings. -/

namespace BooleanSearch.Settings

/-- The types that settings have. -/
inductive Expected
  | string
  | boolean
  | integer
  | number
deriving Repr, DecidableEq

/-- A type in a message. -/
def Expected.phrase : Expected → String
  | .string => "a string"
  | .boolean => "a boolean"
  | .integer => "an integer"
  | .number => "a number"

/-- Why values are no settings. -/
inductive Error
  | rootNoMapping
  | unknownSections (names : List String)
  | noSection (name : String)
  | unknownKeys (sectionName : String) (names : List String)
  | wrongType (key : String) (expected : Expected)
  | timeoutTooLarge
  | unknownLevel
  | blankDirectory
  | emptyName (key : String)
  | unknownScheme
  | upperCaseIndex
  | nonPositive (key : String)
  | sameFields
deriving Repr, DecidableEq

/-- The levels that can be set, in order. -/
def levelNames : List String := ["CRITICAL", "DEBUG", "ERROR", "INFO", "WARNING"]

/-- The wording of an error. -/
def Error.message : Error → String
  | .rootNoMapping => "Config root must be a mapping/object"
  | .unknownSections names => "Unknown config sections: " ++ Text.quotedList names
  | .noSection name => name ++ " must be an object"
  | .unknownKeys name names => name ++ " has unknown keys: " ++ Text.quotedList names
  | .wrongType key expected => key ++ " must be " ++ expected.phrase
  | .timeoutTooLarge => "int too large to convert to float"
  | .unknownLevel => "log.level must be one of " ++ Text.quotedList levelNames
  | .blankDirectory => "log.dir must not be empty when log.to_file=true"
  | .emptyName key => key ++ " must not be empty"
  | .unknownScheme => "backend.url must start with http:// or https://"
  | .upperCaseIndex => "backend.index must be lowercase"
  | .nonPositive key => key ++ " must be positive"
  | .sameFields => "fields.text and fields.year must name different fields"

end BooleanSearch.Settings
