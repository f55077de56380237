import BooleanSearch.Directories
import BooleanSearch.Log.Record
import BooleanSearch.Text.Case
import BooleanSearch.Value.Basic

/-! Faults in the setup of a log, and the levels that names stand for. -/

namespace BooleanSearch.Log

/-- Why a log cannot be set up. -/
inductive Fault
  /-- What should be the name of a level is no text. -/
  | noName (kind : String)
  /-- The name of the level stands for a text that is no level. -/
  | unknownLevel (text : String)
  /-- The name of the level stands for something that is not even a text. -/
  | noLevel (shown : String)
  /-- The path of the log file holds a character that no path can hold. -/
  | noPath
  /-- The directory of the log file cannot be made. -/
  | blocked (obstacle : Obstacle)
deriving Repr, DecidableEq

/-- The wording of a fault. -/
def Fault.message : Fault → String
  | .noName kind => "'" ++ kind ++ "' object has no attribute 'upper'"
  | .unknownLevel text => "Unknown level: " ++ Text.quoted text
  | .noLevel shown => "Level not an integer or a valid string: " ++ shown
  | .noPath => "embedded null byte"
  | .blocked obstacle => obstacle.message

/-- The name of a level that a value is; what is nothing is an empty name. -/
def levelNameOf : Value → Except Fault String
  | .text name => .ok name
  | other => if other.isNothing then .ok "" else .error (.noName other.kindName)

/-- The name under which the log knows the layout of its lines, and this layout. -/
def layoutEntry : String × String := ("BASIC_FORMAT", "%(levelname)s:%(name)s:%(message)s")

/-- The name under which the log knows the styles of layouts, and how these are shown. -/
def stylesEntry : String × String := ("_STYLES",
  "\x7b'%': (<class 'logging.PercentStyle'>, '%(levelname)s:%(name)s:%(message)s'), " ++
  "'\x7b': (<class 'logging.StrFormatStyle'>, " ++
  "'\x7blevelname\x7d:\x7bname\x7d:\x7bmessage\x7d'), " ++
  "'$': (<class 'logging.StringTemplateStyle'>, " ++
  "'$\x7blevelname\x7d:$\x7bname\x7d:$\x7bmessage\x7d')\x7d")

/-- The level of a name, in whatever case it is written; unknown names stand for `INFO`. -/
def levelOfName (name : String) : Except Fault Int :=
  let name := Text.upper name
  -- Two names are known to the log and stand for no level.
  if name == layoutEntry.1 then .error (.unknownLevel layoutEntry.2)
  else if name == stylesEntry.1 then .error (.noLevel stylesEntry.2)
  else .ok ((namedLevels.lookup name).getD 20)

end BooleanSearch.Log
