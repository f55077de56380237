import BooleanSearch.Settings.Basic
import BooleanSearch.Settings.Error
import BooleanSearch.Text.Blank
import BooleanSearch.Text.Case
import BooleanSearch.Text.Order
import BooleanSearch.Value.Display

/-! Settings of a mapping: read section by section, then checked; what is left out is standard. -/

namespace BooleanSearch.Settings

open Number

/-- The names of keys that are not among the known ones, distinct and in order. -/
def unknownNames (known : List String) (entries : Entries) : List String :=
  Text.sortedTexts ((entries.map fun (key, _) => key.shown).filter (!known.contains ·))

/-- The entries of a section; an absent section has none. -/
def sectionEntries (name : String) (root : Entries) : Except Error Entries :=
  match root.getText? name with
  | none | some .null => .ok []
  | some (.mapping entries) => .ok entries
  | some _ => .error (.noSection name)

/-- The entries of a section whose keys are all known. -/
def knownSection (name : String) (known : List String) (root : Entries) : Except Error Entries := do
  let entries ← sectionEntries name root
  match unknownNames known entries with
  | [] => .ok entries
  | names => .error (.unknownKeys name names)

/-- The text of a value. -/
def expectText (key : String) : Value → Except Error String
  | .text content => .ok content
  | _ => .error (.wrongType key .string)

/-- The truth value of a value. -/
def expectTruth (key : String) : Value → Except Error Bool
  | .bool truth => .ok truth
  | _ => .error (.wrongType key .boolean)

/-- The integer of a value; truth values are none. -/
def expectInteger (key : String) : Value → Except Error Int
  | .int number => .ok number
  | _ => .error (.wrongType key .integer)

/-- The seconds of an integer, unless it lies beyond the finite numbers. -/
def wholeSeconds (number : Int) : Except Error Binary64 :=
  (Binary64.ofInt? number).elim (.error .timeoutTooLarge) .ok

/-- The seconds of a value, whole or not; truth values are none. -/
def expectSeconds (key : String) : Value → Except Error Binary64
  | .float number => .ok number
  | .int number => wholeSeconds number
  | _ => .error (.wrongType key .number)

/-- The setting under a key, read by its type, or the standard one. -/
def setting (sectionName key : String) (expect : String → Value → Except Error α) (standard : α)
    (entries : Entries) : Except Error α :=
  match entries.getText? key with
  | none => .ok standard
  | some value => expect (sectionName ++ "." ++ key) value

/-- The log settings of a root mapping. -/
def loadLog (root : Entries) : Except Error LogSettings := do
  let entries ← knownSection "log" ["level", "to_file", "dir"] root
  let standard := LogSettings.standard
  let level ← setting "log" "level" expectText standard.level entries
  let toFile ← setting "log" "to_file" expectTruth standard.toFile entries
  let directory ← setting "log" "dir" expectText standard.directory entries
  return ⟨Text.upper level, toFile, directory⟩

/-- The field names of a root mapping. -/
def loadFields (root : Entries) : Except Error Query.FieldNames := do
  let entries ← knownSection "fields" ["text", "year"] root
  let standard := Query.FieldNames.standard
  let text ← setting "fields" "text" expectText standard.text entries
  let year ← setting "fields" "year" expectText standard.year entries
  return ⟨Text.trim text, Text.trim year⟩

/-- The backend settings of a root mapping. -/
def loadBackend (root : Entries) : Except Error BackendSettings := do
  let known := ["url", "index", "timeout", "max_attempts", "username_env", "password_env"]
  let entries ← knownSection "backend" known root
  let standard := BackendSettings.standard
  let url ← setting "backend" "url" expectText standard.url entries
  let index ← setting "backend" "index" expectText standard.index entries
  let timeout ← setting "backend" "timeout" expectSeconds standard.timeout entries
  let maxAttempts ← setting "backend" "max_attempts" expectInteger standard.maxAttempts entries
  let username ← setting "backend" "username_env" expectText standard.usernameVariable entries
  let password ← setting "backend" "password_env" expectText standard.passwordVariable entries
  return ⟨Text.trim url, Text.trim index, timeout, maxAttempts, username, password⟩

/-- Fails unless a condition holds. -/
def require (condition : Bool) (error : Error) : Except Error Unit :=
  if condition then .ok () else .error error

/-- Checks the log settings. -/
def checkLog (log : LogSettings) : Except Error Unit := do
  require (levelNames.contains log.level) .unknownLevel
  require (!log.toFile || Text.trim log.directory != "") .blankDirectory

/-- Checks the field names. -/
def checkFields (fields : Query.FieldNames) : Except Error Unit := do
  require (fields.text != "") (.emptyName "fields.text")
  require (fields.year != "") (.emptyName "fields.year")

/-- Whether an address names a protocol that the backend speaks. -/
def hasScheme (url : String) : Bool :=
  "http://".toList.isPrefixOf url.toList || "https://".toList.isPrefixOf url.toList

/-- Checks the backend settings. -/
def checkBackend (backend : BackendSettings) : Except Error Unit := do
  require (hasScheme backend.url) .unknownScheme
  require (backend.index != "") (.emptyName "backend.index")
  require (backend.index == Text.lower backend.index) .upperCaseIndex
  -- What is not comparable with zero is not refused.
  let timeout := backend.timeout
  require (!(timeout.less .zero || timeout.same .zero)) (.nonPositive "backend.timeout")
  require (0 < backend.maxAttempts) (.nonPositive "backend.max_attempts")

/-- The settings of a root mapping. -/
def ofEntries (root : Entries) : Except Error Settings := do
  match unknownNames ["log", "fields", "backend"] root with
  | [] => pure ()
  | names => throw (.unknownSections names)
  -- Everything is read before anything is checked.
  let log ← loadLog root
  let fields ← loadFields root
  let backend ← loadBackend root
  checkLog log
  checkFields fields
  checkBackend backend
  require (fields.text != fields.year) .sameFields
  return ⟨log, fields, backend⟩

end BooleanSearch.Settings
