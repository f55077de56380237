import BooleanSearch.Files
import BooleanSearch.Settings.Layers
import BooleanSearch.Settings.Load
import BooleanSearch.Text.Quoted
import BooleanSearch.Yaml.Reader

/-! Settings of files: one file on its own, or a file put over the standard one. The files are read
by any reader of YAML; where none is named it is the one that the program comes with. -/

namespace BooleanSearch.Settings

/-- Why settings cannot be read. -/
inductive LoadError
  | noFile (path : String)
  | yaml (error : Yaml.Error)
  | settings (error : Error)
deriving Repr, DecidableEq

/-- The wording of an error, unless it lies in the notation of the text. -/
def LoadError.message? : LoadError → Option String
  | .noFile path => some ("[Errno 2] No such file or directory: " ++ Text.quoted path)
  | .yaml error => error.message?
  | .settings error => some error.message

/-- The root mapping of a text; a text of nothing has no entries. -/
def rootOfText (text : String) (reader : Yaml.Reader := Yaml.read) : Except LoadError Entries :=
  match reader text with
  | .error error => .error (.yaml error)
  | .ok (.mapping entries) => .ok entries
  | .ok value => if value.isNothing then .ok [] else .error (.settings .rootNoMapping)

/-- The root mapping of a file. -/
def rootOfFile (files : Files) (path : String) (reader : Yaml.Reader) : Except LoadError Entries :=
  match files.text? path with
  | some text => rootOfText text reader
  | none => .error (.noFile (Path.ofNames (Path.names path)))

/-- The settings of a root mapping, as those of a file. -/
def ofRoot (root : Entries) : Except LoadError Settings :=
  (ofEntries root).mapError .settings

/-- The settings of one file. -/
def ofFile (files : Files) (path : String) (reader : Yaml.Reader := Yaml.read) :
    Except LoadError Settings := do
  ofRoot (← rootOfFile files path reader)

/-- The path of the standard settings. -/
def standardPath : String := "config/default.yml"

/-- The root mapping of the standard settings, which need not be there. -/
def standardRoot (files : Files) (reader : Yaml.Reader) : Except LoadError Entries :=
  match files.text? standardPath with
  | some text => rootOfText text reader
  | none => .ok []

/-- The settings of a file put over the standard ones. -/
def ofFiles (files : Files) (path : String) (reader : Yaml.Reader := Yaml.read) :
    Except LoadError Settings := do
  let base ← standardRoot files reader
  -- The standard settings are not put over themselves.
  if Path.names path == Path.names standardPath && !Path.isAbsolute path then ofRoot base
  else ofRoot (mergeEntries base (← rootOfFile files path reader))

end BooleanSearch.Settings
