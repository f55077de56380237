import BooleanSearch.Proofs.Settings.Layers
import BooleanSearch.Proofs.Text.Trimming

/-! Which roots are accepted: those with known keys, with values of the right types, and with
settings that pass all checks once they are brought into their normal form. -/

namespace BooleanSearch.Settings

open Number Entries

/-! ### What is accepted -/

/-- A scalar that is a text. -/
def IsText (content : Scalar) (text : String) : Prop := content = .text text

/-- A scalar that is a truth value. -/
def IsTruth (content : Scalar) (truth : Bool) : Prop := content = .bool truth

/-- A scalar that is an integer, which no truth value is. -/
def IsInteger (content : Scalar) (number : Int) : Prop := content = .int number

/-- A scalar that is a number of seconds: a float, or an integer with a float near to it. -/
inductive IsSeconds : Scalar → Binary64 → Prop
  | float (seconds : Binary64) : IsSeconds (.float seconds) seconds
  | int {number : Int} {seconds : Binary64} (near : Binary64.ofInt? number = some seconds) :
      IsSeconds (.int number) seconds

/-- A setting is taken from a scalar of its type; where there is no value it is standard. -/
inductive Taken (reads : Scalar → α → Prop) (standard : α) : Option Value → α → Prop
  | standard : Taken reads standard none standard
  | given {content : Scalar} {setting : α} (read : reads content setting) :
      Taken reads standard (some (.scalar content)) setting

/-- Values give settings, as they are written. -/
structure Gives (value : String → String → Option Value) (raw : Settings) : Prop where
  level : Taken IsText LogSettings.standard.level (value "log" "level") raw.log.level
  toFile : Taken IsTruth LogSettings.standard.toFile (value "log" "to_file") raw.log.toFile
  directory : Taken IsText LogSettings.standard.directory (value "log" "dir") raw.log.directory
  text : Taken IsText Query.FieldNames.standard.text (value "fields" "text") raw.fields.text
  year : Taken IsText Query.FieldNames.standard.year (value "fields" "year") raw.fields.year
  url : Taken IsText BackendSettings.standard.url (value "backend" "url") raw.backend.url
  index : Taken IsText BackendSettings.standard.index (value "backend" "index") raw.backend.index
  timeout : Taken IsSeconds BackendSettings.standard.timeout (value "backend" "timeout")
    raw.backend.timeout
  maxAttempts : Taken IsInteger BackendSettings.standard.maxAttempts
    (value "backend" "max_attempts") raw.backend.maxAttempts
  username : Taken IsText BackendSettings.standard.usernameVariable
    (value "backend" "username_env") raw.backend.usernameVariable
  password : Taken IsText BackendSettings.standard.passwordVariable
    (value "backend" "password_env") raw.backend.passwordVariable

/-- The normal form of settings: the level in upper case, names and addresses without blanks
around them. -/
def normalised (raw : Settings) : Settings where
  log := { raw.log with level := Text.upper raw.log.level }
  fields := ⟨Text.trim raw.fields.text, Text.trim raw.fields.year⟩
  backend := { raw.backend with
    url := Text.trim raw.backend.url
    index := Text.trim raw.backend.index }

/-- Settings that can be used, apart from the seconds that a request may take. -/
structure Valid (settings : Settings) : Prop where
  level : settings.log.level ∈ ["DEBUG", "INFO", "WARNING", "ERROR", "CRITICAL"]
  directory : settings.log.toFile = true →
    ∃ c ∈ settings.log.directory.toList, Text.isBlank c = false
  text : settings.fields.text ≠ ""
  year : settings.fields.year ≠ ""
  distinct : settings.fields.text ≠ settings.fields.year
  scheme : "http://".toList <+: settings.backend.url.toList ∨
    "https://".toList <+: settings.backend.url.toList
  index : settings.backend.index ≠ ""
  lower : settings.backend.index = Text.lower settings.backend.index
  attempts : 0 < settings.backend.maxAttempts

/-- A number above zero. -/
def IsPositive (number : Binary64) : Prop := Binary64.zero.less number = true

/-! ### Single settings -/

/-- A way to expect a setting reads it from the scalars of its type, and from nothing else. -/
def Reads (expect : String → Value → Except Error α) (reads : Scalar → α → Prop) : Prop :=
  ∀ key value setting, expect key value = .ok setting ↔
    ∃ content, value = .scalar content ∧ reads content setting

theorem reads_text : Reads expectText IsText := by
  intro key value text
  constructor
  · intro read
    unfold expectText at read
    split at read
    · exact ⟨_, rfl, congrArg _ (Except.ok.inj read)⟩
    · -- Values of all other types are refused.
      contradiction
  · rintro ⟨_, rfl, rfl⟩
    rfl

theorem reads_truth : Reads expectTruth IsTruth := by
  intro key value truth
  constructor
  · intro read
    unfold expectTruth at read
    split at read
    · exact ⟨_, rfl, congrArg _ (Except.ok.inj read)⟩
    · contradiction
  · rintro ⟨_, rfl, rfl⟩
    rfl

theorem reads_integer : Reads expectInteger IsInteger := by
  intro key value number
  constructor
  · intro read
    unfold expectInteger at read
    split at read
    · exact ⟨_, rfl, congrArg _ (Except.ok.inj read)⟩
    · -- Neither a float nor a truth value is an integer here.
      contradiction
  · rintro ⟨_, rfl, rfl⟩
    rfl

theorem wholeSeconds_eq_ok_iff {number : Int} {seconds : Binary64} :
    wholeSeconds number = .ok seconds ↔ Binary64.ofInt? number = some seconds := by
  unfold wholeSeconds
  cases Binary64.ofInt? number <;> simp

theorem reads_seconds : Reads expectSeconds IsSeconds := by
  intro key value seconds
  constructor
  · intro read
    unfold expectSeconds at read
    -- Floats are taken as they are, and integers by the float nearest to them.
    split at read
    · obtain rfl := Except.ok.inj read
      exact ⟨_, rfl, .float _⟩
    · exact ⟨_, rfl, .int (wholeSeconds_eq_ok_iff.1 read)⟩
    · contradiction
  · rintro ⟨_, rfl, read⟩
    cases read with
    | float => rfl
    | int near => exact wholeSeconds_eq_ok_iff.2 near

theorem taken_iff {reads : Scalar → α → Prop} {standard setting : α} {held : Option Value} :
    Taken reads standard held setting ↔ (held = none ∧ setting = standard) ∨
      ∃ content, held = some (.scalar content) ∧ reads content setting := by
  constructor
  · intro taken
    cases taken with
    | standard => exact .inl ⟨rfl, rfl⟩
    | given read => exact .inr ⟨_, rfl, read⟩
  · rintro (⟨rfl, rfl⟩ | ⟨content, rfl, read⟩)
    · exact .standard
    · exact .given read

/-- A value comes to the setting that is taken from it. -/
theorem Reads.valued_eq_ok_iff {expect : String → Value → Except Error α}
    {reads : Scalar → α → Prop} (expects : Reads expect reads)
    (value : String → String → Option Value) (name key : String) (standard setting : α) :
    valued value name key expect standard = .ok setting ↔
      Taken reads standard (value name key) setting := by
  rw [taken_iff, valued]
  cases value name key with
  | none => simp [eq_comm]
  | some given => simp [expects _ given setting]

/-- Single values come to the normal form of the settings that they give. -/
theorem ofValues_eq_ok_iff {value : String → String → Option Value} {settings : Settings} :
    ofValues value = .ok settings ↔ ∃ raw, Gives value raw ∧ normalised raw = settings := by
  simp only [ofValues, logOf, fieldsOf, backendOf, bind_eq_ok_iff,
    reads_text.valued_eq_ok_iff, reads_truth.valued_eq_ok_iff, reads_integer.valued_eq_ok_iff,
    reads_seconds.valued_eq_ok_iff, pure, Except.pure, Except.ok.injEq]
  -- All values are taken on their own, and brought into the normal form section by section.
  constructor
  · rintro ⟨_, ⟨level, takenLevel, toFile, takenToFile, directory, takenDirectory, rfl⟩,
      _, ⟨text, takenText, year, takenYear, rfl⟩,
      _, ⟨url, takenUrl, index, takenIndex, timeout, takenTimeout, attempts, takenAttempts,
        username, takenUsername, password, takenPassword, rfl⟩, rfl⟩
    exact ⟨⟨⟨level, toFile, directory⟩, ⟨text, year⟩,
      ⟨url, index, timeout, attempts, username, password⟩⟩,
      ⟨takenLevel, takenToFile, takenDirectory, takenText, takenYear, takenUrl, takenIndex,
        takenTimeout, takenAttempts, takenUsername, takenPassword⟩, rfl⟩
  · rintro ⟨raw, gives, rfl⟩
    exact ⟨_, ⟨_, gives.level, _, gives.toFile, _, gives.directory, rfl⟩,
      _, ⟨_, gives.text, _, gives.year, rfl⟩,
      _, ⟨_, gives.url, _, gives.index, _, gives.timeout, _, gives.maxAttempts, _, gives.username,
        _, gives.password, rfl⟩, rfl⟩

/-- A timeout is refused unless it is positive, or no number at all. -/
theorem timeout_passes_iff (timeout : Binary64) :
    (timeout.less .zero || timeout.same .zero) = false ↔
      IsPositive timeout ∨ timeout = .nan := by
  unfold IsPositive Binary64.zero
  cases timeout with
  | nan =>
    -- It compares with nothing, so that neither comparison refuses it.
    simp [Binary64.less, Binary64.same]
  | infinite negative => cases negative <;> simp [Binary64.less, Binary64.same]
  | finite negative quanta =>
    -- Zero is refused with either sign.
    simp [Binary64.less, Binary64.same, Binary64.signed]
    omega

theorem mem_levelNames_iff (level : String) :
    level ∈ levelNames ↔ level ∈ ["DEBUG", "INFO", "WARNING", "ERROR", "CRITICAL"] := by
  simp only [levelNames, List.mem_cons, List.not_mem_nil, or_false]
  tauto

/-- The names of levels are in upper case. -/
theorem upper_levelName {level : String} (named : level ∈ levelNames) :
    Text.upper level = level := by
  have each : ∀ name ∈ levelNames, Text.upper name = name := by decide
  exact each _ named

/-- The checks are those of valid settings, but that a timeout may be no number. -/
theorem checked_eq_ok_iff {settings result : Settings} :
    checked settings = .ok result ↔ Valid settings ∧
      (IsPositive settings.backend.timeout ∨ settings.backend.timeout = .nan) ∧
      settings = result := by
  have directory (log : LogSettings) : log.toFile = false ∨ Text.trim log.directory ≠ "" ↔
      (log.toFile = true → ∃ c ∈ log.directory.toList, Text.isBlank c = false) := by
    -- A trimmed text is empty if nothing but blanks is in it.
    rw [ne_eq, Text.trim_eq_empty_iff]
    cases log.toFile <;> simp
  simp only [checked, checkLog, checkFields, checkBackend, bind_eq_ok_iff, require_eq_ok_iff,
    exists_const, hasScheme, Bool.or_eq_true, bne_iff_ne, beq_iff_eq, decide_eq_true_eq,
    Bool.not_eq_true', List.isPrefixOf_iff_prefix, List.contains_iff_mem, timeout_passes_iff,
    mem_levelNames_iff, directory, pure, Except.pure, Except.ok.injEq]
  -- What is left are the same conditions, grouped by sections.
  constructor
  · rintro ⟨⟨level, directory⟩, ⟨text, year⟩, ⟨scheme, index, lower, timeout, attempts⟩, distinct,
      same⟩
    exact ⟨⟨level, directory, text, year, distinct, scheme, index, lower, attempts⟩, timeout, same⟩
  · rintro ⟨valid, timeout, same⟩
    exact ⟨⟨valid.level, valid.directory⟩, ⟨valid.text, valid.year⟩,
      ⟨valid.scheme, valid.index, valid.lower, timeout, valid.attempts⟩, valid.distinct, same⟩

/-- Roots are accepted if they are well-formed and give settings that pass all checks. -/
theorem accepted_iff {root : Entries} {settings : Settings} :
    ofEntries root = .ok settings ↔ Shaped root ∧
      (∃ raw, Gives (valueIn root) raw ∧ normalised raw = settings) ∧ Valid settings ∧
      (IsPositive settings.backend.timeout ∨ settings.backend.timeout = .nan) := by
  rw [accepted_iff_checked, ofValues_eq_ok_iff, checked_eq_ok_iff]
  simp only [and_true]

/-- Only a value that is no number itself is taken for a timeout that is none. -/
theorem Gives.nan {value : String → String → Option Value} {raw : Settings}
    (gives : Gives value raw) (noNumber : raw.backend.timeout = .nan) :
    value "backend" "timeout" = some (.float .nan) := by
  have timeout := gives.timeout
  rw [noNumber, taken_iff] at timeout
  obtain ⟨-, standard⟩ | ⟨content, given, seconds⟩ := timeout
  · have number : BackendSettings.standard.timeout ≠ .nan := by decide +kernel
    exact absurd standard.symm number
  · cases seconds with
    | float => exact given
    | int near =>
      -- What is nearest to an integer is finite.
      obtain ⟨quanta, -, finite⟩ := Option.map_eq_some_iff.1 near
      exact absurd finite (by simp)

/-! ### Layers -/

/-- A section over another one has keys of theirs only. -/
theorem IsSection.sectionOver {known : List String} {below : Option Value} {value : Value}
    (lower : IsSection known below) (upper : IsSection known (some value)) :
    IsSection known (some (sectionOver below value)) := by
  cases upper with
  | null => exact .null
  | @mapping entries names =>
    -- A mapping over nothing is left as it is, and over another mapping it adds its own keys.
    cases lower with
    | absent | null => exact .mapping names
    | @mapping others namesBelow =>
      refine .mapping fun key member => ?_
      rw [(overlays_overlay _ others entries).keys] at member
      obtain among | fresh := List.mem_append.1 member
      · exact namesBelow key among
      · exact names key (List.mem_filter.1 fresh).1

theorem getText?_layered (base override : Entries) (name : String) :
    Entries.getText? name (layered base override) =
      (override.getText? name).elim (base.getText? name) fun value =>
        some (sectionOver (base.getText? name) value) :=
  (overlays_overlay Settings.sectionOver base override).values (.text name)

theorem isSection_layered {base override : Entries} {known : List String} {name : String}
    (lower : IsSection known (base.getText? name))
    (upper : IsSection known (override.getText? name)) :
    IsSection known (Entries.getText? name (layered base override)) := by
  rw [getText?_layered]
  generalize override.getText? name = above at upper
  cases above with
  | none => exact lower
  | some value => exact lower.sectionOver upper

/-- A root over another one is well-formed if they are. -/
theorem Shaped.layered {base override : Entries} (lower : Shaped base) (upper : Shaped override) :
    Shaped (layered base override) where
  sections key member := by
    rw [Settings.layered, (overlays_overlay _ base override).keys] at member
    obtain among | fresh := List.mem_append.1 member
    · exact lower.sections key among
    · exact upper.sections key (List.mem_filter.1 fresh).1
  log := isSection_layered lower.log upper.log
  fields := isSection_layered lower.fields upper.fields
  backend := isSection_layered lower.backend upper.backend

/-! ### Orders of keys -/

variable {root other : Entries}

theorem isSection_iff_of_rearranged (rearranged : Rearranged (.mapping root) (.mapping other))
    (known : List String) (name : String) :
    IsSection known (root.getText? name) ↔ IsSection known (other.getText? name) := by
  have sections := rearranged.get? (.text name)
  unfold getText?
  generalize root.get? (.text name) = above, other.get? (.text name) = below at sections ⊢
  cases sections with
  | none => rfl
  | some inside =>
    cases inside with
    | refl => rfl
    -- A list is no section in either order.
    | list => constructor <;> rintro ⟨⟩
    | mapping keys =>
      -- The names of a section are known in every order.
      constructor
      · rintro (_ | _ | names)
        exact .mapping fun key member => names key (keys.mem_iff.2 member)
      · rintro (_ | _ | names)
        exact .mapping fun key member => names key (keys.mem_iff.1 member)

theorem shaped_iff_of_rearranged (rearranged : Rearranged (.mapping root) (.mapping other)) :
    Shaped root ↔ Shaped other := by
  -- Both roots have the same keys, in whatever order, and the sections are compared one by one.
  have names (known : List String) : (∀ key ∈ root.keys, key.shown ∈ known) ↔
      ∀ key ∈ other.keys, key.shown ∈ known := by
    cases rearranged with
    | refl => rfl
    | mapping keys => simp only [keys.mem_iff]
  constructor
  · intro shaped
    exact ⟨(names _).1 shaped.sections, (isSection_iff_of_rearranged rearranged _ _).1 shaped.log,
      (isSection_iff_of_rearranged rearranged _ _).1 shaped.fields,
      (isSection_iff_of_rearranged rearranged _ _).1 shaped.backend⟩
  · intro shaped
    exact ⟨(names _).2 shaped.sections, (isSection_iff_of_rearranged rearranged _ _).2 shaped.log,
      (isSection_iff_of_rearranged rearranged _ _).2 shaped.fields,
      (isSection_iff_of_rearranged rearranged _ _).2 shaped.backend⟩

theorem valueIn_rearranged (rearranged : Rearranged (.mapping root) (.mapping other))
    (name key : String) :
    Option.Rel Rearranged (valueIn root name key) (valueIn other name key) := by
  have sections := rearranged.get? (.text name)
  unfold Settings.valueIn getText?
  generalize root.get? (.text name) = above, other.get? (.text name) = below at sections ⊢
  cases sections with
  | none => exact .none
  | some inside =>
    cases inside with
    | refl => exact rearranged_rel_refl _
    | list => exact .none
    | mapping keys values => exact (Rearranged.mapping keys values).get? (.text key)

/-- A setting is taken from a scalar, which has no keys to be rearranged. -/
theorem taken_of_rel {reads : Scalar → α → Prop} {standard setting : α}
    {held another : Option Value} (rearranged : Option.Rel Rearranged held another) :
    Taken reads standard held setting ↔ Taken reads standard another setting := by
  cases rearranged with
  | none => rfl
  | some inside =>
    cases inside with
    | refl => rfl
    | list | mapping => constructor <;> rintro ⟨⟩

/-- Values that are taken alike give the same settings. -/
theorem Gives.congr {value another : String → String → Option Value} {raw : Settings}
    (alike : ∀ {α : Type} {reads : Scalar → α → Prop} {standard setting : α} (name key : String),
      Taken reads standard (value name key) setting →
        Taken reads standard (another name key) setting)
    (gives : Gives value raw) : Gives another raw :=
  ⟨alike _ _ gives.level, alike _ _ gives.toFile, alike _ _ gives.directory,
    alike _ _ gives.text, alike _ _ gives.year, alike _ _ gives.url, alike _ _ gives.index,
    alike _ _ gives.timeout, alike _ _ gives.maxAttempts, alike _ _ gives.username,
    alike _ _ gives.password⟩

/-- Neither whether a root is accepted nor its settings depend on the order of keys. -/
theorem accepted_iff_of_rearranged (rearranged : Rearranged (.mapping root) (.mapping other))
    (settings : Settings) : ofEntries root = .ok settings ↔ ofEntries other = .ok settings := by
  have gives (raw : Settings) :
      Gives (Settings.valueIn root) raw ↔ Gives (Settings.valueIn other) raw := by
    constructor
    · exact Gives.congr fun name key => (taken_of_rel (valueIn_rearranged rearranged name key)).1
    · exact Gives.congr fun name key => (taken_of_rel (valueIn_rearranged rearranged name key)).2
  simp only [Settings.accepted_iff, shaped_iff_of_rearranged rearranged, gives]

/-- Roots are accepted exactly if they are well-formed, their values have the types of settings,
and these settings are valid in their normal form, in which they are returned. -/
theorem ofEntries_eq_ok_iff {root : Entries}
    (number : valueIn root "backend" "timeout" ≠ some (.float .nan)) (settings : Settings) :
    (ofEntries root = .ok settings ↔ Shaped root ∧
      ∃ raw, Gives (valueIn root) raw ∧ normalised raw = settings ∧ Valid settings ∧
        IsPositive settings.backend.timeout) ∧
    normalised .standard = .standard ∧
    ∀ other, Rearranged (.mapping root) (.mapping other) →
      (ofEntries other = .ok settings ↔ ofEntries root = .ok settings) := by
  refine ⟨?_, by decide +kernel,
    fun other rearranged => (accepted_iff_of_rearranged rearranged settings).symm⟩
  rw [accepted_iff]
  constructor
  · rintro ⟨shaped, ⟨raw, gives, rfl⟩, valid, positive | noNumber⟩
    · exact ⟨shaped, raw, gives, rfl, valid, positive⟩
    · -- A timeout that is no number has been given as one.
      exact absurd (gives.nan noNumber) number
  · rintro ⟨shaped, raw, gives, rfl, valid, positive⟩
    exact ⟨shaped, ⟨raw, gives, rfl⟩, valid, .inl positive⟩

/-- A level in lower case, an address with a blank and whole seconds, in either order. -/
theorem ofEntries_eq_ok_iff_reversed :
    let root := entriesOf
      [("log", .object [("level", .text "debug"), ("to_file", .bool true)]),
        ("backend", .object [("url", .text " http://books"), ("timeout", .int 3)])]
    let settings : Settings := ⟨⟨"DEBUG", true, "log"⟩, .standard,
      { BackendSettings.standard with url := "http://books", timeout := .ofHundredths 300 }⟩
    valueIn root "backend" "timeout" ≠ some (.float .nan) ∧
      Rearranged (.mapping root) (.mapping root.reverse) ∧ Shaped root ∧
      ofEntries root = .ok settings ∧ ofEntries root.reverse = .ok settings := by
  intro root settings
  have number : valueIn root "backend" "timeout" ≠ some (.float .nan) := by
    have held : valueIn root "backend" "timeout" = some (.int 3) := rfl
    simp [held]
  have distinct : Entries.Distinct root := distinct_entriesOf (by decide)
  have reversed : Rearranged (.mapping root) (.mapping root.reverse) :=
    rearranged_of_perm distinct (List.reverse_perm root).symm
  have accepted : ofEntries root = .ok settings := by decide +kernel
  obtain ⟨valid, -, orders⟩ := ofEntries_eq_ok_iff number settings
  exact ⟨number, reversed, (valid.1 accepted).1, accepted, (orders _ reversed).2 accepted⟩

end BooleanSearch.Settings
