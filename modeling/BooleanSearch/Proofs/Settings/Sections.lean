import BooleanSearch.Proofs.Value.Keys
import BooleanSearch.Settings.Load

/-! Settings of a root come of its values: sections only say which keys there may be. -/

namespace BooleanSearch

namespace Text

theorem sortedTexts_eq_nil_iff {texts : List String} : sortedTexts texts = [] ↔ texts = [] := by
  cases texts with
  | nil => simp [sortedTexts]
  | cons text rest =>
    -- Whether the first text is added or is there already, the result has a member.
    have nonempty (others : List String) : insertText text others ≠ [] := by
      unfold insertText
      split
      · simp
      · split
        · simp
        · split <;> simp
    simpa [sortedTexts] using nonempty _

end Text

namespace Settings

open Entries

theorem bind_eq_ok_iff {x : Except ε α} {f : α → Except ε β} {result : β} :
    x >>= f = .ok result ↔ ∃ value, x = .ok value ∧ f value = .ok result := by
  cases x <;> simp [bind, Except.bind]

theorem require_eq_ok_iff {condition : Bool} {error : Error} {done : Unit} :
    require condition error = .ok done ↔ condition = true := by
  cases condition <;> simp [require]

/-! ### Sections -/

/-- A section is absent or null, or it is a mapping whose keys are all known. -/
inductive IsSection (known : List String) : Option Value → Prop
  | absent : IsSection known none
  | null : IsSection known (some .null)
  | mapping {entries : Entries} (names : ∀ key ∈ entries.keys, key.shown ∈ known) :
      IsSection known (some (.mapping entries))

/-- A root has no keys but those of settings. -/
structure Shaped (root : Entries) : Prop where
  sections : ∀ key ∈ root.keys, key.shown ∈ ["log", "fields", "backend"]
  log : IsSection ["level", "to_file", "dir"] (root.getText? "log")
  fields : IsSection ["text", "year"] (root.getText? "fields")
  backend : IsSection
    ["url", "index", "timeout", "max_attempts", "username_env", "password_env"]
    (root.getText? "backend")

/-- Which names are unknown depends on the keys alone. -/
theorem unknownNames_keys (known : List String) (entries : Entries) : unknownNames known entries =
    Text.sortedTexts ((entries.keys.map Scalar.shown).filter (!known.contains ·)) := by
  simp [unknownNames, Entries.keys, Function.comp_def]

theorem unknownNames_eq_nil_iff {known : List String} {entries : Entries} :
    unknownNames known entries = [] ↔ ∀ key ∈ entries.keys, key.shown ∈ known := by
  rw [unknownNames_keys, Text.sortedTexts_eq_nil_iff, List.filter_eq_nil_iff, List.forall_mem_map]
  simp

/-- The entries of a section, none where it is no mapping. -/
def entriesIn (root : Entries) (name : String) : Entries :=
  match root.getText? name with
  | some (.mapping entries) => entries
  | _ => []

/-- A section is read exactly if it is one, and its entries are those of the root. -/
theorem knownSection_eq_ok_iff {name : String} {known : List String} {root entries : Entries} :
    knownSection name known root = .ok entries ↔
      IsSection known (root.getText? name) ∧ entriesIn root name = entries := by
  constructor
  · intro read
    obtain ⟨members, inside, rest⟩ := bind_eq_ok_iff.1 read
    -- Nothing but unknown keys stands between the entries of a section and their use.
    split at rest
    · rename_i allKnown
      obtain rfl := Except.ok.inj rest
      unfold sectionEntries at inside
      unfold entriesIn
      split at inside
      · rename_i absent
        rw [absent, ← Except.ok.inj inside]
        exact ⟨.absent, rfl⟩
      · rename_i absent
        rw [absent, ← Except.ok.inj inside]
        exact ⟨.null, rfl⟩
      · rename_i found
        obtain rfl := Except.ok.inj inside
        rw [found]
        exact ⟨.mapping (unknownNames_eq_nil_iff.1 allKnown), rfl⟩
      · contradiction
    · contradiction
  · rintro ⟨isSection, rfl⟩
    unfold knownSection sectionEntries entriesIn
    -- The root is forgotten, since only what it holds for the section counts.
    generalize root.getText? name = held at isSection
    cases isSection with
    | absent | null => rfl
    | mapping names => simp [bind, Except.bind, unknownNames_eq_nil_iff.2 names]

/-! ### Single values -/

/-- The value of a setting in a root. -/
def valueIn (root : Entries) (name key : String) : Option Value :=
  match root.getText? name with
  | some (.mapping entries) => Entries.getText? key entries
  | _ => none

/-- What the value of a setting comes to, read by its type; without a value it is standard. -/
def valued (value : String → String → Option Value) (name key : String)
    (expect : String → Value → Except Error α) (standard : α) : Except Error α :=
  match value name key with
  | none => .ok standard
  | some value => expect (name ++ "." ++ key) value

/-- The log settings that single values come to. -/
def logOf (value : String → String → Option Value) : Except Error LogSettings := do
  let standard := LogSettings.standard
  let level ← valued value "log" "level" expectText standard.level
  let toFile ← valued value "log" "to_file" expectTruth standard.toFile
  let directory ← valued value "log" "dir" expectText standard.directory
  return ⟨Text.upper level, toFile, directory⟩

/-- The field names that single values come to. -/
def fieldsOf (value : String → String → Option Value) : Except Error Query.FieldNames := do
  let standard := Query.FieldNames.standard
  let text ← valued value "fields" "text" expectText standard.text
  let year ← valued value "fields" "year" expectText standard.year
  return ⟨Text.trim text, Text.trim year⟩

/-- The backend settings that single values come to. -/
def backendOf (value : String → String → Option Value) : Except Error BackendSettings := do
  let standard := BackendSettings.standard
  let url ← valued value "backend" "url" expectText standard.url
  let index ← valued value "backend" "index" expectText standard.index
  let timeout ← valued value "backend" "timeout" expectSeconds standard.timeout
  let maxAttempts ← valued value "backend" "max_attempts" expectInteger standard.maxAttempts
  let username ← valued value "backend" "username_env" expectText standard.usernameVariable
  let password ← valued value "backend" "password_env" expectText standard.passwordVariable
  return ⟨Text.trim url, Text.trim index, timeout, maxAttempts, username, password⟩

/-- The settings that single values come to. -/
def ofValues (value : String → String → Option Value) : Except Error Settings := do
  return ⟨← logOf value, ← fieldsOf value, ← backendOf value⟩

theorem getText?_entriesIn (root : Entries) (name key : String) :
    Entries.getText? key (entriesIn root name) = valueIn root name key := by
  unfold entriesIn valueIn
  cases root.getText? name with
  | none => rfl
  | some value => cases value <;> rfl

theorem setting_entriesIn (root : Entries) (name key : String)
    (expect : String → Value → Except Error α) (standard : α) :
    setting name key expect standard (entriesIn root name) =
      valued (valueIn root) name key expect standard := by
  cases held : valueIn root name key with
  | none => simp [setting, valued, getText?_entriesIn, held]
  | some value => simp [setting, valued, getText?_entriesIn, held]

/-- What is read of a section is read of its values. -/
theorem knownSection_bind {name : String} {known : List String} {root : Entries}
    (isSection : IsSection known (root.getText? name))
    (continuation : Entries → Except Error α) :
    knownSection name known root >>= continuation = continuation (entriesIn root name) := by
  rw [knownSection_eq_ok_iff.2 ⟨isSection, rfl⟩]
  rfl

/-- Nothing is read of what is no section. -/
theorem isSection_of_bind {name : String} {known : List String} {root : Entries}
    {continuation : Entries → Except Error α} {result : α}
    (read : knownSection name known root >>= continuation = .ok result) :
    IsSection known (root.getText? name) := by
  obtain ⟨entries, section_, -⟩ := bind_eq_ok_iff.1 read
  exact (knownSection_eq_ok_iff.1 section_).1

/-! ### All settings -/

/-- Settings pass all checks, each section on its own and then all of them together. -/
def checked (settings : Settings) : Except Error Settings := do
  checkLog settings.log
  checkFields settings.fields
  checkBackend settings.backend
  require (settings.fields.text != settings.fields.year) .sameFields
  return settings

theorem eq_of_checked {settings result : Settings} (passed : checked settings = .ok result) :
    settings = result := by
  simp only [checked, bind_eq_ok_iff, pure, Except.pure, Except.ok.injEq] at passed
  obtain ⟨-, -, -, -, -, -, -, -, same⟩ := passed
  exact same

/-- Settings of a root without unknown keys are told by its values. -/
theorem Shaped.ofEntries_eq {root : Entries} (shaped : Shaped root) :
    ofEntries root = ofValues (valueIn root) >>= checked := by
  -- Each section is one, so that it is read by the values in it.
  have log : loadLog root = logOf (valueIn root) := by
    rw [loadLog, knownSection_bind shaped.log]
    simp only [setting_entriesIn, logOf]
  have fields : loadFields root = fieldsOf (valueIn root) := by
    rw [loadFields, knownSection_bind shaped.fields]
    simp only [setting_entriesIn, fieldsOf]
  have backend : loadBackend root = backendOf (valueIn root) := by
    rw [loadBackend]
    dsimp only
    rw [knownSection_bind shaped.backend]
    simp only [setting_entriesIn, backendOf]
  -- The checks come behind all readings on both sides.
  rw [ofEntries, unknownNames_eq_nil_iff.2 shaped.sections, log, fields, backend]
  simp only [ofValues, checked, bind_assoc, pure_bind]

/-- A root with unknown keys is not accepted. -/
theorem shaped_of_accepted {root : Entries} {settings : Settings}
    (accepted : ofEntries root = .ok settings) : Shaped root := by
  rw [ofEntries] at accepted
  split at accepted
  · rename_i known
    -- The sections have been read before anything was checked.
    simp only [bind_eq_ok_iff] at accepted
    obtain ⟨log, loadedLog, fields, loadedFields, backend, loadedBackend, -⟩ := accepted
    exact ⟨unknownNames_eq_nil_iff.1 known, isSection_of_bind loadedLog,
      isSection_of_bind loadedFields, isSection_of_bind loadedBackend⟩
  · contradiction

/-- Roots are accepted if their keys are known and their values come to settings that pass all
checks. -/
theorem accepted_iff_checked {root : Entries} {settings : Settings} :
    ofEntries root = .ok settings ↔
      Shaped root ∧ ofValues (valueIn root) = .ok settings ∧ checked settings = .ok settings := by
  constructor
  · intro accepted
    have shaped := shaped_of_accepted accepted
    rw [shaped.ofEntries_eq, bind_eq_ok_iff] at accepted
    obtain ⟨read, given, passed⟩ := accepted
    -- Checks change nothing.
    obtain rfl := eq_of_checked passed
    exact ⟨shaped, given, passed⟩
  · rintro ⟨shaped, given, passed⟩
    rw [shaped.ofEntries_eq, given]
    exact passed

/-- Settings that are accepted come of their values, each of them on its own. -/
theorem ofValues_valueIn {root : Entries} {settings : Settings}
    (accepted : ofEntries root = .ok settings) : ofValues (valueIn root) = .ok settings :=
  (accepted_iff_checked.1 accepted).2.1

end Settings

end BooleanSearch
