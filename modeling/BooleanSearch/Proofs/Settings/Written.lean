import BooleanSearch.Proofs.Settings.Accepting

/-! Settings that are written down are read back as they are, on their own and over any others. -/

namespace BooleanSearch.Settings

open Number Entries

/-- All settings in a root, under the names of their keys. -/
def written (settings : Settings) : Entries :=
  entriesOf
    [("log", .object
      [("level", .text settings.log.level), ("to_file", .bool settings.log.toFile),
        ("dir", .text settings.log.directory)]),
      ("fields", .object
        [("text", .text settings.fields.text), ("year", .text settings.fields.year)]),
      ("backend", .object
        [("url", .text settings.backend.url), ("index", .text settings.backend.index),
          ("timeout", .float settings.backend.timeout),
          ("max_attempts", .int settings.backend.maxAttempts),
          ("username_env", .text settings.backend.usernameVariable),
          ("password_env", .text settings.backend.passwordVariable)])]

/-- The root that is written has the keys of settings, each of them once. -/
theorem shaped_written (settings : Settings) : Shaped settings.written where
  sections := by simp [written, entriesOf, Entries.keys, Scalar.shown]
  log := .mapping (by simp [Entries.keys, Scalar.shown])
  fields := .mapping (by simp [Entries.keys, Scalar.shown])
  backend := .mapping (by simp [Entries.keys, Scalar.shown])

theorem isLayer_written (settings : Settings) : IsLayer settings.written where
  sections := distinct_entriesOf (by simp)
  settings name entries member := by
    simp only [written, entriesOf, List.map_cons, List.map_nil, List.mem_cons, Prod.mk.injEq,
      List.not_mem_nil, or_false] at member
    -- Each of the three sections is an object whose names differ.
    obtain ⟨-, same⟩ | ⟨-, same⟩ | ⟨-, same⟩ := member
    all_goals
      obtain rfl := Value.mapping.inj same
      exact distinct_entriesOf (by simp)

/-- Over any other root the written one gives all settings. -/
theorem gives_written (base : Entries) (settings : Settings) :
    Gives (valueOver base settings.written) settings where
  level := .given rfl
  toFile := .given rfl
  directory := .given rfl
  text := .given rfl
  year := .given rfl
  url := .given rfl
  index := .given rfl
  timeout := .given (.float _)
  maxAttempts := .given rfl
  username := .given rfl
  password := .given rfl

/-- Over nothing a root has its own values. -/
theorem valueOver_nil (root : Entries) (name key : String) :
    valueOver [] root name key = valueIn root name key := by
  unfold valueOver valueIn
  -- There is nothing below that a section could leave as it is.
  cases root.getText? name with
  | none => rfl
  | some value => cases value <;> simp [getText?]

/-- Settings that are accepted are in their normal form. -/
theorem normalised_of_accepted {root : Entries} {settings : Settings}
    (accepted : ofEntries root = .ok settings) : normalised settings = settings := by
  obtain ⟨-, ⟨raw, -, rfl⟩, valid, -⟩ := accepted_iff.1 accepted
  -- Trimming twice is trimming once, and the level is a name in upper case by now.
  have level := upper_levelName ((mem_levelNames_iff _).2 valid.level)
  simp only [normalised] at level ⊢
  simp only [level, Text.trim_trim]

/-- Settings that are accepted can be written down: they are read back from what is written, also
where it is put over any other root that is accepted. -/
theorem ofEntries_written {root : Entries} {settings : Settings}
    (accepted : ofEntries root = .ok settings) :
    ofEntries settings.written = .ok settings ∧
      ∀ base others, ofEntries base = .ok others →
        ofEntries (mergeEntries base settings.written) = .ok settings := by
  obtain ⟨-, -, valid, timeout⟩ := accepted_iff.1 accepted
  have normal := normalised_of_accepted accepted
  constructor
  · -- On its own the written root is one over nothing.
    have gives := gives_written [] settings
    rw [funext₂ (valueOver_nil settings.written)] at gives
    exact accepted_iff.2 ⟨shaped_written settings, ⟨settings, gives, normal⟩, valid, timeout⟩
  · intro base others acceptedBase
    have shaped := (shaped_of_accepted acceptedBase).layered (shaped_written settings)
    have gives : Gives (valueIn (layered base settings.written)) settings := by
      rw [funext₂ (valueIn_layered base settings.written)]
      exact gives_written base settings
    rw [(isLayer_written settings).ofEntries_merged]
    exact accepted_iff.2 ⟨shaped, ⟨settings, gives, normal⟩, valid, timeout⟩

/-- A level that is given in lower case is read back, and counts over one that is set elsewhere. -/
theorem ofEntries_written_level :
    let root := entriesOf [("log", .object [("level", .text "debug")])]
    let base := entriesOf [("log", .object [("level", .text "error")]),
      ("backend", .object [("index", .text "books")])]
    let settings : Settings := { Settings.standard with log := ⟨"DEBUG", false, "log"⟩ }
    let others : Settings :=
      ⟨⟨"ERROR", false, "log"⟩, .standard, { BackendSettings.standard with index := "books" }⟩
    ofEntries root = .ok settings ∧ ofEntries base = .ok others ∧
      ofEntries settings.written = .ok settings ∧
      ofEntries (mergeEntries base settings.written) = .ok settings := by
  intro root base settings others
  have accepted : ofEntries root = .ok settings := by decide +kernel
  have acceptedBase : ofEntries base = .ok others := by decide +kernel
  obtain ⟨written, merged⟩ := ofEntries_written accepted
  exact ⟨accepted, acceptedBase, written, merged base others acceptedBase⟩

end BooleanSearch.Settings
