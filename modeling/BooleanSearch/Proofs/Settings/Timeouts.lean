import BooleanSearch.Proofs.Number.Rounding
import BooleanSearch.Proofs.Settings.Accepting

/-! What comes of timeouts: they are used, or refused for their type or for their value, but for
integers beyond the finite numbers and for the float that is no number. -/

namespace BooleanSearch.Settings

open Number Entries

/-- What an error finds fault with: the type of a value, the value itself, or its conversion. -/
inductive Fault
  | type
  | value
  | conversion
deriving DecidableEq

/-- What an error about settings finds fault with. -/
def Error.fault : Error → Fault
  | .noSection _ | .wrongType .. => .type
  | .timeoutTooLarge => .conversion
  | .rootNoMapping | .unknownSections _ | .unknownKeys .. | .unknownLevel | .blankDirectory
  | .emptyName _ | .unknownScheme | .upperCaseIndex | .nonPositive _ | .sameFields => .value

theorem Error.fault_eq_conversion_iff (error : Error) :
    error.fault = .conversion ↔ error = .timeoutTooLarge := by
  cases error <;> simp [fault]

/-! ### Errors of a conversion -/

/-- No failure lies in the conversion of a number. -/
def Converts (x : Except Error α) : Prop := ∀ error, x = .error error → error.fault ≠ .conversion

theorem converts_ok (result : α) : Converts (.ok result) := by
  intro error impossible
  contradiction

theorem converts_error {error : Error} (other : error.fault ≠ .conversion) :
    Converts (.error error : Except Error α) := by
  intro own failed
  rwa [← Except.error.inj failed]

/-- Steps in a row convert all numbers if each of them does. -/
theorem Converts.bind {x : Except Error α} {f : α → Except Error β} (first : Converts x)
    (behind : ∀ value, x = .ok value → Converts (f value)) : Converts (x >>= f) := by
  -- A failure of the whole is one of the first step, or one of the step behind it.
  cases x with
  | error error => exact converts_error (first error rfl)
  | ok value => exact behind value rfl

theorem converts_require (condition : Bool) {error : Error} (other : error.fault ≠ .conversion) :
    Converts (require condition error) := by
  cases condition with
  | true => exact converts_ok ()
  | false => exact converts_error other

theorem converts_knownSection (name : String) (known : List String) (root : Entries) :
    Converts (knownSection name known root) := by
  -- Sections fail for what they are, or for their keys.
  refine Converts.bind ?_ fun entries _ => ?_
  · unfold sectionEntries
    split
    · exact converts_ok []
    · exact converts_ok []
    · exact converts_ok _
    · exact converts_error (by simp [Error.fault])
  · split
    · exact converts_ok entries
    · exact converts_error (by simp [Error.fault])

/-- A setting is converted if its value is, where it has one. -/
theorem converts_setting {expect : String → Value → Except Error α} {name key : String}
    {entries : Entries} (standard : α)
    (expects : ∀ value, entries.getText? key = some value →
      Converts (expect (name ++ "." ++ key) value)) :
    Converts (setting name key expect standard entries) := by
  unfold setting
  split
  · -- The standard is taken as it is.
    exact converts_ok standard
  · rename_i value found
    exact expects value found

/-! Each type of setting but that of the timeout fails for types alone. -/

theorem converts_text (key : String) (value : Value) : Converts (expectText key value) := by
  unfold expectText
  split
  · exact converts_ok _
  · exact converts_error (by simp [Error.fault])

theorem converts_truth (key : String) (value : Value) : Converts (expectTruth key value) := by
  unfold expectTruth
  split
  · exact converts_ok _
  · exact converts_error (by simp [Error.fault])

theorem converts_integer (key : String) (value : Value) : Converts (expectInteger key value) := by
  unfold expectInteger
  split
  · exact converts_ok _
  · exact converts_error (by simp [Error.fault])

/-- Seconds are converted unless they are an integer beyond the finite numbers. -/
theorem converts_seconds (key : String) {value : Value}
    (fits : ∀ number, value = .int number → ¬ Binary64.IsBeyond number) :
    Converts (expectSeconds key value) := by
  unfold expectSeconds
  split
  · exact converts_ok _
  · rename_i number
    -- Within the bound some finite number is the nearest one.
    have finite : Binary64.ofInt? number ≠ none := mt (Binary64.ofInt?_eq_none_iff number).1
      (fits number rfl)
    obtain ⟨seconds, near⟩ := Option.ne_none_iff_exists'.1 finite
    rw [wholeSeconds_eq_ok_iff.2 near]
    exact converts_ok seconds
  · exact converts_error (by simp [Error.fault])

theorem converts_loadLog (root : Entries) : Converts (loadLog root) := by
  -- One step for the section, and one for each setting in it.
  refine (converts_knownSection _ _ _).bind fun entries _ => ?_
  refine (converts_setting _ fun _ _ => converts_text _ _).bind fun level _ => ?_
  refine (converts_setting _ fun _ _ => converts_truth _ _).bind fun toFile _ => ?_
  refine (converts_setting _ fun _ _ => converts_text _ _).bind fun directory _ => ?_
  exact converts_ok _

theorem converts_loadFields (root : Entries) : Converts (loadFields root) := by
  refine (converts_knownSection _ _ _).bind fun entries _ => ?_
  refine (converts_setting _ fun _ _ => converts_text _ _).bind fun text _ => ?_
  refine (converts_setting _ fun _ _ => converts_text _ _).bind fun year _ => ?_
  exact converts_ok _

/-- Of all settings the timeout alone can fail in its conversion. -/
theorem converts_loadBackend {root : Entries}
    (fits : ∀ number, valueIn root "backend" "timeout" = some (.int number) →
      ¬ Binary64.IsBeyond number) : Converts (loadBackend root) := by
  refine (converts_knownSection _ _ _).bind fun entries read => ?_
  obtain ⟨-, rfl⟩ := knownSection_eq_ok_iff.1 read
  -- Six settings in the order of their reading, of which the third one is the timeout.
  refine (converts_setting _ fun _ _ => converts_text _ _).bind fun url _ => ?_
  refine (converts_setting _ fun _ _ => converts_text _ _).bind fun index _ => ?_
  refine (converts_setting _ fun value found => ?_).bind fun timeout _ => ?_
  · -- What the section holds is the value that the root holds for the timeout.
    rw [getText?_entriesIn] at found
    refine converts_seconds _ fun number same => fits number ?_
    rw [found, same]
  refine (converts_setting _ fun _ _ => converts_integer _ _).bind fun attempts _ => ?_
  refine (converts_setting _ fun _ _ => converts_text _ _).bind fun username _ => ?_
  refine (converts_setting _ fun _ _ => converts_text _ _).bind fun password _ => ?_
  exact converts_ok _

theorem converts_checkLog (log : LogSettings) : Converts (checkLog log) := by
  refine (converts_require _ ?_).bind fun _ _ => converts_require _ ?_
  all_goals simp [Error.fault]

theorem converts_checkFields (fields : Query.FieldNames) : Converts (checkFields fields) := by
  refine (converts_require _ ?_).bind fun _ _ => converts_require _ ?_
  all_goals simp [Error.fault]

theorem converts_checkBackend (backend : BackendSettings) : Converts (checkBackend backend) := by
  refine (converts_require _ ?_).bind fun _ _ => (converts_require _ ?_).bind fun _ _ =>
    (converts_require _ ?_).bind fun _ _ => (converts_require _ ?_).bind fun _ _ =>
      converts_require _ ?_
  all_goals simp [Error.fault]

/-- No conversion fails unless the timeout is an integer beyond the finite numbers. -/
theorem converts_ofEntries {root : Entries}
    (fits : ∀ number, valueIn root "backend" "timeout" = some (.int number) →
      ¬ Binary64.IsBeyond number) : Converts (ofEntries root) := by
  rw [ofEntries]
  split
  · -- All sections are read, then all are checked, and what is checked is converted already.
    refine (converts_loadLog root).bind fun log _ => ?_
    refine (converts_loadFields root).bind fun fields _ => ?_
    refine (converts_loadBackend fits).bind fun backend _ => ?_
    refine (converts_checkLog log).bind fun _ _ => ?_
    refine (converts_checkFields fields).bind fun _ _ => ?_
    refine (converts_checkBackend backend).bind fun _ _ => ?_
    refine (converts_require _ (by simp [Error.fault])).bind fun _ _ => ?_
    exact converts_ok _
  · exact converts_error (by simp [Error.fault])

/-- Seconds are not read from integers beyond the finite numbers, nor from what is no number. -/
theorem expectSeconds_eq_error {key : String} {value : Value} {error : Error}
    (failed : expectSeconds key value = .error error) :
    (∃ number, value = .int number ∧ Binary64.IsBeyond number ∧ error = .timeoutTooLarge) ∨
      (∀ seconds, value ≠ .float seconds) ∧ (∀ number, value ≠ .int number) ∧
        error = .wrongType key .number := by
  unfold expectSeconds at failed
  split at failed
  · contradiction
  · rename_i number
    refine .inl ⟨number, rfl, ?_⟩
    unfold wholeSeconds at failed
    -- An integer fails for one reason only, that no finite number is near to it.
    cases near : Binary64.ofInt? number with
    | none =>
      rw [near] at failed
      exact ⟨(Binary64.ofInt?_eq_none_iff number).1 near, (Except.error.inj failed).symm⟩
    | some seconds =>
      rw [near] at failed
      simp at failed
  · rename_i noFloat noInteger
    exact .inr ⟨noFloat, noInteger, (Except.error.inj failed).symm⟩

/-! ### Other timeouts for accepted settings -/

/-- The root that sets nothing but the timeout. -/
def timeoutOnly (value : Value) : Entries :=
  entriesOf [("backend", .object [("timeout", value)])]

/-- Settings with another timeout. -/
def withTimeout (settings : Settings) (seconds : Binary64) : Settings :=
  { settings with backend := { settings.backend with timeout := seconds } }

/-- What comes of a value that is put in the timeout's place. -/
inductive TimeoutEnding (settings : Settings) : Value → Except Error Settings → Prop
  | used {content : Scalar} {seconds : Binary64} (read : IsSeconds content seconds)
      (passes : IsPositive seconds ∨ seconds = .nan) :
      TimeoutEnding settings (.scalar content) (.ok (settings.withTimeout seconds))
  | notPositive {content : Scalar} {seconds : Binary64} (read : IsSeconds content seconds)
      (fails : ¬ (IsPositive seconds ∨ seconds = .nan)) :
      TimeoutEnding settings (.scalar content) (.error (.nonPositive "backend.timeout"))
  | tooLarge {number : Int} (beyond : Binary64.IsBeyond number) :
      TimeoutEnding settings (.int number) (.error .timeoutTooLarge)
  | noNumber {value : Value} (noFloat : ∀ seconds, value ≠ .float seconds)
      (noInteger : ∀ number, value ≠ .int number) :
      TimeoutEnding settings value (.error (.wrongType "backend.timeout" .number))

theorem shaped_timeoutOnly (value : Value) : Shaped (timeoutOnly value) where
  sections := by simp [timeoutOnly, entriesOf, Entries.keys, Scalar.shown]
  log := .absent
  fields := .absent
  backend := .mapping (by simp [Entries.keys, Scalar.shown])

theorem isLayer_timeoutOnly (value : Value) : IsLayer (timeoutOnly value) where
  sections := distinct_entriesOf (by simp)
  settings name entries member := by
    obtain ⟨-, same⟩ := Prod.mk.inj (List.mem_singleton.1 member)
    obtain rfl := Value.mapping.inj same
    exact distinct_entriesOf (by simp)

/-- Apart from the timeout the settings of the backend keep their values. -/
theorem valued_timeoutOver (root : Entries) (value : Value) {key : String} (other : key ≠ "timeout")
    (expect : String → Value → Except Error α) (standard : α) :
    valued (valueOver root (timeoutOnly value)) "backend" key expect standard =
      valued (valueIn root) "backend" key expect standard := by
  -- The root above holds nothing else in this section, and lets the lower one through.
  have absent : Entries.getText? key [(.text "timeout", value)] = none := by
    simp [getText?, get?_cons, Scalar.sameKey, other.symm]
  have kept : valueOver root (timeoutOnly value) "backend" key = valueIn root "backend" key := by
    change (Entries.getText? key [(.text "timeout", value)]).or (valueIn root "backend" key) = _
    rw [absent, Option.none_or]
  rw [valued, kept]
  rfl

/-- Over accepted settings the value of the timeout alone decides what is read. -/
theorem ofValues_timeoutOver {root : Entries} {settings : Settings} (value : Value)
    (given : ofValues (valueIn root) = .ok settings) :
    ofValues (valueOver root (timeoutOnly value)) =
      expectSeconds "backend.timeout" value >>= fun seconds =>
        .ok (settings.withTimeout seconds) := by
  simp only [ofValues, bind_eq_ok_iff, pure, Except.pure, Except.ok.injEq] at given
  obtain ⟨log, readLog, fields, readFields, backend, readBackend, rfl⟩ := given
  -- The other sections are not touched, so that their values are the same by computation.
  have sameLog : logOf (valueOver root (timeoutOnly value)) = .ok log := readLog
  have sameFields : fieldsOf (valueOver root (timeoutOnly value)) = .ok fields := readFields
  have own : valued (valueOver root (timeoutOnly value)) "backend" "timeout" expectSeconds
      BackendSettings.standard.timeout = expectSeconds "backend.timeout" value := rfl
  simp only [backendOf, bind_eq_ok_iff, pure, Except.pure, Except.ok.injEq] at readBackend
  obtain ⟨url, readUrl, index, readIndex, timeout, -, attempts, readAttempts, username,
    readUsername, password, readPassword, rfl⟩ := readBackend
  -- What is read in front of the timeout and behind it is read as before.
  rw [ofValues, sameLog, sameFields, backendOf]
  simp (disch := decide) only [valued_timeoutOver, readUrl, readIndex, own, readAttempts,
    readUsername, readPassword]
  cases expectSeconds "backend.timeout" value <;> rfl

/-- With another timeout settings pass the checks that they passed before, unless it is refused. -/
theorem checked_withTimeout {settings : Settings} (passed : checked settings = .ok settings)
    (seconds : Binary64) : checked (settings.withTimeout seconds) =
      if (seconds.less .zero || seconds.same .zero) = false then
        .ok (settings.withTimeout seconds)
      else .error (.nonPositive "backend.timeout") := by
  obtain ⟨valid, -, -⟩ := checked_eq_ok_iff.1 passed
  split
  · rename_i passes
    -- No other condition looks at the timeout.
    refine checked_eq_ok_iff.2 ⟨?_, (timeout_passes_iff seconds).1 passes, rfl⟩
    exact ⟨valid.level, valid.directory, valid.text, valid.year, valid.distinct, valid.scheme,
      valid.index, valid.lower, valid.attempts⟩
  · rename_i fails
    -- All checks in front of that of the timeout are passed as before.
    simp only [checked, checkLog, checkFields, checkBackend, bind_eq_ok_iff, require_eq_ok_iff,
      exists_const] at passed
    obtain ⟨⟨level, directory⟩, ⟨text, year⟩, ⟨scheme, index, lower, -⟩, -⟩ := passed
    simp only [checked, checkLog, checkFields, checkBackend, withTimeout, level, directory, text,
      year, scheme, index, lower, fails, require, if_true, Bool.not_true, Bool.false_eq_true,
      if_false, bind, Except.bind]

/-- A value that is put in the timeout's place of accepted settings is used or refused. -/
theorem timeoutEnding_mergeEntries {root : Entries} {settings : Settings}
    (accepted : ofEntries root = .ok settings) (value : Value) :
    TimeoutEnding settings value (ofEntries (mergeEntries root (timeoutOnly value))) := by
  obtain ⟨shaped, given, passed⟩ := accepted_iff_checked.1 accepted
  -- Two steps are left of the reading: that of the value, and the checks.
  have merged : ofEntries (mergeEntries root (timeoutOnly value)) =
      expectSeconds "backend.timeout" value >>= fun seconds =>
        checked (settings.withTimeout seconds) := by
    rw [(isLayer_timeoutOnly value).ofEntries_merged,
      (shaped.layered (shaped_timeoutOnly value)).ofEntries_eq,
      funext₂ (valueIn_layered root (timeoutOnly value)), ofValues_timeoutOver value given]
    cases expectSeconds "backend.timeout" value <;> rfl
  rw [merged]
  -- What comes of the value is what comes of its reading, and then of the one check on it.
  cases read : expectSeconds "backend.timeout" value with
  | ok seconds =>
    obtain ⟨content, rfl, taken⟩ := (reads_seconds _ _ _).1 read
    change TimeoutEnding settings _ (checked (settings.withTimeout seconds))
    rw [checked_withTimeout passed]
    split
    · rename_i passes
      exact .used taken ((timeout_passes_iff seconds).1 passes)
    · rename_i fails
      exact .notPositive taken (mt (timeout_passes_iff seconds).2 fails)
  | error error =>
    change TimeoutEnding settings value (.error error)
    obtain ⟨number, rfl, beyond, rfl⟩ | ⟨noFloat, noInteger, rfl⟩ := expectSeconds_eq_error read
    · exact .tooLarge beyond
    · exact .noNumber noFloat noInteger

/-- Timeouts are used if they are positive and refused otherwise, for their type or for their value,
with two exceptions: an integer beyond the finite numbers is not converted, and the float that is
no number is used. -/
theorem timeout_outcomes (root : Entries) :
    (∀ settings, ofEntries root = .ok settings → IsPositive settings.backend.timeout ∨
      settings.backend.timeout = .nan ∧
        valueIn root "backend" "timeout" = some (.float .nan)) ∧
    (∀ error, ofEntries root = .error error → error.fault = .type ∨ error.fault = .value ∨
      error = .timeoutTooLarge ∧ ∃ number, Binary64.IsBeyond number ∧
        valueIn root "backend" "timeout" = some (.int number)) ∧
    ∀ settings, ofEntries root = .ok settings → ∀ value,
      TimeoutEnding settings value (ofEntries (mergeEntries root (timeoutOnly value))) := by
  refine ⟨fun settings accepted => ?_, fun error failed => ?_, fun settings accepted value =>
    timeoutEnding_mergeEntries accepted value⟩
  · obtain ⟨-, ⟨raw, gives, rfl⟩, -, positive | noNumber⟩ := accepted_iff.1 accepted
    · exact .inl positive
    · exact .inr ⟨noNumber, gives.nan noNumber⟩
  · -- If the timeout can be converted no conversion fails, and else it is known why.
    by_cases fits : ∀ number, valueIn root "backend" "timeout" = some (.int number) →
        ¬ Binary64.IsBeyond number
    · have other := converts_ofEntries fits error failed
      cases found : error.fault with
      | type => exact .inl rfl
      | value => exact .inr (.inl rfl)
      | conversion => exact absurd found other
    · push Not at fits
      obtain ⟨number, given, beyond⟩ := fits
      cases found : error.fault with
      | type => exact .inl rfl
      | value => exact .inr (.inl rfl)
      | conversion =>
        exact .inr (.inr ⟨error.fault_eq_conversion_iff.1 found, number, beyond, given⟩)

/-- The float that is no number comes into the settings, and two to the power of 1024 is neither
used nor refused for its type or value. -/
theorem timeout_outcomes_edges :
    let noNumber := timeoutOnly (.float .nan)
    let huge := timeoutOnly (.int (twoTo 1024))
    ofEntries [] = .ok .standard ∧ ofEntries noNumber = .ok (Settings.standard.withTimeout .nan) ∧
      valueIn noNumber "backend" "timeout" = some (.float .nan) ∧
      ofEntries huge = .error .timeoutTooLarge ∧
      (∃ number, Binary64.IsBeyond number ∧
        valueIn huge "backend" "timeout" = some (.int number)) ∧
      TimeoutEnding .standard (.float .nan) (ofEntries (mergeEntries [] noNumber)) := by
  intro noNumber huge
  have accepted : ofEntries [] = .ok .standard := by decide +kernel
  have used : ofEntries noNumber = .ok (Settings.standard.withTimeout .nan) := by decide +kernel
  have failed : ofEntries huge = .error .timeoutTooLarge := by decide +kernel
  have unlike : ¬ IsPositive .nan := by simp [IsPositive, Binary64.zero, Binary64.less]
  obtain ⟨-, given⟩ := ((timeout_outcomes noNumber).1 _ used).resolve_left unlike
  obtain type | value | ⟨-, escaped⟩ := (timeout_outcomes huge).2.1 _ failed
  · exact absurd type (by decide)
  · exact absurd value (by decide)
  exact ⟨accepted, used, given, failed, escaped, (timeout_outcomes []).2.2 _ accepted _⟩

end BooleanSearch.Settings
