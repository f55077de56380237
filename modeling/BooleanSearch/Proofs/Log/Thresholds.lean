import BooleanSearch.Log.Setup
import BooleanSearch.Proofs.Settings.Attempts
import BooleanSearch.Proofs.Text.Parts

/-! Which records a log tells: its level counts for the console, and never for the log file. What is
told of a record is its message and the letters of its level. -/

namespace BooleanSearch.Log

open Entries

/-- The levels that settings can name. -/
def settableLevels : List (String × Int) :=
  [("DEBUG", 10), ("INFO", 20), ("WARNING", 30), ("ERROR", 40), ("CRITICAL", 50)]

/-- The records of a level and of weightier ones, in their order. -/
def recordsFrom (level : Int) (records : List Record) : List Record :=
  records.filter (level ≤ ·.level)

/-- A setup tells records on the console from a level on, and in any log file from `DEBUG` on. -/
structure Setup.TellsFrom (setup : Setup) (level : Int) (records : List Record) : Prop where
  shown : setup.shown records = recordsFrom level records
  kept : setup.kept records = recordsFrom 10 records
  /-- The console shows the lines of these records, and nothing else. -/
  console : setup.console records =
    String.join ((recordsFrom level records).map (Record.line setup.clock.time))
  /-- The same holds of the text of a log file. -/
  logFile : ∀ path text, setup.logFile records = some (path, text) →
    text = String.join ((recordsFrom 10 records).map (Record.line setup.clock.time))

variable {setup : Setup} {level higher : Int} {name : String} {root : Entries}
  {settings : Settings} {record another : Record} {records : List Record}

/-! ### Lines -/

/-- Every level is shown by four letters, whether it has a name or not. -/
theorem length_abbreviation (level : Int) : (abbreviation level).length = 4 := by
  -- Six texts show all the levels there are, and each of them has four letters.
  unfold abbreviation
  repeat' split
  all_goals decide

/-- A line tells the message of its record as it is. -/
theorem Record.holds_line (time : String) (record : Record) :
    Text.Holds (record.line time) record.message :=
  (Text.holds_append_left _ _).trans (Text.holds_append_right _ _)

/-- At one time, lines are told apart by the messages of their records and the letters of their
levels. -/
theorem Record.line_eq_line_iff (time : String) : record.line time = another.line time ↔
    abbreviation record.level = abbreviation another.level ∧ record.message = another.message := by
  constructor
  · intro same
    have letters : (abbreviation record.level).toList.length =
        (abbreviation another.level).toList.length := by
      rw [String.length_toList, String.length_toList, length_abbreviation, length_abbreviation]
    -- The letters are as many in both lines, so that the messages start at one place.
    have lists := congrArg String.toList same
    simp only [Record.line, String.toList_append, List.append_assoc, List.append_cancel_left_eq]
      at lists
    obtain ⟨levels, rest⟩ := List.append_inj lists letters
    simp only [List.append_cancel_left_eq, List.append_cancel_right_eq] at rest
    exact ⟨String.toList_inj.1 levels, String.toList_inj.1 rest⟩
  · rintro ⟨levels, messages⟩
    rw [Record.line, Record.line, levels, messages]

/-- The lines of records tell each of their messages. -/
theorem Setup.holds_lines (setup : Setup) (member : record ∈ records) :
    Text.Holds (setup.lines records) record.message :=
  (Text.holds_join (List.mem_map_of_mem member)).trans (record.holds_line setup.clock.time)

/-! ### Thresholds -/

/-- A higher level only leaves records out. -/
theorem recordsFrom_sublist (le : level ≤ higher) (records : List Record) :
    (recordsFrom higher records).Sublist (recordsFrom level records) :=
  -- Whatever reaches the higher level also reaches the lower one.
  List.monotone_filter_right records fun record weighty => by
    rw [decide_eq_true_eq] at weighty ⊢
    exact Int.le_trans le weighty

/-- If the console shows nothing below `DEBUG`, the log as a whole takes everything else. -/
theorem Setup.takes_iff (least : 10 ≤ setup.level) (record : Record) :
    setup.takes record = true ↔ 10 ≤ record.level := by
  -- The level of the console is not zero, and `DEBUG` is the lesser one of the two.
  have floor : setup.floor = 10 := by
    rw [Setup.floor, if_neg (by simp; omega), Int.min_eq_left least]
  rw [Setup.takes, floor, decide_eq_true_eq]

/-- The level of the console comes on top of what the log takes, and so does that of the file. -/
theorem Setup.tellsFrom (least : 10 ≤ setup.level) (records : List Record) :
    setup.TellsFrom setup.level records := by
  -- Each record is judged on its own, by two thresholds of which the greater one decides.
  have shown : setup.shown records = recordsFrom setup.level records :=
    List.filter_congr fun record _ => by
      rw [Bool.eq_iff_iff, Bool.and_eq_true, Setup.takes_iff least, decide_eq_true_eq]
      exact and_iff_right_of_imp (Int.le_trans least)
  have kept : setup.kept records = recordsFrom 10 records :=
    List.filter_congr fun record _ => by
      rw [Bool.eq_iff_iff, Bool.and_eq_true, Setup.takes_iff least, decide_eq_true_eq, and_self]
  refine ⟨shown, kept, by rw [Setup.console, shown, Setup.lines], fun path text told => ?_⟩
  obtain ⟨names, -, same⟩ := Option.map_eq_some_iff.1 told
  rw [← (Prod.mk.inj same).2, kept, Setup.lines]

/-! ### Levels by name -/

/-- Every name that settings may have for the level stands for one. -/
theorem exists_settable (named : name ∈ Settings.levelNames) :
    ∃ level, (name, level) ∈ settableLevels := by
  have each : ∀ name ∈ Settings.levelNames, name ∈ settableLevels.map Prod.fst := by decide
  obtain ⟨⟨_, level⟩, member, rfl⟩ := List.mem_map.1 (each _ named)
  exact ⟨level, member⟩

/-- None of the levels that can be set is below `DEBUG`. -/
theorem le_of_settable (settable : (name, level) ∈ settableLevels) : 10 ≤ level := by
  have each : ∀ entry ∈ settableLevels, 10 ≤ entry.2 := by decide
  exact each _ settable

/-- In whatever case a name is written, it stands for the level that it names in upper case. -/
theorem levelOfName_eq (settable : (Text.upper name, level) ∈ settableLevels) :
    levelOfName name = .ok level := by
  -- The two names that the log knows otherwise are not among these.
  have each : ∀ entry ∈ settableLevels, entry.1 ≠ layoutEntry.1 ∧ entry.1 ≠ stylesEntry.1 ∧
      namedLevels.lookup entry.1 = some entry.2 := by decide
  obtain ⟨noLayout, noStyles, found⟩ := each _ settable
  simp [levelOfName, noLayout, noStyles, found]

/-- Whether there is a log file, and where, does not depend on the level. -/
theorem exists_file (clock : Clock) (action : String) (toFile : Bool) (directory : String) :
    ∃ file : Option (List String), (file.isSome ↔ toFile = true ∧ action ≠ "") ∧
      ∀ {name level}, (Text.upper name, level) ∈ settableLevels →
        Setup.forAction clock name action toFile directory = .ok ⟨level, file, clock⟩ := by
  -- The file is named after the action and the clock alone.
  refine ⟨_, ?_, fun settable => by rw [Setup.forAction, levelOfName_eq settable]; rfl⟩
  split
  next kept => simpa using kept
  next unkept => simpa using unkept

/--
The console shows exactly the records from the level that the settings name on, and the log file
exactly those from `DEBUG` on, all of them in their order.

So the log file has all that the console shows, whatever level is named. With a higher level
records are only left out of the console, and the log file stays the same.
-/
theorem records_by_level {otherRoot : Entries} {otherSettings : Settings} {other : String}
    (accepted : Settings.ofEntries root = .ok settings)
    (named : Text.upper name = settings.log.level)
    (otherAccepted : Settings.ofEntries otherRoot = .ok otherSettings)
    (otherNamed : Text.upper other = otherSettings.log.level)
    (clock : Clock) (action : String) (toFile : Bool) (directory : String) :
    ∃ level otherLevel setup otherSetup,
      (settings.log.level, level) ∈ settableLevels ∧
      (otherSettings.log.level, otherLevel) ∈ settableLevels ∧
      Setup.forAction clock name action toFile directory = .ok setup ∧
      Setup.forAction clock other action toFile directory = .ok otherSetup ∧
      ∀ records, setup.TellsFrom level records ∧
        ((setup.logFile records).isSome ↔ toFile = true ∧ action ≠ "") ∧
        (setup.shown records).Sublist (setup.kept records) ∧
        otherSetup.logFile records = setup.logFile records ∧
        (level ≤ otherLevel → (otherSetup.shown records).Sublist (setup.shown records)) := by
  -- Both setups have the same file, and each has the level that its settings name.
  obtain ⟨level, settable⟩ := exists_settable (Settings.level_mem accepted)
  obtain ⟨otherLevel, otherSettable⟩ := exists_settable (Settings.level_mem otherAccepted)
  obtain ⟨file, isSome, setups⟩ := exists_file clock action toFile directory
  refine ⟨level, otherLevel, _, _, settable, otherSettable, setups (named ▸ settable),
    setups (otherNamed ▸ otherSettable), fun records => ?_⟩
  have tells : (⟨level, file, clock⟩ : Setup).TellsFrom level records :=
    Setup.tellsFrom (le_of_settable settable) records
  have otherTells : (⟨otherLevel, file, clock⟩ : Setup).TellsFrom otherLevel records :=
    Setup.tellsFrom (le_of_settable otherSettable) records
  refine ⟨tells, ?_, ?_, ?_, fun le => ?_⟩
  · rw [Setup.logFile, Option.isSome_map, isSome]
  · rw [tells.shown, tells.kept]
    exact recordsFrom_sublist (le_of_settable settable) records
  · rw [Setup.logFile, Setup.logFile, tells.kept, otherTells.kept]
    rfl
  · rw [tells.shown, otherTells.shown]
    exact recordsFrom_sublist le records

/-- Levels without a name count by their numbers, and what is below `DEBUG` is told nowhere. -/
theorem records_by_level_custom :
    let root := entriesOf [("log", .object [("level", .text "warn\u0131ng")])]
    let otherRoot := entriesOf [("log", .object [("level", .text "error")])]
    let settings : Settings := { Settings.standard with log := ⟨"WARNING", false, "log"⟩ }
    let otherSettings : Settings := { Settings.standard with log := ⟨"ERROR", false, "log"⟩ }
    let clock : Clock := ⟨"01-01 00:00:00", "0101000000"⟩
    let records : List Record := [⟨35, "b"⟩, ⟨9, "a"⟩, .error "c", .debug "d"]
    Settings.ofEntries root = .ok settings ∧ Text.upper "warn\u0131ng" = settings.log.level ∧
      Settings.ofEntries otherRoot = .ok otherSettings ∧
      Text.upper "ERROR" = otherSettings.log.level ∧
      ∃ setup otherSetup,
        Setup.forAction clock "warn\u0131ng" "search" true "log" = .ok setup ∧
        Setup.forAction clock "ERROR" "search" true "log" = .ok otherSetup ∧
        setup.shown records = [⟨35, "b"⟩, .error "c"] ∧
        setup.kept records = [⟨35, "b"⟩, .error "c", .debug "d"] ∧
        (setup.logFile records).isSome ∧ otherSetup.logFile records = setup.logFile records ∧
        (otherSetup.shown records).Sublist (setup.shown records) := by
  intro root otherRoot settings otherSettings clock records
  have accepted : Settings.ofEntries root = .ok settings := by decide +kernel
  have otherAccepted : Settings.ofEntries otherRoot = .ok otherSettings := by decide +kernel
  have named : Text.upper "warn\u0131ng" = settings.log.level := by decide +kernel
  have otherNamed : Text.upper "ERROR" = otherSettings.log.level := by decide +kernel
  obtain ⟨level, higher, setup, otherSetup, settable, otherSettable, made, otherMade, told⟩ :=
    records_by_level accepted named otherAccepted otherNamed clock "search" true "log"
  obtain ⟨tells, isSome, -, same, less⟩ := told records
  -- The names decide which levels these are.
  obtain rfl : level = 30 := by simpa [settings, settableLevels] using settable
  obtain rfl : higher = 40 := by simpa [otherSettings, settableLevels] using otherSettable
  exact ⟨accepted, named, otherAccepted, otherNamed, setup, otherSetup, made, otherMade,
    tells.shown, tells.kept, isSome.2 ⟨rfl, by decide⟩, same, less (by decide)⟩

end BooleanSearch.Log
