import BooleanSearch.Proofs.Command.Output
import BooleanSearch.Proofs.Log.Thresholds

/-! The level of the log changes neither what commands about queries write nor how they exit. -/

namespace BooleanSearch.Command

open Backend Query

/-- What a run leaves behind if the backend follows a script. -/
def Plan.report (script : Script) : Plan → Report
  | .misused => .early 2
  | .crashed _ => .early 1
  | .ready setup action steps => .ofOutcome setup action (steps.replay script)

/-- What a run sends if the backend follows a script. -/
def Plan.requests (script : Script) : Plan → List Request
  | .misused | .crashed _ => []
  | .ready _ _ steps => (steps.replay script).requests

/-- What stands in front of a command leads to settings that are accepted. -/
def Accepts (reader : Yaml.Reader) (files : Files) (options : List String) (settings : Settings) :
    Prop :=
  ∃ path, readCall none options = some ⟨path, none, []⟩ ∧
    Call.misuse? files ⟨path, none, []⟩ = none ∧
      Settings.ofFiles files (path.getD Settings.standardPath) reader = .ok settings

/-- A command with its query behind two dashes asks for a job. -/
inductive Asks (query : String) : List String → Job → Prop
  /-- The flag may be given any number of times. -/
  | document (flags : Nat) :
      Asks query ("translate" :: (List.replicate flags "--compact" ++ ["--", query]))
        (.document (if flags = 0 then .indented else .compact) query)
  | explain : Asks query ["explain", "--", query] (.explain query)
  | search : Asks query ["search", "--", query] (.search query)

variable {reader : Yaml.Reader} {files : Files} {options line arguments : List String}
  {settings : Settings} {query : String} {job : Job}

/-! ### Command lines -/

/-- The name of an action is no option, so that it ends them. -/
theorem readCall_name (given : Option String) (action : Action) (arguments : List String) :
    readCall given (action.name :: arguments) = some ⟨given, some action.name, arguments⟩ := by
  cases action <;> simp [Action.name, readCall, valueFor?, isOption]

/-- Options are read the same way in front of a command. -/
theorem readCall_append {given path : Option String}
    (read : readCall given options = some ⟨path, none, []⟩) (action : Action) :
    readCall given (options ++ action.name :: arguments) =
      some ⟨path, some action.name, arguments⟩ := by
  -- The induction is on the options, which are read one after another until the name is reached.
  fun_induction readCall given options with
  | case1 given =>
    obtain rfl : given = path := by simpa using read
    exact readCall_name given action arguments
  | case2 given rest =>
    obtain ⟨rfl, empty, -⟩ : given = path ∧ rest.head? = none ∧ rest.tail = [] := by
      simpa using read
    obtain rfl := List.head?_eq_none_iff.1 empty
    rfl
  | case3 given value rest ih => exact ih read
  | case4 given argument rest noDashes noPath value valued ih =>
    -- An option that holds its value is not the one whose value stands behind it.
    have other : argument ≠ "--config" := by
      rintro rfl
      have none : valueFor? "--config" "--config" = none := by decide
      rw [none] at valued
      contradiction
    rw [List.cons_append, readCall, valued]
    · exact ih read
    · exact noDashes
    · exact fun _ _ same => absurd same other
  | case5 => contradiction
  | case6 => simp at read

theorem readArguments_flags (flags : Nat) (query : String) :
    readArguments (some "--compact") (List.replicate flags "--compact" ++ ["--", query]) =
      some (flags != 0, [query]) := by
  induction flags with
  -- Behind the two dashes nothing is an option, whatever the query looks like.
  | zero => rfl
  | succ flags ih => simp [List.replicate_succ, readArguments, ih, isOption]

theorem Asks.jobOf (asks : Asks query line job) (files : Files) :
    ∃ arguments, line = job.action.name :: arguments ∧
      Command.jobOf files job.action arguments = .ok job := by
  cases asks with
  | document flags =>
    -- The layout tells whether there was a flag, and not how many of them.
    refine ⟨_, rfl, ?_⟩
    simp only [Command.jobOf, Job.action, beq_self_eq_true, if_true, readArguments_flags]
    cases flags <;> rfl
  | explain => exact ⟨_, rfl, rfl⟩
  | search => exact ⟨_, rfl, rfl⟩

/-! ### Settings -/

/-- Settings that are read from files are those of some entries. -/
theorem exists_entries {path : String}
    (read : Settings.ofFiles files path reader = .ok settings) :
    ∃ root, Settings.ofEntries root = .ok settings := by
  have mapped {root : Entries} (known : Settings.ofRoot root = .ok settings) :
      Settings.ofEntries root = .ok settings := by
    unfold Settings.ofRoot at known
    cases found : Settings.ofEntries root <;> simp_all
  obtain ⟨base, -, rest⟩ := Settings.bind_eq_ok_iff.1 read
  -- There is one file alone, or another one that is put over it.
  split at rest
  · exact ⟨base, mapped rest⟩
  · obtain ⟨override, -, merged⟩ := Settings.bind_eq_ok_iff.1 rest
    exact ⟨_, mapped merged⟩

/-- The log is set up for every level that is accepted, if no file is kept. -/
theorem exists_setup {settings : LogSettings} (named : settings.level ∈ Settings.levelNames)
    (noFile : settings.toFile = false) (files : Files) (clock : Log.Clock) (action : Action) :
    ∃ setup, setupFor files clock settings action = .ok setup := by
  obtain ⟨level, settable⟩ := Log.exists_settable named
  rw [← Settings.upper_levelName named] at settable
  obtain ⟨file, isSome, setups⟩ :=
    Log.exists_file clock action.name settings.toFile settings.directory
  -- Without a file there is nothing that could be in its way.
  obtain rfl : file = none := by simpa [noFile] using isSome
  refine ⟨⟨level, none, clock⟩, ?_⟩
  simp [setupFor, setups settable, Log.Setup.fault?, bind, Except.bind, pure, Except.pure]

/-! ### Runs -/

/-- With settings that are accepted, and that keep no log file, a job is ready to be done. -/
theorem Accepts.plan_eq (accepted : Accepts reader files options settings)
    (noFile : settings.log.toFile = false) (asks : Asks query line job)
    (environment : Environment) (clock : Log.Clock) :
    ∃ setup, plan files environment clock (options ++ line) reader =
      .ready setup job.action
        (job.steps settings (.ofSettings settings.backend environment) reader) := by
  obtain ⟨path, read, given, known⟩ := accepted
  obtain ⟨arguments, rfl, understood⟩ := asks.jobOf files
  obtain ⟨root, checked⟩ := exists_entries known
  obtain ⟨setup, prepared⟩ :=
    exists_setup (Settings.level_mem checked) noFile files clock job.action
  have named : Action.ofName? job.action.name = some job.action := by cases job.action <;> rfl
  -- Whether a call is misused is told by the path alone.
  have call : Call.misuse? files ⟨path, some job.action.name, arguments⟩ = none := given
  refine ⟨setup, ?_⟩
  rw [plan, readCall_append read]
  simp only [Call.plan, call, Option.bind_some, named, known, understood, Job.plan, prepared]

/-- The log has no part in the steps of a job. -/
theorem Asks.steps_eq (asks : Asks query line job) (level : String) (client : Client) :
    job.steps { settings with log := { settings.log with level } } client reader =
      job.steps settings client reader := by
  cases asks <;> rfl

/-- A job about a text that is no query ends in the failure that tells so, and sends nothing. -/
theorem Asks.rejected (asks : Asks query line job) {error : QueryError}
    (rejected : Buckets.ofText query = .error error) (client : Client) :
    (job.steps settings client reader).Settles (.error (.query error)) := by
  cases asks with
  | document flags => exact (settles_rejected rejected _).bind_error
  | explain => exact settles_rejected rejected _
  | search => exact settles_rejected rejected _

/-- A job that ends well has its output written, without what only a terminal would show. -/
theorem report_ok {steps : Exchange Failure String} {output : String}
    (settles : steps.Settles (.ok output)) (setup : Log.Setup) (action : Action)
    (script : Script) :
    ((Plan.ready setup action steps).report script).exitCode = 0 ∧
      ((Plan.ready setup action steps).report script).output = Text.withoutControls output := by
  obtain ⟨ended, -⟩ := settles.replay script
  simp [Plan.report, Report.ofOutcome, ended]

/-- Nothing is written for a job that fails. -/
theorem report_error {steps : Exchange Failure String} {failure : Failure}
    (settles : steps.Settles (.error failure)) (setup : Log.Setup) (action : Action)
    (script : Script) :
    ((Plan.ready setup action steps).report script).exitCode = 1 ∧
      ((Plan.ready setup action steps).report script).output = "" ∧
        (Plan.ready setup action steps).requests script = [] := by
  obtain ⟨ended, -, nothing, -⟩ := settles.replay script
  simp [Plan.report, Report.ofOutcome, ended, Plan.requests, nothing]

/-- How the log is set up has no part in the exit code and in the output. -/
theorem report_setup (setup other : Log.Setup) (action : Action) (steps : Exchange Failure String)
    (script : Script) :
    ((Plan.ready setup action steps).report script).exitCode =
        ((Plan.ready other action steps).report script).exitCode ∧
      ((Plan.ready setup action steps).report script).output =
        ((Plan.ready other action steps).report script).output := by
  simp only [Plan.report, Report.ofOutcome]
  cases (steps.replay script).result <;> exact ⟨rfl, rfl⟩

/--
The level of the log changes neither the exit code of a command about a query nor its output.

Documents are written as they are. Of an explanation the control sequences are left out, of which
there are none without an escape in the query. A text that is no query leads to no request.
-/
theorem levels_unnoticed {reader : Yaml.Reader} {files otherFiles : Files}
    {options otherOptions line : List String} {settings : Settings} {level query : String}
    {job : Job} (accepted : Accepts reader files options settings)
    (otherAccepted : Accepts reader otherFiles otherOptions
      { settings with log := { settings.log with level } })
    (noFile : settings.log.toFile = false) (asks : Asks query line job)
    (environment : Environment) (clock otherClock : Log.Clock) (script : Script) :
    let run := plan files environment clock (options ++ line) reader
    let report := run.report script
    let other := (plan otherFiles environment otherClock (otherOptions ++ line) reader).report script
    report.exitCode = other.exitCode ∧ report.output = other.output ∧
    (∀ layout, job = .document layout query →
      (report.exitCode = 0 ↔ ∃ document, documentOfText settings.fields query = .ok document) ∧
      ∀ document, documentOfText settings.fields query = .ok document →
        report.output = Json.render layout document ++ "\n") ∧
    (job = .explain query →
      (report.exitCode = 0 ↔ ∃ buckets, Buckets.ofText query = .ok buckets) ∧
      ∀ buckets, Buckets.ofText query = .ok buckets →
        report.output = Text.withoutControls buckets.explanation ∧
          ('\x1b' ∉ query.toList → report.output = buckets.explanation)) ∧
    ∀ error, Buckets.ofText query = .error error →
      report.exitCode = 1 ∧ report.output = "" ∧ run.requests script = [] := by
  intro run report other
  obtain ⟨setup, planned⟩ := accepted.plan_eq noFile asks environment clock
  obtain ⟨otherSetup, otherPlanned⟩ := otherAccepted.plan_eq noFile asks environment otherClock
  -- Both runs take the same steps, since nothing but the level differs.
  rw [asks.steps_eq] at otherPlanned
  obtain ⟨exits, outputs⟩ := report_setup setup otherSetup job.action
    (job.steps settings (.ofSettings settings.backend environment) reader) script
  have rejects : ∀ error, Buckets.ofText query = .error error →
      report.exitCode = 1 ∧ report.output = "" ∧ run.requests script = [] := by
    intro error rejected
    simp only [report, run, planned]
    exact report_error (asks.rejected rejected _) setup _ script
  -- A command that ends well was about a query, since all others end with another exit code.
  have accepts (well : report.exitCode = 0) : ∃ buckets, Buckets.ofText query = .ok buckets := by
    cases asked : Buckets.ofText query with
    | ok buckets => exact ⟨buckets, rfl⟩
    | error error =>
      obtain ⟨exit, -⟩ := rejects error asked
      rw [exit] at well
      contradiction
  refine ⟨?_, ?_, ?_, ?_, rejects⟩
  · simpa only [report, run, other, planned, otherPlanned] using exits
  · simpa only [report, run, other, planned, otherPlanned] using outputs
  · rintro layout rfl
    have writes : ∀ document, documentOfText settings.fields query = .ok document →
        report.exitCode = 0 ∧ report.output = Json.render layout document ++ "\n" := by
      intro document translated
      simp only [report, run, planned]
      rw [← withoutControls_render translated]
      exact report_ok (settles_document translated layout) setup _ script
    refine ⟨⟨?_, ?_⟩, fun document translated => (writes document translated).2⟩
    · intro well
      obtain ⟨buckets, asked⟩ := accepts well
      exact ⟨buckets.document settings.fields, by rw [documentOfText, asked]⟩
    · rintro ⟨document, translated⟩
      exact (writes document translated).1
  · rintro rfl
    have writes : ∀ buckets, Buckets.ofText query = .ok buckets →
        report.exitCode = 0 ∧ report.output = Text.withoutControls buckets.explanation := by
      intro buckets asked
      simp only [report, run, planned]
      exact report_ok (settles_explanation asked) setup _ script
    refine ⟨⟨accepts, ?_⟩, fun buckets asked => ⟨(writes buckets asked).2, fun noEscape => ?_⟩⟩
    · rintro ⟨buckets, asked⟩
      exact (writes buckets asked).1
    · rw [(writes buckets asked).2, withoutControls_explanation asked noEscape]

/-- Without arguments in front of a command, and without files, all settings are standard. -/
theorem accepts_standard : Accepts Yaml.read [] [] .standard :=
  ⟨none, rfl, rfl, by decide +kernel⟩

/-- An explanation is the same where a file asks for warnings only. -/
theorem levels_unnoticed_quiet :
    let files := Files.ofPaths [("quiet.yml", "log:\n  level: WARNING\n")]
    let options := ["--config", "quiet.yml"]
    let quiet := { Settings.standard with log := { LogSettings.standard with level := "WARNING" } }
    let clock : Log.Clock := ⟨"01-01 00:00:00", "0101000000"⟩
    let line := ["explain", "--", "+cat"]
    let report := (plan [] [] clock line).report ⟨[], fun _ => .zero⟩
    let other := (plan files [] clock (options ++ line)).report ⟨[], fun _ => .zero⟩
    Accepts Yaml.read [] [] .standard ∧ Accepts Yaml.read files options quiet ∧
      Settings.standard.log.toFile = false ∧
      Asks "+cat" line (.explain "+cat") ∧ report.exitCode = 0 ∧ other.exitCode = 0 ∧
        other.output = "should:\n   -\nmust:\n   term cat\nmust_not:\n   -\n" := by
  intro files options quiet clock line report other
  have accepted : Accepts Yaml.read files options quiet :=
    ⟨some "quiet.yml", by decide +kernel, by decide +kernel, by decide +kernel⟩
  have asked : Buckets.ofText "+cat" = .ok ⟨[], [⟨.must, .term "cat"⟩], []⟩ := by decide +kernel
  obtain ⟨exits, outputs, -, explains, -⟩ := levels_unnoticed accepts_standard accepted rfl .explain
    [] clock clock ⟨[], fun _ => .zero⟩
  obtain ⟨accepts, shows⟩ := explains rfl
  have well := accepts.2 ⟨_, asked⟩
  have shown := (shows _ asked).2 (by decide)
  refine ⟨accepts_standard, accepted, rfl, .explain, well, exits.symm.trans well, ?_⟩
  rw [← outputs, shown]
  decide +kernel

/-- Of an explanation with a control sequence in it that sequence is not written. -/
theorem explanation_not_written :
    let query := "\x1b[31mcat"
    let clock : Log.Clock := ⟨"01-01 00:00:00", "0101000000"⟩
    let report := (plan [] [] clock ["explain", "--", query]).report ⟨[], fun _ => .zero⟩
    Accepts Yaml.read [] [] .standard ∧ Asks query ["explain", "--", query] (.explain query) ∧
      report.exitCode = 0 ∧
        ∃ buckets, Buckets.ofText query = .ok buckets ∧ report.output ≠ buckets.explanation := by
  intro query clock report
  have asks : Asks query ["explain", "--", query] (.explain query) := .explain
  have asked : Buckets.ofText query = .ok ⟨[⟨.should, .term query⟩], [], []⟩ := by decide +kernel
  obtain ⟨setup, planned⟩ := accepts_standard.plan_eq rfl asks [] clock
  have settles : ((Job.explain query).steps .standard
      (.ofSettings Settings.standard.backend []) Yaml.read).Settles _ := settles_explanation asked
  obtain ⟨well, written⟩ :=
    report_ok settles setup (Job.explain query).action ⟨[], fun _ => .zero⟩
  rw [List.nil_append] at planned
  simp only [report, planned]
  refine ⟨accepts_standard, asks, well, _, asked, ?_⟩
  rw [written]
  decide +kernel

end BooleanSearch.Command
