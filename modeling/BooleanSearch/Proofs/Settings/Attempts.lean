import BooleanSearch.Proofs.Settings.Accepting

/-! Settings that are accepted pass all checks: they allow any positive number of attempts. -/

namespace BooleanSearch.Settings

open Number

/-- Settings that are accepted allow one attempt at least. -/
theorem maxAttempts_pos {root : Entries} {settings : Settings}
    (accepted : ofEntries root = .ok settings) : 0 < settings.backend.maxAttempts := by
  obtain ⟨-, -, valid, -⟩ := accepted_iff.1 accepted
  exact valid.attempts

/-- Settings that are accepted name a level that can be set. -/
theorem level_mem {root : Entries} {settings : Settings}
    (accepted : ofEntries root = .ok settings) : settings.log.level ∈ levelNames := by
  obtain ⟨-, -, valid, -⟩ := accepted_iff.1 accepted
  exact (mem_levelNames_iff _).2 valid.level

/-- The entries that set nothing but the number of attempts. -/
def attemptsOnly (attempts : Int) : Entries :=
  [(.text "backend", .object [("max_attempts", .int attempts)])]

/-- Any positive number of attempts is accepted, and nothing else is changed by it. -/
theorem ofEntries_attemptsOnly {attempts : Int} (positive : 0 < attempts) :
    ofEntries (attemptsOnly attempts) =
      .ok { Settings.standard with
        backend := { BackendSettings.standard with maxAttempts := attempts } } := by
  have names : unknownNames ["log", "fields", "backend"] (attemptsOnly attempts) = [] := rfl
  have log : loadLog (attemptsOnly attempts) = .ok .standard := rfl
  have fields : loadFields (attemptsOnly attempts) = .ok .standard := rfl
  have backend : loadBackend (attemptsOnly attempts) =
      .ok { BackendSettings.standard with maxAttempts := attempts } := rfl
  -- All other settings are standard ones, which pass their checks.
  have timeout : (!(BackendSettings.standard.timeout.less .zero ||
      BackendSettings.standard.timeout.same .zero)) = true := by decide +kernel
  have checked : checkBackend { BackendSettings.standard with maxAttempts := attempts } =
      .ok () := by
    simp only [checkBackend, bind_eq_ok_iff, require_eq_ok_iff]
    exact ⟨(), rfl, (), rfl, (), rfl, (), timeout, decide_eq_true positive⟩
  rw [ofEntries, names]
  simp only [log, fields, backend, checked, bind, Except.bind]
  rfl

end BooleanSearch.Settings
