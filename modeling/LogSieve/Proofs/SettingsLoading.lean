import LogSieve.Proofs.Files
import LogSieve.Settings.Loading

/-!
# Settings that are checked twice

Settings are checked when they come from a file, and once more with the variables of the
environment applied.  A load succeeds if both checks do.  So the variables cannot make up for a
value of the file that makes no sense, although they would replace it.
-/

namespace LogSieve.Settings

/-- The settings of a file with the variables applied. -/
def effective (settings : Settings) (environment : Environment) : Settings :=
  (settings.override environment).1

variable {settings result : Settings} {environment : Environment} {files : Files}
  {path text : String}

/-! ## The check -/

/-- What a check refuses is a value of a field. -/
theorem eq_invalidValue_of_validate_eq_error {reason : SettingsError}
    (refused : settings.validate = .error reason) :
    ∃ field text, reason = .invalidValue field text := by
  simp only [validate] at refused
  repeat' split at refused
  all_goals cases refused
  all_goals exact ⟨_, _, rfl⟩

theorem checked_eq_ok_iff :
    settings.checked = .ok result ↔ settings.validate = .ok () ∧ result = settings := by
  rw [checked]
  cases settings.validate with
  | error reason => simp
  | ok done => simp [eq_comm]

theorem checked_eq_error_iff {error : SetupError} :
    settings.checked = .error error ↔
      ∃ reason, error = .settings reason ∧ settings.validate = .error reason := by
  rw [checked]
  cases settings.validate with
  | error reason => simp [eq_comm]
  | ok done => simp

/-! ## Loading -/

/-- A file whose text can be read gives its settings if they pass the check. -/
theorem fromFile_of_parse? (read : files.readText path = .ok text)
    (parsed : parse? text = some settings) : fromFile files path = settings.checked := by
  rw [fromFile, read]
  simp only [ofText, parsed]
  rfl

/-- The variables are applied only to settings that passed the check. -/
theorem load_of_validate_eq_ok (fromFile : fromFile files path = settings.checked)
    (valid : settings.validate = .ok ()) :
    load files environment path =
      ((settings.effective environment).checked, (settings.override environment).2) := by
  rw [load, fromFile, checked_eq_ok_iff.mpr ⟨valid, rfl⟩]
  rfl

/-- Settings that do not pass the check end the load. -/
theorem load_of_validate_eq_error (fromFile : fromFile files path = settings.checked)
    {reason : SettingsError} (refused : settings.validate = .error reason) :
    load files environment path = (.error (.settings reason), []) := by
  rw [load, fromFile, checked_eq_error_iff.mpr ⟨reason, rfl, refused⟩]

/-- Where a file gives settings, valid or not, the usual ones play no part. -/
theorem loadOrUsual_eq_load (fromFile : fromFile files path = settings.checked) :
    loadOrUsual files environment path = load files environment path := by
  have there (missing : String) :
      (load files environment path).1 ≠ .error (.settings (.fileNotFound missing)) := by
    intro failed
    have refused : ∃ checked : Settings,
        checked.validate = .error (.fileNotFound missing) := by
      cases valid : settings.validate with
      | error reason =>
          rw [load_of_validate_eq_error fromFile valid] at failed
          cases failed
          exact ⟨settings, valid⟩
      | ok done =>
          rw [load_of_validate_eq_ok fromFile valid, checked_eq_error_iff] at failed
          obtain ⟨reason, same, refused⟩ := failed
          cases same
          exact ⟨_, refused⟩
    obtain ⟨checked, refused⟩ := refused
    obtain ⟨field, text, same⟩ := eq_invalidValue_of_validate_eq_error refused
    cases same
  rw [loadOrUsual]
  split
  · next missing noted failed => exact absurd (congrArg Prod.fst failed) (there missing)
  · rfl

/-- A load of a file that can be read succeeds exactly if the settings of the file are valid
without the variables and with them, and gives the latter.  It fails by the settings of the file
if these are not valid, whatever the variables say, and else by those with the variables.  So it
comes to the check of the settings in force exactly where those of the file are valid or are
refused for the same reason. -/
theorem load_eq_ok_iff_valid_twice (read : files.readText path = .ok text)
    (parsed : parse? text = some settings) (environment : Environment) :
    (∀ result, (load files environment path).1 = .ok result ↔
        settings.validate = .ok () ∧ (settings.effective environment).validate = .ok () ∧
          result = settings.effective environment) ∧
      (∀ error, (load files environment path).1 = .error error ↔
        ∃ reason, error = .settings reason ∧
          (settings.validate = .error reason ∨ settings.validate = .ok () ∧
            (settings.effective environment).validate = .error reason)) ∧
      ((load files environment path).1 = (settings.effective environment).checked ↔
        settings.validate = .ok () ∨
          settings.validate = (settings.effective environment).validate) ∧
      loadOrUsual files environment path = load files environment path := by
  have fromFile := fromFile_of_parse? read parsed
  have usual : loadOrUsual files environment path = load files environment path :=
    loadOrUsual_eq_load fromFile
  cases valid : settings.validate with
  | error reason =>
      rw [load_of_validate_eq_error fromFile valid] at usual ⊢
      refine ⟨by simp, ?_, ?_, usual⟩
      · intro error
        simp [eq_comm]
      · rw [eq_comm, checked_eq_error_iff]
        simp [eq_comm]
  | ok done =>
      rw [load_of_validate_eq_ok fromFile valid] at usual ⊢
      refine ⟨?_, ?_, by simp, usual⟩
      · intro result
        simp [checked_eq_ok_iff]
      · intro error
        simp [checked_eq_error_iff]

/-- A file of settings. -/
def settingsFiles (text : String) : Files := { nodes := [(["logtriage.toml"], .file text.toUTF8)] }

theorem readText_settingsFiles (text : String) :
    (settingsFiles text).readText "logtriage.toml" = .ok text := by
  have read : (settingsFiles text).read "logtriage.toml" = .ok text.toUTF8 := rfl
  simp only [Files.readText, read, bind, Except.bind, fromUTF8?_toUTF8]

/-- A variable that sets the limit. -/
def limitedEnvironment : Environment := [("LOGTRIAGE_SOURCE_QUERY_LIMIT", "42")]

theorem load_eq_ok_iff_valid_twice_debug :
    (settingsFiles "[general]\nlog_level = \"debug\"").readText "logtriage.toml" =
        .ok "[general]\nlog_level = \"debug\"" ∧
      parse? "[general]\nlog_level = \"debug\"" = some { general := { logLevel := "debug" } } ∧
      (load (settingsFiles "[general]\nlog_level = \"debug\"") limitedEnvironment
        "logtriage.toml").1 =
          .ok { general := { logLevel := "debug" }, source := { queryLimit := 42 } } := by
  have read := readText_settingsFiles "[general]\nlog_level = \"debug\""
  have parsed : parse? "[general]\nlog_level = \"debug\"" =
      some { general := { logLevel := "debug" } } := by decide +kernel
  have applied : effective { general := { logLevel := "debug" } } limitedEnvironment =
      { general := { logLevel := "debug" }, source := { queryLimit := 42 } } := by decide +kernel
  refine ⟨read, parsed, ?_⟩
  apply ((load_eq_ok_iff_valid_twice read parsed limitedEnvironment).1 _).mpr
  rw [applied]
  exact ⟨rfl, rfl, rfl⟩

/-- A limit of zero in the file ends the load, although the variable sets another one. -/
theorem load_of_replaced_limit :
    parse? "[source]\nquery_limit = 0\n" = some { source := { queryLimit := 0 } } ∧
      (effective { source := { queryLimit := 0 } } limitedEnvironment).validate = .ok () ∧
      (load (settingsFiles "[source]\nquery_limit = 0\n") limitedEnvironment
        "logtriage.toml").1 =
          .error (.settings (.invalidValue "source.query_limit" "must be greater than 0")) := by
  have parsed : parse? "[source]\nquery_limit = 0\n" = some { source := { queryLimit := 0 } } := by
    decide +kernel
  have applied : effective { source := { queryLimit := 0 } } limitedEnvironment =
      { source := { queryLimit := 42 } } := by decide +kernel
  refine ⟨parsed, by rw [applied]; rfl, ?_⟩
  have fromFile := fromFile_of_parse? (readText_settingsFiles "[source]\nquery_limit = 0\n") parsed
  rw [load_of_validate_eq_error fromFile rfl]

end LogSieve.Settings
