import LogSieve.Text.Decimal

/-!
# Causes of failure

What can go wrong with the rule store, with its file and with the sources of records, and how it is
told.
-/

namespace LogSieve

open LogSieve.Text

/-- A failure of the file system. -/
inductive FileError where
  | notFound
  | notDirectory
  | isDirectory
  | busy
  | nameTooLong
  | zeroInName
  | notText
deriving DecidableEq, Inhabited, Repr

/-- The wording of a failure of the file system. -/
def FileError.message : FileError → String
  | .notFound => "No such file or directory (os error 2)"
  | .notDirectory => "Not a directory (os error 20)"
  | .isDirectory => "Is a directory (os error 21)"
  | .busy => "Device or resource busy (os error 16)"
  | .nameTooLong => "File name too long (os error 36)"
  | .zeroInName => "file name contained an unexpected NUL byte"
  | .notText => "stream did not contain valid UTF-8"

/-- A failure of the store or of a source. -/
inductive TriageError where
  | ruleNotFound (id : UInt64)
  | hashNotFound (hash : UInt64)
  | sourceUnavailable (source reason : String)
  | retryCooldown (milliseconds : UInt64)
  | sourceMissing
  | persistence (path reason : String)
deriving DecidableEq, Inhabited, Repr

namespace TriageError

/-- The wording of a failure. -/
def message : TriageError → String
  | .ruleNotFound id => "rule not found: " ++ toDecimal id.toNat
  | .hashNotFound hash => "log not found: hash " ++ toDecimal hash.toNat
  | .sourceUnavailable source reason => "log source unavailable: " ++ source ++ ": " ++ reason
  | .retryCooldown milliseconds =>
      "log source in retry cooldown: " ++ toDecimal milliseconds.toNat ++ "ms remaining"
  | .sourceMissing => "no log source configured"
  | .persistence path reason => "persistence error: " ++ path ++ ": " ++ reason

/-- Whether something was asked for that is not there. -/
def isNotFound : TriageError → Bool
  | .ruleNotFound _ | .hashNotFound _ => true
  | _ => false

/-- Whether the source could not deliver records. -/
def isSourceError : TriageError → Bool
  | .sourceUnavailable _ _ | .retryCooldown _ | .sourceMissing => true
  | _ => false

/-- What stands for the explanation of a JSON text that cannot be read. -/
def badJson : String := "<json>"

end TriageError

/-- A failure of the settings. -/
inductive SettingsError where
  | fileNotFound (path : String)
  | parseFailed (reason : String)
  | invalidValue (field reason : String)
deriving DecidableEq, Inhabited, Repr

namespace SettingsError

/-- The wording of a failure of the settings. -/
def message : SettingsError → String
  | .fileNotFound path => "config file not found: " ++ path
  | .parseFailed reason => "failed to parse config: " ++ reason
  | .invalidValue field reason => "invalid config value for '" ++ field ++ "': " ++ reason

/-- What stands for the explanation of a text that is not in the format of the settings. -/
def badText : String := "<toml>"

end SettingsError

/-- A failure on the way to a running program. -/
inductive SetupError where
  | settings (error : SettingsError)
  | engine (text : String)
  | file (text : String)
deriving DecidableEq, Inhabited, Repr

/-- The wording of a failure on the way to a running program. -/
def SetupError.message : SetupError → String
  | .settings error => "config error: " ++ error.message
  | .engine text => "engine error: " ++ text
  | .file text => "io error: " ++ text

/-- A failure of the store, as one of the program. -/
def TriageError.toSetupError (error : TriageError) : SetupError := .engine error.message

end LogSieve
