import LogSieve.Event
import LogSieve.Files
import LogSieve.Settings.Document

/-!
# Loading settings

Settings come from a file; variables of the environment take precedence over it. The file has to
hold valid settings on its own, and so has the result.
-/

namespace LogSieve

open LogSieve.Text

/-- The variables of the environment. -/
abbrev Environment := List (String × String)

/-- The value of a variable. -/
def Environment.get? (environment : Environment) (name : String) : Option String :=
  environment.lookup name

/-- The items of a list divided by commas, without blank ends and without empty ones. -/
def splitList (text : String) : List String :=
  ((splitAt ',' text.toList).map trim).filterMap fun item =>
    if item.isEmpty then none else some (String.ofList item)

namespace Settings

/-- The variables that are looked at. -/
def variableNames : List String :=
  ["LOGTRIAGE_GENERAL_LOG_LEVEL", "LOGTRIAGE_GENERAL_LOG_FORMAT", "LOGTRIAGE_DATABASE_PATH",
    "LOGTRIAGE_DATABASE_IGNORED_STREAM_KEYS", "LOGTRIAGE_SOURCE_LOKI_SERVER",
    "LOGTRIAGE_SOURCE_LOKI_SELECTOR", "LOGTRIAGE_SOURCE_QUERY_LIMIT",
    "LOGTRIAGE_SOURCE_RETRY_COOLDOWN_SECS", "LOGTRIAGE_SOURCE_REQUEST_TIMEOUT_SECS"]

/-- A number by a variable; one that cannot be read is noted and ignored. -/
def overrideNumber (environment : Environment) (kind : NumberKind) (name : String)
    (current : UInt64) : UInt64 × List Event :=
  match environment.get? name with
  | none => (current, [])
  | some text =>
      match readUInt64 text with
      | .ok value => (value, [])
      | .error _ => (current, [.overrideIgnored kind name text])

/-- Settings with the variables applied, and what is noted. -/
def override (environment : Environment) (settings : Settings) : Settings × List Event :=
  let text (name current : String) := (environment.get? name).getD current
  let source := settings.source
  let (queryLimit, noted1) :=
    overrideNumber environment .size "LOGTRIAGE_SOURCE_QUERY_LIMIT" source.queryLimit
  let (cooldownSeconds, noted2) :=
    overrideNumber environment .natural "LOGTRIAGE_SOURCE_RETRY_COOLDOWN_SECS"
      source.cooldownSeconds
  let (timeoutSeconds, noted3) :=
    overrideNumber environment .natural "LOGTRIAGE_SOURCE_REQUEST_TIMEOUT_SECS"
      source.timeoutSeconds
  ({ general := {
      logLevel := text "LOGTRIAGE_GENERAL_LOG_LEVEL" settings.general.logLevel
      logFormat := text "LOGTRIAGE_GENERAL_LOG_FORMAT" settings.general.logFormat }
     database := {
      path := text "LOGTRIAGE_DATABASE_PATH" settings.database.path
      ignoredLabels :=
        ((environment.get? "LOGTRIAGE_DATABASE_IGNORED_STREAM_KEYS").map splitList).getD
          settings.database.ignoredLabels }
     source := {
      server := text "LOGTRIAGE_SOURCE_LOKI_SERVER" source.server
      selector := text "LOGTRIAGE_SOURCE_LOKI_SELECTOR" source.selector
      queryLimit, cooldownSeconds, timeoutSeconds } },
    noted1 ++ noted2 ++ noted3)

/-- Checks settings. -/
def checked (settings : Settings) : Except SetupError Settings :=
  match settings.validate with
  | .ok () => .ok settings
  | .error error => .error (.settings error)

/-- Reads settings from a text. -/
def ofText (text : String) : Except SetupError Settings :=
  match parse? text with
  | some settings => .ok settings
  | none => .error (.settings (.parseFailed SettingsError.badText))

/-- Reads and checks the settings of a file. -/
def fromFile (files : Files) (path : String) : Except SetupError Settings :=
  match files.readText path with
  | .ok text => ofText text >>= checked
  | .error .notFound => .error (.settings (.fileNotFound path))
  | .error error => .error (.file error.message)

/-- Applies the variables and checks the result. -/
def finish (environment : Environment) (settings : Settings) :
    Except SetupError Settings × List Event :=
  let (changed, noted) := settings.override environment
  (changed.checked, noted)

/-- Loads settings: the file, then the variables. -/
def load (files : Files) (environment : Environment) (path : String) :
    Except SetupError Settings × List Event :=
  match fromFile files path with
  | .ok settings => settings.finish environment
  | .error error => (.error error, [])

/-- Loads settings; without a file the usual ones count. -/
def loadOrUsual (files : Files) (environment : Environment) (path : String) :
    Except SetupError Settings × List Event :=
  match load files environment path with
  | (.error (.settings (.fileNotFound _)), _) => ({} : Settings).finish environment
  | loaded => loaded

end Settings

end LogSieve
