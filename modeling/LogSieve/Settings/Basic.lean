import LogSieve.Error
import LogSieve.Loki.Query
import LogSieve.Text.Blank

/-!
# Settings

What can be set: how events are shown, where the rules are kept, and which server delivers records.
-/

namespace LogSieve

open LogSieve.Text

/-- How events are shown. -/
structure GeneralSettings where
  logLevel : String := "info"
  logFormat : String := "pretty"
deriving DecidableEq, Inhabited, Repr

/-- Where the rules are kept. -/
structure DatabaseSettings where
  path : String := "db.json"
  /-- Labels that are left out of rules made from records. -/
  ignoredLabels : List String := ["forwarder", "host", "source_source", "source_type"]
deriving DecidableEq, Inhabited, Repr

/-- Where records come from. -/
structure SourceSettings where
  /-- The address of the server; empty without one. -/
  server : String := ""
  selector : String := "\x7bhost=~\".+\"\x7d"
  queryLimit : UInt64 := 5000
  cooldownSeconds : UInt64 := 5
  timeoutSeconds : UInt64 := 30
deriving DecidableEq, Inhabited, Repr

/-- All settings. -/
structure Settings where
  general : GeneralSettings := {}
  database : DatabaseSettings := {}
  source : SourceSettings := {}
deriving DecidableEq, Inhabited, Repr

/-- Whether there is a server. -/
def SourceSettings.isConfigured (source : SourceSettings) : Bool := !source.server.isEmpty

namespace Settings

/-- The levels that can be set. -/
def levels : List String := ["trace", "debug", "info", "warn", "error"]

/-- The formats that can be set. -/
def formats : List String := ["json", "pretty"]

/-- Refuses values that make no sense; the first one found is told. -/
def validate (settings : Settings) : Except SettingsError Unit :=
  let oneOf (values : List String) := "must be one of: " ++ String.intercalate ", " values
  if !levels.contains settings.general.logLevel then
    .error (.invalidValue "general.log_level" (oneOf levels))
  else if !formats.contains settings.general.logFormat then
    .error (.invalidValue "general.log_format" (oneOf formats))
  else if settings.database.path.isEmpty then
    .error (.invalidValue "database.path" "path must not be empty")
  else if settings.source.queryLimit = 0 then
    .error (.invalidValue "source.query_limit" "must be greater than 0")
  else if settings.source.isConfigured && settings.source.selector.isEmpty then
    .error (.invalidValue "source.loki_selector"
      "selector must not be empty when loki_server is set")
  else .ok ()

end Settings

/-- What the rule store needs. -/
structure StoreSettings where
  path : String := "db.json"
  ignoredLabels : List String := ({} : DatabaseSettings).ignoredLabels
  cooldownSeconds : UInt64 := 5
  query : Option Loki.Query := none
deriving DecidableEq, Inhabited, Repr

/-- What the rule store needs, by the settings. -/
def Settings.forStore (settings : Settings) : StoreSettings :=
  { path := settings.database.path
    ignoredLabels := settings.database.ignoredLabels
    cooldownSeconds := settings.source.cooldownSeconds
    query :=
      if settings.source.isConfigured then
        some {
          server := trimSlashes settings.source.server
          selector := settings.source.selector
          limit := settings.source.queryLimit
          timeoutSeconds := settings.source.timeoutSeconds }
      else none }

end LogSieve
