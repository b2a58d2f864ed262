import LogSieve.Settings.Basic
import LogSieve.Toml.Reader
import LogSieve.Toml.Writer

/-!
# Settings as a document

Settings are read from and shown as TOML, one table a section. A section may also be an array of its
values in order, or a moment, which sets none of them.
-/

namespace LogSieve

open LogSieve.Toml

/-- The fields of a section: by name, or by position. -/
def sectionField? (value : Value) (index : Nat) (name : String) : Option Value :=
  match value with
  | .table entries => entries.lookup name
  | .array items => items[index]?
  | _ => none

/-- Whether a value can be a section whose fields have the given names: unknown fields are passed
over, but their numbers have to fit. -/
def isSection (names : List String) : Value → Bool
  | .table entries => entries.all fun entry => names.contains entry.1 || entry.2.fits
  | .array _ | .moment => true
  | _ => false

/-- A field that may be left out. -/
def fieldOr {α : Type} (default : α) (decode : Value → Option α) : Option Value → Option α
  | none => some default
  | some value => decode value

/-- Reads a text. -/
def textOf? : Value → Option String
  | .string text => some text
  | _ => none

/-- Reads a list of texts. -/
def textsOf? : Value → Option (List String)
  | .array items => items.mapM textOf?
  | _ => none

/-- Reads a natural number of 64 bits. -/
def wordOf? : Value → Option UInt64
  | .integer value =>
      if 0 ≤ value ∧ value.toNat < UInt64.size then some (.ofNat value.toNat) else none
  | _ => none

namespace GeneralSettings

/-- The names of the fields. -/
def fieldNames : List String := ["log_level", "log_format"]

/-- Reads the section. -/
def ofValue? (value : Value) : Option GeneralSettings := do
  let field := fun index name => sectionField? value index name
  if !isSection fieldNames value then none
  else some {
    logLevel := ← fieldOr ({} : GeneralSettings).logLevel textOf? (field 0 "log_level")
    logFormat := ← fieldOr ({} : GeneralSettings).logFormat textOf? (field 1 "log_format") }

/-- The section as text. -/
def toLines (general : GeneralSettings) : List Char :=
  settingLine "log_level" (quoteText general.logLevel) ++
    settingLine "log_format" (quoteText general.logFormat)

end GeneralSettings

namespace DatabaseSettings

/-- The names of the fields. -/
def fieldNames : List String := ["path", "ignored_stream_keys"]

/-- Reads the section. -/
def ofValue? (value : Value) : Option DatabaseSettings := do
  let field := fun index name => sectionField? value index name
  if !isSection fieldNames value then none
  else some {
    path := ← fieldOr ({} : DatabaseSettings).path textOf? (field 0 "path")
    ignoredLabels :=
      ← fieldOr ({} : DatabaseSettings).ignoredLabels textsOf? (field 1 "ignored_stream_keys") }

/-- The section as text. -/
def toLines (database : DatabaseSettings) : List Char :=
  settingLine "path" (quoteText database.path) ++
    settingLine "ignored_stream_keys" (quoteList database.ignoredLabels)

end DatabaseSettings

namespace SourceSettings

/-- The names of the fields. -/
def fieldNames : List String :=
  ["loki_server", "loki_selector", "query_limit", "retry_cooldown_secs", "request_timeout_secs"]

/-- Reads the section. -/
def ofValue? (value : Value) : Option SourceSettings := do
  let field := fun index name => sectionField? value index name
  let default : SourceSettings := {}
  if !isSection fieldNames value then none
  else some {
    server := ← fieldOr default.server textOf? (field 0 "loki_server")
    selector := ← fieldOr default.selector textOf? (field 1 "loki_selector")
    queryLimit := ← fieldOr default.queryLimit wordOf? (field 2 "query_limit")
    cooldownSeconds := ← fieldOr default.cooldownSeconds wordOf? (field 3 "retry_cooldown_secs")
    timeoutSeconds := ← fieldOr default.timeoutSeconds wordOf? (field 4 "request_timeout_secs") }

/-- What is said when a number cannot be shown. -/
def outOfRange : String := "out-of-range value for u64 type"

/-- A number as text; numbers that need all 64 bits cannot be shown. -/
def numberText (value : UInt64) : Except String (List Char) :=
  if value.toNat < UInt64.size / 2 then .ok (Text.digitsOf value.toNat) else .error outOfRange

/-- The section as text. -/
def toLines (source : SourceSettings) : Except String (List Char) := do
  .ok (settingLine "loki_server" (quoteText source.server) ++
    settingLine "loki_selector" (quoteText source.selector) ++
    settingLine "query_limit" (← numberText source.queryLimit) ++
    settingLine "retry_cooldown_secs" (← numberText source.cooldownSeconds) ++
    settingLine "request_timeout_secs" (← numberText source.timeoutSeconds))

end SourceSettings

namespace Settings

/-- The names of the sections. -/
def sectionNames : List String := ["general", "database", "source"]

/-- Reads settings from a document. -/
def parse? (text : String) : Option Settings := do
  let entries ← Toml.parse? text
  if !isSection sectionNames (.table entries) then none
  else some {
    general := ← fieldOr {} GeneralSettings.ofValue? (entries.lookup "general")
    database := ← fieldOr {} DatabaseSettings.ofValue? (entries.lookup "database")
    source := ← fieldOr {} SourceSettings.ofValue? (entries.lookup "source") }

/-- All settings as text. -/
def toLines (settings : Settings) : Except String (List Char) := do
  .ok (headerLine "general" ++ settings.general.toLines ++ '\n' :: headerLine "database" ++
    settings.database.toLines ++ '\n' :: headerLine "source" ++ (← settings.source.toLines))

/-- The settings of one section as text, or all of them; none for an unknown section. -/
def showSection? (settings : Settings) : Option String → Option (Except String (List Char))
  | none => some settings.toLines
  | some "general" => some (.ok settings.general.toLines)
  | some "database" => some (.ok settings.database.toLines)
  | some "source" => some settings.source.toLines
  | some _ => none

end Settings

end LogSieve
