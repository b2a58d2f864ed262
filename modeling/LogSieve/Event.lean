import LogSieve.Error

/-!
# Events

What the program notes while it works, for people who watch it.
-/

namespace LogSieve

/-- How important an event is; earlier levels are more important. -/
inductive Level where
  | error
  | warn
  | info
  | debug
  | trace
deriving DecidableEq, Inhabited, Repr

/-- The name of a level. -/
def Level.name : Level → String
  | .error => "ERROR"
  | .warn => "WARN"
  | .info => "INFO"
  | .debug => "DEBUG"
  | .trace => "TRACE"

/-- The rank of a level; more important ones come first. -/
def Level.rank : Level → Nat
  | .error => 1
  | .warn => 2
  | .info => 3
  | .debug => 4
  | .trace => 5

/-- The value of a field of an event. -/
inductive FieldValue where
  /-- A text shown as it is. -/
  | plain (text : String)
  /-- A text shown in quotes. -/
  | text (text : String)
  | number (value : Int)
  | flag (value : Bool)
deriving DecidableEq, Repr

/-- The number that an override of the settings asks for. -/
inductive NumberKind where
  | size
  | natural
deriving DecidableEq, Repr

/-- Something worth noting. -/
inductive Event where
  | patternRefused (pattern : String)
  | bulkBuilt (splitField : String) (units fastRules slowRules : Nat)
  | pollFailed (source : String) (error : TriageError) (cooldownMilliseconds : Nat)
  | logsIngested (count : Nat) (watermark : Option Int) (buffered : Nat)
  | databaseMissing (path : String)
  | databaseLoaded (path : String) (rules version : Nat)
  | databaseSaved (path : String) (rules version : Nat)
  | leftoverKept (path : String) (error : FileError)
  | writeFailed (path action : String) (error : TriageError)
  | ruleAdded (id : UInt64) (action : String)
  | ruleUpdated (id version : UInt64)
  | updateIgnored (id currentVersion givenVersion : UInt64)
  | ruleDeleted (id : UInt64)
  | logClassified (id hash : UInt64) (ham : Bool)
  | summaryWithoutLogs (error : TriageError)
  | overrideIgnored (kind : NumberKind) (key value : String)
  | programStarted (config : String)
  | settingsChecked (path : String)
  | settingsShown (path : String)
  | deletedByCommand (id : UInt64)
  | classifiedByCommand (id hash : UInt64) (ham : Bool)
deriving DecidableEq, Repr

namespace Event

/-- What stands for the explanation of a malformed pattern. -/
def badPattern : String := "<regex>"

/-- The part of the program that an event comes from. -/
def target : Event → String
  | .patternRefused _ => "logtriage_engine::rule::matcher"
  | .bulkBuilt .. => "logtriage_engine::rule::bulk"
  | .pollFailed .. | .logsIngested .. => "logtriage_engine::buffer"
  | .overrideIgnored .. => "logtriage_core::config"
  | .programStarted _ => "logtriage"
  | .settingsChecked _ | .settingsShown _ => "logtriage::commands::config"
  | .deletedByCommand _ => "logtriage::commands::rules"
  | .classifiedByCommand .. => "logtriage::commands::classify"
  | _ => "logtriage_engine::store"

/-- How important an event is. -/
def level : Event → Level
  | .patternRefused _ | .bulkBuilt .. | .logsIngested .. | .summaryWithoutLogs _
  | .programStarted _ => .debug
  | .pollFailed .. | .leftoverKept .. | .writeFailed .. | .updateIgnored ..
  | .overrideIgnored .. => .warn
  | _ => .info

/-- The wording of an event. -/
def message : Event → String
  | .patternRefused _ => "invalid matcher regex, never matches"
  | .bulkBuilt .. => "bulk rule matcher built"
  | .pollFailed .. => "log source poll failed"
  | .logsIngested .. => "ingested logs"
  | .databaseMissing _ => "no database file yet, starting empty"
  | .databaseLoaded .. => "database loaded"
  | .databaseSaved .. => "database saved"
  | .leftoverKept .. => "failed to remove temp file"
  | .writeFailed .. => "ruleset write failed, keeping previous version"
  | .ruleAdded .. => "rule added"
  | .ruleUpdated .. => "rule updated"
  | .updateIgnored .. => "stale rule update ignored"
  | .ruleDeleted _ => "rule deleted"
  | .logClassified .. => "log classified"
  | .summaryWithoutLogs _ => "summary computed without fresh logs"
  | .overrideIgnored .size .. => "failed to parse usize from env var, ignoring"
  | .overrideIgnored .natural .. => "failed to parse u64 from env var, ignoring"
  | .programStarted _ => "logtriage starting"
  | .settingsChecked _ => "validating configuration"
  | .settingsShown _ => "loading configuration"
  | .deletedByCommand _ => "rule deleted via cli"
  | .classifiedByCommand .. => "classified via cli"

/-- The details of an event, in order. -/
def fields : Event → List (String × FieldValue)
  | .patternRefused pattern => [("pattern", .text pattern), ("error", .plain badPattern)]
  | .bulkBuilt splitField units fastRules slowRules =>
      [("split_field", .text splitField), ("units", .number units),
        ("fast_rules", .number fastRules), ("slow_rules", .number slowRules)]
  | .pollFailed source error cooldown =>
      [("source", .text source), ("error", .plain error.message), ("cooldown_ms", .number cooldown)]
  | .logsIngested count watermark buffered =>
      ("count", .number count) :: (watermark.map fun time => ("watermark", .number time)).toList ++
        [("buffered", .number buffered)]
  | .databaseMissing path | .settingsChecked path | .settingsShown path =>
      [("path", .plain path)]
  | .databaseLoaded path rules version | .databaseSaved path rules version =>
      [("path", .plain path), ("rules", .number rules), ("version", .number version)]
  | .leftoverKept path error => [("path", .plain path), ("error", .plain error.message)]
  | .writeFailed path action error =>
      [("path", .plain path), ("action", .text action), ("error", .plain error.message)]
  | .ruleAdded id action => [("rule_id", .number id.toNat), ("action", .text action)]
  | .ruleUpdated id version => [("rule_id", .number id.toNat), ("version", .number version.toNat)]
  | .updateIgnored id current given =>
      [("rule_id", .number id.toNat), ("current_version", .number current.toNat),
        ("given_version", .number given.toNat)]
  | .ruleDeleted id | .deletedByCommand id => [("rule_id", .number id.toNat)]
  | .logClassified id hash ham | .classifiedByCommand id hash ham =>
      [("rule_id", .number id.toNat), ("hash", .number hash.toNat), ("ham", .flag ham)]
  | .summaryWithoutLogs error => [("error", .plain error.message)]
  | .overrideIgnored _ key value => [("env_key", .text key), ("value", .text value)]
  | .programStarted config => [("config", .plain config)]

/-- The names of the details that an event can have, its wording among them. -/
def fieldNames : Event → List String
  | .logsIngested .. => ["message", "count", "watermark", "buffered"]
  | event => "message" :: event.fields.map (·.1)

end Event

end LogSieve
