import LogSieve.Command.Line
import LogSieve.Command.Style
import LogSieve.Json.Printer
import LogSieve.Ruleset
import LogSieve.Summary

/-!
# Reports

What commands have to say, as text for people and as JSON.
-/

namespace LogSieve.Command

open LogSieve.Json
open LogSieve.Text

/-- A record in a report. -/
structure LogEntry where
  hash : UInt64
  timestamp : Int64
  time : Option String
  verdict : Verdict
  ruleId : Option UInt64
  stream : String
  message : String
deriving Inhabited

/-- A rule in a report. -/
structure RuleEntry where
  id : UInt64
  ham : Bool
  disabled : Bool
  version : UInt64
  matchers : List String
  comment : String
deriving Inhabited

/-- What a command has to say. -/
inductive Report where
  | logs (total hidden : Nat) (logs : List LogEntry)
  | classified (hash ruleId : UInt64) (verdict : Verdict) (matchers : Nat)
  | rules (total : Nat) (version : UInt64) (rules : List RuleEntry)
  | deleted (id version : UInt64)
  | stats (logs : Int) (sources : List SourceSummary)
  | settings (source : String) (name : Option String) (text : String)
  | checked (source : String) (valid : Bool) (errors : List String)

/-- A matcher in a report. -/
def matcherText (matcher : Matcher) : String :=
  matcher.field ++ matcher.operator.sign ++ quoted matcher.value

/-- A rule in a report. -/
def RuleEntry.ofRule (rule : Rule) : RuleEntry :=
  { id := rule.id, ham := rule.ham, disabled := rule.disabled, version := rule.version
    matchers := rule.matchers.map matcherText, comment := rule.comment }

/-- A judged record in a report. -/
def LogEntry.ofRecord (record : Record) (rule : Option Rule) : LogEntry :=
  { hash := record.hash, timestamp := record.timestamp, time := record.time?
    verdict := .ofRule rule, ruleId := rule.map (·.id), stream := record.labelText
    message := record.message }

/-- A text with a line break at its end. -/
def line (parts : List String) : String := String.join parts ++ "\n"

/-- A line of hyphens. -/
def hyphens (width : Nat) : String := line [String.ofList (List.replicate width '-')]

/-- A rule as text. -/
def RuleEntry.toText (colors : Bool) (entry : RuleEntry) : String :=
  let kind :=
    if entry.ham then paintColumn colors .green 5 "ham" else paintColumn colors .red 5 "spam"
  let state :=
    if entry.disabled then paintColumn colors .yellow 9 "disabled"
    else paintColumn colors .normal 9 "enabled"
  line [padRight 6 (toDecimal entry.id.toNat), " ", kind, " ", state, " ",
    truncate (String.intercalate " && " entry.matchers) 100] ++
  (if entry.comment.isEmpty then "" else line [padRight 22 "", "# ", entry.comment])

/-- A record as text. -/
def LogEntry.toText (colors : Bool) (entry : LogEntry) : String :=
  let verdict := match entry.verdict with
    | .ham => paint colors .green "ham"
    | .spam => paint colors .red "spam"
    | .unknown => paint colors .normal "?"
  let rule := match entry.ruleId with
    | some id => " rule " ++ toDecimal id.toNat
    | none => ""
  line [padRight 20 (toDecimal entry.hash.toNat), " ", entry.time.getD "-", " ", verdict, rule, " ",
    paint colors .dimmed entry.stream] ++
  line ["    ", truncate entry.message 200]

/-- The rules of a source as text. -/
def sourceText (entry : SourceSummary) : String :=
  let source := if entry.source.isEmpty then "(any)" else entry.source
  line [padRight 40 (truncate source 40), " ", padLeft 6 (toDecimal entry.ruleCount), " ",
    padLeft 8 (toDecimal entry.hits)]

/-- A report as text. -/
def Report.toText (colors : Bool) : Report → String
  | .logs total others entries =>
      line ["Logs (", paint colors .bold (toDecimal entries.length), " shown, ", toDecimal total,
        " buffered, ", toDecimal others, " hidden)"] ++ line [] ++
      String.join (entries.map (·.toText colors))
  | .classified hash ruleId verdict matchers =>
      let kind := match verdict with
        | .ham => paint colors .green "ham"
        | _ => paint colors .red "spam"
      line ["Created rule ", paint colors .bold (toDecimal ruleId.toNat), " (", kind, ", ",
        toDecimal matchers, " matchers) from log ", toDecimal hash.toNat]
  | .rules total version entries =>
      line ["Rules (", paint colors .bold (toDecimal total), " total, version ",
        toDecimal version.toNat, ")"] ++ line [] ++
      line [padRight 6 "ID", " ", padRight 5 "Kind", " ", padRight 9 "State", " Matchers"] ++
      hyphens 80 ++ String.join (entries.map (·.toText colors))
  | .deleted id version =>
      line ["Deleted rule ", toDecimal id.toNat, " (ruleset version ", toDecimal version.toNat, ")"]
  | .stats count sources =>
      line ["Logs: ",
        if count < 0 then paint colors .yellow "unavailable" else toSignedDecimal count] ++
      line [] ++ line [padRight 40 "Source", " ", padLeft 6 "Rules", " ", padLeft 8 "Hits"] ++
      hyphens 56 ++ String.join (sources.map sourceText)
  | .settings source name text =>
      (match name with
        | some name =>
            line ["Configuration ", paint colors .bold ("[" ++ name ++ "]"), " (source: ", source,
              ")"]
        | none => line ["Configuration (source: ", paint colors .bold source, ")"]) ++
      line [] ++ text
  | .checked source valid errors =>
      line ["Config Validation: ", paint colors .bold source] ++
      (if valid then line ["  Result: ", paint colors .boldGreen "VALID"]
        else
          line ["  Result: ", paint colors .boldRed "INVALID"] ++
          String.join (errors.map fun error => line ["  Error: ", paint colors .red error]))

/-- A number of 64 bits as JSON. -/
def wordJson (value : UInt64) : Value := .integer value.toNat

/-- A record as JSON. -/
def LogEntry.toJson (entry : LogEntry) : Value :=
  .object [("hash", wordJson entry.hash), ("timestamp", .integer entry.timestamp.toInt),
    ("time", (entry.time.map Value.string).getD .null), ("verdict", .string entry.verdict.name),
    ("rule_id", (entry.ruleId.map wordJson).getD .null), ("stream", .string entry.stream),
    ("message", .string entry.message)]

/-- A rule as JSON. -/
def RuleEntry.toJson (entry : RuleEntry) : Value :=
  .object [("id", wordJson entry.id), ("ham", .bool entry.ham), ("disabled", .bool entry.disabled),
    ("version", wordJson entry.version), ("matchers", .array (entry.matchers.map .string)),
    ("comment", .string entry.comment)]

/-- The rules of a source as JSON. -/
def sourceJson (entry : SourceSummary) : Value :=
  .object [("source", .string entry.source), ("rule_count", .integer entry.ruleCount),
    ("hits", .integer entry.hits)]

/-- A report as JSON. -/
def Report.toJson : Report → Value
  | .logs total others entries =>
      .object [("total", .integer total), ("hidden", .integer others),
        ("logs", .array (entries.map LogEntry.toJson))]
  | .classified hash ruleId verdict matchers =>
      .object [("hash", wordJson hash), ("rule_id", wordJson ruleId),
        ("verdict", .string verdict.name), ("matchers", .integer matchers)]
  | .rules total version entries =>
      .object [("total", .integer total), ("version", wordJson version),
        ("rules", .array (entries.map RuleEntry.toJson))]
  | .deleted id version => .object [("id", wordJson id), ("version", wordJson version)]
  | .stats count sources =>
      .object [("logs", .integer count), ("sources", .array (sources.map sourceJson))]
  | .settings source name _ =>
      .object (("source", .string source) ::
        (name.map fun name => ("section", Value.string name)).toList)
  | .checked source valid errors =>
      .object [("source", .string source), ("valid", .bool valid),
        ("errors", .array (errors.map .string))]

/-- A report in a format. -/
def Report.render (format : OutputFormat) (colors : Bool) (report : Report) : String :=
  match format with
  | .text => report.toText colors
  | .json => line [report.toJson.toLines 2]

end LogSieve.Command
