import LogSieve.Command.Diagnostics
import LogSieve.Command.Directive
import LogSieve.Command.Error
import LogSieve.Command.Help
import LogSieve.Command.Report
import LogSieve.Listing
import LogSieve.Settings.Loading
import LogSieve.Store.Editing
import LogSieve.Store.Judging

/-!
# Running commands

A run of the program: from its arguments, the environment and the files to what it prints, the
number it ends with, and the files it leaves.
-/

namespace LogSieve.Command

/-- What a command acts on. -/
structure Console where
  world : World
  environment : Environment
  output : String := ""
deriving Inhabited

/-- A command at work. -/
abbrev CommandAction := ExceptT CommandError (StateM Console)

/-- Notes events. -/
def noteAll (events : List Event) : CommandAction Unit :=
  modify fun console => { console with world := events.foldl World.note console.world }

/-- Whether colours are wanted. -/
def wantsColors (environment : Environment) : Bool :=
  (environment.get? "CLICOLOR_FORCE").any (· != "0")

/-- Prints a report. -/
def print (format : OutputFormat) (report : Report) : CommandAction Unit :=
  modify fun console =>
    let text := report.render format (wantsColors console.environment)
    { console with output := console.output ++ text }

/-- Nanoseconds in a second. -/
def second : Nat := 1000000000

/-- Opens the store and does something with it. -/
def withStore {α : Type} (settings : Settings) (action : StoreAction Loki.Query α) :
    CommandAction α := do
  let console ← get
  let store := settings.forStore
  let session := Session.create store.path store.ignoredLabels
    (store.cooldownSeconds.toNat * second) store.query console.world
  let (outcome, session) := (do Session.loadIfThere; action).run session
  set { console with world := session.world }
  match outcome with
  | .ok value => return value
  | .error error => throw (.ofTriage error)

/-- Things are searched by their records. -/
instance {α : Type} : Searchable (Record × α) := ⟨fun pair => pair.1.mentions⟩

/-- Lists rules, the latest first. -/
def listRules (settings : Settings) (filter : Option String) (limit : Nat) :
    CommandAction Report := do
  let ruleset ← withStore settings (return (← get).store.ruleset)
  let shown := pick ruleset.latestFirst (filter.getD "") limit
  return .rules ruleset.rules.length ruleset.version (shown.map RuleEntry.ofRule)

/-- Takes a rule away. -/
def deleteRule (settings : Settings) (id : UInt64) : CommandAction Report := do
  let version ← withStore settings do
    Session.delete id
    return (← get).store.ruleset.version
  noteAll [.deletedByCommand id]
  return .deleted id version

/-- Shows rules and hits by source. -/
def showStats (settings : Settings) (top : Nat) : CommandAction Report :=
  withStore settings do
    let sources ← Session.summary top
    let count := Session.bufferedCount? (← get)
    return .stats ((count.map Int.ofNat).getD (-1)) sources

/-- Lists records: those that are not noise, or those that are. -/
def listLogs (settings : Settings) (filter : Option String) (spam : Bool) (limit : Nat) :
    CommandAction Report :=
  withStore settings do
    let records ← Session.logs
    let judged := records.zip (← Session.judgeBuffer)
    let (kept, noise) := Ruleset.splitSpam (judged.map fun pair => (pair, pair.2))
    let (selected, others) := if spam then (noise, kept) else (kept, noise)
    let shown := pick selected (filter.getD "") limit
    return .logs records.length others.length
      (shown.map fun (record, rule) => LogEntry.ofRecord record rule)

/-- Makes a rule from a record. -/
def classify (settings : Settings) (hash : UInt64) (ham : Bool) : CommandAction Report := do
  let (id, matchers) ← withStore settings do
    let _ ← Session.logs
    let id ← Session.classify hash ham
    return (id, ((← get).store.ruleset.get? id).map (·.matchers.length) |>.getD 0)
  noteAll [.classifiedByCommand id hash ham]
  return .classified hash id (if ham then .ham else .spam) matchers

/-- Checks the settings of the file. -/
def checkSettings (path : String) : CommandAction Report := do
  noteAll [.settingsChecked path]
  let console ← get
  let (loaded, noted) := Settings.load console.world.disk.files console.environment path
  noteAll noted
  match loaded with
  | .ok _ => return .checked path true []
  | .error error => return .checked path false [error.message]

/-- What stands for settings that cannot be shown. -/
def unshown (reason : String) : String := "(serialization error: " ++ reason ++ ")"

/-- Shows the settings in force. -/
def showSettings (path : String) (name : Option String) : CommandAction Report := do
  noteAll [.settingsShown path]
  let console ← get
  let (loaded, noted) := Settings.loadOrUsual console.world.disk.files console.environment path
  noteAll noted
  match loaded with
  | .error error => throw (.setup error)
  | .ok settings =>
      match settings.showSection? name with
      | none =>
          throw (.task ("unknown section: " ++ name.getD "" ++ " (expected: " ++
            String.intercalate ", " Settings.sectionNames ++ ")"))
      | some (.ok text) => return .settings path name (String.ofList text)
      | some (.error reason) => return .settings path name (unshown reason)

/-- The settings, or the failure to load them. -/
def needSettings (loaded : Except SetupError Settings) : CommandAction Settings :=
  match loaded with
  | .ok settings => pure settings
  | .error error => throw (.setup error)

/-- Does what was asked for. -/
def perform (invocation : Invocation) (loaded : Except SetupError Settings) :
    CommandAction Unit := do
  match invocation.task with
  | .checkSettings =>
      let report ← checkSettings invocation.config
      print invocation.output report
      if let .checked _ false _ := report then
        throw (.settings "configuration is invalid")
  | .showSettings name => print invocation.output (← showSettings invocation.config name)
  | .listRules filter limit =>
      print invocation.output (← listRules (← needSettings loaded) filter limit)
  | .deleteRule id => print invocation.output (← deleteRule (← needSettings loaded) id)
  | .showStats top => print invocation.output (← showStats (← needSettings loaded) top)
  | .listLogs filter spam limit =>
      print invocation.output (← listLogs (← needSettings loaded) filter spam limit)
  | .classify hash ham => print invocation.output (← classify (← needSettings loaded) hash ham)

/-- How the program ended. -/
structure Outcome where
  /-- Why nothing was done. -/
  refusal : Option Refusal := none
  exitCode : Nat
  output : String := ""
  errors : String := ""
  /-- The events that are shown, and whether as JSON. -/
  shown : List Event := []
  asJson : Bool := false
  files : Files
deriving Inhabited

/-- The end of a run that does nothing. -/
def Refusal.outcome (files : Files) (refusal : Refusal) : Outcome :=
  match refusal with
  | .help => { refusal, exitCode := 0, output := helpText, files }
  | .version => { refusal, exitCode := 0, output := versionText, files }
  | .usage => { refusal, exitCode := 2, errors := helpText, files }

/-- The directives in force, and what is said about malformed ones. The environment comes first. -/
def directivesFor (environment : Environment) (level : String) : List Directive × List String :=
  match (environment.get? "RUST_LOG").bind readDirectives? with
  | some directives => (directives, [])
  | none => readLeniently level

/-- Where the rules are kept in a run of the program, if it gets that far. -/
def storePath? (files : Files) (environment : Environment) (config : String) : Option String :=
  match (Settings.loadOrUsual files environment config).1 with
  | .ok settings => some settings.database.path
  | .error _ => none

/-- Runs the program. -/
def run (files : Files) (environment : Environment) (arguments : List String) : Outcome :=
  match parse arguments with
  | .error refusal => refusal.outcome files
  | .ok invocation =>
      let loaded := (Settings.loadOrUsual files environment invocation.config).1
      let general : GeneralSettings := match loaded with
        | .ok settings => settings.general
        | .error _ => {}
      let (directives, remarks) :=
        directivesFor environment (invocation.logLevel.getD general.logLevel)
      let world := World.note { disk := { files } } (.programStarted invocation.config)
      let (outcome, console) := (perform invocation loaded).run { world, environment }
      let remarkText := String.join (remarks.map (· ++ "\n"))
      { exitCode := match outcome with
          | .ok _ => 0
          | .error error => error.exitCode
        output := console.output
        errors := remarkText ++ match outcome with
          | .ok _ => ""
          | .error error => "error: " ++ error.message ++ "\n"
        shown := console.world.events.filter (isShown directives)
        asJson := general.logFormat == "json"
        files := console.world.disk.files }

end LogSieve.Command
