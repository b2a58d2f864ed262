import LogSieve.Text.Decimal

/-!
# The command line

What the arguments of the program may be. Some options are taken by every command, before or after
its name; the last place where one is given counts. Within one place no option may be repeated.
-/

namespace LogSieve.Command

open LogSieve.Text

/-- How a report is written. -/
inductive OutputFormat where
  | text
  | json
deriving DecidableEq, Inhabited, Repr

/-- What to do. -/
inductive Task where
  | listRules (filter : Option String) (limit : Nat)
  | deleteRule (id : UInt64)
  | showStats (top : Nat)
  | listLogs (filter : Option String) (spam : Bool) (limit : Nat)
  | classify (hash : UInt64) (ham : Bool)
  | checkSettings
  | showSettings (name : Option String)
deriving DecidableEq, Inhabited, Repr

/-- What was asked for on the command line. -/
structure Invocation where
  config : String := "logtriage.toml"
  logLevel : Option String := none
  output : OutputFormat := .text
  task : Task
deriving DecidableEq, Inhabited, Repr

/-- Why nothing is to be done. -/
inductive Refusal where
  | help
  | version
  | usage
deriving DecidableEq, Inhabited, Repr

/-- What an option takes. -/
inductive Operand where
  | help
  | version
  | flag
  | text
  | path
  | format
  | number
deriving DecidableEq, Inhabited, Repr

/-- Whether an option needs a value. -/
def Operand.takesValue : Operand → Bool
  | .help | .version | .flag => false
  | _ => true

/-- Whether a value can be used. -/
def Operand.accepts (operand : Operand) (value : String) : Bool :=
  match operand with
  | .path => !value.isEmpty
  | .format => value == "text" || value == "json"
  | .number => (readUInt64 value).toBool
  | _ => true

/-- An option by its long and its short name. -/
structure Choice where
  long : String
  short : Option Char := none
  operand : Operand
deriving Inhabited

/-- A command: its options, whether it takes a number, and its subcommands. -/
inductive Verb where
  | verb (name : String) (options : List Choice) (takesNumber : Bool) (children : List Verb)
deriving Inhabited

namespace Verb

/-- The name of a command. -/
def name : Verb → String
  | .verb name _ _ _ => name

/-- The options of a command. -/
def options : Verb → List Choice
  | .verb _ options _ _ => options

/-- Whether a command takes a number. -/
def takesNumber : Verb → Bool
  | .verb _ _ takesNumber _ => takesNumber

/-- The subcommands of a command. -/
def children : Verb → List Verb
  | .verb _ _ _ children => children

/-- A subcommand by its name. -/
def child? (verb : Verb) (name : String) : Option Verb :=
  verb.children.find? (·.name == name)

/-- An option by its long name. -/
def long? (verb : Verb) (name : String) : Option Choice :=
  verb.options.find? (·.long == name)

/-- An option by its short name. -/
def short? (verb : Verb) (name : Char) : Option Choice :=
  verb.options.find? (·.short == some name)

end Verb

/-- Options of every command. -/
def sharedOptions : List Choice :=
  [⟨"config", some 'c', .path⟩, ⟨"log-level", none, .text⟩, ⟨"output", none, .format⟩,
    ⟨"help", some 'h', .help⟩]

/-- A command that does something. -/
def leaf (name : String) (options : List Choice) (takesNumber : Bool) : Verb :=
  .verb name (options ++ sharedOptions) takesNumber []

/-- The commands of the program. -/
def program : Verb :=
  .verb "" (⟨"version", some 'V', .version⟩ :: sharedOptions) false
    [.verb "rules" sharedOptions false
      [leaf "list" [⟨"filter", none, .text⟩, ⟨"limit", none, .number⟩] false,
        leaf "delete" [] true,
        leaf "stats" [⟨"top", none, .number⟩] false],
      leaf "logs" [⟨"filter", none, .text⟩, ⟨"spam", none, .flag⟩, ⟨"limit", none, .number⟩]
        false,
      leaf "classify" [⟨"ham", none, .flag⟩, ⟨"spam", none, .flag⟩] true,
      .verb "config" sharedOptions false
        [leaf "validate" [] false, leaf "show" [⟨"section", none, .text⟩] false]]

/-- The name of the command that explains others. -/
def helpName : String := "help"

/-- What was found so far. Values of the same place come before those of the places above. -/
structure Found where
  path : List String := []
  here : List (String × String) := []
  above : List (String × String) := []
  number : Option String := none
  /-- Whether the last value read in this place cannot be used. It is told when the next option is
  read, and otherwise at the end. -/
  isBad : Bool := false
  /-- Whether such a value was left in a place above. -/
  wasBad : Bool := false
deriving Inhabited

namespace Found

/-- Goes on to a subcommand. -/
def descend (found : Found) (name : String) : Found :=
  { path := found.path ++ [name], above := found.here ++ found.above, number := found.number
    wasBad := found.isBad || found.wasBad }

/-- Adds a value; one that cannot be used, or is there already, is bad. -/
def add (found : Found) (choice : Choice) (value : String) : Found :=
  { found with
    here := (choice.long, value) :: found.here
    isBad := !choice.operand.accepts value || (found.here.lookup choice.long).isSome }

/-- Adds a value that is told at once if it is bad. -/
def addNow (found : Found) (choice : Choice) (value : String) : Except Refusal Found :=
  let found := found.add choice value
  if found.isBad then .error .usage else .ok found

/-- Adds the number of a command that takes one. -/
def addNumber (verb : Verb) (found : Found) (value : String) : Except Refusal Found :=
  if found.isBad || !verb.takesNumber || found.number.isSome then .error .usage
  else .ok { found with number := some value, isBad := !Operand.number.accepts value }

/-- The value of an option. -/
def value? (found : Found) (name : String) : Option String :=
  (found.here ++ found.above).lookup name

/-- Whether a flag is set. -/
def flag (found : Found) (name : String) : Bool := (found.value? name).isSome

/-- The number given to an option. -/
def numberOr (found : Found) (name : String) (default : Nat) : Nat :=
  match (found.value? name).map readUInt64 with
  | some (.ok value) => value.toNat
  | _ => default

/-- The number given to a command. -/
def given? (found : Found) : Option UInt64 :=
  match found.number.map readUInt64 with
  | some (.ok value) => some value
  | _ => none

end Found

/-- Whether an argument can only be an option. -/
def looksLikeOption (argument : String) : Bool :=
  argument.startsWith "-" && argument.length > 1

/-- An option without its value. -/
def takeFlag (found : Found) (choice : Choice) : Except Refusal Found :=
  if found.isBad then .error .usage
  else
    match choice.operand with
    | .help => .error .help
    | .version => .error .version
    | _ => found.addNow choice ""

/-- Divides an option from the value after its first equals sign. -/
def divideValue (argument : List Char) : String × Option String :=
  let name := argument.takeWhile (· != '=')
  match argument.dropWhile (· != '=') with
  | [] => (String.ofList name, none)
  | _ :: value => (String.ofList name, some (String.ofList value))

/-- The option that an argument names, and the value attached to it. -/
def option? (verb : Verb) (argument : String) : Option (Choice × Option String) :=
  match argument.toList with
  | '-' :: '-' :: rest => do
      let (name, value) := divideValue rest
      some (← verb.long? name, value)
  | '-' :: letter :: rest => do
      let choice ← verb.short? letter
      if choice.operand.takesValue then
        match rest with
        | [] => some (choice, none)
        | '=' :: value => some (choice, some (String.ofList value))
        | value => some (choice, some (String.ofList value))
      else some (choice, none)
  | _ => none

/-- Whether the names given to the help command lead to a command. -/
def leadsSomewhere (verb : Verb) : List String → Bool
  | [] => true
  | name :: rest =>
      match verb.child? name with
      | some child => leadsSomewhere child rest
      | none => name == helpName && !verb.children.isEmpty && rest.isEmpty

/-- Reads arguments. After `isLiteral` no argument is an option or a command. -/
def readArguments (verb : Verb) (isLiteral : Bool) (found : Found) :
    List String → Except Refusal (Verb × Found)
  | [] => .ok (verb, found)
  | argument :: rest =>
      if isLiteral then do
        readArguments verb true (← found.addNumber verb argument) rest
      else if argument = "--" then readArguments verb true found rest
      else if looksLikeOption argument then
        match option? verb argument with
        | none => .error .usage
        | some (choice, attached) =>
            if !choice.operand.takesValue then
              if attached.isSome then .error .usage
              else do readArguments verb false (← takeFlag found choice) rest
            else if found.isBad then .error .usage
            else
              match attached with
              | some value => do
                  readArguments verb false (← found.addNow choice value) rest
              | none =>
                  match rest with
                  | [] => .error .usage
                  | value :: rest =>
                      if looksLikeOption value then .error .usage
                      else readArguments verb false (found.add choice value) rest
      else if verb.children.isEmpty then do
        readArguments verb false (← found.addNumber verb argument) rest
      else
        match verb.child? argument with
        | some child => readArguments child false (found.descend argument) rest
        | none =>
            if argument = helpName ∧ leadsSomewhere verb rest then .error .help
            else .error .usage

/-- The task that a command and its options stand for. -/
def Found.task? (found : Found) : Option Task :=
  match found.path with
  | ["rules", "list"] => some (.listRules (found.value? "filter") (found.numberOr "limit" 100))
  | ["rules", "delete"] => found.given?.map .deleteRule
  | ["rules", "stats"] => some (.showStats (found.numberOr "top" 10))
  | ["logs"] =>
      some (.listLogs (found.value? "filter") (found.flag "spam") (found.numberOr "limit" 50))
  | ["classify"] =>
      if found.flag "ham" == found.flag "spam" then none
      else found.given?.map (.classify · (found.flag "ham"))
  | ["config", "validate"] => some .checkSettings
  | ["config", "show"] => some (.showSettings (found.value? "section"))
  | _ => none
/-- Reads the command line. -/
def parse (arguments : List String) : Except Refusal Invocation := do
  let (_, found) ← readArguments program false {} arguments
  if found.isBad || found.wasBad then .error .usage
  else
    match found.task? with
    | none => .error .usage
    | some task =>
        .ok {
          config := (found.value? "config").getD "logtriage.toml"
          logLevel := found.value? "log-level"
          output := if found.value? "output" = some "json" then .json else .text
          task }

end LogSieve.Command
