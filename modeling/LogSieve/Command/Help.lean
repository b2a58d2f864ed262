import LogSieve.Command.Line

/-!
# Explaining the command line

One line a command, with the options of its own, and the options of every command.
-/

namespace LogSieve.Command

/-- What stands for the value of an option. -/
def Operand.placeholder : Operand → String
  | .help | .version | .flag => ""
  | .text => " <text>"
  | .path => " <path>"
  | .format => " <text|json>"
  | .number => " <number>"

/-- An option in brackets. -/
def Choice.synopsis (choice : Choice) : String :=
  " [--" ++ choice.long ++ choice.operand.placeholder ++ "]"

/-- Whether every command takes an option. -/
def Choice.isShared (choice : Choice) : Bool :=
  sharedOptions.any (·.long == choice.long)

mutual

/-- The lines of a command that follows some words. -/
def Verb.synopses (words : String) : Verb → List String
  | .verb name options takesNumber [] =>
      [words ++ " " ++ name ++ (if takesNumber then " <number>" else "") ++
        String.join ((options.filter fun choice => !choice.isShared).map Choice.synopsis)]
  | .verb name _ _ children => synopsesOf (words ++ " " ++ name) children

/-- The lines of several commands. -/
def synopsesOf (words : String) : List Verb → List String
  | [] => []
  | verb :: rest => verb.synopses words ++ synopsesOf words rest

end

/-- What the program calls itself. -/
def programName : String := "logtriage"

/-- The explanation of the command line. -/
def helpText : String :=
  "Usage:\n" ++
    String.join ((synopsesOf ("  " ++ programName) program.children).map (· ++ "\n")) ++
    "Everywhere:" ++ String.join (sharedOptions.map Choice.synopsis) ++ "\n"

/-- The name and version of the program. -/
def versionText : String := programName ++ " 0.1.0\n"

end LogSieve.Command
