import LogSieve.Error

/-!
# Failures of commands

How a failure is told, and the number that the program ends with.
-/

namespace LogSieve.Command

/-- A failure of a command. -/
inductive CommandError where
  | settings (text : String)
  | task (text : String)
  | notFound (text : String)
  | source (text : String)
  | store (text : String)
  | file (text : String)
  | setup (error : SetupError)
deriving DecidableEq, Inhabited, Repr

namespace CommandError

/-- The wording of a failure. -/
def message : CommandError → String
  | .settings text => "configuration error: " ++ text
  | .task text => text
  | .notFound text => "not found: " ++ text
  | .source text => "log source error: " ++ text
  | .store text => "rule store error: " ++ text
  | .file text => "io error: " ++ text
  | .setup error => error.message

/-- The number that the program ends with. -/
def exitCode : CommandError → Nat
  | .settings _ | .setup (.settings _) => 2
  | .notFound _ => 3
  | .source _ => 4
  | .file _ | .setup (.file _) => 10
  | .task _ | .store _ | .setup (.engine _) => 1

/-- A failure of the store, as one of a command. -/
def ofTriage (error : TriageError) : CommandError :=
  if error.isNotFound then .notFound error.message
  else if error.isSourceError then .source error.message
  else .store error.message

end CommandError

end LogSieve.Command
