import LogSieve.Command.Run

/-!
# The program

Hands the arguments, the environment and the files that matter to a run, prints what it says, and
writes the rules back.
-/

namespace LogSieve.Program

/-- What stands at a path. -/
def look (path : String) : IO (Option Node) := do
  try
    return some (.file (← IO.FS.readBinFile path))
  catch
    | .inappropriateType .. => return some .directory
    | _ => return none

/-- Takes in what stands on the way along a path. -/
def gatherFrom (here : Location) (path : String) (files : Files) : List String → IO Files
  | [] => return files
  | "." :: rest => gatherFrom here path files rest
  | ".." :: rest => gatherFrom here.dropLast (path ++ "../") files rest
  | part :: rest => do
      match ← look (path ++ part) with
      | some node =>
          gatherFrom (here ++ [part]) (path ++ part ++ "/") (files.put (here ++ [part]) node) rest
      | none => return files

/-- Takes in what stands at a path. -/
def gather (files : Files) (path : String) : IO Files :=
  if path.startsWith "/" then gatherFrom [Files.top] "/" files (Files.pathParts path)
  else gatherFrom [] "" files (Files.pathParts path)

/-- The variables that matter. -/
def environment : IO Environment := do
  let names := ["RUST_LOG", "CLICOLOR_FORCE"] ++ Settings.variableNames
  let values ← names.mapM fun name => return (← IO.getEnv name).map fun value => (name, value)
  return values.filterMap id

/-- Writes a file that a run changed. -/
def writeBack (before after : Files) (path : String) : IO Unit := do
  match after.read path with
  | .ok bytes =>
      unless (before.read path).toOption == some bytes do
        let temporary := Session.temporaryPath path
        IO.FS.writeBinFile temporary bytes
        IO.FS.rename temporary path
  | .error _ => return

/-- An event as it is printed. -/
def eventText (asJson : Bool) (event : Event) : String :=
  if asJson then (Command.eventJson event).toLine else Command.eventLine event

end LogSieve.Program

open LogSieve LogSieve.Program in
/-- Runs the program. -/
def main (arguments : List String) : IO UInt32 := do
  let environment ← environment
  let mut files : Files := {}
  let mut store : Option String := none
  if let .ok invocation := Command.parse arguments then
    files ← gather files invocation.config
    store := Command.storePath? files environment invocation.config
  if let some path := store then
    files ← gather (← gather files path) (Session.temporaryPath path)
  let outcome := Command.run files environment arguments
  if let some path := store then
    writeBack files outcome.files path
  IO.print outcome.output
  for event in outcome.shown do
    IO.eprintln (eventText outcome.asJson event)
  IO.eprint outcome.errors
  return UInt32.ofNat outcome.exitCode
