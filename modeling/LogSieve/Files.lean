import LogSieve.Error
import LogSieve.Text.Blank

/-!
# Files

A tree of files and directories, the steps that change it, and failures to come. A step that is
bound to fail leaves a file that it writes with some first part of the new bytes. What was changed
may still be lost until the medium is told to keep it, and everything may stop at any step.
-/

namespace LogSieve

open LogSieve.Text

/-- The names on the way from the work directory to a file. -/
abbrev Location := List String

/-- What stands at a location. -/
inductive Node where
  | file (bytes : ByteArray)
  | directory
deriving Inhabited

/-- A tree of files, by location. -/
structure Files where
  nodes : List (Location × Node) := []
deriving Inhabited

namespace Files

/-- What stands at a location; the work directory is always there. -/
def node? (files : Files) (location : Location) : Option Node :=
  if location = [] then some .directory else files.nodes.lookup location

/-- Puts something at a location. -/
def put (files : Files) (location : Location) (node : Node) : Files :=
  ⟨(location, node) :: files.nodes.filter (·.1 != location)⟩

/-- Takes away what stands at a location and below it. -/
def drop (files : Files) (location : Location) : Files :=
  ⟨files.nodes.filter fun entry => !location.isPrefixOf entry.1⟩

/-- The names in the work directory. -/
def names (files : Files) : List String :=
  (files.nodes.filterMap fun (location, _) => location.head?).eraseDups

/-- Follows the parts of a path from a directory. All but the last have to be directories. -/
def walk (files : Files) (here : Location) : List String → Except FileError Location
  | [] => .ok here
  | part :: rest =>
      if part = "." then walk files here rest
      else if part = ".." then walk files here.dropLast rest
      else if 255 < part.utf8ByteSize then .error .nameTooLong
      else if rest.isEmpty then .ok (here ++ [part])
      else
        match files.node? (here ++ [part]) with
        | some .directory => walk files (here ++ [part]) rest
        | some (.file _) => .error .notDirectory
        | none => .error .notFound

/-- The names in a path. -/
def pathNames (path : String) : List String :=
  ((splitAt '/' path.toList).map String.ofList).filter (· != "")

/-- Whether a path asks for a directory by a slash at its end. -/
def asksForDirectory (path : String) : Bool := path.isEmpty || path.toList.getLast? == some '/'

/-- The parts of a path. A slash at the end asks for a directory. -/
def pathParts (path : String) : List String :=
  if asksForDirectory path then pathNames path ++ ["."] else pathNames path

/-- The name under which paths from the top of the system are found. -/
def top : String := "/"

/-- The bytes that a path may have at most. -/
def pathLimit : Nat := 4095

/-- The location of a path. -/
def locate (files : Files) (path : String) : Except FileError Location :=
  if path.isEmpty then .error .notFound
  else if path.toList.any (· == '\x00') then .error .zeroInName
  else if pathLimit < path.utf8ByteSize then .error .nameTooLong
  else files.walk (if path.toList.head? = some '/' then [top] else []) (pathParts path)

/-- Where a path leads, if anywhere. -/
def place? (files : Files) (path : String) : Option Location := (files.locate path).toOption

/-- Whether a file or directory is there. -/
def exists? (files : Files) (path : String) : Except FileError Bool :=
  match files.locate path with
  | .ok location => .ok (files.node? location).isSome
  | .error .notFound => .ok false
  | .error error => .error error

/-- The bytes of a file. -/
def read (files : Files) (path : String) : Except FileError ByteArray := do
  match files.node? (← files.locate path) with
  | some (.file bytes) => .ok bytes
  | some .directory => .error .isDirectory
  | none => .error .notFound

/-- The text of a file. -/
def readText (files : Files) (path : String) : Except FileError String := do
  match String.fromUTF8? (← files.read path) with
  | some text => .ok text
  | none => .error .notText

/-- A file emptied, or a new empty one. -/
def create (files : Files) (path : String) : Except FileError Files := do
  let location ← files.locate path
  match files.node? location with
  | some .directory => .error .isDirectory
  | _ => .ok (files.put location (.file .empty))

/-- A file with further bytes at its end. -/
def append (files : Files) (path : String) (bytes : ByteArray) : Except FileError Files := do
  let location ← files.locate path
  match files.node? location with
  | some (.file old) => .ok (files.put location (.file (old ++ bytes)))
  | some .directory => .error .isDirectory
  | none => .error .notFound

/-- Whether the last name in a path stands for a directory by itself. -/
def endsInDots (path : String) : Bool :=
  match (pathNames path).getLast? with
  | some name => name == "." || name == ".."
  | none => true

/-- A file moved to another path, in place of the file that was there. -/
def rename (files : Files) (source target : String) : Except FileError Files := do
  let sourceAt ← files.locate source
  let targetAt ← files.locate target
  if endsInDots target then .error .busy
  else
    match files.node? sourceAt, files.node? targetAt with
    | none, _ => .error .notFound
    | some (.file _), some .directory =>
        .error (if asksForDirectory target then .notDirectory else .isDirectory)
    | some node, _ => .ok ((files.drop sourceAt).put targetAt node)

/-- A file taken away. -/
def remove (files : Files) (path : String) : Except FileError Files := do
  let location ← files.locate path
  match files.node? location with
  | some (.file _) => .ok (files.drop location)
  | some .directory => .error .isDirectory
  | none => .error .notFound

/-- Makes the directories on the way to a location. -/
def makeParents (files : Files) (location : Location) : Files :=
  (List.range location.length).foldl (fun files length =>
    let parent := location.take length
    if (files.node? parent).isNone then files.put parent .directory else files) files

/-- Puts a file or directory at a path, with the directories on the way. -/
def place (files : Files) (path : String) (node : Node) : Files :=
  let location := pathParts path |>.filter (· != ".")
  (files.makeParents location).put location node

end Files

/-- A step that changes files. -/
inductive FileStep where
  | create (path : String)
  | write (path : String) (bytes : ByteArray)
  | sync (path : String)
  | rename (source target : String)
  | remove (path : String)

/-- Files after a step. -/
def FileStep.apply (files : Files) : FileStep → Except FileError Files
  | .create path => files.create path
  | .write path bytes => files.append path bytes
  | .sync _ => .ok files
  | .rename source target => files.rename source target
  | .remove path => files.remove path

/-- Where something may be lost after a step was tried, of where something could be lost before. A
file that the medium was told to keep is safe, and a renamed file is as safe as it was under its old
name. -/
def FileStep.loosens (files : Files) (loose : List Location) (done : Bool) :
    FileStep → List Location
  | .create path | .write path _ | .remove path => (files.place? path).toList ++ loose
  | .sync path => if done then loose.filter (files.place? path != some ·) else loose
  | .rename source target =>
      if done then
        (loose.filter (files.place? target != some ·)).filterMap fun location =>
          if files.place? source = some location then files.place? target else some location
      else loose

/-- A failure to come. -/
structure Fault where
  error : FileError
  /-- How many bytes a failing write still puts into the file. -/
  written : Nat := 0
  /-- Whether everything stops at this access. -/
  stops : Bool := false

/-- Files after a step that fails on the way. -/
def FileStep.spoil (files : Files) (fault : Fault) : FileStep → Files
  | .write path bytes =>
      match files.append path (bytes.extract 0 fault.written) with
      | .ok changed => changed
      | .error _ => files
  | _ => files

/-- Files with the failures that the next accesses meet. -/
structure Disk where
  files : Files := {}
  /-- Access by access; none is a success, and so is every access after the last entry. -/
  faults : List (Option Fault) := []
  /-- Where something was changed that may still be lost. -/
  loose : List Location := []
  /-- Whether everything has stopped. Nothing is done any more then. -/
  stopped : Bool := false
deriving Inhabited

namespace Disk

/-- Runs a step. -/
def run (disk : Disk) (step : FileStep) : Except FileError Unit × Disk :=
  if disk.stopped then (.error .busy, disk)
  else
    let loose := step.loosens disk.files disk.loose
    match disk.faults with
    | some fault :: faults =>
        (.error fault.error, ⟨step.spoil disk.files fault, faults, loose false, fault.stops⟩)
    | faults =>
        match step.apply disk.files with
        | .ok files => (.ok (), ⟨files, faults.tail, loose true, false⟩)
        | .error error => (.error error, ⟨disk.files, faults.tail, loose false, false⟩)

/-- Runs steps until one fails. -/
def runAll (disk : Disk) : List FileStep → Except FileError Unit × Disk
  | [] => (.ok (), disk)
  | step :: rest =>
      match disk.run step with
      | (.ok _, disk) => disk.runAll rest
      | (.error error, disk) => (.error error, disk)

/-- Asks something of the files. -/
def ask {α : Type} (disk : Disk) (query : Files → Except FileError α) : Except FileError α × Disk :=
  if disk.stopped then (.error .busy, disk)
  else
    match disk.faults with
    | some fault :: faults => (.error fault.error, { disk with faults, stopped := fault.stops })
    | faults => (query disk.files, { disk with faults := faults.tail })

end Disk

end LogSieve
