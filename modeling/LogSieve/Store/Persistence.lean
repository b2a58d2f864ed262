import LogSieve.Store.Basic
import LogSieve.Store.File

/-!
# Keeping the rules

The rules are written to a file beside their place, which then takes that place in one step. Only
after that is a new snapshot installed: a failure leaves both the file and the memory as they were.
-/

namespace LogSieve.Session

open LogSieve.Store

variable {σ : Type}

/-- The file that is written first. -/
def temporaryPath (path : String) : String := path ++ ".tmp"

/-- Runs steps on the files until one fails. -/
def runSteps (steps : List FileStep) : StoreAction σ (Except FileError Unit) := do
  let session ← get
  let (outcome, disk) := session.world.disk.runAll steps
  set { session with world := { session.world with disk } }
  return outcome

/-- Asks something of the files. -/
def askFiles {α : Type} (query : Files → Except FileError α) :
    StoreAction σ (Except FileError α) := do
  let session ← get
  let (outcome, disk) := session.world.disk.ask query
  set { session with world := { session.world with disk } }
  return outcome

/-- The steps that write a file beside its place. -/
def writeSteps (path : String) (bytes : ByteArray) : List FileStep :=
  let temporary := temporaryPath path
  [.create temporary, .write temporary bytes, .sync temporary]

/-- Takes away what a failed write left. -/
def removeTemporary (path : String) : StoreAction σ Unit := do
  let temporary := temporaryPath path
  match ← runSteps [.remove temporary] with
  | .ok _ | .error .notFound => return
  | .error error => note (.leftoverKept temporary error)

/-- Writes rules to their file. -/
def persist (ruleset : Ruleset) : StoreAction σ Unit := do
  let path := (← get).store.path
  let temporary := temporaryPath path
  let bytes := (Contents.mk ruleset.rules ruleset.version).encode
  let written ← match ← runSteps (writeSteps path bytes) with
    | .error error => pure (Except.error (TriageError.persistence temporary error.message))
    | .ok _ =>
        match ← runSteps [.rename temporary path] with
        | .error error => pure (.error (.persistence path error.message))
        | .ok _ => pure (.ok ())
  match written with
  | .error error =>
      removeTemporary path
      throw error
  | .ok () => note (.databaseSaved path ruleset.rules.length ruleset.version.toNat)

/-- Builds a snapshot. -/
def buildRuleset (rules : List Rule) (version : UInt64) : StoreAction σ Ruleset := do
  let session ← get
  let (ruleset, world) := Ruleset.build rules version session.world
  set { session with world }
  return ruleset

/-- Shows the size and the version of the rules. -/
def measureRules (ruleset : Ruleset) : StoreAction σ Unit :=
  changeWorld fun world =>
    (world.measure .rulesLoaded ruleset.rules.length).measure .rulesetVersion
      ruleset.version.toNat

/-- Writes new rules and installs them. -/
def commit (rules : List Rule) (nextId : Option UInt64) (action : String) :
    StoreAction σ Unit := do
  let path := (← get).store.path
  let ruleset ← buildRuleset rules (saturatingNext (← get).store.ruleset.version)
  try persist ruleset
  catch error =>
    changeWorld (·.count .persistFailures 1)
    note (.writeFailed path action error)
    throw error
  measureRules ruleset
  changeWorld (·.count (.ruleMutations action) 1)
  changeStore fun store =>
    { store with ruleset, hits := none, nextId := nextId.orElse fun _ => store.nextId }

/-- Takes the rules from their file. -/
def load : StoreAction σ Unit := do
  let path := (← get).store.path
  match ← askFiles (·.read path) with
  | .error error => throw (.persistence path error.message)
  | .ok bytes =>
      match Contents.decode? bytes with
      | none => throw (.persistence path TriageError.badJson)
      | some contents =>
          let ruleset ← buildRuleset contents.rules contents.version
          note (.databaseLoaded path ruleset.rules.length ruleset.version.toNat)
          measureRules ruleset
          changeStore fun store => { store with ruleset, nextId := none, hits := none }

/-- Writes the current rules as they are. -/
def save : StoreAction σ Unit := do persist (← get).store.ruleset

/-- Takes the rules from their file, if there is one. -/
def loadIfThere : StoreAction σ Unit := do
  let path := (← get).store.path
  match ← askFiles (·.exists? path) with
  | .ok true => load
  | .ok false => note (.databaseMissing path)
  | .error error => throw (.persistence path error.message)

end LogSieve.Session
