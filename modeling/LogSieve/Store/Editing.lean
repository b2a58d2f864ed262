import LogSieve.Store.Persistence

/-!
# Changing the rules

Rules are added at the end under ids of their own, replaced where they are, and taken away. A rule
is replaced only by one that was made from its current version.
-/

namespace LogSieve.Session

variable {σ : Type}

/-- The id that the next rule gets. -/
def freshId (store : Store σ) : UInt64 :=
  store.nextId.getD (saturatingNext store.ruleset.maxId)

/-- Adds a rule; its id is the result. -/
def addAs (action : String) (rule : Rule) : StoreAction σ UInt64 := do
  let store := (← get).store
  let id := freshId store
  commit (store.ruleset.rules ++ [{ rule with id }]) (some (saturatingNext id)) action
  note (.ruleAdded id action)
  return id

/-- Adds a rule; its id is the result. -/
def add (rule : Rule) : StoreAction σ UInt64 := addAs "add" rule

/-- Replaces the rule with the same id, or adds the rule if there is none. -/
def addOrUpdate (rule : Rule) : StoreAction σ RuleChange := do
  let ruleset := (← get).store.ruleset
  match ruleset.position? rule.id with
  | none => return .added (← addAs "add" rule)
  | some position =>
      let currentVersion := (ruleset.rules[position]?.map (·.version)).getD 0
      if currentVersion ≠ rule.version then
        note (.updateIgnored rule.id currentVersion rule.version)
        return .stale rule.id currentVersion
      else
        let version := saturatingNext rule.version
        commit (ruleset.rules.set position { rule with version }) none "update"
        note (.ruleUpdated rule.id version)
        return .updated rule.id version

/-- Takes a rule away. -/
def delete (id : UInt64) : StoreAction σ Unit := do
  let ruleset := (← get).store.ruleset
  match ruleset.position? id with
  | none => throw (.ruleNotFound id)
  | some position =>
      commit (ruleset.rules.eraseIdx position) none "delete"
      note (.ruleDeleted id)

/-- The rule that asks for the message of a record and for its labels, but for those ignored. -/
def ruleFor (ignoredLabels : List String) (record : Record) (ham : Bool) : Rule :=
  let message := (record.resolve? Record.messageField).getD record.message
  let labels := record.labels.pairs.filter fun label =>
    label.1 != Record.messageField && !ignoredLabels.contains label.1
  .make ham (.equal Record.messageField message ::
    labels.map fun (key, value) => .equal key value)

/-- Adds the rule made from the buffered record with a hash. -/
def classify (hash : UInt64) (ham : Bool) : StoreAction σ UInt64 := do
  let store := (← get).store
  match store.buffer.find? hash with
  | none => throw (.hashNotFound hash)
  | some record =>
      let id ← addAs "classify" (ruleFor store.ignoredLabels record ham)
      note (.logClassified id hash ham)
      return id

end LogSieve.Session
