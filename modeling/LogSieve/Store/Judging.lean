import LogSieve.Store.Basic

/-!
# Judging buffered records

Records are judged by the current snapshot; each remembers the outcome. Hits are counted once a
snapshot and kept up to date as records come in.
-/

namespace LogSieve.Session

variable {σ : Type}

/-- Judges the first records of the buffer: the rule found for each. -/
def judgeFirst (count : Nat) : StoreAction σ (List (Option Rule)) := do
  let session ← get
  let entries := session.store.buffer.entries
  let (found, ruleset, judged, refused) := session.store.ruleset.judgeAll (entries.take count)
  set { session with
    store := { session.store with
      ruleset
      buffer := { session.store.buffer with entries := judged ++ entries.drop count } }
    world := session.world.noteRefused refused }
  return found

/-- Judges all records of the buffer. -/
def judgeBuffer : StoreAction σ (List (Option Rule)) := do
  judgeFirst (← get).store.buffer.entries.length

/-- Judges a record that is not in the buffer. -/
def judgeRecord (record : Record) : StoreAction σ (Option Rule) := do
  let session ← get
  let (position, ruleset, _, refused) := session.store.ruleset.judge { record }
  set { session with
    store := { session.store with ruleset }, world := session.world.noteRefused refused }
  return ruleset.at? position

/-- Forgets hits that were counted under another snapshot. -/
def dropOldHits : StoreAction σ Unit :=
  changeStore fun store => { store with
    hits := store.hits.filter fun hits => hits.generation == store.ruleset.generation }

/-- The hits under the current snapshot, counted anew if need be. -/
def currentHits : StoreAction σ HitCounts := do
  dropOldHits
  match (← get).store.hits with
  | some hits => return hits
  | none =>
      let ruleset := (← get).store.ruleset
      let found ← judgeBuffer
      let counts := ruleset.rules.map fun rule => (rule.id, 0)
      let hits : HitCounts := ⟨ruleset.generation, HitCounts.addAll counts found⟩
      changeStore fun store => { store with hits := some hits }
      return hits

/-- Takes in new records, and counts their hits where hits are kept. -/
def refresh [LogSource σ] : StoreAction σ Unit := do
  let session ← get
  match session.store.source with
  | none => throw .sourceMissing
  | some source =>
      let (outcome, intake) := Intake.poll.run ⟨session.store.buffer, source, session.world⟩
      set { session with
        store := { session.store with buffer := intake.buffer, source := some intake.source }
        world := intake.world }
      let fresh ← MonadExcept.ofExcept outcome
      dropOldHits
      match (← get).store.hits with
      | none => return
      | some hits =>
          let found ← judgeFirst fresh.length
          changeStore fun store =>
            { store with hits := some { hits with counts := HitCounts.addAll hits.counts found } }

/-- Takes in new records; the whole buffer, the newest first. -/
def logs [LogSource σ] : StoreAction σ (List Record) := do
  refresh
  return (← get).store.buffer.records

/-- The size of the buffer after taking in new records; minus one if that fails. -/
def logCount [LogSource σ] : StoreAction σ Int := do
  try
    refresh
    return (← get).store.buffer.entries.length
  catch _ => return -1

/-- The size of the buffer, once the source has answered. -/
def bufferedCount? (session : Session σ) : Option Nat :=
  if session.store.buffer.polled then some session.store.buffer.entries.length else none

/-- How many buffered records a rule matches. Only a source that never answered is asked; minus one
if that fails. -/
def hitCount [LogSource σ] (id : UInt64) : StoreAction σ Int := do
  try
    unless (← get).store.buffer.polled do refresh
    return (← currentHits).get id
  catch _ => return -1

/-- Rules and hits by source. Only a source that never answered is asked, and may fail. -/
def summary [LogSource σ] (top : Nat) : StoreAction σ (List SourceSummary) := do
  unless (← get).store.buffer.polled do
    try refresh catch error => note (.summaryWithoutLogs error)
  let rules := (← get).store.ruleset.rules
  return SourceSummary.ofRules (← currentHits).get top rules

end LogSieve.Session
