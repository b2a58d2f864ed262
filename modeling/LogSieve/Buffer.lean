import LogSieve.Ruleset
import LogSieve.Source.Basic

/-!
# The buffer of records

All records taken in so far, the newest first, and the moment up to which they are known. After a
failure the source is left alone for a while, from the moment at which it failed.
-/

namespace LogSieve

/-- The records taken in. -/
structure Buffer where
  entries : List Entry := []
  /-- The moment of the newest record, in microseconds. -/
  watermark : Option Int64 := none
  /-- How long the source is left alone after a failure, in nanoseconds. -/
  cooldown : Nat
  /-- When the source failed, unless it has answered since. -/
  lastFailure : Option Nat := none
  /-- Whether the source has ever answered. -/
  polled : Bool := false
  /-- How many records were taken in. -/
  received : Nat := 0
deriving Inhabited

namespace Buffer

/-- Whole milliseconds, at most what fits a word of 64 bits. -/
def milliseconds (nanoseconds : Nat) : Nat := min (nanoseconds / 1000000) (UInt64.size - 1)

/-- The records, the newest first. -/
def records (buffer : Buffer) : List Record := buffer.entries.map (·.record)

/-- The first record with a hash. -/
def find? (buffer : Buffer) (hash : UInt64) : Option Record :=
  buffer.records.find? (·.hash == hash)

/-- How long the source is still left alone, in nanoseconds. -/
def pause? (buffer : Buffer) (now : Nat) : Option Nat :=
  match buffer.lastFailure with
  | none => none
  | some failure =>
      let elapsed := now - failure
      if elapsed < buffer.cooldown then some (buffer.cooldown - elapsed) else none

/-- The records of a batch that are new: those before the first one that is not after the
watermark. -/
def trim (buffer : Buffer) (batch : List Record) : List Record :=
  match buffer.watermark with
  | none => batch
  | some watermark => batch.takeWhile (watermark < ·.timestamp)

/-- Takes in new records. -/
def accept (buffer : Buffer) (fresh : List Record) : Buffer :=
  { buffer with
    entries := fresh.map ({ record := · }) ++ buffer.entries
    watermark := match fresh with
      | newest :: _ => some newest.timestamp
      | [] => buffer.watermark
    lastFailure := none
    polled := true
    received := buffer.received + fresh.length }

end Buffer

/-- A buffer with its source and its surroundings. -/
structure Intake (σ : Type) where
  buffer : Buffer
  source : σ
  world : World

namespace Intake

variable {σ : Type} [LogSource σ]

/-- The intake when the answer of its source comes: the source is another, and time has passed. -/
def afterAnswer (intake : Intake σ) (source : σ) : Intake σ :=
  let delay := LogSource.delay intake.source intake.buffer.watermark
  { intake with source, world := intake.world.advance delay }

/-- What is kept of a failed poll. -/
def fail (intake : Intake σ) (error : TriageError) : Intake σ :=
  let kind := LogSource.kind intake.source
  { intake with
    buffer := { intake.buffer with lastFailure := some intake.world.clock }
    world := (intake.world.count (.sourceErrors kind) 1).note
      (.pollFailed kind error (Buffer.milliseconds intake.buffer.cooldown)) }

/-- What is kept of new records. -/
def accept (intake : Intake σ) (fresh : List Record) : Intake σ :=
  let buffer := intake.buffer.accept fresh
  let size := buffer.entries.length
  let world := (intake.world.count .logsIngested fresh.length).measure .bufferSize size
  { intake with
    buffer
    world :=
      if fresh.isEmpty then world
      else world.note (.logsIngested fresh.length (buffer.watermark.map (·.toInt)) size) }

/-- Asks the source for new records and takes them in; the result is what was taken in. -/
def poll : Action (Intake σ) (List Record) := do
  let intake ← get
  match intake.buffer.pause? intake.world.clock with
  | some pause => throw (.retryCooldown (.ofNat (Buffer.milliseconds pause)))
  | none =>
      let (outcome, source) := LogSource.fetch intake.source intake.buffer.watermark
      let intake := intake.afterAnswer source
      match outcome with
      | .error error =>
          set (intake.fail error)
          throw error
      | .ok batch =>
          let fresh := intake.buffer.trim batch
          set (intake.accept fresh)
          return fresh

end Intake

end LogSieve
