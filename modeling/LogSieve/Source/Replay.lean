import LogSieve.Source.Basic

/-!
# Replayed records

A source that holds a list of records, the oldest first, and delivers a fixed number of them at a
time.
-/

namespace LogSieve

/-- A list of records with the place reached in it. Sizes are words of 64 bits. -/
structure Replay where
  records : List Record
  chunk : UInt64
  offset : UInt64 := 0
deriving Inhabited

namespace Replay

/-- A replay from the beginning; at least one record is delivered at a time. -/
def start (records : List Record) (chunk : UInt64) : Replay :=
  { records, chunk := max chunk 1 }

/-- How many records are left. -/
def remaining (replay : Replay) : Nat := replay.records.length - replay.offset.toNat

/-- The place after the next batch; none if the sum does not fit a word. -/
def nextOffset? (replay : Replay) : Option UInt64 :=
  let sum := replay.offset.toNat + replay.chunk.toNat
  if sum < UInt64.size then some (.ofNat (min sum replay.records.length)) else none

/-- The next batch, the newest record first. -/
def next? (replay : Replay) : Option (List Record × Replay) := do
  let stop ← replay.nextOffset?
  let batch := (replay.records.take stop.toNat).drop replay.offset.toNat
  some (batch.reverse, { replay with offset := stop })

/-- The place after the next batch has no number. The program ends there; this stands for it. -/
def overflow : TriageError := .sourceUnavailable "array" "chunk out of range"

instance : LogSource Replay where
  kind _ := "array"
  fetch replay _ :=
    match replay.next? with
    | some (batch, rest) => (.ok batch, rest)
    | none => (.error overflow, replay)

end Replay

end LogSieve
