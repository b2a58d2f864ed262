import LogSieve.Event
import LogSieve.Files
import LogSieve.Metrics

/-!
# Surroundings

What the program acts on: files, a clock, notes and metrics. An action may fail with a cause and
keeps what it changed before.
-/

namespace LogSieve

/-- The surroundings of a running program. -/
structure World where
  disk : Disk := {}
  /-- Nanoseconds since some moment. -/
  clock : Nat := 0
  /-- What was noted, in order. -/
  events : List Event := []
  metrics : Metrics := {}
  /-- How many snapshots of rules were made. -/
  generations : Nat := 0
deriving Inhabited

namespace World

/-- Notes an event. -/
def note (world : World) (event : Event) : World := { world with events := world.events ++ [event] }

/-- Notes the malformed patterns found while judging. -/
def noteRefused (world : World) (patterns : List String) : World :=
  patterns.foldl (fun world pattern => world.note (.patternRefused pattern)) world

/-- Adds to a counter. -/
def count (world : World) (counter : Counter) (amount : Nat) : World :=
  { world with metrics := world.metrics.add counter amount }

/-- Sets a gauge. -/
def measure (world : World) (gauge : Gauge) (value : Nat) : World :=
  { world with metrics := world.metrics.set gauge value }

/-- Lets time pass. -/
def advance (world : World) (nanoseconds : Nat) : World :=
  { world with clock := world.clock + nanoseconds }

end World

/-- An action on a state that can fail. -/
abbrev Action (σ : Type) := ExceptT TriageError (StateM σ)

end LogSieve
