import LogSieve.Error
import LogSieve.Record

/-!
# Sources of records

A source delivers batches of new records, the newest first. It is told up to which moment records
are known; it may deliver older ones all the same. An answer takes its time.
-/

namespace LogSieve

/-- Where records come from. -/
class LogSource (σ : Type) where
  /-- The kind of the source, for people. -/
  kind : σ → String
  /-- Asks for the records after a moment, in microseconds. -/
  fetch : σ → Option Int64 → Except TriageError (List Record) × σ
  /-- How long the answer to that question takes, in nanoseconds. -/
  delay : σ → Option Int64 → Nat := fun _ _ => 0

end LogSieve
