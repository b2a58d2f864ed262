import LogSieve.Number.Double

/-!
# Metrics

Counters that only grow and gauges that show a current value. A gauge holds a number in double
precision.
-/

namespace LogSieve

/-- What is counted. -/
inductive Counter where
  | logsIngested
  | sourceErrors (source : String)
  | ruleMutations (action : String)
  | persistFailures
deriving DecidableEq, Repr

/-- What is measured. -/
inductive Gauge where
  | bufferSize
  | rulesLoaded
  | rulesetVersion
deriving DecidableEq, Repr

namespace Counter

/-- The name of a counter without its label. -/
def family : Counter → String
  | .logsIngested => "logtriage_logs_ingested_total"
  | .sourceErrors _ => "logtriage_source_errors_total"
  | .ruleMutations _ => "logtriage_rule_mutations_total"
  | .persistFailures => "logtriage_persist_failures_total"

/-- The label that divides a counter into several. -/
def label? : Counter → Option (String × String)
  | .sourceErrors source => some ("source", source)
  | .ruleMutations action => some ("action", action)
  | _ => none

/-- The name of a counter with its label. -/
def name (counter : Counter) : String :=
  match counter.label? with
  | some (key, value) => counter.family ++ "\x7b" ++ key ++ "=" ++ value ++ "\x7d"
  | none => counter.family

end Counter

/-- The name of a gauge. -/
def Gauge.name : Gauge → String
  | .bufferSize => "logtriage_buffer_size"
  | .rulesLoaded => "logtriage_rules_loaded"
  | .rulesetVersion => "logtriage_ruleset_version"

/-- The counters and gauges in use. -/
structure Metrics where
  counters : List (Counter × Nat) := []
  gauges : List (Gauge × Nat) := []
deriving Inhabited

namespace Metrics

/-- Adds to the entry of a counter. -/
def bump (counter : Counter) (amount : Nat) : List (Counter × Nat) → List (Counter × Nat)
  | [] => [(counter, amount)]
  | (other, value) :: rest =>
      if other = counter then (other, value + amount) :: rest
      else (other, value) :: bump counter amount rest

/-- Sets the entry of a gauge. -/
def assign (gauge : Gauge) (value : Nat) : List (Gauge × Nat) → List (Gauge × Nat)
  | [] => [(gauge, value)]
  | (other, old) :: rest =>
      if other = gauge then (gauge, value) :: rest else (other, old) :: assign gauge value rest

/-- Adds to a counter. -/
def add (metrics : Metrics) (counter : Counter) (amount : Nat) : Metrics :=
  { metrics with counters := bump counter amount metrics.counters }

/-- Sets a gauge. -/
def set (metrics : Metrics) (gauge : Gauge) (value : Nat) : Metrics :=
  { metrics with gauges := assign gauge (Number.roundToDouble value) metrics.gauges }

/-- All names and values; values above 64 bits are shown as the largest one. -/
def readings (metrics : Metrics) : List (String × Nat) :=
  (metrics.counters.map fun (counter, value) => (counter.name, value)) ++
    metrics.gauges.map fun (gauge, value) => (gauge.name, min value (UInt64.size - 1))

/-- The description of a family of counters. -/
def counterDescriptions : List (String × String) :=
  [(Counter.logsIngested.family, "Total number of log records accepted into the buffer"),
    ((Counter.sourceErrors "").family, "Total number of failed log source polls"),
    ((Counter.ruleMutations "").family, "Total number of committed ruleset mutations"),
    (Counter.persistFailures.family, "Total number of ruleset writes that failed")]

/-- The description of each gauge. -/
def gaugeDescriptions : List (String × String) :=
  [(Gauge.bufferSize.name, "Number of log records held in the buffer"),
    (Gauge.rulesLoaded.name, "Number of rules in the current ruleset"),
    (Gauge.rulesetVersion.name, "Version counter of the current ruleset")]

end Metrics

end LogSieve
