import LogSieve.Rule.Basic

/-!
# Rules by source

How many rules ask for each source, and how many records they match.
-/

namespace LogSieve

/-- The rules of one source. -/
structure SourceSummary where
  source : String
  ruleCount : Nat
  hits : Nat
deriving DecidableEq, Inhabited, Repr

namespace SourceSummary

/-- Adds a rule of a source to the summary. -/
def add (source : String) (hits : Nat) : List SourceSummary → List SourceSummary
  | [] => [⟨source, 1, hits⟩]
  | entry :: rest =>
      if entry.source = source then ⟨source, entry.ruleCount + 1, entry.hits + hits⟩ :: rest
      else entry :: add source hits rest

/-- One entry a source. -/
def group (hitsOf : UInt64 → Nat) (rules : List Rule) : List SourceSummary :=
  rules.foldl (fun entries rule => add rule.sourceText (hitsOf rule.id) entries) []

/-- Whether an entry may stand before another: more rules first, then more hits, then the smaller
source. -/
def precedes (first second : SourceSummary) : Bool :=
  if first.ruleCount ≠ second.ruleCount then second.ruleCount < first.ruleCount
  else if first.hits ≠ second.hits then second.hits < first.hits
  else !(second.source < first.source)

/-- The summary of a list of rules, cut after a number of entries. -/
def ofRules (hitsOf : UInt64 → Nat) (top : Nat) (rules : List Rule) : List SourceSummary :=
  ((group hitsOf rules).mergeSort precedes).take top

end SourceSummary

end LogSieve
