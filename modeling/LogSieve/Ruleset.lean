import LogSieve.Rule.Bulk
import LogSieve.Verdict
import LogSieve.World

/-!
# Snapshots of the rules

A snapshot holds the rules of one moment with their bulk matcher and never changes, but for the
tests that its matchers have prepared. Every snapshot has a generation of its own. A record keeps
the outcome of its last judgement together with the generation it belongs to.
-/

namespace LogSieve

open LogSieve.Text

/-- The rules of one moment, the most important first. -/
structure Ruleset where
  rules : List Rule
  version : UInt64
  generation : Nat
  bulk : Bulk
deriving Inhabited

/-- The position of the rule that held for a record, in the snapshot of a generation. -/
structure Memo where
  generation : Nat
  position : Option Nat
deriving DecidableEq, Repr

/-- A record with the outcome of its last judgement. -/
structure Entry where
  record : Record
  memo : Option Memo := none
deriving Inhabited

namespace Ruleset

/-- What is noted about a bulk matcher. -/
def builtEvent (bulk : Bulk) : Event :=
  .bulkBuilt (bulk.splitField.getD "") bulk.units.length bulk.fastRules bulk.slowRules

/-- A new snapshot. -/
def build (rules : List Rule) (version : UInt64) (world : World) : Ruleset × World :=
  let bulk := Bulk.build rules
  let generation := world.generations + 1
  ({ rules, version, generation, bulk },
    { world.note (builtEvent bulk) with generations := generation })

/-- The rules with the latest first, for display. -/
def latestFirst (ruleset : Ruleset) : List Rule := ruleset.rules.reverse

/-- The first rule with an id. -/
def get? (ruleset : Ruleset) (id : UInt64) : Option Rule := ruleset.rules.find? (·.id == id)

/-- The position of the first rule with an id. -/
def position? (ruleset : Ruleset) (id : UInt64) : Option Nat :=
  ruleset.rules.findIdx? (·.id == id)

/-- The largest id; zero without rules. -/
def maxId (ruleset : Ruleset) : UInt64 := ruleset.rules.foldl (fun most rule => max most rule.id) 0

/-- A short description. -/
def describe (ruleset : Ruleset) : String :=
  let field := match ruleset.bulk.splitField with
    | some name => "Some(" ++ quoted name ++ ")"
    | none => "None"
  "LogRules \x7b version: " ++ toDecimal ruleset.version.toNat ++ ", rules: " ++
    toDecimal ruleset.rules.length ++ ", split_field: " ++ field ++ " \x7d"

/-- Judges a record that remembers nothing of this snapshot: the position of the first rule that
holds, the snapshot and the record afterwards, and the malformed patterns found on the way. -/
def judgeAnew (ruleset : Ruleset) (entry : Entry) : Option Nat × Ruleset × Entry × List String :=
  let (position, rules, refused) :=
    judgeAt entry.record (ruleset.bulk.candidates entry.record) ruleset.rules
  (position, { ruleset with rules },
    { entry with memo := some ⟨ruleset.generation, position⟩ }, refused)

/-- Judges a record. What it remembers of this very snapshot counts. -/
def judge (ruleset : Ruleset) (entry : Entry) : Option Nat × Ruleset × Entry × List String :=
  match entry.memo with
  | some memo =>
      if memo.generation = ruleset.generation then (memo.position, ruleset, entry, [])
      else ruleset.judgeAnew entry
  | none => ruleset.judgeAnew entry

/-- The rule at a position. -/
def at? (ruleset : Ruleset) (position : Option Nat) : Option Rule :=
  position.bind (ruleset.rules[·]?)

/-- Judges records in turn: the rule found for each, and what is left afterwards. -/
def judgeAll (ruleset : Ruleset) :
    List Entry → List (Option Rule) × Ruleset × List Entry × List String
  | [] => ([], ruleset, [], [])
  | entry :: rest =>
      let (position, used, judged, refused) := ruleset.judge entry
      let (found, last, entries, refusedRest) := used.judgeAll rest
      (used.at? position :: found, last, judged :: entries, refused ++ refusedRest)

/-- Divides judged things into those that are not noise and those that are, each half in order. -/
def splitSpam {α : Type} (judged : List (α × Option Rule)) : List α × List α :=
  let (kept, noise) := judged.partition fun pair => Verdict.ofRule pair.2 != .spam
  (kept.map (·.1), noise.map (·.1))

end Ruleset

end LogSieve
