import LogSieve.Buffer
import LogSieve.Summary

/-!
# The store

The store owns the current snapshot of the rules, the buffer with its source, and the hits counted
so far. What it does, it does in a session: a store with its surroundings.
-/

namespace LogSieve

/-- How often each rule matched, under the snapshot of a generation. -/
structure HitCounts where
  generation : Nat
  counts : List (UInt64 × Nat)
deriving Inhabited

namespace HitCounts

/-- Counts one more hit of a rule. -/
def add (id : UInt64) : List (UInt64 × Nat) → List (UInt64 × Nat)
  | [] => [(id, 1)]
  | (other, count) :: rest =>
      if other = id then (other, count + 1) :: rest else (other, count) :: add id rest

/-- Counts the hits of judged records. -/
def addAll (counts : List (UInt64 × Nat)) (found : List (Option Rule)) : List (UInt64 × Nat) :=
  found.foldl (fun counts rule =>
    match rule with
    | some rule => add rule.id counts
    | none => counts) counts

/-- The hits of a rule. -/
def get (hits : HitCounts) (id : UInt64) : Nat := (hits.counts.lookup id).getD 0

end HitCounts

/-- The rule store over a kind of source. -/
structure Store (σ : Type) where
  /-- Where the rules are kept. -/
  path : String
  /-- Labels that are left out of rules made from records. -/
  ignoredLabels : List String
  ruleset : Ruleset
  /-- The id of the next rule, once one was given. -/
  nextId : Option UInt64 := none
  buffer : Buffer
  source : Option σ
  hits : Option HitCounts := none

/-- A store with its surroundings. -/
structure Session (σ : Type) where
  store : Store σ
  world : World

/-- An action of the store. -/
abbrev StoreAction (σ : Type) := Action (Session σ)

/-- What became of a rule that was handed in. -/
inductive RuleChange where
  /-- No rule had its id. -/
  | added (id : UInt64)
  /-- It took the place of the rule with its id. -/
  | updated (id version : UInt64)
  /-- It was made from an outdated version; nothing changed. -/
  | stale (id currentVersion : UInt64)
deriving DecidableEq, Repr

/-- The next number of 64 bits; the last one is its own successor. -/
def saturatingNext (value : UInt64) : UInt64 :=
  if value.toNat + 1 < UInt64.size then value + 1 else value

namespace Session

variable {σ : Type}

/-- Changes the surroundings. -/
def changeWorld (change : World → World) : StoreAction σ Unit :=
  modify fun session => { session with world := change session.world }

/-- Changes the store. -/
def changeStore (change : Store σ → Store σ) : StoreAction σ Unit :=
  modify fun session => { session with store := change session.store }

/-- Notes an event. -/
def note (event : Event) : StoreAction σ Unit := changeWorld (·.note event)

/-- A new store without rules, over surroundings. -/
def create (path : String) (ignoredLabels : List String) (cooldown : Nat) (source : Option σ)
    (world : World) : Session σ :=
  let (ruleset, world) := Ruleset.build [] 0 world
  { store := { path, ignoredLabels, ruleset, buffer := { cooldown }, source }, world }

end Session

end LogSieve
