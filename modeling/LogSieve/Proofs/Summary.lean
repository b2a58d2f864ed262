import Mathlib
import LogSieve.Proofs.Entries
import LogSieve.Proofs.Store.HitCounting
import LogSieve.Summary

/-!
# Totals of a summary

A summary has one entry for each source that its rules ask for.  The entries share out the rules
and the hits: what they count adds up to all rules and to all hits.  A record is a hit of one rule
only, so where ids are distinct the hits are the records that match.
-/

namespace LogSieve

namespace SourceSummary

/-! ## One entry a source -/

/-- An entry with one more rule of its source. -/
def withRule (hits : Nat) (entry : SourceSummary) : SourceSummary :=
  ⟨entry.source, entry.ruleCount + 1, entry.hits + hits⟩

theorem add_eq_upsert (source : String) (hits : Nat) (entries : List SourceSummary) :
    add source hits entries =
      upsert (·.source) source (withRule hits) ⟨source, 1, hits⟩ entries := by
  induction entries with
  | nil => rfl
  | cons entry rest ih =>
      rw [add, upsert, ih]
      split
      · next same =>
          subst same
          rfl
      · rfl

theorem mem_sources_add {source other : String} {hits : Nat} {entries : List SourceSummary} :
    other ∈ (add source hits entries).map (·.source) ↔
      other = source ∨ other ∈ entries.map (·.source) := by
  rw [add_eq_upsert]
  apply mem_keys_upsert
  · intro entry same
    exact same
  · rfl

theorem nodup_sources_add {source : String} {hits : Nat} {entries : List SourceSummary}
    (distinct : (entries.map (·.source)).Nodup) :
    ((add source hits entries).map (·.source)).Nodup := by
  rw [add_eq_upsert]
  apply nodup_keys_upsert
  · intro entry same
    exact same
  · rfl
  · exact distinct

/-- What is counted in one entry is counted in the sum of all. -/
theorem sum_map_add (amount : SourceSummary → Nat) (more : Nat) (source : String) (hits : Nat)
    (new : amount ⟨source, 1, hits⟩ = more)
    (grown : ∀ entry, amount (withRule hits entry) = amount entry + more)
    (entries : List SourceSummary) :
    ((add source hits entries).map amount).sum = (entries.map amount).sum + more := by
  rw [add_eq_upsert]
  induction entries with
  | nil => simp [upsert, new]
  | cons entry rest ih =>
      rw [upsert]
      split
      · rw [List.map_cons, List.sum_cons, grown, List.map_cons, List.sum_cons, Nat.add_right_comm]
      · rw [List.map_cons, List.sum_cons, ih, List.map_cons, List.sum_cons, Nat.add_assoc]

/-- The entries of some rules: one for each source, with all rules and all hits. -/
structure Covers (hitsOf : UInt64 → Nat) (rules : List Rule) (entries : List SourceSummary) :
    Prop where
  sources : (entries.map (·.source)).Perm (rules.map Rule.sourceText).dedup
  ruleCount : (entries.map (·.ruleCount)).sum = rules.length
  hits : (entries.map (·.hits)).sum = (rules.map fun rule => hitsOf rule.id).sum

theorem group_append_singleton (hitsOf : UInt64 → Nat) (rules : List Rule) (rule : Rule) :
    group hitsOf (rules ++ [rule]) =
      add rule.sourceText (hitsOf rule.id) (group hitsOf rules) := by
  rw [group, List.foldl_append]
  rfl

theorem covers_group (hitsOf : UInt64 → Nat) (rules : List Rule) :
    Covers hitsOf rules (group hitsOf rules) := by
  -- The rules are taken in their order, so the induction is on the last one.
  induction rules using List.reverseRecOn with
  | nil => exact ⟨.nil, rfl, rfl⟩
  | append_singleton rules rule ih =>
      rw [group_append_singleton]
      refine ⟨?_, ?_, ?_⟩
      · have distinct := ih.sources.nodup_iff.mpr (List.nodup_dedup _)
        rw [List.perm_ext_iff_of_nodup (nodup_sources_add distinct) (List.nodup_dedup _)]
        intro source
        rw [mem_sources_add, ih.sources.mem_iff]
        simp [or_comm]
      · rw [sum_map_add (·.ruleCount) 1 _ _ rfl fun _ => rfl, ih.ruleCount, List.length_append]
        rfl
      · rw [sum_map_add (·.hits) (hitsOf rule.id) _ _ rfl fun _ => rfl, ih.hits]
        simp

theorem Covers.of_perm {hitsOf : UInt64 → Nat} {rules : List Rule}
    {first second : List SourceSummary} (covers : Covers hitsOf rules first)
    (perm : second.Perm first) : Covers hitsOf rules second where
  sources := (perm.map _).trans covers.sources
  ruleCount := ((perm.map _).sum_eq).trans covers.ruleCount
  hits := ((perm.map _).sum_eq).trans covers.hits

/-- With room for every source nothing is cut off. -/
theorem ofRules_of_room (hitsOf : UInt64 → Nat) {top : Nat} {rules : List Rule}
    (room : (rules.map Rule.sourceText).dedup.length ≤ top) :
    ofRules hitsOf top rules = (group hitsOf rules).mergeSort precedes := by
  have sources := (covers_group hitsOf rules).sources.length_eq
  rw [List.length_map] at sources
  apply List.take_of_length_le
  rw [List.length_mergeSort, sources]
  exact room

theorem covers_ofRules (hitsOf : UInt64 → Nat) {top : Nat} {rules : List Rule}
    (room : (rules.map Rule.sourceText).dedup.length ≤ top) :
    Covers hitsOf rules (ofRules hitsOf top rules) := by
  rw [ofRules_of_room hitsOf room]
  exact (covers_group hitsOf rules).of_perm (List.mergeSort_perm (group hitsOf rules) precedes)

end SourceSummary

/-! ## Hits of distinct rules -/

theorem sum_same_id (id : UInt64) (rules : List Rule) :
    (rules.map fun rule => if id == rule.id then 1 else 0).sum = (rules.map (·.id)).count id := by
  induction rules with
  | nil => rfl
  | cons rule rest ih =>
      rw [List.map_cons, List.sum_cons, ih, List.map_cons, List.count_cons, Nat.add_comm, BEq.comm]

/-- A rule that was found counts for one rule of a list with distinct ids. -/
theorem sum_found {rules : List Rule} (distinct : (rules.map (·.id)).Nodup) {found : Option Rule}
    (known : ∀ rule ∈ found, rule ∈ rules) :
    (rules.map fun rule => if found.any (·.id == rule.id) then 1 else 0).sum =
      if found.isSome then 1 else 0 := by
  cases found with
  | none => simp
  | some found =>
      have member : found.id ∈ rules.map (·.id) := List.mem_map_of_mem (known found rfl)
      have once := sum_same_id found.id rules
      rw [List.count_eq_one_of_mem distinct member] at once
      exact once

/-- Where ids are distinct, the hits of all rules are the records that match. -/
theorem Ruleset.sum_matchesIn {ruleset : Ruleset} (distinct : (ruleset.rules.map (·.id)).Nodup)
    (records : List Record) :
    (ruleset.rules.map fun rule => ruleset.matchesIn records rule.id).sum =
      records.countP fun record => (ruleset.match? record).isSome := by
  induction records with
  | nil => simp [matchesIn]
  | cons record rest ih =>
      have known : ∀ rule ∈ ruleset.match? record, rule ∈ ruleset.rules := by
        intro rule found
        obtain ⟨position, -, stands⟩ := Option.bind_eq_some_iff.mp found
        exact List.mem_of_getElem? stands
      simp only [matchesIn, List.countP_cons, List.sum_map_add]
      rw [sum_found distinct known]
      exact congrArg (· + _) ih

end LogSieve
