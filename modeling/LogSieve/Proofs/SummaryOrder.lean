import Mathlib
import LogSieve.Proofs.Summary

/-!
# The order of a summary

What a summary says of a source depends on the rules alone and not on their order: how many ask for
the source, and how many hits they have.  Entries of different sources are never level, since at
last the sources decide.  So there is one list of all entries in their order, and a summary is a
first part of it, in whatever order rules are counted and entries are handed to the sorting.
-/

namespace LogSieve.SourceSummary

/-! ## The order -/

/-- Whether an entry stands before another: more rules first, then more hits, then the smaller
source. -/
def Before (first second : SourceSummary) : Prop :=
  second.ruleCount < first.ruleCount ∨
    first.ruleCount = second.ruleCount ∧
      (second.hits < first.hits ∨ first.hits = second.hits ∧ first.source < second.source)

instance (first second : SourceSummary) : Decidable (Before first second) :=
  inferInstanceAs (Decidable (_ ∨ _ ∧ (_ ∨ _ ∧ _)))

/-- The place of an entry in the lexicographic order of what decides. -/
def rank (entry : SourceSummary) : ℕᵒᵈ ×ₗ ℕᵒᵈ ×ₗ String :=
  toLex (OrderDual.toDual entry.ruleCount, toLex (OrderDual.toDual entry.hits, entry.source))

theorem rank_injective : Function.Injective rank := by
  intro first second same
  cases first
  cases second
  simp_all [rank]

theorem rank_lt_iff {first second : SourceSummary} :
    rank first < rank second ↔ Before first second := by
  simp only [rank, Prod.Lex.toLex_lt_toLex, OrderDual.toDual_lt_toDual, OrderDual.toDual_inj,
    Before]

theorem precedes_iff {first second : SourceSummary} :
    precedes first second = true ↔ rank first ≤ rank second := by
  rw [← not_lt, rank_lt_iff, precedes, Before]
  split
  · next differ =>
      simp [Ne.symm differ]
      omega
  · next level =>
      simp only [not_not] at level
      split
      · next uneven =>
          simp [level, Ne.symm uneven]
          omega
      · next even =>
          simp only [not_not] at even
          simp [level, even]

theorem pairwise_mergeSort_precedes (entries : List SourceSummary) :
    (entries.mergeSort precedes).Pairwise fun first second => rank first ≤ rank second := by
  have transitive (first second third : SourceSummary) (before : precedes first second = true)
      (after : precedes second third = true) : precedes first third = true := by
    rw [precedes_iff] at before after ⊢
    exact before.trans after
  have total (first second : SourceSummary) :
      (precedes first second || precedes second first) = true := by
    rw [Bool.or_eq_true, precedes_iff, precedes_iff]
    exact le_total _ _
  exact (List.pairwise_mergeSort transitive total entries).imp precedes_iff.mp

/-- Sorting gives one list for all orders of the same entries. -/
theorem mergeSort_eq_of_perm {first second : List SourceSummary} (perm : first.Perm second) :
    first.mergeSort precedes = second.mergeSort precedes := by
  have same : (first.mergeSort precedes).Perm (second.mergeSort precedes) :=
    (List.mergeSort_perm first precedes).trans
      (perm.trans (List.mergeSort_perm second precedes).symm)
  refine same.eq_of_pairwise ?_ (pairwise_mergeSort_precedes first)
    (pairwise_mergeSort_precedes second)
  intro entry other _ _ before after
  exact rank_injective (le_antisymm before after)

/-! ## The entry of a source -/

variable {hitsOf : UInt64 → Nat} {rules : List Rule}

/-- What is to be said of a source: how many rules ask for it, and the hits of these rules. -/
def entryOf (hitsOf : UInt64 → Nat) (rules : List Rule) (source : String) : SourceSummary where
  source
  ruleCount := rules.countP fun rule => rule.sourceText == source
  hits := ((rules.filter fun rule => rule.sourceText == source).map fun rule => hitsOf rule.id).sum

theorem entryOf_of_perm {permuted : List Rule} (perm : permuted.Perm rules) (source : String) :
    entryOf hitsOf permuted source = entryOf hitsOf rules source := by
  have hits := ((perm.filter fun rule => rule.sourceText == source).map
    fun rule => hitsOf rule.id).sum_eq
  simp only [entryOf, perm.countP_eq, hits]

/-- A rule that asks for a source adds itself and its hits. -/
theorem entryOf_concat_self (hitsOf : UInt64 → Nat) (rules : List Rule) (rule : Rule) :
    entryOf hitsOf (rules ++ [rule]) rule.sourceText =
      ⟨rule.sourceText, (entryOf hitsOf rules rule.sourceText).ruleCount + 1,
        (entryOf hitsOf rules rule.sourceText).hits + hitsOf rule.id⟩ := by
  simp [entryOf]

theorem entryOf_concat_of_ne (hitsOf : UInt64 → Nat) (rules : List Rule) {rule : Rule}
    {source : String} (other : rule.sourceText ≠ source) :
    entryOf hitsOf (rules ++ [rule]) source = entryOf hitsOf rules source := by
  simp [entryOf, other]

theorem entryOf_of_notMem {source : String} (unasked : source ∉ rules.map Rule.sourceText) :
    entryOf hitsOf rules source = ⟨source, 0, 0⟩ := by
  have none : ∀ rule ∈ rules, ¬(rule.sourceText == source) = true := by
    intro rule member same
    apply unasked
    rw [← eq_of_beq same]
    exact List.mem_map_of_mem member
  simp only [entryOf, List.countP_eq_zero.mpr none, List.filter_eq_nil_iff.mpr none]
  rfl

theorem nodup_sources_group (hitsOf : UInt64 → Nat) (rules : List Rule) :
    ((group hitsOf rules).map (·.source)).Nodup :=
  (covers_group hitsOf rules).sources.nodup_iff.mpr (List.nodup_dedup _)

/-- Counting rule by rule, every entry comes to say what is to be said of its source. -/
theorem eq_entryOf_of_mem_group {entry : SourceSummary} (member : entry ∈ group hitsOf rules) :
    entry = entryOf hitsOf rules entry.source := by
  -- The rules are counted in their order, so the induction is on the last one.
  induction rules using List.reverseRecOn generalizing entry with
  | nil => cases member
  | append_singleton rules rule ih =>
      rw [group_append_singleton, add_eq_upsert] at member
      rcases mem_upsert (nodup_sources_group hitsOf rules) member with
        ⟨kept, differ⟩ | ⟨old, known, same, rfl⟩ | ⟨missing, rfl⟩
      · rw [entryOf_concat_of_ne hitsOf rules (Ne.symm differ)]
        exact ih kept
      · -- The entry of the source was right before the rule, and the rule is counted in it.
        have told := ih known
        rw [same] at told
        change withRule (hitsOf rule.id) old = entryOf hitsOf (rules ++ [rule]) old.source
        rw [same, entryOf_concat_self, ← told, withRule, same]
      · have unasked : rule.sourceText ∉ rules.map Rule.sourceText := by
          rw [← List.mem_dedup, ← (covers_group hitsOf rules).sources.mem_iff]
          exact missing
        rw [entryOf_concat_self, entryOf_of_notMem unasked, Nat.zero_add, Nat.zero_add]

/-- The entries are those of the sources that rules ask for. -/
theorem group_perm (hitsOf : UInt64 → Nat) (rules : List Rule) :
    (group hitsOf rules).Perm ((rules.map Rule.sourceText).dedup.map (entryOf hitsOf rules)) := by
  have told : (group hitsOf rules).map (fun entry => entryOf hitsOf rules entry.source) =
      group hitsOf rules := by
    calc (group hitsOf rules).map (fun entry => entryOf hitsOf rules entry.source)
      _ = (group hitsOf rules).map id :=
        List.map_congr_left fun entry member => (eq_entryOf_of_mem_group member).symm
      _ = group hitsOf rules := List.map_id _
  have sources := (covers_group hitsOf rules).sources.map (entryOf hitsOf rules)
  rw [List.map_map] at sources
  exact told ▸ sources

theorem group_perm_of_perm (hitsOf : UInt64 → Nat) {permuted : List Rule}
    (perm : permuted.Perm rules) : (group hitsOf permuted).Perm (group hitsOf rules) := by
  have entries : entryOf hitsOf permuted = entryOf hitsOf rules := by
    funext source
    exact entryOf_of_perm perm source
  have sources := ((perm.map Rule.sourceText).dedup).map (entryOf hitsOf rules)
  refine (group_perm hitsOf permuted).trans ?_
  rw [entries]
  exact sources.trans (group_perm hitsOf rules).symm

/-! ## The whole list -/

/-- The list of all entries: one for each source that a rule asks for, with the number of its rules
and the sum of their hits, in strict order. -/
structure Lists (hitsOf : UInt64 → Nat) (rules : List Rule) (entries : List SourceSummary) :
    Prop where
  sources : ∀ source, source ∈ entries.map (·.source) ↔ ∃ rule ∈ rules, rule.sourceText = source
  distinct : (entries.map (·.source)).Nodup
  ruleCount : ∀ entry ∈ entries,
    entry.ruleCount = rules.countP fun rule => rule.sourceText == entry.source
  hits : ∀ entry ∈ entries,
    entry.hits = ((rules.filter fun rule => rule.sourceText == entry.source).map
      fun rule => hitsOf rule.id).sum
  strict : entries.Pairwise Before

/-- The entries of the list are those of the sources that rules ask for. -/
theorem Lists.mem_iff {entries : List SourceSummary} (lists : Lists hitsOf rules entries)
    {entry : SourceSummary} :
    entry ∈ entries ↔
      entry.source ∈ rules.map Rule.sourceText ∧ entry = entryOf hitsOf rules entry.source := by
  have told {entry : SourceSummary} (member : entry ∈ entries) :
      entry = entryOf hitsOf rules entry.source := by
    have ruleCount := lists.ruleCount entry member
    have hits := lists.hits entry member
    cases entry
    simp_all [entryOf]
  rw [List.mem_map, ← lists.sources, List.mem_map]
  constructor
  · intro member
    exact ⟨⟨entry, member, rfl⟩, told member⟩
  · intro conditions
    rcases conditions with ⟨⟨other, member, same⟩, isEntry⟩
    have equal : other = entry := by rw [told member, same, ← isEntry]
    exact equal ▸ member

/-- There is only one such list. -/
theorem Lists.eq {first second : List SourceSummary} (lists : Lists hitsOf rules first)
    (others : Lists hitsOf rules second) : first = second := by
  have perm : first.Perm second := by
    rw [List.perm_ext_iff_of_nodup lists.distinct.of_map others.distinct.of_map]
    intro entry
    rw [lists.mem_iff, others.mem_iff]
  refine perm.eq_of_pairwise ?_ lists.strict others.strict
  intro entry other _ _ before after
  rw [← rank_lt_iff] at before after
  exact absurd before after.asymm

theorem lists_mergeSort_group (hitsOf : UInt64 → Nat) (rules : List Rule) :
    Lists hitsOf rules ((group hitsOf rules).mergeSort precedes) := by
  have perm := List.mergeSort_perm (group hitsOf rules) precedes
  have sources := (covers_group hitsOf rules).of_perm perm
  have distinct := sources.sources.nodup_iff.mpr (List.nodup_dedup _)
  have told {entry : SourceSummary} (member : entry ∈ (group hitsOf rules).mergeSort precedes) :
      entry = entryOf hitsOf rules entry.source :=
    eq_entryOf_of_mem_group (perm.mem_iff.mp member)
  constructor
  · intro source
    rw [sources.sources.mem_iff, List.mem_dedup, List.mem_map]
  · exact distinct
  · intro entry member
    exact congrArg ruleCount (told member)
  · intro entry member
    exact congrArg hits (told member)
  · -- Entries in order that differ in their sources are in strict order.
    have apart := List.pairwise_map.mp distinct
    refine ((pairwise_mergeSort_precedes _).and apart).imp ?_
    intro first second related
    rw [← rank_lt_iff]
    apply lt_of_le_of_ne related.1
    intro same
    exact related.2 (congrArg source (rank_injective same))

/-- A summary is a first part of the one list of all entries: one for each source, with the number
of its rules and the sum of their hits, in strict order.  It is the same for every order of the
rules, and for every order in which the entries that were counted are sorted. -/
theorem ofRules_eq_take (hitsOf : UInt64 → Nat) (rules : List Rule) :
    ∃ entries, Lists hitsOf rules entries ∧
      (∀ others, Lists hitsOf rules others → others = entries) ∧
      (∀ top, ofRules hitsOf top rules = entries.take top) ∧
      (∀ top (permuted : List Rule), permuted.Perm rules →
        ofRules hitsOf top permuted = entries.take top) ∧
      (∀ top (drained : List SourceSummary), drained.Perm (group hitsOf rules) →
        (drained.mergeSort precedes).take top = entries.take top) := by
  have lists := lists_mergeSort_group hitsOf rules
  refine ⟨_, lists, ?_, ?_, ?_, ?_⟩
  · intro others listsOthers
    exact listsOthers.eq lists
  · intro top
    rfl
  · intro top permuted perm
    rw [ofRules, mergeSort_eq_of_perm (group_perm_of_perm hitsOf perm)]
  · intro top drained perm
    rw [mergeSort_eq_of_perm perm]

/-- Rules of two sources with one number of rules and of hits, and a rule without a source. -/
def levelRules : List Rule :=
  [{ id := 1, matchers := [.equal "source" "sshd"] },
    { id := 2, matchers := [.equal "source" "cron"] }, { id := 3 }]

/-- The hits of these rules. -/
def levelHits (id : UInt64) : Nat := if id = 3 then 9 else 4

theorem ofRules_eq_take_level :
    Lists levelHits levelRules [⟨"", 1, 9⟩, ⟨"=cron", 1, 4⟩, ⟨"=sshd", 1, 4⟩] ∧
      levelRules.reverse.Perm levelRules ∧
      ofRules levelHits 2 levelRules = [⟨"", 1, 9⟩, ⟨"=cron", 1, 4⟩] ∧
      ofRules levelHits 2 levelRules.reverse = [⟨"", 1, 9⟩, ⟨"=cron", 1, 4⟩] := by
  have lists : Lists levelHits levelRules [⟨"", 1, 9⟩, ⟨"=cron", 1, 4⟩, ⟨"=sshd", 1, 4⟩] := by
    constructor
    · intro source
      have sources : levelRules.map Rule.sourceText = ["=sshd", "=cron", ""] := rfl
      rw [← List.mem_map, sources]
      simp only [List.map_cons, List.map_nil, List.mem_cons, List.not_mem_nil, or_false]
      tauto
    · decide
    · decide
    · decide
    · decide
  rcases ofRules_eq_take levelHits levelRules with ⟨entries, -, only, whole, permuted, -⟩
  have reversed := List.reverse_perm levelRules
  refine ⟨lists, reversed, ?_, ?_⟩
  · rw [whole, ← only _ lists]
    rfl
  · rw [permuted 2 _ reversed, ← only _ lists]
    rfl

end LogSieve.SourceSummary
