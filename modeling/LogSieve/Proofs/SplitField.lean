import Mathlib
import LogSieve.Proofs.Entries
import LogSieve.Rule.Bulk

/-!
# The field by which rules are filed

The exact matchers of the enabled rules are counted by their fields, and the best of the counted
fields is taken.  Being better is a strict total order of counted fields with different names: the
larger count first, then the smaller name.  So the choice depends on nothing but how often each
field is asked for, neither on the order of rules and matchers nor on the order of the counts.
-/

namespace LogSieve.Bulk

/-! ## Counting fields -/

variable {fields : List String} {counts : List (String × Nat)}

/-- The counts of some fields: one for each of them, as often as it occurs. -/
structure Tallies (fields : List String) (counts : List (String × Nat)) : Prop where
  mem_iff : ∀ field, field ∈ counts.map (·.1) ↔ field ∈ fields
  distinct : (counts.map (·.1)).Nodup
  amount : ∀ entry ∈ counts, entry.2 = fields.count entry.1

theorem count_eq_upsert (field : String) (counts : List (String × Nat)) :
    count field counts = upsert (·.1) field (Prod.map id (· + 1)) (field, 1) counts := by
  induction counts with
  | nil => rfl
  | cons entry rest ih =>
      rw [count, upsert, ih]
      rfl

theorem mem_fields_count {field other : String} :
    other ∈ (count field counts).map (·.1) ↔ other = field ∨ other ∈ counts.map (·.1) := by
  rw [count_eq_upsert]
  apply mem_keys_upsert
  · intro entry same
    exact same
  · rfl

/-- One more occurrence is counted. -/
theorem Tallies.count (tallies : Tallies fields counts) (field : String) :
    Tallies (fields ++ [field]) (count field counts) := by
  constructor
  · intro other
    rw [mem_fields_count, tallies.mem_iff, List.mem_append, List.mem_singleton, or_comm]
  · rw [count_eq_upsert]
    apply nodup_keys_upsert
    · intro entry same
      exact same
    · rfl
    · exact tallies.distinct
  · intro entry member
    rw [count_eq_upsert] at member
    rw [List.count_append]
    rcases mem_upsert tallies.distinct member with
      ⟨kept, differ⟩ | ⟨old, known, rfl, rfl⟩ | ⟨missing, rfl⟩
    · rw [tallies.amount entry kept, List.count_singleton, beq_false_of_ne (Ne.symm differ)]
      rfl
    · simp [tallies.amount old known]
    · rw [tallies.mem_iff] at missing
      simp [List.count_eq_zero_of_not_mem missing]

theorem tallies_foldl (fields : List String) :
    Tallies fields (fields.foldl (fun counts field => Bulk.count field counts) []) := by
  -- Fields are counted in their order, so the induction is on the last one.
  induction fields using List.reverseRecOn with
  | nil =>
      constructor
      · intro field
        rfl
      · exact .nil
      · intro entry member
        cases member
  | append_singleton fields field ih =>
      rw [List.foldl_append]
      exact ih.count field

theorem Tallies.of_perm {drained : List (String × Nat)} (tallies : Tallies fields counts)
    (perm : drained.Perm counts) : Tallies fields drained where
  mem_iff field := ((perm.map _).mem_iff).trans (tallies.mem_iff field)
  distinct := (perm.map _).nodup_iff.mpr tallies.distinct
  amount entry member := tallies.amount entry (perm.mem_iff.mp member)

/-- Every occurring field is counted. -/
theorem Tallies.mem_of_mem (tallies : Tallies fields counts) {field : String}
    (occurs : field ∈ fields) : (field, fields.count field) ∈ counts := by
  rcases List.mem_map.mp ((tallies.mem_iff field).mpr occurs) with ⟨entry, member, rfl⟩
  rw [← tallies.amount entry member]
  exact member

/-! ## The best of counted fields -/

/-- The place of a counted field in the lexicographic order of what decides. -/
def rank (counted : String × Nat) : ℕᵒᵈ ×ₗ String :=
  toLex (OrderDual.toDual counted.2, counted.1)

theorem rank_lt_iff {first second : String × Nat} :
    rank first < rank second ↔
      second.2 < first.2 ∨ first.2 = second.2 ∧ first.1 < second.1 := by
  simp only [rank, Prod.Lex.toLex_lt_toLex, OrderDual.toDual_lt_toDual, OrderDual.toDual_inj]

theorem isBetter_iff {first second : String × Nat} :
    isBetter first second = true ↔ rank first < rank second := by
  rw [rank_lt_iff, isBetter]
  simp

theorem best?_append_singleton (counts : List (String × Nat)) (counted : String × Nat) :
    best? (counts ++ [counted]) =
      some ((best? counts).elim counted fun chosen =>
        if rank counted < rank chosen then counted else chosen) := by
  simp only [best?, List.foldl_append, List.foldl_cons, List.foldl_nil]
  generalize List.foldl _ none counts = chosen
  cases chosen with
  | none => rfl
  | some other =>
      simp only [isBetter_iff, Option.elim_some]
      exact (apply_ite some _ _ _).symm

theorem best?_eq_none_iff : best? counts = none ↔ counts = [] := by
  cases counts using List.reverseRecOn with
  | nil => simp [best?]
  | append_singleton counts counted => simp [best?_append_singleton]

/-- The best of some counted fields is one of them, and none is better. -/
theorem mem_and_le_of_best? {chosen : String × Nat} (best : best? counts = some chosen) :
    chosen ∈ counts ∧ ∀ other ∈ counts, rank chosen ≤ rank other := by
  induction counts using List.reverseRecOn generalizing chosen with
  | nil => cases best
  | append_singleton counts counted ih =>
      rw [best?_append_singleton, Option.some.injEq] at best
      cases before : best? counts with
      | none =>
          rw [best?_eq_none_iff] at before
          subst before
          subst best
          simp [best?]
      | some old =>
          rcases ih before with ⟨member, least⟩
          rw [before, Option.elim_some] at best
          rw [List.forall_mem_append, List.forall_mem_singleton]
          split at best
          · next better =>
              subst best
              refine ⟨by simp, ?_, le_rfl⟩
              intro other earlier
              exact better.le.trans (least other earlier)
          · next worse =>
              subst best
              exact ⟨List.mem_append_left _ member, least, le_of_not_gt worse⟩

/-- The best of the counts of some fields: it occurs, and every other field occurs less often, or as
often and has a larger name. -/
theorem Tallies.best?_iff (tallies : Tallies fields counts) {field : String} :
    (best? counts).map (·.1) = some field ↔
      field ∈ fields ∧ ∀ other, other ≠ field →
        fields.count other < fields.count field ∨
          fields.count other = fields.count field ∧ field < other := by
  constructor
  · intro chosen
    rcases Option.map_eq_some_iff.mp chosen with ⟨entry, best, rfl⟩
    rcases mem_and_le_of_best? best with ⟨member, least⟩
    have occurs : entry.1 ∈ fields := (tallies.mem_iff _).mp (List.mem_map_of_mem member)
    refine ⟨occurs, ?_⟩
    intro other differ
    by_cases known : other ∈ fields
    · have apart : rank entry ≠ rank (other, fields.count other) := by
        intro same
        exact differ (congrArg (fun place => (ofLex place).2) same).symm
      have before := rank_lt_iff.mp (lt_of_le_of_ne (least _ (tallies.mem_of_mem known)) apart)
      rwa [tallies.amount entry member, eq_comm] at before
    · left
      rw [List.count_eq_zero_of_not_mem known]
      exact List.count_pos_iff.mpr occurs
  · intro leads
    have counted := tallies.mem_of_mem leads.1
    cases best : best? counts with
    | none =>
        rw [best?_eq_none_iff] at best
        subst best
        cases counted
    | some entry =>
        rcases mem_and_le_of_best? best with ⟨member, least⟩
        rw [Option.map_some, Option.some.injEq]
        by_contra differ
        have ahead : rank (field, fields.count field) < rank entry := by
          rw [rank_lt_iff, tallies.amount entry member, eq_comm]
          exact leads.2 entry.1 differ
        exact absurd (least _ counted) (not_le_of_gt ahead)

/-- The choice depends on the counts only. -/
theorem Tallies.best?_congr {others : List String} {drained : List (String × Nat)}
    (tallies : Tallies fields counts) (talliesOthers : Tallies others drained)
    (same : ∀ field, others.count field = fields.count field) :
    (best? drained).map (·.1) = (best? counts).map (·.1) := by
  apply Option.ext
  intro field
  have occurs : field ∈ others ↔ field ∈ fields := by
    rw [← List.count_pos_iff, same, List.count_pos_iff]
  rw [talliesOthers.best?_iff, tallies.best?_iff, occurs]
  simp only [same]

/-! ## The split field -/

/-- How many exact matchers of the enabled rules ask for a field. -/
def occurrences (rules : List Rule) (field : String) : Nat :=
  (rules.map fun rule =>
    if rule.disabled then 0
    else rule.matchers.countP fun matcher => matcher.isExact && matcher.field == field).sum

theorem count_exactFields (rules : List Rule) (field : String) :
    (exactFields rules).count field = occurrences rules field := by
  induction rules with
  | nil => rfl
  | cons rule rest ih =>
      have fields (matchers : List Matcher) :
          ((matchers.filter Matcher.isExact).map (·.field)).count field =
            matchers.countP fun matcher => matcher.isExact && matcher.field == field := by
        rw [List.count_eq_countP, List.countP_map, List.countP_filter]
        apply List.countP_congr
        intro matcher _
        rw [Bool.and_comm]
        rfl
      rw [occurrences, List.map_cons, List.sum_cons, ← occurrences, ← ih]
      cases disabled : rule.disabled with
      | true => simp [exactFields, disabled]
      | false => simp [exactFields, disabled, fields]

theorem mem_exactFields_iff {rules : List Rule} {field : String} :
    field ∈ exactFields rules ↔
      ∃ rule ∈ rules, rule.disabled = false ∧
        ∃ matcher ∈ rule.matchers, matcher.isExact = true ∧ matcher.field = field := by
  simp [exactFields, and_assoc]

theorem tallies_tally (rules : List Rule) : Tallies (exactFields rules) (tally rules) :=
  tallies_foldl _

/-- Rules in another order, each with its matchers in another order. -/
def Rearranged (rules others : List Rule) : Prop :=
  ∃ permuted, rules.Perm permuted ∧
    List.Forall₂ (fun rule other =>
      other.disabled = rule.disabled ∧ other.matchers.Perm rule.matchers) permuted others

theorem Rearranged.occurrences_eq {rules others : List Rule} (rearranged : Rearranged rules others)
    (field : String) : occurrences others field = occurrences rules field := by
  rcases rearranged with ⟨permuted, perm, alike⟩
  have reordered : occurrences rules field = occurrences permuted field := (perm.map _).sum_eq
  rw [reordered]
  clear reordered perm
  induction alike with
  | nil => rfl
  | cons same _ ih =>
      rw [occurrences, List.map_cons, List.sum_cons, ← occurrences, ih, same.1, same.2.countP_eq]
      rfl

/-- The field by which rules are filed.  There is none exactly if no enabled rule has an exact
matcher.  Otherwise it is the one field that is asked for, and that every other field comes behind:
it is asked for less often, or as often and has a larger name.  The choice is the same for every
order of the rules, of their matchers and of the counted fields. -/
theorem splitField?_eq_some_iff_ahead (rules : List Rule) :
    (splitField? rules = none ↔
        ¬∃ rule ∈ rules, rule.disabled = false ∧
          ∃ matcher ∈ rule.matchers, matcher.operator = .equal ∧ matcher.isPlaceholder = false) ∧
      (∀ field, splitField? rules = some field ↔
        0 < occurrences rules field ∧ ∀ other, other ≠ field →
          occurrences rules other < occurrences rules field ∨
            occurrences rules other = occurrences rules field ∧ field < other) ∧
      (∀ others, Rearranged rules others → splitField? others = splitField? rules) ∧
      ∀ drained, drained.Perm (tally rules) → (best? drained).map (·.1) = splitField? rules := by
  have tallies := tallies_tally rules
  refine ⟨?_, ?_, ?_, ?_⟩
  · rw [splitField?, Option.map_eq_none_iff, best?_eq_none_iff]
    constructor
    · intro empty asked
      rcases asked with ⟨rule, member, enabled, matcher, known, operator, placeholder⟩
      have exact : matcher.isExact = true := by simp [Matcher.isExact, operator, placeholder]
      have occurs := mem_exactFields_iff.mpr ⟨rule, member, enabled, matcher, known, exact, rfl⟩
      have counted := tallies.mem_of_mem occurs
      rw [empty] at counted
      cases counted
    · intro unasked
      apply List.eq_nil_iff_forall_not_mem.mpr
      intro entry member
      have occurs := (tallies.mem_iff entry.1).mp (List.mem_map_of_mem member)
      rcases mem_exactFields_iff.mp occurs with ⟨rule, known, enabled, matcher, has, exact, -⟩
      rw [Matcher.isExact, Bool.and_eq_true, beq_iff_eq, Bool.not_eq_true'] at exact
      exact unasked ⟨rule, known, enabled, matcher, has, exact⟩
  · intro field
    rw [splitField?, tallies.best?_iff, ← List.count_pos_iff]
    simp only [count_exactFields]
  · intro others rearranged
    apply tallies.best?_congr (tallies_tally others)
    intro field
    rw [count_exactFields, count_exactFields, rearranged.occurrences_eq]
  · intro drained perm
    exact tallies.best?_congr (tallies.of_perm perm) fun _ => rfl

/-- Rules that ask for two fields as often, beside a disabled one, a placeholder and a pattern. -/
def rivalRules : List Rule :=
  [{ id := 1, matchers := [.equal "zone" "1", .equal "app" "1"] },
    { id := 2, disabled := true, matchers := [.equal "zone" "2"] },
    { id := 3, matchers := [.equal "" "", .regex "zone" "x"] }]

/-- The same rules in another order, the first with its matchers exchanged. -/
def exchangedRules : List Rule :=
  [{ id := 3, matchers := [.equal "" "", .regex "zone" "x"] },
    { id := 2, disabled := true, matchers := [.equal "zone" "2"] },
    { id := 1, matchers := [.equal "app" "1", .equal "zone" "1"] }]

theorem splitField?_eq_some_iff_ahead_rivals :
    Rearranged rivalRules exchangedRules ∧ splitField? rivalRules = some "app" ∧
      splitField? exchangedRules = some "app" ∧
      (best? (tally rivalRules).reverse).map (·.1) = some "app" := by
  have rearranged : Rearranged rivalRules exchangedRules := by
    refine ⟨rivalRules.reverse, (List.reverse_perm _).symm, ?_⟩
    exact .cons ⟨rfl, .refl _⟩ (.cons ⟨rfl, .refl _⟩ (.cons ⟨rfl, .swap ..⟩ .nil))
  have first : splitField? rivalRules = some "app" := by decide
  rcases splitField?_eq_some_iff_ahead rivalRules with ⟨-, -, moved, drained⟩
  exact ⟨rearranged, first, (moved _ rearranged).trans first,
    (drained _ (List.reverse_perm _)).trans first⟩

end LogSieve.Bulk
