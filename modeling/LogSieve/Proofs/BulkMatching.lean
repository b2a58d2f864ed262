import Mathlib.Data.List.Find
import LogSieve.Proofs.Entries
import LogSieve.Proofs.Prepared

/-!
# Bulk matching and the linear scan

The bulk matcher holds a record against the rules of some positions only.  These
are, in their order, the positions of the enabled rules that are filed under the
value of the record or not filed at all.  A faithful rule that is filed under
another value cannot hold, so the first rule found is the one of the linear scan.
A rule whose matcher was used for a pattern and then made one for equality is filed
by its new operand and tested by its old pattern, and is lost.
-/

namespace LogSieve

namespace Bulk

/-- Whether a rule is held against a record with the given value of the split
field. -/
def admits (field value : Option String) (rule : Rule) : Bool :=
  !rule.disabled && (field.bind (splitValue? · rule)).all (value == some ·)

/-- The positions under a value in a bucket. -/
def filed (value : Option String) (bucket : List (String × List Nat)) : List Nat :=
  (value.bind fun value => bucket.lookup value).getD []

@[simp] theorem filed_nil (value : Option String) : filed value [] = [] := by
  cases value <;> rfl

@[simp] theorem candidates_closeBucket (value : Option String)
    (bucket : List (String × List Nat)) :
    (closeBucket bucket).flatMap (Unit.candidates value) = filed value bucket := by
  cases bucket with
  | nil => simp [closeBucket]
  | cons entry rest => simp [closeBucket, Unit.candidates, filed]

theorem file_eq_upsert (value : String) (position : Nat) (bucket : List (String × List Nat)) :
    file value position bucket =
      upsert Prod.fst value (Prod.map id (· ++ [position])) (value, [position]) bucket := by
  induction bucket with
  | nil => rfl
  | cons entry rest ih =>
      rw [file, upsert, ih]
      rfl

/-- Filing a position puts it at the end of the positions under its value. -/
theorem lookup_file (value other : String) (position : Nat)
    (bucket : List (String × List Nat)) :
    (file value position bucket).lookup other =
      if other = value then some ((bucket.lookup value).getD [] ++ [position])
      else bucket.lookup other := by
  have added : ((bucket.lookup value).map (· ++ [position])).getD [position] =
      (bucket.lookup value).getD [] ++ [position] := by
    cases bucket.lookup value with
    | none => rfl
    | some positions => rfl
  rw [file_eq_upsert, lookup_upsert, added]

theorem filed_file (value : Option String) (key : String) (position : Nat)
    (bucket : List (String × List Nat)) :
    filed value (file key position bucket) =
      filed value bucket ++ if value = some key then [position] else [] := by
  cases value with
  | none => simp [filed]
  | some value =>
      simp only [filed, Option.bind_some, lookup_file, Option.some.injEq]
      by_cases same : value = key
      · subst same
        simp
      · simp [same]

/-- The candidates of the units are those of the bucket being filled, then the
positions of the admitted rules among the remaining ones. -/
theorem candidates_buildUnits (field value : Option String)
    (bucket : List (String × List Nat)) (numbered : List (Rule × Nat)) :
    (buildUnits field bucket numbered).flatMap (Unit.candidates value) =
      filed value bucket ++
        (numbered.filter fun entry => admits field value entry.1).map (·.2) := by
  induction numbered generalizing bucket with
  | nil => simp [buildUnits]
  | cons entry rest ih =>
      obtain ⟨rule, position⟩ := entry
      simp only [buildUnits]
      by_cases disabled : rule.disabled = true
      · simp [disabled, admits, ih]
      · rw [if_neg disabled]
        cases key : field.bind (splitValue? · rule) with
        | none =>
            -- The rule stands alone: the bucket is closed before it.
            simp [ih, key, admits, disabled, Unit.candidates]
        | some filedUnder =>
            rw [ih, filed_file]
            by_cases same : value = some filedUnder <;>
              simp [key, admits, disabled, same]

/-- The positions held against a record are those of the admitted rules. -/
theorem candidates_build (rules : List Rule) (record : Record) :
    (build rules).candidates record =
      (rules.zipIdx.filter fun entry =>
        admits (splitField? rules) ((splitField? rules).bind record.resolve?) entry.1).map
          (·.2) := by
  have units := candidates_buildUnits (splitField? rules)
    ((splitField? rules).bind record.resolve?) [] rules.zipIdx
  rwa [filed_nil, List.nil_append] at units

/-- The operand under which a faithful rule is filed is what a record has in the
field if the rule holds for it. -/
theorem resolve?_eq_of_splitValue?_eq {rule : Rule} (faithful : rule.Faithful)
    {record : Record} (holds : rule.holds record = true) {field value : String}
    (split : splitValue? field rule = some value) :
    record.resolve? field = some value := by
  simp only [splitValue?, Option.map_eq_some_iff] at split
  obtain ⟨matcher, found, rfl⟩ := split
  have chosen := List.find?_some found
  simp only [Bool.and_eq_true, beq_iff_eq] at chosen
  have member := List.mem_of_find?_eq_some found
  simp only [Rule.holds, Bool.and_eq_true, List.all_eq_true] at holds
  rw [← chosen.2]
  exact (faithful matcher member).resolve?_eq_of_holds chosen.1 (holds.2 matcher member)

/-- Skipping loses no match: a rule that holds for a record is admitted. -/
theorem admits_of_holds {rule : Rule} (faithful : rule.Faithful) {record : Record}
    (holds : rule.holds record = true) (field : Option String) :
    admits field (field.bind record.resolve?) rule = true := by
  have enabled : rule.disabled = false := by
    simp only [Rule.holds, Bool.and_eq_true, Bool.not_eq_true'] at holds
    exact holds.1
  simp only [admits, enabled, Bool.not_false, Bool.true_and]
  cases field with
  | none => rfl
  | some field =>
      simp only [Option.bind_some, Option.all_eq_true_iff_get, beq_iff_eq]
      intro present
      exact resolve?_eq_of_splitValue?_eq faithful holds (Option.some_get present).symm

@[simp] theorem splitValue?_settled (field : String) (rule : Rule) :
    splitValue? field rule.settled = splitValue? field rule := by
  simp [splitValue?, Rule.settled, List.find?_map, Function.comp_def]

theorem splitField?_map_settled (rules : List Rule) :
    splitField? (rules.map Rule.settled) = splitField? rules := by
  have fields (rule : Rule) : (rule.settled.matchers.filter Matcher.isExact).map (·.field) =
      (rule.matchers.filter Matcher.isExact).map (·.field) := by
    simp [Rule.settled, List.filter_map, Function.comp_def]
  simp [splitField?, tally, exactFields, List.filter_map, List.flatMap_map, Function.comp_def,
    fields]

theorem buildUnits_map_settled (field : Option String) (bucket : List (String × List Nat))
    (numbered : List (Rule × Nat)) :
    buildUnits field bucket (numbered.map (Prod.map Rule.settled id)) =
      buildUnits field bucket numbered := by
  induction numbered generalizing bucket with
  | nil => rfl
  | cons entry rest ih => simp [buildUnits, ih]

/-- Prepared tests play no part in filing. -/
theorem build_map_settled (rules : List Rule) : build (rules.map Rule.settled) = build rules := by
  simp [build, splitField?_map_settled, List.zipIdx_map, buildUnits_map_settled,
    List.filter_map, List.countP_map, Function.comp_def]

/-- The position found by the bulk matcher is the one of the linear scan. -/
theorem position?_build (rules : List Rule) (record : Record)
    (faithful : ∀ rule ∈ rules, rule.Faithful) :
    (build rules).position? rules record = rules.findIdx? (·.holds record) := by
  rw [position?, candidates_build, List.find?_map, List.find?_filter,
    List.findIdx?_eq_fst_find?_zipIdx]
  congr 1
  apply List.find?_congr
  rintro ⟨rule, position⟩ member
  have stands : rules[position]? = some rule := by
    simpa using List.mem_zipIdx_iff_getElem?.mp member
  have known : rule ∈ rules := List.mem_of_getElem? stands
  simp only [Function.comp_apply, stands, Option.any_some]
  cases holds : rule.holds record with
  | false => simp
  | true => simp [admits_of_holds (faithful rule known) holds]

end Bulk

/-- The linear scan finds the rule at the first position where one holds. -/
theorem firstMatch?_eq_getElem? (rules : List Rule) (record : Record) :
    firstMatch? rules record =
      (rules.findIdx? (·.holds record)).bind (rules[·]?) := by
  rw [firstMatch?, List.find?_eq_bind_findIdx?_getElem?]

/-- Judging by the candidates of the bulk matcher finds the position of the linear
scan. -/
theorem Bulk.judgeAt_candidates_build (rules : List Rule) (record : Record)
    (faithful : ∀ rule ∈ rules, rule.Faithful) :
    (judgeAt record ((Bulk.build rules).candidates record) rules).1 =
      rules.findIdx? (·.holds record) := by
  rw [judgeAt_eq_find?]
  exact Bulk.position?_build rules record faithful

/-- The bulk matcher of faithful rules finds the same rule as the linear scan,
and at the same position, also while judging prepares the tests of its
candidates. -/
theorem Bulk.match?_build_eq_firstMatch? (rules : List Rule) (record : Record)
    (faithful : ∀ rule ∈ rules, rule.Faithful) :
    (Bulk.build rules).match? rules record = firstMatch? rules record ∧
      (Bulk.build rules).position? rules record = rules.findIdx? (·.holds record) ∧
      (judgeAt record ((Bulk.build rules).candidates record) rules).1 =
        rules.findIdx? (·.holds record) := by
  have position := Bulk.position?_build rules record faithful
  refine ⟨?_, position, Bulk.judgeAt_candidates_build rules record faithful⟩
  rw [Bulk.match?, position, firstMatch?_eq_getElem?]

/-- Rules with a disabled one, two operands for one field, an empty field name, a
placeholder and a repeated id. -/
def Bulk.mixedRules : List Rule :=
  [{ id := 1, disabled := true, matchers := [.equal "source" "cron"] },
    { id := 7, matchers := [.equal "source" "cron", .equal "source" "sshd"] },
    { id := 2, matchers := [.equal "" "cron"] },
    { id := 7, ham := true, matchers := [.equal "" "", .equal "message" "done"] },
    { id := 4, matchers := [.equal "source" "cron"] },
    { id := 5, matchers := [.regex "source" "c.*", .equal "source" "cron"] }]

/-- A record of the source that most of the mixed rules ask for. -/
def Bulk.cronRecord : Record :=
  { timestamp := 0
    labels := .ofList [("source", "cron")]
    message := "job"
    fields := ∅
    raw := "job" }

theorem Bulk.match?_build_mixedRules :
    (∀ rule ∈ Bulk.mixedRules, rule.Faithful) ∧
      (Bulk.build Bulk.mixedRules).splitField = some "source" ∧
      Bulk.mixedRules.findIdx? (·.holds Bulk.cronRecord) = some 4 ∧
      (Bulk.build Bulk.mixedRules).match? Bulk.mixedRules Bulk.cronRecord =
        firstMatch? Bulk.mixedRules Bulk.cronRecord ∧
      (judgeAt Bulk.cronRecord ((Bulk.build Bulk.mixedRules).candidates Bulk.cronRecord)
        Bulk.mixedRules).1 = some 4 := by
  have faithful : ∀ rule ∈ Bulk.mixedRules, rule.Faithful := by
    have unused : ∀ rule ∈ Bulk.mixedRules, rule.isUnused = true := by decide
    exact fun rule member => Rule.faithful_of_isUnused (unused rule member)
  have position : Bulk.mixedRules.findIdx? (·.holds Bulk.cronRecord) = some 4 := by decide
  have found := Bulk.match?_build_eq_firstMatch? Bulk.mixedRules Bulk.cronRecord faithful
  exact ⟨faithful, by decide, position, found.1, found.2.2.trans position⟩

/-- A rule for equality whose matcher was used while it was one for a pattern. -/
def Bulk.retypedRule : Rule :=
  let used := ((Matcher.regex "source" "cron").afterJudging Bulk.cronRecord).1
  { id := 1, matchers := [{ used with operator := .equal, value := "sshd" }] }

/-- The rule asks for another source, and holds by its old pattern: the linear scan finds
it, and the bulk matcher does not look at it. -/
theorem Bulk.match?_build_retypedRule :
    Bulk.retypedRule.matchers.map (fun matcher => (matcher.operator, matcher.value)) =
        [(.equal, "sshd")] ∧
      firstMatch? [Bulk.retypedRule] Bulk.cronRecord = some Bulk.retypedRule ∧
      (Bulk.build [Bulk.retypedRule]).match? [Bulk.retypedRule] Bulk.cronRecord = none :=
  ⟨rfl, rfl, rfl⟩

end LogSieve
