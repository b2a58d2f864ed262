import LogSieve.Rule.Bulk

/-!
# Prepared tests

A matcher keeps its test from the first use on.  This module separates the two
things that a kept test can mean for a rule.

A rule is faithful if none of its matchers for equality tests by a pattern.  A
test is prepared from the operator, so only a matcher whose operator was changed
after its first use can fail to be faithful.

A settled rule has all its tests prepared.  Judging records prepares tests one by
one and leaves the settled rule alone, and everything that is asked of a rule has
the same answer for the settled one.
-/

namespace LogSieve

namespace Matcher

/-- A matcher for equality does not test by a pattern. -/
def Faithful (matcher : Matcher) : Prop :=
  matcher.operator = .equal → ∀ pattern, matcher.predicate ≠ .matching pattern

/-- A matcher that was never used is faithful. -/
theorem faithful_of_compiled_eq_none {matcher : Matcher}
    (unused : matcher.compiled = none) : matcher.Faithful := by
  intro equal pattern tested
  simp [predicate, unused, equal, Predicate.compile] at tested

/-- What a faithful matcher for equality accepts is its operand. -/
theorem Faithful.eq_value_of_accepts {matcher : Matcher} (faithful : matcher.Faithful)
    (equal : matcher.operator = .equal) {candidate : String}
    (accepted : matcher.accepts candidate = true) : candidate = matcher.value := by
  rw [accepts] at accepted
  cases test : matcher.predicate with
  | exact =>
      rw [test] at accepted
      simpa [Predicate.test] using accepted
  | matching pattern => exact absurd test (faithful equal pattern)
  | never => simp [test, Predicate.test] at accepted

/-- An exact matcher that holds for a record has found its operand there. -/
theorem Faithful.resolve?_eq_of_holds {matcher : Matcher} (faithful : matcher.Faithful)
    (isExact : matcher.isExact = true) {record : Record}
    (holds : matcher.holds record = true) :
    record.resolve? matcher.field = some matcher.value := by
  simp only [Matcher.isExact, Bool.and_eq_true, beq_iff_eq, Bool.not_eq_true'] at isExact
  simp only [Matcher.holds, isExact.2, Bool.false_or, Option.any_eq_true_iff_get] at holds
  obtain ⟨present, accepted⟩ := holds
  rw [← Option.some_get present, faithful.eq_value_of_accepts isExact.1 accepted]

@[simp] theorem prepared_field (matcher : Matcher) :
    matcher.prepared.field = matcher.field := rfl

@[simp] theorem prepared_value (matcher : Matcher) :
    matcher.prepared.value = matcher.value := rfl

@[simp] theorem prepared_predicate (matcher : Matcher) :
    matcher.prepared.predicate = matcher.predicate := rfl

@[simp] theorem prepared_prepared (matcher : Matcher) :
    matcher.prepared.prepared = matcher.prepared := rfl

@[simp] theorem prepared_holds (matcher : Matcher) (record : Record) :
    matcher.prepared.holds record = matcher.holds record := rfl

@[simp] theorem prepared_isExact (matcher : Matcher) :
    matcher.prepared.isExact = matcher.isExact := rfl

@[simp] theorem faithful_prepared {matcher : Matcher} :
    matcher.prepared.Faithful ↔ matcher.Faithful := Iff.rfl

@[simp] theorem prepared_forget (matcher : Matcher) :
    matcher.prepared.forget = matcher.forget := rfl

/-- Judging a record prepares a test at most. -/
@[simp] theorem afterJudging_prepared (matcher : Matcher) (record : Record) :
    (matcher.afterJudging record).1.prepared = matcher.prepared := by
  rw [afterJudging]
  split <;> rfl

end Matcher

namespace Rule

/-- All matchers of a rule are faithful. -/
def Faithful (rule : Rule) : Prop := ∀ matcher ∈ rule.matchers, matcher.Faithful

/-- Whether no matcher of a rule was ever used. -/
def isUnused (rule : Rule) : Bool := rule.matchers.all (·.compiled.isNone)

theorem faithful_of_isUnused {rule : Rule} (unused : rule.isUnused = true) :
    rule.Faithful := by
  simp only [isUnused, List.all_eq_true, Option.isNone_iff_eq_none] at unused
  intro matcher member
  exact Matcher.faithful_of_compiled_eq_none (unused matcher member)

@[simp] theorem isUnused_forget (rule : Rule) : rule.forget.isUnused = true := by
  simp [isUnused, forget, Matcher.forget]

/-- The rule with all its tests prepared. -/
def settled (rule : Rule) : Rule := { rule with matchers := rule.matchers.map Matcher.prepared }

@[simp] theorem settled_id (rule : Rule) : rule.settled.id = rule.id := rfl

@[simp] theorem settled_disabled (rule : Rule) : rule.settled.disabled = rule.disabled := rfl

@[simp] theorem settled_holds (rule : Rule) (record : Record) :
    rule.settled.holds record = rule.holds record := by
  simp [holds, settled, Function.comp_def]

@[simp] theorem settled_forget (rule : Rule) : rule.settled.forget = rule.forget := by
  simp [forget, settled, Function.comp_def]

@[simp] theorem faithful_settled {rule : Rule} : rule.settled.Faithful ↔ rule.Faithful := by
  simp [Faithful, settled]

theorem judgeMatchers_prepared (record : Record) (matchers : List Matcher) :
    (judgeMatchers record matchers).1.map Matcher.prepared = matchers.map Matcher.prepared := by
  induction matchers with
  | nil => rfl
  | cons matcher rest ih =>
      simp only [judgeMatchers]
      split
      · simpa using ih
      · simp

/-- Judging a record leaves the settled rule alone. -/
@[simp] theorem afterJudging_settled (rule : Rule) (record : Record) :
    (rule.afterJudging record).1.settled = rule.settled := by
  rw [afterJudging]
  split
  · rfl
  · simp [settled, judgeMatchers_prepared]

end Rule

/-! ## Lists of rules -/

theorem findIdx?_holds_map_settled (rules : List Rule) (record : Record) :
    (rules.map Rule.settled).findIdx? (·.holds record) = rules.findIdx? (·.holds record) := by
  simp [List.findIdx?_map, Function.comp_def]

theorem any_holds_getElem?_map_settled (rules : List Rule) (record : Record) (position : Nat) :
    ((rules.map Rule.settled)[position]?).any (·.holds record) =
      (rules[position]?).any (·.holds record) := by
  cases stands : rules[position]? <;> simp [stands]

/-- A view of a list is as before where an element was replaced by one that looks the
same. -/
theorem map_set_of_eq {α β : Type} {view : α → β} {list : List α} {position : Nat} {old new : α}
    (held : list[position]? = some old) (same : view new = view old) :
    (list.set position new).map view = list.map view := by
  obtain ⟨inRange, rfl⟩ := List.getElem?_eq_some_iff.mp held
  rw [List.map_set, same, ← List.getElem_map view]
  exact List.set_getElem_self (by simpa using inRange)

/-- Judging by one rule leaves the settled rules alone. -/
theorem map_settled_set_afterJudging {rules : List Rule} {position : Nat} {rule : Rule}
    (stands : rules[position]? = some rule) (record : Record) :
    (rules.set position (rule.afterJudging record).1).map Rule.settled =
      rules.map Rule.settled :=
  map_set_of_eq stands (rule.afterJudging_settled record)

/-- Judging by rules in turn leaves the settled rules alone. -/
theorem map_settled_judgeAt (record : Record) (positions : List Nat) (rules : List Rule) :
    (judgeAt record positions rules).2.1.map Rule.settled = rules.map Rule.settled := by
  induction positions generalizing rules with
  | nil => rfl
  | cons position rest ih =>
      simp only [judgeAt]
      cases stands : rules[position]? with
      | none => exact ih rules
      | some rule =>
          have used := map_settled_set_afterJudging stands record
          by_cases holds : rule.holds record = true
          · simpa [holds] using used
          · simp [holds, ih, used]

/-- Judging by rules in turn finds the first position with a rule that holds. -/
theorem judgeAt_eq_find? (record : Record) (positions : List Nat) (rules : List Rule) :
    (judgeAt record positions rules).1 =
      positions.find? fun position => (rules[position]?).any (·.holds record) := by
  induction positions generalizing rules with
  | nil => rfl
  | cons position rest ih =>
      simp only [judgeAt, List.find?_cons]
      cases stands : rules[position]? with
      | none => simpa using ih rules
      | some rule =>
          by_cases holds : rule.holds record = true
          · simp [holds]
          · simp only [holds, ih, Option.any_some]
            apply congrArg (rest.find? ·)
            funext other
            rw [← any_holds_getElem?_map_settled, map_settled_set_afterJudging stands,
              any_holds_getElem?_map_settled]

end LogSieve
