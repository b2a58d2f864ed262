import LogSieve.Proofs.BulkMatching
import LogSieve.Ruleset

/-!
# Judging by a snapshot

A snapshot judges a record by the candidates of its bulk matcher.  A record may
remember the outcome; the memory counts for the snapshot of its own generation
only, and there it is right.  Judging prepares tests and leaves the settled
snapshot alone, so that what was remembered stays right.  Where all rules are
faithful, what a snapshot finds is what the linear scan over its rules finds.
-/

namespace LogSieve

namespace Ruleset

/-- The snapshot with all its tests prepared. -/
def settled (ruleset : Ruleset) : Ruleset :=
  { ruleset with rules := ruleset.rules.map Rule.settled }

/-- A snapshot has the bulk matcher of its rules. -/
def Built (ruleset : Ruleset) : Prop := ruleset.bulk = Bulk.build ruleset.rules

/-- All rules of a snapshot are faithful. -/
def Faithful (ruleset : Ruleset) : Prop := ∀ rule ∈ ruleset.rules, rule.Faithful

theorem faithful_of_isUnused {ruleset : Ruleset}
    (unused : ∀ rule ∈ ruleset.rules, rule.isUnused = true) : ruleset.Faithful :=
  fun rule member => Rule.faithful_of_isUnused (unused rule member)

/-- The position of the first candidate that holds for a record. -/
def pick? (ruleset : Ruleset) (record : Record) : Option Nat :=
  ruleset.bulk.position? ruleset.rules record

/-- The first candidate that holds for a record. -/
def match? (ruleset : Ruleset) (record : Record) : Option Rule :=
  ruleset.bulk.match? ruleset.rules record

/-- The first position where a rule holds. -/
def scan (ruleset : Ruleset) (record : Record) : Option Nat :=
  ruleset.rules.findIdx? (·.holds record)

theorem built_build (rules : List Rule) (version : UInt64) (world : World) :
    (build rules version world).1.Built := rfl

theorem at?_pick? (ruleset : Ruleset) (record : Record) :
    ruleset.at? (ruleset.pick? record) = ruleset.match? record := rfl

theorem at?_scan (ruleset : Ruleset) (record : Record) :
    ruleset.at? (ruleset.scan record) = firstMatch? ruleset.rules record :=
  (firstMatch?_eq_getElem? ruleset.rules record).symm

/-- A snapshot of faithful rules finds the first position where a rule holds. -/
theorem Built.pick?_eq_scan {ruleset : Ruleset} (built : ruleset.Built)
    (faithful : ruleset.Faithful) (record : Record) :
    ruleset.pick? record = ruleset.scan record := by
  rw [pick?, built, Bulk.position?_build _ _ faithful, scan]

theorem Built.match?_eq_firstMatch? {ruleset : Ruleset} (built : ruleset.Built)
    (faithful : ruleset.Faithful) (record : Record) :
    ruleset.match? record = firstMatch? ruleset.rules record := by
  rw [← at?_pick?, built.pick?_eq_scan faithful, at?_scan]

section Settled

variable {first second : Ruleset}

theorem rules_of_settled_eq (same : first.settled = second.settled) :
    first.rules.map Rule.settled = second.rules.map Rule.settled :=
  congrArg Ruleset.rules same

theorem version_of_settled_eq (same : first.settled = second.settled) :
    first.version = second.version := by
  have versions := congrArg Ruleset.version same
  exact versions

theorem generation_of_settled_eq (same : first.settled = second.settled) :
    first.generation = second.generation := by
  have generations := congrArg Ruleset.generation same
  exact generations

theorem bulk_of_settled_eq (same : first.settled = second.settled) :
    first.bulk = second.bulk := by
  have bulks := congrArg Ruleset.bulk same
  exact bulks

theorem pick?_of_settled_eq (same : first.settled = second.settled) (record : Record) :
    first.pick? record = second.pick? record := by
  rw [pick?, pick?, Bulk.position?, Bulk.position?, bulk_of_settled_eq same]
  apply congrArg (List.find? · _)
  funext position
  rw [← any_holds_getElem?_map_settled, rules_of_settled_eq same, any_holds_getElem?_map_settled]

theorem Built.of_settled_eq (built : first.Built) (same : first.settled = second.settled) :
    second.Built := calc
  second.bulk = first.bulk := (bulk_of_settled_eq same).symm
  _ = Bulk.build first.rules := built
  _ = Bulk.build second.rules := by
    rw [← Bulk.build_map_settled, rules_of_settled_eq same, Bulk.build_map_settled]

theorem Faithful.of_settled_eq (faithful : first.Faithful)
    (same : first.settled = second.settled) : second.Faithful := by
  intro rule member
  have settled : rule.settled ∈ first.rules.map Rule.settled := by
    rw [rules_of_settled_eq same]
    exact List.mem_map_of_mem member
  obtain ⟨other, known, eq⟩ := List.mem_map.mp settled
  rw [← Rule.faithful_settled, ← eq, Rule.faithful_settled]
  exact faithful other known

end Settled

end Ruleset

/-- What a record remembers of a snapshot is what the snapshot finds for it. -/
def Entry.Fits (entry : Entry) (ruleset : Ruleset) : Prop :=
  ∀ memo, entry.memo = some memo → memo.generation = ruleset.generation →
    memo.position = ruleset.pick? entry.record

theorem Entry.Fits.of_settled_eq {entry : Entry} {first second : Ruleset}
    (fits : entry.Fits first) (same : first.settled = second.settled) : entry.Fits second := by
  intro memo remembers current
  rw [← Ruleset.pick?_of_settled_eq same]
  exact fits memo remembers (current.trans (Ruleset.generation_of_settled_eq same).symm)

theorem Entry.fits_of_memo_eq_none {entry : Entry} (forgets : entry.memo = none)
    (ruleset : Ruleset) : entry.Fits ruleset := by
  intro memo remembers
  rw [forgets] at remembers
  cases remembers

namespace Ruleset

/-- A record with what a snapshot finds for it. -/
def remembered (ruleset : Ruleset) (record : Record) : Entry :=
  { record, memo := some ⟨ruleset.generation, ruleset.pick? record⟩ }

theorem fits_remembered (ruleset : Ruleset) (record : Record) :
    (ruleset.remembered record).Fits ruleset := by
  intro memo remembers _
  cases remembers
  rfl

theorem remembered_of_settled_eq {first second : Ruleset} (same : first.settled = second.settled)
    (record : Record) : first.remembered record = second.remembered record := by
  rw [remembered, generation_of_settled_eq same, pick?_of_settled_eq same, remembered]

/-! ## Judging one record -/

theorem judgeAnew_settled (ruleset : Ruleset) (entry : Entry) :
    (ruleset.judgeAnew entry).2.1.settled = ruleset.settled := by
  simp only [judgeAnew, settled]
  rw [map_settled_judgeAt]

theorem judge_settled (ruleset : Ruleset) (entry : Entry) :
    (ruleset.judge entry).2.1.settled = ruleset.settled := by
  rw [judge]
  split
  · split
    · rfl
    · exact judgeAnew_settled ruleset entry
  · exact judgeAnew_settled ruleset entry

theorem judge_record (ruleset : Ruleset) (entry : Entry) :
    (ruleset.judge entry).2.2.1.record = entry.record := by
  rw [judge]
  split
  · split <;> rfl
  · rfl

variable {ruleset : Ruleset} {entry : Entry}

theorem judgeAnew_eq (ruleset : Ruleset) (entry : Entry) :
    (ruleset.judgeAnew entry).1 = ruleset.pick? entry.record ∧
      (ruleset.judgeAnew entry).2.2.1 = ruleset.remembered entry.record := by
  have found : (judgeAt entry.record (ruleset.bulk.candidates entry.record) ruleset.rules).1 =
      ruleset.pick? entry.record := judgeAt_eq_find? _ _ _
  exact ⟨found, by simp [judgeAnew, found, remembered]⟩

/-- A record is judged by the candidates, whatever it remembers, and then remembers the
outcome. -/
theorem judge_eq (fits : entry.Fits ruleset) :
    (ruleset.judge entry).1 = ruleset.pick? entry.record ∧
      (ruleset.judge entry).2.2.1 = ruleset.remembered entry.record := by
  rw [judge]
  split
  · next memo remembers =>
      split
      · next current =>
          have right := fits memo remembers current
          refine ⟨right, ?_⟩
          obtain ⟨record, memory⟩ := entry
          cases remembers
          rw [remembered, ← current, ← right]
      · exact judgeAnew_eq ruleset entry
  · exact judgeAnew_eq ruleset entry

/-- The rule at a position is the same once all tests are prepared. -/
theorem at?_of_settled_eq {first second : Ruleset} (same : first.settled = second.settled)
    (position : Option Nat) :
    (first.at? position).map Rule.settled = (second.at? position).map Rule.settled := by
  cases position with
  | none => rfl
  | some position =>
      simp only [at?, Option.bind_some, ← List.getElem?_map, rules_of_settled_eq same]

theorem match?_of_settled_eq {first second : Ruleset} (same : first.settled = second.settled)
    (record : Record) :
    (first.match? record).map Rule.settled = (second.match? record).map Rule.settled := by
  rw [← at?_pick?, ← at?_pick?, pick?_of_settled_eq same, at?_of_settled_eq same]

/-! ## Judging records in turn -/

theorem judgeAll_settled (ruleset : Ruleset) (entries : List Entry) :
    (ruleset.judgeAll entries).2.1.settled = ruleset.settled := by
  induction entries generalizing ruleset with
  | nil => rfl
  | cons entry rest ih => exact (ih _).trans (judge_settled ruleset entry)

theorem judgeAll_records (ruleset : Ruleset) (entries : List Entry) :
    (ruleset.judgeAll entries).2.2.1.map (·.record) = entries.map (·.record) := by
  induction entries generalizing ruleset with
  | nil => rfl
  | cons entry rest ih => simp [judgeAll, ih, judge_record]

/-- Records are judged by the candidates, whatever they remember, and then remember the
outcomes. -/
theorem judgeAll_eq {entries : List Entry} (fit : ∀ entry ∈ entries, entry.Fits ruleset) :
    (ruleset.judgeAll entries).1.map (Option.map Rule.settled) =
        entries.map (fun entry => (ruleset.match? entry.record).map Rule.settled) ∧
      (ruleset.judgeAll entries).2.2.1 = entries.map (ruleset.remembered ·.record) := by
  induction entries generalizing ruleset with
  | nil => exact ⟨rfl, rfl⟩
  | cons entry rest ih =>
      have same := judge_settled ruleset entry
      obtain ⟨position, judged⟩ := judge_eq (fit entry (by simp))
      have restFit : ∀ other ∈ rest, other.Fits (ruleset.judge entry).2.1 := by
        intro other member
        exact (fit other (List.mem_cons_of_mem _ member)).of_settled_eq same.symm
      obtain ⟨found, entries⟩ := ih restFit
      have first : ((ruleset.judge entry).2.1.at? (ruleset.judge entry).1).map Rule.settled =
          (ruleset.match? entry.record).map Rule.settled := by
        rw [at?_of_settled_eq same, position, at?_pick?]
      constructor
      · simp only [judgeAll, List.map_cons, first, found, match?_of_settled_eq same]
      · simp only [judgeAll, List.map_cons, judged, entries, remembered_of_settled_eq same]

end Ruleset

end LogSieve
