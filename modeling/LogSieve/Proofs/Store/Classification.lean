import LogSieve.Proofs.Record
import LogSieve.Proofs.Store.Totals

/-!
# Rules made from records

A record of the buffer is classified by a rule that asks for its message and for its labels.
The rule holds for the record that it was made from, and for the records that have the same
message and labels, however these are found: a label may stand for the message, and a label
without key and value asks for nothing.  As the rule comes last, it decides only what no other
rule decides.
-/

namespace LogSieve

open LogSieve.Store

/-- A matcher for equality asks for its value, or for nothing. -/
theorem Matcher.holds_equal_iff (field value : String) (record : Record) :
    (Matcher.equal field value).holds record = true ↔
      (field = "" ∧ value = "") ∨ record.resolve? field = some value := by
  have placeholder : (Matcher.equal field value).isPlaceholder = true ↔
      field = "" ∧ value = "" := by
    rw [Matcher.isPlaceholder, Bool.and_eq_true, Matcher.equal, String.isEmpty_iff,
      String.isEmpty_iff]
  have accepts : (record.resolve? field).any (Matcher.equal field value).accepts = true ↔
      record.resolve? field = some value := by
    have exact (candidate : String) : (Matcher.equal field value).accepts candidate =
        (candidate == value) := rfl
    cases record.resolve? field with
    | none => simp
    | some text => simp [exact]
  rw [Matcher.holds, Bool.or_eq_true, placeholder]
  exact or_congr_right accepts

/-- What a record must hold for the rule made from another one. -/
structure Record.Resembles (ignoredLabels : List String) (record other : Record) : Prop where
  message : other.resolve? Record.messageField = record.resolve? Record.messageField
  labels : ∀ label ∈ record.labels, label.1 ≠ Record.messageField → label.1 ∉ ignoredLabels →
    ¬(label.1 = "" ∧ label.2 = "") → other.resolve? label.1 = some label.2

namespace Session

variable {σ : Type}

/-- The rule made from a record holds for those that resemble it. -/
theorem holds_ruleFor_iff (ignoredLabels : List String) (record other : Record) (ham : Bool) :
    (ruleFor ignoredLabels record ham).holds other = true ↔
      record.Resembles ignoredLabels other := by
  obtain ⟨text, shown⟩ := record.exists_resolve?_messageField
  have named : ¬(Record.messageField = "" ∧ text = "") := by
    rintro ⟨empty, -⟩
    exact absurd empty (by decide)
  simp only [Rule.holds, ruleFor, Rule.make, shown, Option.getD_some, Bool.not_false,
    Bool.true_and, List.all_cons, Bool.and_eq_true, List.all_map, List.all_eq_true,
    List.mem_filter, Function.comp_apply, Matcher.holds_equal_iff, bne_iff_ne, ne_eq,
    Bool.not_eq_true', List.contains_eq_mem, decide_eq_false_iff_not]
  constructor
  · rintro ⟨message, labels⟩
    constructor
    · rw [shown]
      exact message.resolve_left named
    · intro label member notMessage kept asked
      exact (labels label ⟨member, notMessage, kept⟩).resolve_left asked
  · rintro ⟨message, labels⟩
    constructor
    · right
      rw [message, shown]
    · rintro label ⟨member, notMessage, kept⟩
      exact or_iff_not_imp_left.mpr (labels label member notMessage kept)

theorem resembles_self (ignoredLabels : List String) (record : Record) :
    record.Resembles ignoredLabels record where
  message := rfl
  labels _ member _ _ _ := Record.resolve?_of_mem member

/-- The verdict on a record is the one of the rule that is found for it. -/
theorem verdict_eq_ofRule_finding (session : Session σ) (entry : Entry) :
    session.verdict entry = .ofRule ((session.finding entry).map (·.2)) := by
  have settles (rule : Option Rule) :
      Verdict.ofRule (rule.map Rule.settled) = Verdict.ofRule rule := by
    cases rule with
    | none => rfl
    | some rule => rfl
  rw [verdict, finding, Ruleset.at?, ← settles, Option.map_bind, Option.map_bind]
  simp only [Function.comp_def, Option.map_map]

/-- What is found for a record of the buffer, before a rule comes to the end and after it. -/
theorem finding_of_added {session after : Session σ} (exact : Exact session)
    (stored : session.store.ruleset.Faithful) {rule : Rule} (faithful : rule.Faithful)
    (added : Added rule session after) {entry : Entry}
    (member : entry ∈ session.store.buffer.entries) (holds : rule.holds entry.record = true) :
    after.finding entry = (session.finding entry).or
      (some (session.store.ruleset.rules.length,
        { rule with id := freshId session.store }.settled)) := by
  have recalls := exact.recalls member
  have brought : after.store.ruleset.Faithful := by
    rw [added.installed.store]
    intro other stands
    obtain known | same := mem_withAdded stands
    · exact stored other known
    · rw [Rule.Faithful, same]
      exact faithful
  have later := (recalls.of_installed added.installed).finding_eq
    (exact.of_installed added.installed) brought
  have same : Rule.holds { rule with id := freshId session.store } entry.record = true := holds
  rw [later, recalls.finding_eq exact stored, added.installed.store]
  exact (locate?_append_singleton _ _ _).trans (by rw [if_pos same])

/-- A record that is classified resembles itself, so that the new rule holds for it.  The rule
that is stored is enabled, has the id and the judgement asked for, and holds for the records that
resemble the classified one and for no others.  Where the stored rules are faithful, that record
keeps the rule that it matched, and otherwise matches the new one, which gives it its verdict. -/
theorem finding_of_classify [LogSource σ] {start session after : Session σ}
    (started : Started start) (reached : Reachable start session) {hash id : UInt64} {ham : Bool}
    (classified : (classify hash ham).run session = (.ok id, after)) :
    ∃ entry rule,
      session.store.buffer.entries.find? (·.record.hash == hash) = some entry ∧
      after.store.ruleset.rules = session.store.ruleset.rules ++ [rule] ∧
      rule.id = id ∧ rule.ham = ham ∧ rule.disabled = false ∧
      rule.holds entry.record = true ∧
      (∀ other, rule.holds other = true ↔
        entry.record.Resembles session.store.ignoredLabels other) ∧
      (session.store.ruleset.Faithful →
        after.finding entry = (session.finding entry).or
            (some (session.store.ruleset.rules.length, rule.settled)) ∧
          (session.finding entry = none → after.verdict entry = if ham then .ham else .spam)) := by
  obtain ⟨record, last, ran, found, added⟩ | ⟨error, last, ran, -⟩ :=
    classify_cases hash ham session
  · cases classified.symm.trans ran
    rw [Buffer.find?, Buffer.records, List.find?_map, Option.map_eq_some_iff] at found
    obtain ⟨entry, first, rfl⟩ := found
    have member : entry ∈ session.store.buffer.entries := List.mem_of_find?_eq_some first
    have holds (other : Record) :=
      holds_ruleFor_iff session.store.ignoredLabels entry.record other ham
    have own := (holds entry.record).mpr (resembles_self session.store.ignoredLabels entry.record)
    have unused := isUnused_ruleFor session.store.ignoredLabels entry.record ham
    refine ⟨entry, { ruleFor session.store.ignoredLabels entry.record ham with
      id := freshId session.store }, first, ?_, rfl, rfl, rfl, own, holds, ?_⟩
    · rw [added.installed.store]
      rfl
    · intro stored
      have finds := finding_of_added (reached.exact started) stored
        (Rule.faithful_of_isUnused unused) added member own
      refine ⟨finds, ?_⟩
      intro unmatched
      rw [verdict_eq_ofRule_finding, finds, unmatched]
      rfl
  · cases classified.symm.trans ran

/-- A record whose message is a label, with a label that asks for nothing and one that is left
out. -/
def labelledRecord : Record :=
  .ofLine 1 [("message", "label text"), ("", ""), ("f", "v"), ("host", "h1")]
    "\x7b\"message\":\"body\"\x7d"

/-- A store whose source delivers the record, after it was asked. -/
def labelledStart : Session Script :=
  create "rules.json" ["host"] 0 (some { outcomes := [.ok [labelledRecord]] }) {}

/-- The store with the record in its buffer and a rule that does not hold for it. -/
def labelledSession : Session Script :=
  labelledStart.afterCalls [.add (.make true [.equal "message" "body"]), .logs]

theorem finding_of_classify_labelled :
    Started labelledStart ∧ Reachable labelledStart labelledSession ∧
      labelledSession.store.ruleset.Faithful ∧
      ∃ (after : Session Script) (rule : Rule),
        (classify labelledRecord.hash true).run labelledSession = (.ok 2, after) ∧
          rule.holds labelledRecord = true ∧
          after.finding { record := labelledRecord } = some (1, rule.settled) ∧
          after.verdict { record := labelledRecord } = .ham := by
  have started : Started labelledStart := .new _ _ _ _ _
  have reached : Reachable labelledStart labelledSession :=
    .called (.called .start (.add _)) .logs
  have stored : labelledSession.store.ruleset.Faithful :=
    Ruleset.faithful_of_isUnused (by decide +kernel)
  have entries : labelledSession.store.buffer.entries = [{ record := labelledRecord }] := rfl
  have unmatched : labelledSession.finding { record := labelledRecord } = none := rfl
  have alone : labelledSession.store.ruleset.rules.length = 1 := by decide +kernel
  have answer : ((classify labelledRecord.hash true).run labelledSession).1 = .ok 2 := by
    decide +kernel
  generalize ran : (classify labelledRecord.hash true).run labelledSession = outcome at answer
  obtain ⟨result, after⟩ := outcome
  cases answer
  obtain ⟨entry, rule, first, -, -, -, -, holds, -, later⟩ :=
    finding_of_classify started reached ran
  obtain ⟨finds, verdict⟩ := later stored
  have stands := List.mem_of_find?_eq_some first
  rw [entries, List.mem_singleton] at stands
  subst stands
  rw [unmatched, alone] at finds
  exact ⟨started, reached, stored, after, rule, rfl, holds, finds, verdict unmatched⟩

/-- The store with a rule that is not faithful, and with a record that it is not found for. -/
def retypedBuffer : Session Script := retypedSession.afterCalls [.logs]

/-- The record is classified as one of interest, and afterwards is noise by the old rule: with
the new rule rules are filed by the message, and so the old one is held against the record. -/
theorem finding_of_classify_retyped :
    let entry : Entry := { record := Bulk.cronRecord }
    let outcome := (classify Bulk.cronRecord.hash true).run retypedBuffer
    Started retypedStart ∧ Reachable retypedStart retypedBuffer ∧
      retypedBuffer.store.buffer.entries = [entry] ∧ retypedBuffer.finding entry = none ∧
      outcome.1 = .ok 2 ∧ (outcome.2.finding entry).map (fun found => (found.1, found.2.id)) =
        some (0, 1) ∧
      outcome.2.verdict entry = .spam := by
  have reached : Reachable retypedStart retypedBuffer :=
    .called (.called .start (.add Bulk.retypedRule)) .logs
  exact ⟨.new _ _ _ _ _, reached, rfl, rfl, by decide +kernel, by decide +kernel,
    by decide +kernel⟩

end Session

end LogSieve
