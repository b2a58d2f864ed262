import LogSieve.Proofs.Store.Changes
import LogSieve.Proofs.Store.ExactHits

/-!
# Judgements that last

Every change of the rules makes a new snapshot with a bulk matcher of its own, whose
buckets may be laid out anew by any field.  Among faithful rules none of this matters:
the match of a record changes only with the rules up to the one that it matched.  A rule
at the end, a rule that goes and a rule replaced further down leave it alone.
-/

namespace LogSieve

open LogSieve.Store

/-! ## The first rule that holds -/

/-- The first rule that holds for a record, with its position and all its tests prepared. -/
def locate? (record : Record) : List Rule → Option (Nat × Rule)
  | [] => none
  | rule :: rest =>
      if rule.holds record then some (0, rule.settled)
      else (locate? record rest).map fun (position, found) => (position + 1, found)

theorem locate?_eq_findIdx? (record : Record) (rules : List Rule) :
    locate? record rules =
      (rules.findIdx? (·.holds record)).bind fun position =>
        rules[position]?.map fun rule => (position, rule.settled) := by
  induction rules with
  | nil => rfl
  | cons rule rest ih =>
      rw [locate?, List.findIdx?_cons]
      split
      · rfl
      · rw [ih]
        cases rest.findIdx? (·.holds record) with
        | none => rfl
        | some position => simp [Function.comp_def]

theorem locate?_map_settled (record : Record) (rules : List Rule) :
    locate? record (rules.map Rule.settled) = locate? record rules := by
  induction rules with
  | nil => rfl
  | cons rule rest ih =>
      have again : rule.settled.settled = rule.settled := by
        simp [Rule.settled, Function.comp_def]
      simp only [List.map_cons, locate?, Rule.settled_holds, again, ih]

/-- A rule at the end counts where no other holds. -/
theorem locate?_append_singleton (record : Record) (rules : List Rule) (rule : Rule) :
    locate? record (rules ++ [rule]) =
      (locate? record rules).or
        (if rule.holds record then some (rules.length, rule.settled) else none) := by
  induction rules with
  | nil =>
      rw [List.nil_append, locate?]
      rfl
  | cons first rest ih =>
      rw [List.cons_append, locate?, locate?, ih]
      split
      · rfl
      · cases locate? record rest with
        | some found => rfl
        | none =>
            simp only [Option.map_none, Option.none_or, List.length_cons]
            split <;> rfl

/-- What stands behind the rule found does not matter. -/
theorem locate?_set_of_lt {record : Record} {rules : List Rule} {found : Nat × Rule}
    (located : locate? record rules = some found) {position : Nat} (behind : found.1 < position)
    (rule : Rule) : locate? record (rules.set position rule) = some found := by
  induction rules generalizing found position with
  | nil => cases located
  | cons first rest ih =>
      cases position with
      | zero => exact absurd behind (Nat.not_lt_zero _)
      | succ position =>
          rw [List.set_cons_succ, locate?]
          rw [locate?] at located
          split at located
          · next holds => rw [if_pos holds, located]
          · next passed =>
              obtain ⟨inner, later, rfl⟩ := Option.map_eq_some_iff.mp located
              rw [if_neg passed, ih later (Nat.lt_of_succ_lt_succ behind)]
              rfl

/-- Without another rule than the one found, the same rule is found. -/
theorem locate?_eraseIdx {record : Record} {rules : List Rule} {position : Nat}
    (other : ∀ found, locate? record rules = some found → found.1 ≠ position) :
    (locate? record (rules.eraseIdx position)).map (·.2) =
      (locate? record rules).map (·.2) := by
  induction rules generalizing position with
  | nil => rfl
  | cons first rest ih =>
      cases position with
      | zero =>
          have passed : ¬first.holds record = true := by
            intro holds
            exact other (0, first.settled) (by rw [locate?, if_pos holds]) rfl
          rw [List.eraseIdx_cons_zero, locate?, if_neg passed, Option.map_map]
          rfl
      | succ position =>
          rw [List.eraseIdx_cons_succ, locate?, locate?]
          split
          · rfl
          · next passed =>
              have otherRest : ∀ found, locate? record rest = some found → found.1 ≠ position := by
                intro found later same
                refine other (found.1 + 1, found.2) ?_ (congrArg (· + 1) same)
                rw [locate?, if_neg passed, later]
                rfl
              rw [Option.map_map, Option.map_map]
              exact ih otherRest

/-! ## What a change makes of the rules -/

/-- The rules that a change leaves, with their tests. -/
inductive Change.Leaves (rules : List Rule) : Change → List Rule → Prop
  | append (rule : Rule) : Leaves rules (.append rule.forget) (rules ++ [rule])
  | replace (rule given : Rule) {position : Nat}
      (placed : rules.findIdx? (·.id == rule.id) = some position) :
      Leaves rules (.replace rule.forget) (rules.set position given)
  | remove (id : UInt64) {position : Nat}
      (placed : rules.findIdx? (·.id == id) = some position) :
      Leaves rules (.remove id) (rules.eraseIdx position)

namespace Session

variable {σ : Type} {before after session : Session σ}

/-- A change that an answer tells of was committed. -/
theorem Call.committed_of_change? [LogSource σ] {call : Call} {change : Change}
    (accepted : call.change? before = some change) :
    ∃ rules nextId, change.Leaves before.store.ruleset.rules rules ∧
      Committed rules nextId before (call.after before) := by
  cases call with
  | add rule =>
      obtain ⟨after, ran, added⟩ | ⟨path, reason, after, ran, -⟩ := addAs_cases "add" rule before
      · simp only [Call.change?, Session.add, ran, Option.some.injEq] at accepted
        rw [← accepted, Call.after, Session.add, ran]
        exact ⟨_, _, .append _, added⟩
      · simp [Call.change?, Session.add, ran] at accepted
  | addOrUpdate rule =>
      obtain ⟨after, ran, -, added⟩ | ⟨position, current, after, ran, placed, -, -, committed⟩ |
        ⟨current, after, ran, -⟩ | ⟨path, reason, after, ran, -⟩ :=
        addOrUpdate_cases rule before
      · simp only [Call.change?, ran, Option.some.injEq] at accepted
        rw [← accepted, Call.after, ran]
        exact ⟨_, _, .append _, added⟩
      · simp only [Call.change?, ran, Option.some.injEq] at accepted
        rw [← accepted, Call.after, ran]
        exact ⟨_, _, .replace rule _ placed, committed⟩
      · simp [Call.change?, ran] at accepted
      · simp [Call.change?, ran] at accepted
  | delete id =>
      obtain ⟨position, after, ran, placed, committed⟩ | ⟨error, after, ran, -⟩ :=
        delete_cases id before
      · simp only [Call.change?, ran, Option.some.injEq] at accepted
        rw [← accepted, Call.after, ran]
        exact ⟨_, _, .remove id placed, committed⟩
      · simp [Call.change?, ran] at accepted
  | classify hash ham =>
      obtain ⟨record, after, ran, found, added⟩ | ⟨error, after, ran, -⟩ :=
        classify_cases hash ham before
      · simp only [Call.change?, ran, found, Option.some.injEq] at accepted
        rw [← accepted, Call.after, ran]
        exact ⟨_, _, .append _, added⟩
      · simp [Call.change?, ran] at accepted
  | _ => cases accepted

/-! ## Records with a memory -/

/-- The session after a record was judged: some tests are prepared. -/
def judged (session : Session σ) (entry : Entry) : Session σ :=
  let outcome := session.store.ruleset.judge entry
  { session with
    store := { session.store with ruleset := outcome.2.1 }
    world := session.world.noteRefused outcome.2.2.2 }

/-- What a record remembers after it was judged. -/
def remembering (session : Session σ) (entry : Entry) : Entry :=
  (session.store.ruleset.judge entry).2.2.1

/-- What judging finds for a record: the rule and its position. -/
def finding (session : Session σ) (entry : Entry) : Option (Nat × Rule) :=
  let outcome := session.store.ruleset.judge entry
  outcome.1.bind fun position =>
    outcome.2.1.rules[position]?.map fun rule => (position, rule.settled)

/-- Records along a run: new ones, those that came in, and those that were judged on the
way. -/
inductive Tracked [LogSource σ] (start : Session σ) : Session σ → Entry → Prop
  | new (record : Record) : Tracked start start { record }
  | buffered {session : Session σ} {entry other : Entry} (tracked : Tracked start session other)
      (member : entry ∈ session.store.buffer.entries) : Tracked start session entry
  | call {session : Session σ} {entry : Entry} (tracked : Tracked start session entry)
      (call : Call) : Tracked start (call.after session) entry
  | judge {session : Session σ} {entry : Entry} (tracked : Tracked start session entry) :
      Tracked start (session.judged entry) (session.remembering entry)

/-- What a record remembers is right, and of no later snapshot. -/
structure Recalls (session : Session σ) (entry : Entry) : Prop where
  fits : entry.Fits session.store.ruleset
  known : ∀ memo, entry.memo = some memo → memo.generation ≤ session.world.generations

theorem watched_judged (session : Session σ) (entry : Entry) :
    Watched session (session.judged entry) where
  path := rfl
  ignoredLabels := rfl
  nextId := rfl
  ruleset := Ruleset.judge_settled _ _
  world := .noteRefused _ _

theorem Exact.judged (exact : Exact session) (entry : Entry) : Exact (session.judged entry) :=
  exact.of_watched (session.watched_judged entry) rfl rfl

namespace Recalls

variable {entry : Entry}

theorem of_store_eq (recalls : Recalls before entry) (store : after.store = before.store)
    (generations : before.world.generations ≤ after.world.generations) :
    Recalls after entry where
  fits := by
    rw [store]
    exact recalls.fits
  known memo remembers := (recalls.known memo remembers).trans generations

theorem of_watched (recalls : Recalls before entry) (watched : Watched before after) :
    Recalls after entry where
  fits := recalls.fits.of_settled_eq watched.ruleset.symm
  known := by
    rw [watched.world.generations]
    exact recalls.known

/-- No record remembers a snapshot that is new. -/
theorem of_installed {contents : Contents} {nextId : Option UInt64}
    (recalls : Recalls before entry) (installed : Installed contents nextId before after) :
    Recalls after entry where
  fits := by
    intro memo remembers current
    have older := recalls.known memo remembers
    have generation : after.store.ruleset.generation = before.world.generations + 1 := by
      rw [installed.store]
      rfl
    omega
  known memo remembers :=
    (recalls.known memo remembers).trans ((Nat.le_succ _).trans installed.generations)

theorem of_step [LogSource σ] {call : Call} (recalls : Recalls before entry)
    (step : Step call before after) : Recalls after entry := by
  cases step with
  | kept kept => exact recalls.of_store_eq kept.store kept.generations
  | committed rules nextId committed => exact recalls.of_installed committed.installed
  | written written => exact recalls.of_store_eq written.store written.generations
  | loaded contents loaded => exact recalls.of_installed loaded.installed
  | read reads _ => exact recalls.of_watched reads.watched
  | waited nanoseconds waited =>
      subst waited
      exact recalls.of_store_eq rfl (Nat.le_refl _)

theorem judged (recalls : Recalls session entry) (exact : Exact session) :
    Recalls (session.judged entry) (session.remembering entry) := by
  rw [remembering, (Ruleset.judge_eq recalls.fits).2]
  apply Recalls.of_watched _ (session.watched_judged entry)
  refine ⟨Ruleset.fits_remembered _ _, ?_⟩
  intro memo remembers
  cases remembers
  exact exact.sound.current

/-- Among faithful rules judging finds the first one that holds. -/
theorem finding_eq (recalls : Recalls session entry) (exact : Exact session)
    (faithful : session.store.ruleset.Faithful) :
    session.finding entry = locate? entry.record session.store.ruleset.rules := by
  have used := (session.watched_judged entry).ruleset
  have built := exact.sound.built.of_settled_eq used.symm
  have position : (session.store.ruleset.judge entry).1 =
      (session.judged entry).store.ruleset.scan entry.record := by
    rw [(Ruleset.judge_eq recalls.fits).1, ← Ruleset.pick?_of_settled_eq used,
      built.pick?_eq_scan (faithful.of_settled_eq used.symm)]
  rw [← locate?_map_settled, ← Ruleset.rules_of_settled_eq used, locate?_map_settled,
    locate?_eq_findIdx?, finding, position]
  rfl

end Recalls

/-- What a record of the buffer remembers is right. -/
theorem Exact.recalls (exact : Exact session) {entry : Entry}
    (member : entry ∈ session.store.buffer.entries) : Recalls session entry :=
  ⟨exact.sound.fit entry member, exact.sound.known entry member⟩

theorem Tracked.exact [LogSource σ] {start : Session σ} {entry : Entry}
    (tracked : Tracked start session entry) (started : Started start) :
    Exact session ∧ Recalls session entry := by
  induction tracked with
  | new record =>
      refine ⟨started.exact.1, Entry.fits_of_memo_eq_none rfl _, ?_⟩
      intro memo remembers
      cases remembers
  | buffered _ member ih => exact ⟨ih.1, ih.1.recalls member⟩
  | @call session _ _ call ih =>
      exact ⟨ih.1.of_step (call.step session), ih.2.of_step (call.step session)⟩
  | judge _ ih => exact ⟨ih.1.judged _, ih.2.judged ih.1⟩

/-! ## Changes between two judgements -/

theorem position?_judged (session : Session σ) (entry : Entry) (id : UInt64) :
    (session.judged entry).store.ruleset.position? id = session.store.ruleset.position? id := by
  have ids (rules : List Rule) : (rules.map Rule.settled).findIdx? (·.id == id) =
      rules.findIdx? (·.id == id) := by
    simp [List.findIdx?_map, Function.comp_def]
  have same := Ruleset.rules_of_settled_eq (session.watched_judged entry).ruleset
  rw [Ruleset.position?, ← ids, same, ids, Ruleset.position?]

theorem length_rules_judged (session : Session σ) (entry : Entry) :
    (session.judged entry).store.ruleset.rules.length = session.store.ruleset.rules.length := by
  have same := Ruleset.rules_of_settled_eq (session.watched_judged entry).ruleset
  simpa using congrArg List.length same

/-- What is found before a change and after it, by the same record. -/
theorem Tracked.finding_of_change? [LogSource σ] {start : Session σ} {entry : Entry}
    (tracked : Tracked start session entry) (started : Started start)
    (stored : session.store.ruleset.Faithful) {call : Call} (faithful : call.Faithful)
    {change : Change}
    (accepted : call.change? (session.judged entry) = some change) :
    ∃ rules, change.Leaves (session.judged entry).store.ruleset.rules rules ∧
      session.finding entry =
        locate? entry.record (session.judged entry).store.ruleset.rules ∧
      (call.after (session.judged entry)).finding (session.remembering entry) =
        locate? entry.record rules := by
  obtain ⟨rules, nextId, leaves, committed⟩ := Call.committed_of_change? accepted
  obtain ⟨exact, recalls⟩ := tracked.exact started
  obtain ⟨exactNow, recallsNow⟩ := tracked.judge.exact started
  have step := call.step (session.judged entry)
  have used := (session.watched_judged entry).ruleset
  have brought := faithful_of_step (stored.of_settled_eq used.symm) faithful step
  refine ⟨rules, leaves, ?_, ?_⟩
  · rw [recalls.finding_eq exact stored, ← locate?_map_settled,
      ← Ruleset.rules_of_settled_eq used, locate?_map_settled]
  · rw [(recallsNow.of_step step).finding_eq (exactNow.of_step step) brought, remembering,
      Ruleset.judge_record, committed.installed.store]
    rfl

/-- The match of a record lasts while rules are faithful.  A rule that is added does not take
a record from another rule; a record without a match gets the new rule or none.  A record
keeps its match when another rule goes, and when a rule further down is replaced. -/
theorem finding_after_change [LogSource σ] {start : Session σ} {entry : Entry}
    (started : Started start) (tracked : Tracked start session entry)
    (stored : session.store.ruleset.Faithful) {call : Call} (faithful : call.Faithful) :
    let before := session.judged entry
    let next := (call.after before).finding (session.remembering entry)
    (∀ rule, call.change? before = some (.append rule) →
      (∀ found, session.finding entry = some found → next = some found) ∧
        (session.finding entry = none → next = none ∨
          ∃ made : Rule, made.forget = rule ∧
            next = some (session.store.ruleset.rules.length, made.settled))) ∧
      (∀ id, call.change? before = some (.remove id) →
        ∃ position, session.store.ruleset.position? id = some position ∧
          ((∀ found, session.finding entry = some found → found.1 ≠ position) →
            next.map (·.2) = (session.finding entry).map (·.2))) ∧
      ∀ rule, call.change? before = some (.replace rule) →
        ∃ position, session.store.ruleset.position? rule.id = some position ∧
          ∀ found, session.finding entry = some found → found.1 < position →
            next = some found := by
  intro before next
  refine ⟨?_, ?_, ?_⟩
  · intro rule accepted
    obtain ⟨rules, leaves, earlier, later⟩ :=
      tracked.finding_of_change? started stored faithful accepted
    cases leaves with
    | append made =>
        rw [locate?_append_singleton, ← earlier, length_rules_judged] at later
        constructor
        · intro found located
          rw [located, Option.some_or] at later
          exact later
        · intro unmatched
          rw [unmatched, Option.none_or] at later
          by_cases holds : made.holds entry.record = true
          · rw [if_pos holds] at later
            exact .inr ⟨made, rfl, later⟩
          · rw [if_neg holds] at later
            exact .inl later
  · intro id accepted
    obtain ⟨rules, leaves, earlier, later⟩ :=
      tracked.finding_of_change? started stored faithful accepted
    cases leaves with
    | @remove _ position placed =>
        refine ⟨position, (position?_judged session entry id).symm.trans placed, ?_⟩
        intro other
        rw [earlier] at other
        rw [earlier, ← locate?_eraseIdx other]
        exact congrArg _ later
  · intro rule accepted
    obtain ⟨rules, leaves, earlier, later⟩ :=
      tracked.finding_of_change? started stored faithful accepted
    cases leaves with
    | @replace old given position placed =>
        refine ⟨position, (position?_judged session entry _).symm.trans placed, ?_⟩
        intro found located behind
        rw [earlier] at located
        exact later.trans (locate?_set_of_lt located behind given)

/-- A new store. -/
def emptySession : Session Script := create "rules.json" [] 0 none {}

/-- The store with a rule for one field. -/
def filedSession : Session Script :=
  emptySession.afterCalls [.add (.make true [.equal "source" "cron"])]

/-- A rule that asks for another field twice, so that rules are filed by that one. -/
def refilingRule : Rule := .make false [.equal "app" "web", .equal "app" "db"]

theorem finding_after_change_refiling :
    Started emptySession ∧ Tracked emptySession filedSession { record := Bulk.cronRecord } ∧
      filedSession.store.ruleset.Faithful ∧ refilingRule.Faithful ∧
      filedSession.store.ruleset.bulk.splitField = some "source" ∧
      (Call.after (filedSession.judged { record := Bulk.cronRecord })
        (.add refilingRule)).store.ruleset.bulk.splitField = some "app" ∧
      ∃ found, filedSession.finding { record := Bulk.cronRecord } = some found ∧
        (Call.after (filedSession.judged { record := Bulk.cronRecord })
          (.add refilingRule)).finding
            (filedSession.remembering { record := Bulk.cronRecord }) = some found := by
  have started : Started emptySession := .new _ _ _ _ _
  have tracked : Tracked emptySession filedSession { record := Bulk.cronRecord } :=
    .call (.new Bulk.cronRecord) (.add (.make true [.equal "source" "cron"]))
  have stored : filedSession.store.ruleset.Faithful :=
    Ruleset.faithful_of_isUnused (by decide +kernel)
  have faithful : Call.Faithful (.add refilingRule) := Rule.faithful_of_isUnused (by decide)
  have accepted : Call.change? (filedSession.judged { record := Bulk.cronRecord })
      (.add refilingRule) = some (.append { refilingRule with id := 2 }) := rfl
  have located : filedSession.finding { record := Bulk.cronRecord } =
      some (0, { Rule.make true [.equal "source" "cron"] with id := 1 }.settled) := rfl
  have lasts := (finding_after_change started tracked stored faithful).1 _ accepted
  exact ⟨started, tracked, stored, faithful, by decide +kernel, by decide +kernel, _, located,
    lasts.1 _ located⟩

/-- A rule that is not faithful holds for a record that matched nothing, once another rule that
does not hold for it has come. -/
theorem finding_of_refiled_retypedRule :
    let entry : Entry := { record := Bulk.cronRecord }
    let before := retypedSession.judged entry
    Started retypedStart ∧ Tracked retypedStart retypedSession entry ∧
      Call.change? before (.add refilingRule) = some (.append { refilingRule with id := 2 }) ∧
      refilingRule.holds Bulk.cronRecord = false ∧
      retypedSession.finding entry = none ∧
      ((Call.after before (.add refilingRule)).finding
        (retypedSession.remembering entry)).map (·.1) = some 0 := by
  have tracked : Tracked retypedStart retypedSession { record := Bulk.cronRecord } :=
    .call (.new Bulk.cronRecord) (.add Bulk.retypedRule)
  exact ⟨.new _ _ _ _ _, tracked, rfl, by decide +kernel, rfl, by decide +kernel⟩

end Session

end LogSieve
