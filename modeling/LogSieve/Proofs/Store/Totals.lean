import LogSieve.Proofs.Store.Stability
import LogSieve.Proofs.Summary

/-!
# Totals over a store

The summary of a store counts every rule once, and every record of the buffer once that matches
some rule.  This holds after any calls, and however the records were judged between them, by the
snapshot of the store or by an earlier one that someone still holds.
-/

namespace LogSieve

open LogSieve.Store

theorem Rule.sourceText_settled (rule : Rule) : rule.settled.sourceText = rule.sourceText := by
  rw [sourceText, sourceText, settled, List.find?_map, Function.comp_def]
  simp only [Matcher.prepared_field]
  cases rule.matchers.find? (·.field == sourceField) <;> rfl

/-- What prepared tests play no part in is the same. -/
theorem Ruleset.map_of_settled_eq {β : Type} {first second : Ruleset}
    (same : first.settled = second.settled) {view : Rule → β}
    (kept : ∀ rule : Rule, view rule.settled = view rule) :
    first.rules.map view = second.rules.map view := by
  have views (rules : List Rule) : (rules.map Rule.settled).map view = rules.map view := by
    simp [kept]
  rw [← views, Ruleset.rules_of_settled_eq same, views]

theorem Ruleset.isSome_match?_of_settled_eq {first second : Ruleset}
    (same : first.settled = second.settled) (record : Record) :
    (first.match? record).isSome = (second.match? record).isSome := by
  have found := congrArg Option.isSome (Ruleset.match?_of_settled_eq same record)
  rwa [Option.isSome_map, Option.isSome_map] at found

namespace Session

variable {σ : Type} {session : Session σ}

/-! ## Verdicts -/

/-- The verdict on a record of the buffer. -/
def verdict (session : Session σ) (entry : Entry) : Verdict :=
  let outcome := session.store.ruleset.judge entry
  .ofRule (outcome.2.1.at? outcome.1)

theorem ofRule_eq_unknown_iff {rule : Option Rule} :
    Verdict.ofRule rule = .unknown ↔ rule = none := by
  cases rule with
  | none => simp [Verdict.ofRule]
  | some rule =>
      rw [Verdict.ofRule]
      split <;> simp

/-- A record has a verdict if the snapshot finds a rule. -/
theorem Sound.verdict_ne_unknown_iff (sound : Sound session) {entry : Entry}
    (member : entry ∈ session.store.buffer.entries) :
    session.verdict entry ≠ .unknown ↔
      (session.store.ruleset.match? entry.record).isSome = true := by
  have same := Ruleset.judge_settled session.store.ruleset entry
  have found := (Ruleset.judge_eq (sound.fit entry member)).1
  rw [ne_eq, verdict, ofRule_eq_unknown_iff, found, ← Ruleset.pick?_of_settled_eq same,
    Ruleset.at?_pick?, ← Ruleset.isSome_match?_of_settled_eq same]
  exact Option.isSome_iff_ne_none.symm

/-- The records with a verdict are those that the snapshot finds a rule for. -/
theorem Sound.countP_verdict (sound : Sound session) :
    session.store.buffer.entries.countP (session.verdict · ≠ .unknown) =
      session.store.buffer.records.countP fun record =>
        (session.store.ruleset.match? record).isSome := by
  rw [Buffer.records, List.countP_map]
  apply List.countP_congr
  intro entry member
  rw [decide_eq_true_iff]
  exact sound.verdict_ne_unknown_iff member

/-! ## Reachable sessions -/

/-- The session with another memory of a record in the buffer. -/
def reminded (session : Session σ) (place : Nat) (entry : Entry) : Session σ :=
  { session with
    store := { session.store with
      buffer := { session.store.buffer with
        entries := session.store.buffer.entries.set place entry } } }

/-- What can come of a session by calls and judgements. -/
inductive Reachable [LogSource σ] (start : Session σ) : Session σ → Prop
  | start : Reachable start start
  | called {session : Session σ} (reached : Reachable start session) (call : Call) :
      Reachable start (call.after session)
  /-- Tests are prepared, by judging other records or through a snapshot that shares rules. -/
  | prepared {session after : Session σ} (reached : Reachable start session)
      (watched : Watched session after) (buffer : after.store.buffer = session.store.buffer)
      (hits : after.store.hits = session.store.hits) : Reachable start after
  /-- A record of the buffer is judged. -/
  | judged {session : Session σ} (reached : Reachable start session) {place : Nat} {entry : Entry}
      (stands : session.store.buffer.entries[place]? = some entry) :
      Reachable start ((session.judged entry).reminded place (session.remembering entry))
  /-- A record of the buffer is judged by an earlier snapshot. -/
  | recalled {session : Session σ} (reached : Reachable start session) {place : Nat}
      {entry : Entry} (stands : session.store.buffer.entries[place]? = some entry) {memo : Memo}
      (earlier : memo.generation < session.store.ruleset.generation) :
      Reachable start (session.reminded place { entry with memo := some memo })

theorem records_reminded {place : Nat} {old entry : Entry}
    (stands : session.store.buffer.entries[place]? = some old)
    (same : entry.record = old.record) :
    (session.reminded place entry).store.buffer.records = session.store.buffer.records := by
  have kept : session.store.buffer.records[place]? = some entry.record := by
    rw [Buffer.records, List.getElem?_map, stands, same]
    rfl
  calc (session.reminded place entry).store.buffer.records
    _ = session.store.buffer.records.set place entry.record := List.map_set
    _ = session.store.buffer.records := by
      obtain ⟨inRange, own⟩ := List.getElem?_eq_some_iff.mp kept
      rw [← own, List.set_getElem_self]

/-- A record may remember what is right, or what belongs to an earlier snapshot. -/
theorem Exact.reminded (exact : Exact session) {place : Nat} {old entry : Entry}
    (stands : session.store.buffer.entries[place]? = some old)
    (same : entry.record = old.record) (recalls : Recalls session entry) :
    Exact (session.reminded place entry) := by
  have records := records_reminded stands same
  refine ⟨⟨exact.sound.built, exact.sound.current, ?_, ?_⟩, ?_⟩
  · intro other member
    obtain old | rfl := List.mem_or_eq_of_mem_set member
    · exact exact.sound.known other old
    · exact recalls.known
  · intro other member
    obtain old | rfl := List.mem_or_eq_of_mem_set member
    · exact exact.sound.fit other old
    · exact recalls.fits
  · rw [Counted]
    rw [records]
    exact exact.counted

variable [LogSource σ]

/-- Whatever happens, snapshot, memories and hits stay right. -/
theorem Reachable.exact {start : Session σ} (reached : Reachable start session)
    (started : Started start) : Exact session := by
  induction reached with
  | start => exact started.exact.1
  | @called session _ call ih => exact ih.of_step (call.step session)
  | prepared _ watched buffer hits ih => exact ih.of_watched watched buffer hits
  | @judged session _ place entry stands ih =>
      have recalls := ih.recalls (List.mem_of_getElem? stands)
      exact (ih.judged entry).reminded stands (Ruleset.judge_record _ _) (recalls.judged ih)
  | @recalled session _ place entry stands memo earlier ih =>
      have recalls : Recalls session { entry with memo := some memo } := by
        constructor
        · rintro _ ⟨⟩ current
          exact absurd current (Nat.ne_of_lt earlier)
        · rintro _ ⟨⟩
          exact (Nat.le_of_lt earlier).trans ih.sound.current
      exact ih.reminded stands rfl recalls

/-! ## The summary -/

theorem exact_asked (exact : Exact session) : Exact session.asked := by
  have refreshed := exact.of_readStep (.refresh session)
  rw [asked]
  split
  · exact exact
  · generalize refresh.run session = outcome at refreshed ⊢
    obtain ⟨error | done, after⟩ := outcome
    · exact refreshed.of_readStep (.note after _)
    · exact refreshed

theorem settled_asked (session : Session σ) :
    session.asked.store.ruleset.settled = session.store.ruleset.settled := by
  have same := session.watched_refresh.ruleset
  rw [asked]
  split
  · rfl
  · generalize refresh.run session = outcome at same ⊢
    obtain ⟨error | done, after⟩ := outcome <;> exact same

/-- A summary with room for every source shares out the rules and the records: it has one entry
for each source, the rules that the entries count are all rules, and their hits are the records of
the buffer afterwards that have a verdict. -/
theorem sum_summary {start : Session σ} (started : Started start)
    (reached : Reachable start session)
    (distinct : (session.store.ruleset.rules.map (·.id)).Nodup) {top : Nat}
    (room : (session.store.ruleset.rules.map Rule.sourceText).dedup.length ≤ top) :
    ∃ entries after, (summary top).run session = (.ok entries, after) ∧
      (entries.map (·.source)).Perm (session.store.ruleset.rules.map Rule.sourceText).dedup ∧
      (entries.map (·.ruleCount)).sum = session.store.ruleset.rules.length ∧
      (entries.map (·.hits)).sum =
        after.store.buffer.entries.countP (after.verdict · ≠ .unknown) := by
  refine ⟨_, _, run_summary top session, ?_⟩
  have same := session.settled_asked
  have exact := exact_asked (reached.exact started)
  have ids := Ruleset.map_of_settled_eq same Rule.settled_id
  have sources := Ruleset.map_of_settled_eq same Rule.sourceText_settled
  rw [← ids] at distinct
  rw [← sources] at room ⊢
  have covers := SourceSummary.covers_ofRules session.asked.counting.1.get room
  obtain ⟨right, sound, -, records⟩ := exact.sound.counting exact.counted
  refine ⟨covers.sources, ?_, ?_⟩
  · rw [covers.ruleCount]
    simpa using congrArg List.length ids
  · have counted := (session.asked.watched_counting).ruleset
    calc _
      _ = (session.asked.store.ruleset.rules.map fun rule =>
            session.asked.store.ruleset.matchesIn session.asked.store.buffer.records
              rule.id).sum := by
        rw [covers.hits]
        simp only [right]
      _ = session.asked.store.buffer.records.countP fun record =>
            (session.asked.store.ruleset.match? record).isSome :=
        Ruleset.sum_matchesIn distinct _
      _ = session.asked.counting.2.store.buffer.records.countP fun record =>
            (session.asked.counting.2.store.ruleset.match? record).isSome := by
        simp only [records, Ruleset.isSome_match?_of_settled_eq counted]
      _ = _ := sound.countP_verdict.symm

/-- A new store whose source delivers two records of one origin and one of another. -/
def sharedStart : Session Script :=
  create "rules.json" [] 0
    (some { outcomes :=
      [.ok [{ Bulk.cronRecord with timestamp := 3, labels := .ofList [("source", "sshd")] },
        { Bulk.cronRecord with timestamp := 2 }, { Bulk.cronRecord with timestamp := 1 }]] })
    {}

/-- The store with two rules for one source, both of which hold, and one for no source. -/
def sharedSession : Session Script :=
  sharedStart.afterCalls
    [.add (.make true [.equal "source" "cron"]),
      .add (.make false [.equal "message" "job", .equal "source" "cron"]),
      .logs, .add (.make false [.equal "message" "done"])]

theorem sum_summary_shared :
    Started sharedStart ∧ Reachable sharedStart sharedSession ∧
      (sharedSession.store.ruleset.rules.map (·.id)).Nodup ∧
      (sharedSession.store.ruleset.rules.map Rule.sourceText).dedup.length ≤ 2 ∧
      ∃ entries after, (summary 2).run sharedSession = (.ok entries, after) ∧
        (entries.map (·.ruleCount)).sum = 3 ∧ (entries.map (·.hits)).sum = 2 := by
  have started : Started sharedStart := .new _ _ _ _ _
  have reached : Reachable sharedStart sharedSession :=
    .called (.called (.called (.called .start (.add _)) (.add _)) .logs) (.add _)
  have distinct : (sharedSession.store.ruleset.rules.map (·.id)).Nodup := by decide +kernel
  have room : (sharedSession.store.ruleset.rules.map Rule.sourceText).dedup.length ≤ 2 := by
    decide +kernel
  obtain ⟨entries, after, ran, -, rules, hits⟩ := sum_summary started reached distinct room
  refine ⟨started, reached, distinct, room, entries, after, ran, rules, ?_⟩
  have afterwards : after = ((summary 2).run sharedSession).2 := by rw [ran]
  rw [hits, afterwards]
  decide +kernel

end Session

end LogSieve
