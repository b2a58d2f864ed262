import LogSieve.Proofs.RuleFormat
import LogSieve.Proofs.Store.HitCounting
import LogSieve.Proofs.Store.Run
import LogSieve.Source.Script

/-!
# Exact hit counts

Every call of a store keeps its snapshot, the memories of its records and the
hits it counted right.  Hence the count that is given for an id is the number of
buffered records that the snapshot gives to a rule with that id, which with faithful
rules is the number that the linear scan gives to it.  There is no count only as long
as no poll has succeeded.
-/

namespace LogSieve.Session

open LogSieve.Store

variable {σ : Type} {before after : Session σ}

/-! ## Every call -/

/-- Snapshot, memories and hits are right. -/
structure Exact (session : Session σ) : Prop where
  sound : Sound session
  counted : Counted session

theorem Exact.of_readStep [LogSource σ] (exact : Exact before) (step : ReadStep before after) :
    Exact after := by
  cases step with
  | refresh =>
      obtain ⟨error, after, ran, failed⟩ | ⟨fresh, middle, ran, answered⟩ := before.refresh_cases
      · rw [ran]
        exact ⟨exact.sound.of_pollFailed failed, exact.counted.of_pollFailed failed⟩
      · rw [ran]
        obtain ⟨sound, counted⟩ := exact.sound.countingFresh exact.counted answered
        exact ⟨sound, counted⟩
  | count =>
      obtain ⟨-, sound, counted, -⟩ := exact.sound.counting exact.counted
      exact ⟨sound, counted⟩
  | note event =>
      obtain ⟨sound, counted⟩ := exact
      exact ⟨⟨sound.built, sound.current, sound.known, sound.fit⟩, counted⟩

theorem Exact.of_reads [LogSource σ] (exact : Exact before) (reads : Reads before after) :
    Exact after := by
  induction reads with
  | refl => exact exact
  | tail _ step ih => exact ih.of_readStep step

/-- Where the store is as it was, all stays right. -/
theorem Exact.of_store_eq (exact : Exact before) (store : after.store = before.store)
    (generations : before.world.generations ≤ after.world.generations) : Exact after := by
  obtain ⟨⟨built, current, known, fit⟩, counted⟩ := exact
  rw [← store] at built current known fit
  refine ⟨⟨built, current.trans generations, ?_, fit⟩, ?_⟩
  · intro entry member memo remembers
    exact (known entry member memo remembers).trans generations
  · rw [Counted]
    rw [store]
    exact counted

/-- Where buffer and hits are as they were and at most tests were prepared, all stays right. -/
theorem Exact.of_watched (exact : Exact before) (watched : Watched before after)
    (buffer : after.store.buffer = before.store.buffer)
    (hits : after.store.hits = before.store.hits) : Exact after := by
  refine ⟨⟨exact.sound.built.of_settled_eq watched.ruleset.symm, ?_, ?_, ?_⟩, ?_⟩
  · rw [Ruleset.generation_of_settled_eq watched.ruleset, watched.world.generations]
    exact exact.sound.current
  · rw [buffer, watched.world.generations]
    exact exact.sound.known
  · rw [buffer]
    intro entry member
    exact (exact.sound.fit entry member).of_settled_eq watched.ruleset.symm
  · rw [Counted]
    rw [hits, buffer]
    intro hits kept current id
    rw [Ruleset.matchesIn_of_settled_eq watched.ruleset]
    exact exact.counted hits kept
      (current.trans (Ruleset.generation_of_settled_eq watched.ruleset)) id

/-- A new snapshot has a generation of its own: no record remembers it. -/
theorem Exact.of_installed {contents : Contents} {nextId : Option UInt64} (exact : Exact before)
    (installed : Installed contents nextId before after) : Exact after := by
  have generation : after.store.ruleset.generation = before.world.generations + 1 := by
    rw [installed.store]
    rfl
  have entries : after.store.buffer.entries = before.store.buffer.entries := by
    rw [installed.store]
  refine ⟨⟨?_, ?_, ?_, ?_⟩, counted_of_hits_eq_none ?_⟩
  · rw [installed.store]
    exact Ruleset.built_build _ _ _
  · rw [generation]
    exact installed.generations
  · intro entry member memo remembers
    rw [entries] at member
    have older := exact.sound.known entry member memo remembers
    exact older.trans ((Nat.le_succ _).trans installed.generations)
  · intro entry member memo remembers current
    rw [entries] at member
    have older := exact.sound.known entry member memo remembers
    -- Every generation a record remembers was given out before this one.
    rw [generation] at current
    omega
  · rw [installed.store]

/-- Every call keeps snapshot, memories and hits right. -/
theorem Exact.of_step [LogSource σ] {call : Call} (exact : Exact before)
    (step : Step call before after) : Exact after := by
  cases step with
  | kept kept => exact exact.of_store_eq kept.store kept.generations
  | committed rules nextId committed => exact exact.of_installed committed.installed
  | written written => exact exact.of_store_eq written.store written.generations
  | loaded contents loaded => exact exact.of_installed loaded.installed
  | read reads _ => exact exact.of_reads reads
  | waited nanoseconds waited =>
      subst waited
      exact exact.of_store_eq rfl (Nat.le_refl _)

/-! ## Faithful rules -/

/-- The rules that a call brings in are faithful. -/
def Call.Faithful : Call → Prop
  | .add rule | .addOrUpdate rule => rule.Faithful
  | _ => True

theorem Call.Faithful.of_supplies {call : Call} (faithful : call.Faithful) {rule : Rule}
    (supplies : call.Supplies rule) : rule.Faithful := by
  cases call with
  | add given | addOrUpdate given =>
      rw [Rule.Faithful, supplies]
      exact faithful
  | classify => exact Rule.faithful_of_isUnused supplies
  | _ => exact supplies.elim

/-- Rules that come from a file were never used. -/
theorem Loaded.isUnused {contents : Contents} (loaded : Loaded contents before after) :
    ∀ rule ∈ contents.rules, rule.isUnused = true := by
  intro rule member
  obtain ⟨bytes, -, read⟩ := loaded.read
  have unprepared := congrArg Contents.rules (Contents.forget_of_decode? read)
  rw [← unprepared] at member
  obtain ⟨other, -, rfl⟩ := List.mem_map.mp member
  exact other.isUnused_forget

/-- Rules that come from a file are faithful. -/
theorem Loaded.faithful {contents : Contents} (loaded : Loaded contents before after) :
    after.store.ruleset.Faithful := by
  rw [loaded.installed.store]
  exact Ruleset.faithful_of_isUnused loaded.isUnused

/-- Calls that bring in faithful rules leave faithful rules. -/
theorem faithful_of_step [LogSource σ] {call : Call} (stored : before.store.ruleset.Faithful)
    (faithful : call.Faithful) (step : Step call before after) :
    after.store.ruleset.Faithful := by
  cases step with
  | kept kept => exact kept.store ▸ stored
  | committed rules nextId committed supplied =>
      rw [committed.installed.store]
      intro rule member
      obtain known | supplies := supplied rule member
      · exact stored rule known
      · exact faithful.of_supplies supplies
  | written written => exact written.store ▸ stored
  | loaded contents loaded => exact loaded.faithful
  | read reads _ => exact stored.of_settled_eq reads.watched.ruleset.symm
  | waited nanoseconds waited =>
      subst waited
      exact stored

/-! ## Polls -/

/-- Whether a poll would succeed now. -/
def pollSucceeds [LogSource σ] (session : Session σ) : Bool :=
  match session.store.source with
  | none => false
  | some source => (Intake.poll.run (session.intake source)).1.isOk

theorem polled_countingFresh (session : Session σ) (fresh : Nat) :
    (session.countingFresh fresh).store.buffer.polled = session.store.buffer.polled := by
  rw [countingFresh]
  split <;> rfl

theorem polled_counting (session : Session σ) :
    session.counting.2.store.buffer.polled = session.store.buffer.polled := by
  rw [counting]
  split <;> rfl

section Polls

variable [LogSource σ]

/-- Taking in records succeeds if the poll does, and then the source has answered. -/
theorem isOk_refresh (session : Session σ) :
    (refresh.run session).1.isOk = session.pollSucceeds ∧
      (refresh.run session).2.store.buffer.polled =
        (session.store.buffer.polled || session.pollSucceeds) := by
  rw [run_refresh, pollSucceeds]
  cases session.store.source with
  | none => exact ⟨rfl, (Bool.or_false _).symm⟩
  | some source =>
      obtain ⟨pause, -, ran⟩ | ⟨error, left, -, -, ran⟩ | ⟨batch, left, -, -, ran⟩ :=
        Intake.poll_cases (session.intake source)
      · simp only [ran]
        exact ⟨rfl, (Bool.or_false _).symm⟩
      · simp only [ran]
        exact ⟨rfl, (Bool.or_false _).symm⟩
      · simp only [ran]
        exact ⟨rfl, (polled_countingFresh _ _).trans (Bool.or_true _).symm⟩

/-- Whether a call polls the source, by whether the source has answered before. -/
def Call.polls (answered : Bool) : Call → Bool
  | .logs | .logCount => true
  | .hitCount _ | .summary _ => !answered
  | _ => false

/-- Whether some poll has succeeded by the end of a run. -/
def answered (session : Session σ) (before : Bool) : List Call → Bool
  | [] => before
  | call :: rest =>
      (call.after session).answered (before || (call.polls before && session.pollSucceeds)) rest

/-- Only reading touches the buffer. -/
theorem buffer_of_step {call : Call} (step : Step call before after)
    (changing : call.isReading = false) : after.store.buffer = before.store.buffer := by
  cases step with
  | kept kept => rw [kept.store]
  | committed rules nextId committed => rw [committed.installed.store]
  | written written => rw [written.store]
  | loaded contents loaded => rw [loaded.installed.store]
  | read reads reading =>
      rw [changing] at reading
      cases reading
  | waited nanoseconds waited => rw [waited]

/-- The buffer knows whether a poll has succeeded. -/
theorem polled_after (call : Call) (session : Session σ) :
    (call.after session).store.buffer.polled =
      (session.store.buffer.polled ||
        (call.polls session.store.buffer.polled && session.pollSucceeds)) := by
  have refreshed := session.isOk_refresh.2
  cases reading : call.isReading with
  | false =>
      have quiet : call.polls session.store.buffer.polled = false := by
        cases call <;> first | rfl | cases reading
      rw [buffer_of_step (call.step session) reading, quiet, Bool.false_and, Bool.or_false]
  | true =>
      cases call with
      | logs =>
          rw [Call.after, run_logs]
          generalize refresh.run session = outcome at refreshed ⊢
          obtain ⟨error | done, after⟩ := outcome <;> simpa [Call.polls] using refreshed
      | logCount =>
          rw [Call.after, run_logCount]
          generalize refresh.run session = outcome at refreshed ⊢
          obtain ⟨error | done, after⟩ := outcome <;> simpa [Call.polls] using refreshed
      | hitCount id =>
          rw [Call.after, run_hitCount]
          cases polled : session.store.buffer.polled with
          | true => simp [polled_counting, polled]
          | false =>
              generalize refresh.run session = outcome at refreshed ⊢
              obtain ⟨error | done, after⟩ := outcome <;>
                simpa [Call.polls, polled_counting, polled] using refreshed
      | summary top =>
          rw [Call.after, run_summary_snd]
          cases polled : session.store.buffer.polled with
          | true => simp [polled_counting, polled]
          | false =>
              generalize refresh.run session = outcome at refreshed ⊢
              obtain ⟨error | done, after⟩ := outcome <;>
                simpa [Call.polls, polled_counting, polled] using refreshed
      | _ => cases reading

theorem polled_afterCalls (calls : List Call) (session : Session σ) :
    (session.afterCalls calls).store.buffer.polled =
      session.answered session.store.buffer.polled calls := by
  induction calls generalizing session with
  | nil => rfl
  | cons call rest ih =>
      rw [answered, ← polled_after, ← ih, afterCalls, List.foldl_cons, afterCalls]

/-! ## Counts -/

/-- A count is given once a poll has succeeded, and is the one of the snapshot. -/
theorem Exact.hitCount_eq {session : Session σ} (exact : Exact session) (id : UInt64) :
    ((hitCount id).run session).1 =
      .ok (if session.store.buffer.polled || session.pollSucceeds then
        (session.store.ruleset.matchesIn ((hitCount id).run session).2.store.buffer.records id : Int)
      else -1) := by
  obtain ⟨succeeds, -⟩ := session.isOk_refresh
  have refreshed := exact.of_readStep (.refresh session)
  have same := session.watched_refresh.ruleset
  rw [run_hitCount]
  cases polled : session.store.buffer.polled with
  | true =>
      obtain ⟨right, -, -, records⟩ := exact.sound.counting exact.counted
      simp only [Bool.true_or, if_true, records, right]
  | false =>
      generalize refresh.run session = outcome at succeeds refreshed same ⊢
      obtain ⟨error | done, after⟩ := outcome
      · rw [← succeeds]
        rfl
      · obtain ⟨right, -, -, records⟩ := refreshed.sound.counting refreshed.counted
        rw [← succeeds]
        change Except.ok (after.counting.1.get id : Int) =
          .ok (session.store.ruleset.matchesIn after.counting.2.store.buffer.records id : Int)
        rw [right, records, Ruleset.matchesIn_of_settled_eq same]

end Polls

/-! ## Runs -/

/-- Sessions from which a run starts: of a new store, or of one that was opened. -/
inductive Started : Session σ → Prop
  | new (path : String) (ignoredLabels : List String) (cooldown : Nat) (source : Option σ)
      (world : World) : Started (create path ignoredLabels cooldown source world)
  | opened {path : String} {ignoredLabels : List String} {cooldown : Nat} {source : Option σ}
      {world : World} {session : Session σ}
      (ran : loadIfThere.run (create path ignoredLabels cooldown source world) =
        (.ok (), session)) : Started session

theorem exact_create (path : String) (ignoredLabels : List String) (cooldown : Nat)
    (source : Option σ) (world : World) :
    Exact (create path ignoredLabels cooldown source world) := by
  refine ⟨⟨Ruleset.built_build _ _ _, Nat.le_refl _, ?_, ?_⟩, counted_of_hits_eq_none rfl⟩
  · intro entry member
    cases member
  · intro entry member
    cases member

/-- A run starts with everything right and without an answer of the source. -/
theorem Started.exact {session : Session σ} (started : Started session) :
    Exact session ∧ session.store.buffer.polled = false := by
  cases started with
  | new path ignoredLabels cooldown source world => exact ⟨exact_create _ _ _ _ _, rfl⟩
  | @opened path ignoredLabels cooldown source world _ ran =>
      have created := exact_create path ignoredLabels cooldown source world
      obtain ⟨contents, loaded⟩ | ⟨-, kept⟩ := loaded_or_missing_of_open ran
      · refine ⟨created.of_installed loaded.installed, ?_⟩
        rw [loaded.installed.store]
        rfl
      · refine ⟨created.of_store_eq kept.store kept.generations, ?_⟩
        rw [kept.store]
        rfl

/-- A run starts with faithful rules. -/
theorem Started.faithful {session : Session σ} (started : Started session) :
    session.store.ruleset.Faithful := by
  cases started with
  | new => exact List.forall_mem_nil _
  | opened ran =>
      obtain ⟨contents, loaded⟩ | ⟨-, kept⟩ := loaded_or_missing_of_open ran
      · exact loaded.faithful
      · rw [kept.store]
        exact List.forall_mem_nil _

/-- Whatever is called, snapshot, memories and hits stay right. -/
theorem exact_afterCalls [LogSource σ] {start : Session σ} (started : Started start)
    (calls : List Call) : Exact (start.afterCalls calls) :=
  afterCalls_induction (fun _ _ _ _ step exact => exact.of_step step) started.exact.1

/-- A run whose calls bring in faithful rules ends with faithful rules. -/
theorem faithful_afterCalls [LogSource σ] {start : Session σ} (started : Started start)
    {calls : List Call} (faithful : ∀ call ∈ calls, call.Faithful) :
    (start.afterCalls calls).store.ruleset.Faithful := by
  have keeps : ∀ call ∈ calls, ∀ before after : Session σ, Step call before after →
      before.store.ruleset.Faithful → after.store.ruleset.Faithful := by
    intro call member before after step stored
    exact faithful_of_step stored (faithful call member) step
  exact afterCalls_induction keeps started.faithful

/-- Hit counts are exact after every run.  The count for an id is the number of buffered
records that the snapshot gives to a rule with that id, which with faithful rules is the
number that the linear scan gives to it; there is none as long as no poll has succeeded,
the one just made included. -/
theorem hitCount_afterCalls [LogSource σ] (start : Session σ) (started : Started start)
    (calls : List Call) (id : UInt64) :
    let ruleset := (start.afterCalls calls).store.ruleset
    let records := ((hitCount id).run (start.afterCalls calls)).2.store.buffer.records
    ((hitCount id).run (start.afterCalls calls)).1 =
        .ok (if start.answered false calls || (start.afterCalls calls).pollSucceeds then
          (ruleset.matchesIn records id : Int)
        else -1) ∧
      (ruleset.Faithful → ruleset.matchesIn records id = ruleset.hitsIn records id) := by
  intro ruleset records
  have exact := exact_afterCalls started calls
  have polled : (start.afterCalls calls).store.buffer.polled = start.answered false calls := by
    rw [polled_afterCalls, started.exact.2]
  constructor
  · rw [exact.hitCount_eq, polled]
  · intro faithful
    exact exact.sound.built.matchesIn_eq_hitsIn faithful records id

/-- A new store whose source answers, fails, and answers again with a record that
is known already. -/
def scriptedSession : Session Script :=
  create "rules.json" [] 0
    (some { outcomes :=
      [.ok [{ Bulk.cronRecord with timestamp := 2 }, { Bulk.cronRecord with timestamp := 1 }],
        .error .sourceMissing,
        .ok [{ Bulk.cronRecord with timestamp := 3 }, { Bulk.cronRecord with timestamp := 2 }]] })
    {}

/-- Hits are counted before there is a rule, with it, and with a further record. -/
def scriptedCalls : List Call :=
  [.hitCount 1, .add (.make true [.equal "source" "cron"]), .hitCount 1, .logs, .logs]

theorem hitCount_afterCalls_scripted :
    Started scriptedSession ∧
      (scriptedSession.afterCalls scriptedCalls).store.ruleset.Faithful ∧
      ((hitCount 1).run (scriptedSession.afterCalls scriptedCalls)).1 = .ok 3 ∧
      (scriptedSession.afterCalls scriptedCalls).store.ruleset.hitsIn
        ((hitCount 1).run (scriptedSession.afterCalls scriptedCalls)).2.store.buffer.records 1 =
          3 := by
  have started : Started scriptedSession := .new _ _ _ _ _
  have faithful : ∀ call ∈ scriptedCalls, call.Faithful := by
    have unused : (Rule.make true [.equal "source" "cron"]).Faithful :=
      Rule.faithful_of_isUnused (by decide)
    simpa [scriptedCalls, Call.Faithful] using unused
  have result : ((hitCount 1).run (scriptedSession.afterCalls scriptedCalls)).1 = .ok 3 := rfl
  have answers : scriptedSession.answered false scriptedCalls = true := by decide +kernel
  have stored := faithful_afterCalls started faithful
  obtain ⟨counted, exact⟩ := hitCount_afterCalls scriptedSession started scriptedCalls 1
  rw [result, answers, Bool.true_or, if_pos rfl, Except.ok.injEq, exact stored] at counted
  exact ⟨started, stored, result, by omega⟩

/-- A new store whose source has one record; the label for the source of records is left out. -/
def retypedStart : Session Script :=
  create "rules.json" ["source"] 0 (some { outcomes := [.ok [Bulk.cronRecord]] }) {}

/-- The store with a rule that is not faithful. -/
def retypedSession : Session Script := retypedStart.afterCalls [.add Bulk.retypedRule]

/-- No hit of that rule is counted, where the linear scan gives it the record. -/
theorem hitCount_retypedSession :
    Started retypedStart ∧ ((hitCount 1).run retypedSession).1 = .ok 0 ∧
      retypedSession.store.ruleset.hitsIn
        ((hitCount 1).run retypedSession).2.store.buffer.records 1 = 1 :=
  ⟨.new _ _ _ _ _, rfl, by decide +kernel⟩

end LogSieve.Session
