import Mathlib.Logic.Relation
import LogSieve.Proofs.Action
import LogSieve.Proofs.Judgement
import LogSieve.Store.Judging

/-!
# Reading the store

Taking in records, judging them and counting hits leave the rules alone, but for
the tests that judging prepares, and leave the files alone as well.
-/

namespace LogSieve

open LogSieve.Action

/-- Nothing changed but notes and metrics, and time may have passed. -/
structure World.Noted (before after : World) : Prop where
  disk : after.disk = before.disk
  clock : before.clock ≤ after.clock
  generations : after.generations = before.generations

namespace World.Noted

variable {before middle after : World}

theorem refl (world : World) : Noted world world := ⟨rfl, Nat.le_refl _, rfl⟩

theorem trans (first : Noted before middle) (second : Noted middle after) : Noted before after where
  disk := second.disk.trans first.disk
  clock := first.clock.trans second.clock
  generations := second.generations.trans first.generations

theorem noteRefused (world : World) (patterns : List String) :
    Noted world (world.noteRefused patterns) := by
  rw [World.noteRefused]
  induction patterns generalizing world with
  | nil => exact refl world
  | cons pattern rest ih =>
      have first : Noted world (world.note (.patternRefused pattern)) :=
        ⟨rfl, Nat.le_refl _, rfl⟩
      exact first.trans (ih _)

end World.Noted

/-! ## Polling the source -/

namespace Intake

variable {σ : Type} [LogSource σ]

/-- A poll is refused during a pause; otherwise the source is asked, and fails or
answers. -/
theorem poll_cases (intake : Intake σ) :
    (∃ pause, intake.buffer.pause? intake.world.clock = some pause ∧
      poll.run intake =
        (.error (.retryCooldown (.ofNat (Buffer.milliseconds pause))), intake)) ∨
    (∃ error source, intake.buffer.pause? intake.world.clock = none ∧
      LogSource.fetch intake.source intake.buffer.watermark = (.error error, source) ∧
      poll.run intake = (.error error, (intake.afterAnswer source).fail error)) ∨
    (∃ batch source, intake.buffer.pause? intake.world.clock = none ∧
      LogSource.fetch intake.source intake.buffer.watermark = (.ok batch, source) ∧
      poll.run intake =
        (.ok (intake.buffer.trim batch),
          (intake.afterAnswer source).accept (intake.buffer.trim batch))) := by
  simp only [poll, run_bind, run_get]
  cases paused : intake.buffer.pause? intake.world.clock with
  | some pause => exact .inl ⟨pause, rfl, rfl⟩
  | none =>
      rcases answer : LogSource.fetch intake.source intake.buffer.watermark with ⟨outcome, source⟩
      cases outcome with
      | error error => exact .inr (.inl ⟨error, source, rfl, rfl, rfl⟩)
      | ok batch => exact .inr (.inr ⟨batch, source, rfl, rfl, rfl⟩)

theorem noted_afterAnswer (intake : Intake σ) (source : σ) :
    intake.world.Noted (intake.afterAnswer source).world := ⟨rfl, Nat.le_add_right _ _, rfl⟩

theorem noted_fail (intake : Intake σ) (error : TriageError) :
    intake.world.Noted (intake.fail error).world := ⟨rfl, Nat.le_refl _, rfl⟩

omit [LogSource σ] in
theorem noted_accept (intake : Intake σ) (fresh : List Record) :
    intake.world.Noted (intake.accept fresh).world := by
  rw [accept]
  cases fresh <;> exact ⟨rfl, Nat.le_refl _, rfl⟩

end Intake

namespace Session

open LogSieve.Action

variable {σ : Type}

/-- The rules, their place and the next id are as before, but for prepared tests. -/
structure Watched (before after : Session σ) : Prop where
  path : after.store.path = before.store.path
  ignoredLabels : after.store.ignoredLabels = before.store.ignoredLabels
  nextId : after.store.nextId = before.store.nextId
  ruleset : after.store.ruleset.settled = before.store.ruleset.settled
  world : before.world.Noted after.world

namespace Watched

variable {before middle after : Session σ}

theorem refl (session : Session σ) : Watched session session := ⟨rfl, rfl, rfl, rfl, .refl _⟩

theorem trans (first : Watched before middle) (second : Watched middle after) :
    Watched before after where
  path := second.path.trans first.path
  ignoredLabels := second.ignoredLabels.trans first.ignoredLabels
  nextId := second.nextId.trans first.nextId
  ruleset := second.ruleset.trans first.ruleset
  world := first.world.trans second.world

end Watched

/-! ## What the actions come to -/

/-- The first records judged: the rules found, and the session afterwards. -/
def judging (session : Session σ) (count : Nat) : List (Option Rule) × Session σ :=
  let outcome := session.store.ruleset.judgeAll (session.store.buffer.entries.take count)
  (outcome.1, { session with
    store := { session.store with
      ruleset := outcome.2.1
      buffer := { session.store.buffer with
        entries := outcome.2.2.1 ++ session.store.buffer.entries.drop count } }
    world := session.world.noteRefused outcome.2.2.2 })

@[simp] theorem run_judgeFirst (count : Nat) (session : Session σ) :
    (judgeFirst count).run session =
      (.ok (session.judging count).1, (session.judging count).2) := rfl

@[simp] theorem run_judgeBuffer (session : Session σ) :
    judgeBuffer.run session =
      (.ok (session.judging session.store.buffer.entries.length).1,
        (session.judging session.store.buffer.entries.length).2) := rfl

/-- The session with other hits. -/
def withHits (session : Session σ) (hits : Option HitCounts) : Session σ :=
  { session with store := { session.store with hits } }

/-- The hits that were counted under the current snapshot. -/
def currentHits? (session : Session σ) : Option HitCounts :=
  session.store.hits.filter fun hits => hits.generation == session.store.ruleset.generation

@[simp] theorem run_dropOldHits (session : Session σ) :
    dropOldHits.run session = (.ok (), session.withHits session.currentHits?) := rfl

/-- The hits under the current snapshot, and the session afterwards. -/
def counting (session : Session σ) : HitCounts × Session σ :=
  match session.currentHits? with
  | some hits => (hits, session.withHits (some hits))
  | none =>
      let judged := (session.withHits none).judging session.store.buffer.entries.length
      let counts := session.store.ruleset.rules.map fun rule => (rule.id, 0)
      let hits : HitCounts :=
        ⟨session.store.ruleset.generation, HitCounts.addAll counts judged.1⟩
      (hits, judged.2.withHits (some hits))

@[simp] theorem run_currentHits (session : Session σ) :
    currentHits.run session = (.ok session.counting.1, session.counting.2) := by
  simp only [currentHits, run_bind, run_dropOldHits, run_get]
  rw [counting]
  cases current : session.currentHits? with
  | some hits => rfl
  | none => rfl

/-- New records counted where hits are kept. -/
def countingFresh (session : Session σ) (fresh : Nat) : Session σ :=
  match session.currentHits? with
  | none => session.withHits none
  | some hits =>
      let judged := (session.withHits (some hits)).judging fresh
      judged.2.withHits (some { hits with counts := HitCounts.addAll hits.counts judged.1 })

/-- The session after its buffer and source were polled. -/
def taking (session : Session σ) (intake : Intake σ) : Session σ :=
  { session with
    store := { session.store with buffer := intake.buffer, source := some intake.source }
    world := intake.world }

/-- What is polled. -/
def intake (session : Session σ) (source : σ) : Intake σ :=
  ⟨session.store.buffer, source, session.world⟩

/-- Nothing of a store but its buffer and its source was touched. -/
structure Polled (before after : Session σ) : Prop where
  store : after.store = { before.store with
    buffer := after.store.buffer
    source := after.store.source }
  world : before.world.Noted after.world

/-- A poll that failed brought no records. -/
structure PollFailed (before after : Session σ) : Prop extends Polled before after where
  entries : after.store.buffer.entries = before.store.buffer.entries
  polled : after.store.buffer.polled = before.store.buffer.polled

/-- A poll that was answered put the new records before the others. -/
structure PollAnswered (fresh : List Record) (before after : Session σ) : Prop
    extends Polled before after where
  buffer : after.store.buffer = before.store.buffer.accept fresh

/-! ## Reading leaves the rules alone -/

theorem Polled.watched {before after : Session σ} (polled : Polled before after) :
    Watched before after where
  path := by rw [polled.store]
  ignoredLabels := by rw [polled.store]
  nextId := by rw [polled.store]
  ruleset := by rw [polled.store]
  world := polled.world

theorem watched_judging (session : Session σ) (count : Nat) :
    Watched session (session.judging count).2 where
  path := rfl
  ignoredLabels := rfl
  nextId := rfl
  ruleset := Ruleset.judgeAll_settled _ _
  world := .noteRefused _ _

theorem watched_withHits (session : Session σ) (hits : Option HitCounts) :
    Watched session (session.withHits hits) := ⟨rfl, rfl, rfl, rfl, .refl _⟩

theorem watched_counting (session : Session σ) : Watched session session.counting.2 := by
  rw [counting]
  split
  · exact session.watched_withHits _
  · exact (session.watched_withHits none).trans
      ((watched_judging _ _).trans (watched_withHits _ _))

theorem watched_countingFresh (session : Session σ) (fresh : Nat) :
    Watched session (session.countingFresh fresh) := by
  rw [countingFresh]
  split
  · exact session.watched_withHits none
  · next hits _ =>
      exact (session.watched_withHits (some hits)).trans
        ((watched_judging _ _).trans (watched_withHits _ _))

/-! ## Polling and counting -/

variable [LogSource σ]

theorem run_refresh (session : Session σ) :
    refresh.run session =
      match session.store.source with
      | none => (.error .sourceMissing, session)
      | some source =>
          match Intake.poll.run (session.intake source) with
          | (.error error, intake) => (.error error, session.taking intake)
          | (.ok fresh, intake) => (.ok (), (session.taking intake).countingFresh fresh.length) := by
  simp only [refresh, run_bind, run_get]
  cases session.store.source with
  | none => rfl
  | some source =>
      rcases polled : Intake.poll.run (session.intake source) with ⟨outcome, intake⟩
      simp only [Session.intake] at polled ⊢
      simp only [polled, run_bind, run_set, run_ofExcept]
      cases outcome with
      | error error => rfl
      | ok fresh =>
          cases current : (session.taking intake).currentHits? with
          | none =>
              simp only [countingFresh, current]
              rw [taking] at current ⊢
              simp only [run_dropOldHits, run_get, current, withHits]
              rfl
          | some hits =>
              simp only [countingFresh, current]
              rw [taking] at current ⊢
              simp only [run_dropOldHits, run_get, current, withHits]
              rfl

/-- A poll is refused or fails, or new records are taken in and counted. -/
theorem refresh_cases (before : Session σ) :
    (∃ error after, refresh.run before = (.error error, after) ∧
      before.PollFailed after) ∨
    (∃ fresh middle, refresh.run before = (.ok (), middle.countingFresh fresh.length) ∧
      before.PollAnswered fresh middle) := by
  rw [run_refresh]
  cases given : before.store.source with
  | none => exact .inl ⟨_, before, rfl, ⟨rfl, .refl _⟩, rfl, rfl⟩
  | some source =>
      obtain ⟨pause, -, ran⟩ | ⟨error, left, -, -, ran⟩ | ⟨batch, left, -, -, ran⟩ :=
        Intake.poll_cases (before.intake source)
      · simp only [ran]
        exact .inl ⟨_, _, rfl, ⟨rfl, .refl _⟩, rfl, rfl⟩
      · simp only [ran]
        have noted := (Intake.noted_afterAnswer (before.intake source) left).trans
          (Intake.noted_fail _ error)
        exact .inl ⟨_, _, rfl, ⟨rfl, noted⟩, rfl, rfl⟩
      · simp only [ran]
        have noted := (Intake.noted_afterAnswer (before.intake source) left).trans
          (Intake.noted_accept _ (before.store.buffer.trim batch))
        exact .inr ⟨_, _, rfl, ⟨rfl, noted⟩, rfl⟩

theorem watched_refresh (session : Session σ) : Watched session (refresh.run session).2 := by
  obtain ⟨error, after, ran, failed⟩ | ⟨fresh, middle, ran, answered⟩ := session.refresh_cases
  · rw [ran]
    exact failed.watched
  · rw [ran]
    exact answered.watched.trans (middle.watched_countingFresh _)

theorem run_logs (session : Session σ) :
    logs.run session =
      match refresh.run session with
      | (.ok _, after) => (.ok after.store.buffer.records, after)
      | (.error error, after) => (.error error, after) := by
  simp only [logs, run_bind, run_get, run_pure]
  rcases refresh.run session with ⟨_ | _, _⟩ <;> rfl

theorem run_logCount (session : Session σ) :
    logCount.run session =
      match refresh.run session with
      | (.ok _, after) => (.ok (after.store.buffer.entries.length : Int), after)
      | (.error _, after) => (.ok (-1), after) := by
  simp only [logCount, run_tryCatch, run_bind, run_get]
  rcases refresh.run session with ⟨_ | _, _⟩ <;> rfl

theorem run_hitCount (id : UInt64) (session : Session σ) :
    (hitCount id).run session =
      if session.store.buffer.polled then
        (.ok (session.counting.1.get id : Int), session.counting.2)
      else
        match refresh.run session with
        | (.ok _, after) => (.ok (after.counting.1.get id : Int), after.counting.2)
        | (.error _, after) => (.ok (-1), after) := by
  simp only [hitCount, run_tryCatch, run_bind, run_get]
  cases session.store.buffer.polled with
  | true =>
      simp only [reduceIte, run_bind, run_currentHits]
      rfl
  | false =>
      simp only [Bool.false_eq_true, reduceIte, run_bind, run_currentHits]
      rcases refresh.run session with ⟨_ | _, _⟩ <;> rfl

/-- The session from which a summary is made: a source that never answered was asked. -/
def asked (session : Session σ) : Session σ :=
  if session.store.buffer.polled then session
  else
    match refresh.run session with
    | (.ok _, after) => after
    | (.error error, after) =>
        { after with world := after.world.note (.summaryWithoutLogs error) }

theorem run_summary (top : Nat) (session : Session σ) :
    (summary top).run session =
      (.ok (SourceSummary.ofRules session.asked.counting.1.get top
        session.asked.store.ruleset.rules), session.asked.counting.2) := by
  simp only [summary, asked, run_bind, run_get]
  cases session.store.buffer.polled with
  | true =>
      simp only [reduceIte, run_pure, run_bind, run_get, run_currentHits]
  | false =>
      simp only [Bool.false_eq_true, reduceIte, run_bind, run_tryCatch, run_get, run_currentHits]
      rcases refresh.run session with ⟨_ | _, _⟩ <;> simp

theorem run_summary_snd (top : Nat) (session : Session σ) :
    ((summary top).run session).2 =
      if session.store.buffer.polled then session.counting.2
      else
        match refresh.run session with
        | (.ok _, after) => after.counting.2
        | (.error error, after) =>
            Session.counting
              { after with world := after.world.note (.summaryWithoutLogs error) } |>.2 := by
  rw [run_summary, asked]
  split
  · rfl
  · rcases refresh.run session with ⟨_ | _, _⟩ <;> rfl

/-! ## Reading calls -/

/-- The steps of a reading call. -/
inductive ReadStep : Session σ → Session σ → Prop
  | refresh (session : Session σ) : ReadStep session (refresh.run session).2
  | count (session : Session σ) : ReadStep session session.counting.2
  | note (session : Session σ) (event : Event) :
      ReadStep session { session with world := session.world.note event }

/-- Any number of steps of reading calls. -/
abbrev Reads : Session σ → Session σ → Prop := Relation.ReflTransGen ReadStep

theorem reads_logs (session : Session σ) : Reads session (logs.run session).2 := by
  have refreshed := ReadStep.refresh session
  rw [run_logs]
  generalize refresh.run session = outcome at refreshed ⊢
  obtain ⟨error | done, after⟩ := outcome <;> exact .single refreshed

theorem reads_logCount (session : Session σ) : Reads session (logCount.run session).2 := by
  have refreshed := ReadStep.refresh session
  rw [run_logCount]
  generalize refresh.run session = outcome at refreshed ⊢
  obtain ⟨error | done, after⟩ := outcome <;> exact .single refreshed

theorem reads_hitCount (id : UInt64) (session : Session σ) :
    Reads session ((hitCount id).run session).2 := by
  have refreshed := ReadStep.refresh session
  rw [run_hitCount]
  split
  · exact .single (.count session)
  · generalize refresh.run session = outcome at refreshed ⊢
    obtain ⟨error | done, after⟩ := outcome
    · exact .single refreshed
    · exact .tail (.single refreshed) (.count after)

theorem reads_summary (top : Nat) (session : Session σ) :
    Reads session ((summary top).run session).2 := by
  have refreshed := ReadStep.refresh session
  rw [run_summary_snd]
  split
  · exact .single (.count session)
  · generalize refresh.run session = outcome at refreshed ⊢
    obtain ⟨error | done, after⟩ := outcome
    · exact .tail (.tail (.single refreshed) (.note after _)) (.count _)
    · exact .tail (.single refreshed) (.count after)

theorem ReadStep.watched {before after : Session σ} (step : ReadStep before after) :
    Watched before after := by
  cases step with
  | refresh => exact before.watched_refresh
  | count => exact before.watched_counting
  | note event => exact ⟨rfl, rfl, rfl, rfl, rfl, Nat.le_refl _, rfl⟩

theorem Reads.watched {before after : Session σ} (reads : Reads before after) :
    Watched before after := by
  induction reads with
  | refl => exact .refl before
  | tail _ step ih => exact ih.trans step.watched

end Session

end LogSieve
