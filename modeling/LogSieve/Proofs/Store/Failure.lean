import LogSieve.Proofs.Store.Changes

/-!
# Calls that fail

A call that fails, or that is refused because it was made from an outdated version,
leaves the store and its file as they were.  Hits are counted from the store and the
clock alone, and ids are given out by the accepted changes alone, so such a call
shows in no later answer either.
-/

namespace LogSieve

open LogSieve.Action LogSieve.Store

/-! ## Hits depend on the store and the clock -/

namespace Intake

variable {σ : Type}

/-- What is polled, in other surroundings. -/
def withWorld (intake : Intake σ) (world : World) : Intake σ := { intake with world }

/-- Of the surroundings a poll sees the clock alone. -/
theorem poll_withWorld [LogSource σ] (intake : Intake σ) {world : World}
    (clock : world.clock = intake.world.clock) :
    (poll.run (intake.withWorld world)).1 = (poll.run intake).1 ∧
      (poll.run (intake.withWorld world)).2.buffer = (poll.run intake).2.buffer ∧
      (poll.run (intake.withWorld world)).2.source = (poll.run intake).2.source := by
  simp only [poll, run_bind, run_get, withWorld, clock]
  cases intake.buffer.pause? intake.world.clock with
  | some pause => exact ⟨rfl, rfl, rfl⟩
  | none =>
      rcases LogSource.fetch intake.source intake.buffer.watermark with ⟨outcome, left⟩
      cases outcome with
      | ok batch => exact ⟨rfl, rfl, rfl⟩
      | error error =>
          simp only [run_bind, run_set, run_throw, fail, afterAnswer, World.advance, clock,
            and_self]

end Intake

namespace Session

variable {σ : Type}

/-- The store in other surroundings. -/
def withWorld (session : Session σ) (world : World) : Session σ := { session with world }

theorem counting_withWorld (session : Session σ) (world : World) :
    (session.withWorld world).counting.1 = session.counting.1 := by
  simp only [counting, currentHits?, withWorld]
  split <;> rfl

theorem countingFresh_withWorld (session : Session σ) (world : World) (fresh : Nat) :
    ((session.withWorld world).countingFresh fresh).store =
      (session.countingFresh fresh).store := by
  simp only [countingFresh, currentHits?, withWorld]
  split <;> rfl

/-- What is taken in does not depend on the surroundings. -/
theorem taking_withWorld (session : Session σ) (world : World) {first second : Intake σ}
    (buffers : second.buffer = first.buffer) (sources : second.source = first.source) :
    (session.withWorld world).taking second = (session.taking first).withWorld second.world := by
  rw [taking, taking, buffers, sources]
  rfl

variable [LogSource σ]

/-- Taking in records depends on the store and the clock alone. -/
theorem refresh_withWorld (session : Session σ) {world : World}
    (clock : world.clock = session.world.clock) :
    (refresh.run (session.withWorld world)).1 = (refresh.run session).1 ∧
      (refresh.run (session.withWorld world)).2.store = (refresh.run session).2.store := by
  have given : (session.withWorld world).store.source = session.store.source := rfl
  rw [run_refresh, run_refresh, given]
  cases session.store.source with
  | none => exact ⟨rfl, rfl⟩
  | some source =>
      have polled := (session.intake source).poll_withWorld clock
      have shown : (session.withWorld world).intake source =
          (session.intake source).withWorld world := rfl
      simp only [shown]
      generalize Intake.poll.run ((session.intake source).withWorld world) = there at polled ⊢
      generalize Intake.poll.run (session.intake source) = here at polled ⊢
      obtain ⟨outcome, left⟩ := here
      obtain ⟨otherOutcome, otherLeft⟩ := there
      obtain ⟨outcomes, buffers, sources⟩ := polled
      cases outcomes
      cases outcome with
      | error error =>
          refine ⟨rfl, ?_⟩
          simp only [session.taking_withWorld world buffers sources]
          rfl
      | ok fresh =>
          refine ⟨rfl, ?_⟩
          simp only [session.taking_withWorld world buffers sources]
          exact countingFresh_withWorld (session.taking left) otherLeft.world fresh.length

/-- The hits that are told depend on the store and the clock alone. -/
theorem hitCount_withWorld (session : Session σ) {world : World}
    (clock : world.clock = session.world.clock) (id : UInt64) :
    ((hitCount id).run (session.withWorld world)).1 = ((hitCount id).run session).1 := by
  have refreshed := session.refresh_withWorld clock
  have polled : (session.withWorld world).store.buffer.polled = session.store.buffer.polled := rfl
  rw [run_hitCount, run_hitCount, polled]
  cases session.store.buffer.polled with
  | true => simp only [reduceIte, counting_withWorld]
  | false =>
      generalize refresh.run (session.withWorld world) = there at refreshed ⊢
      generalize refresh.run session = here at refreshed ⊢
      obtain ⟨outcome, after⟩ := here
      obtain ⟨otherOutcome, otherAfter⟩ := there
      obtain ⟨outcomes, stores⟩ := refreshed
      cases outcomes
      cases outcome with
      | error error => rfl
      | ok done =>
          have moved : otherAfter = after.withWorld otherAfter.world := by
            rw [withWorld, ← stores]
          rw [moved]
          simp only [Bool.false_eq_true, reduceIte, counting_withWorld]

end Session

/-! ## The next id -/

/-- The next id after a change. -/
def Change.counter (nextId : Option UInt64) : Change → Option UInt64
  | .append rule => some (saturatingNext rule.id)
  | .replace _ | .remove _ => nextId

namespace Session

variable {σ : Type}

theorem Effect.nextId_eq {before after : Session σ} {change : Option Change}
    (effect : Effect before after change) :
    after.store.nextId = change.toList.foldl Change.counter before.store.nextId := by
  cases effect with
  | still contents nextId => exact nextId
  | appended rule fresh contents nextId => exact nextId
  | replaced rule current found made contents nextId => exact nextId
  | removed id current found contents nextId => exact nextId

theorem maxId_of_contents_eq {first second : Session σ} (same : first.contents = second.contents) :
    first.store.ruleset.maxId = second.store.ruleset.maxId := by
  have forgets (rules : List Rule) :
      rules.foldl (fun most rule => max most rule.id) (0 : UInt64) =
        (rules.map Rule.forget).foldl (fun most rule => max most rule.id) 0 := by
    rw [List.foldl_map]
    rfl
  have rules : first.store.ruleset.rules.map Rule.forget =
      second.store.ruleset.rules.map Rule.forget := congrArg Contents.rules same
  rw [Ruleset.maxId, Ruleset.maxId, forgets, rules, ← forgets]

/-- The id of an added rule is the fresh one. -/
theorem eq_freshId_of_add {session : Session σ} {rule : Rule} {id : UInt64}
    (added : ((add rule).run session).1 = .ok id) : id = freshId session.store := by
  obtain ⟨after, ran, -⟩ | ⟨path, reason, after, ran, -⟩ := addAs_cases "add" rule session
  · rw [add, ran] at added
    cases added
    rfl
  · rw [add, ran] at added
    cases added

variable [LogSource σ]

theorem nextId_afterCalls (session : Session σ) (calls : List Call)
    (kept : session.unloaded calls = true) :
    (session.afterCalls calls).store.nextId =
      (session.changes calls).foldl Change.counter session.store.nextId := by
  induction calls generalizing session with
  | nil => rfl
  | cons call rest ih =>
      rw [unloaded_cons] at kept
      have first := (call.effect session kept.1).nextId_eq
      calc (session.afterCalls (call :: rest)).store.nextId
        _ = ((call.after session).changes rest).foldl Change.counter
              (call.after session).store.nextId := ih (call.after session) kept.2
        _ = (session.changes (call :: rest)).foldl Change.counter session.store.nextId := by
          rw [first, changes, List.foldl_append]

/-- Stores that are the same give out the same id after the same changes. -/
theorem freshId_afterCalls_congr {first second : Session σ} (store : first.store = second.store)
    {firstCalls secondCalls : List Call} (firstKept : first.unloaded firstCalls = true)
    (secondKept : second.unloaded secondCalls = true)
    (same : first.changes firstCalls = second.changes secondCalls) :
    freshId (first.afterCalls firstCalls).store = freshId (second.afterCalls secondCalls).store := by
  have contents : (first.afterCalls firstCalls).contents =
      (second.afterCalls secondCalls).contents := by
    rw [contents_afterCalls first firstCalls firstKept,
      contents_afterCalls second secondCalls secondKept, same, Session.contents, store,
      Session.contents]
  have nextId : (first.afterCalls firstCalls).store.nextId =
      (second.afterCalls secondCalls).store.nextId := by
    rw [nextId_afterCalls first firstCalls firstKept,
      nextId_afterCalls second secondCalls secondKept, same, store]
  rw [freshId, freshId, nextId, maxId_of_contents_eq contents]

/-! ## Failing calls -/

/-- Whether a call that is to change or to read the rules fails, or is refused as
outdated. -/
def Call.fails (session : Session σ) : Call → Bool
  | .add rule => !((Session.add rule).run session).1.isOk
  | .addOrUpdate rule =>
      match ((Session.addOrUpdate rule).run session).1 with
      | .ok (.added _) | .ok (.updated _ _) => false
      | .ok (.stale _ _) | .error _ => true
  | .delete id => !((Session.delete id).run session).1.isOk
  | .classify hash ham => !((Session.classify hash ham).run session).1.isOk
  | .load => !(Session.load.run session).1.isOk
  | _ => false

/-- A failing call changes nothing but notes, metrics and what stands beside the
file. -/
theorem Call.kept_of_fails {call : Call} {session : Session σ}
    (fails : call.fails session = true) : Kept session (call.after session) := by
  cases call with
  | add rule =>
      obtain ⟨after, ran, -⟩ | ⟨path, reason, after, ran, kept⟩ := addAs_cases "add" rule session
      · rw [Call.fails, Session.add, ran] at fails
        cases fails
      · rw [Call.after, Session.add, ran]
        exact kept
  | addOrUpdate rule =>
      obtain ⟨after, ran, -, -⟩ | ⟨position, current, after, ran, -, -, -, -⟩ |
        ⟨current, after, ran, -, -, kept⟩ | ⟨path, reason, after, ran, -, kept⟩ :=
        addOrUpdate_cases rule session
      · rw [Call.fails, ran] at fails
        cases fails
      · rw [Call.fails, ran] at fails
        cases fails
      · rw [Call.after, ran]
        exact kept
      · rw [Call.after, ran]
        exact kept
  | delete id =>
      obtain ⟨position, after, ran, -, -⟩ | ⟨error, after, ran, kept⟩ := delete_cases id session
      · rw [Call.fails, ran] at fails
        cases fails
      · rw [Call.after, ran]
        exact kept
  | classify hash ham =>
      obtain ⟨record, after, ran, -, -⟩ | ⟨error, after, ran, kept⟩ :=
        classify_cases hash ham session
      · rw [Call.fails, ran] at fails
        cases fails
      · rw [Call.after, ran]
        exact kept
  | load =>
      obtain ⟨contents, after, ran, -⟩ | ⟨error, after, ran, kept⟩ := load_cases session
      · rw [Call.fails, ran] at fails
        cases fails
      · rw [Call.after, ran]
        exact kept
  | _ => cases fails

/-- A call that fails or is outdated changes nothing: not the store with its rules,
their version, the next id and the buffer, not the bytes of its file, and not the
hits that are told.  In particular the next rule that is added gets the id that it
would have got without the call, whatever else fails in either course of events. -/
theorem unchanged_of_fails (before : Session σ) (call : Call)
    (fails : call.fails before = true) :
    (call.after before).store = before.store ∧
      (call.after before).stored = before.stored ∧
      (∀ id, ((hitCount id).run (call.after before)).1 = ((hitCount id).run before).1) ∧
      ∀ (world : World) (later laterWithout : List Call),
        (call.after before).unloaded later = true →
        (before.withWorld world).unloaded laterWithout = true →
        (call.after before).changes later = (before.withWorld world).changes laterWithout →
        ∀ rule id idWithout,
          ((add rule).run ((call.after before).afterCalls later)).1 = .ok id →
          ((add rule).run ((before.withWorld world).afterCalls laterWithout)).1 =
            .ok idWithout → id = idWithout := by
  have kept := call.kept_of_fails fails
  refine ⟨kept.store, kept.stored, ?_, ?_⟩
  · intro id
    have moved : call.after before = before.withWorld (call.after before).world := by
      rw [withWorld, ← kept.store]
    rw [moved]
    exact before.hitCount_withWorld kept.clock id
  · intro world later laterWithout keptLater keptWithout same rule id idWithout added addedWithout
    have store : (call.after before).store = (before.withWorld world).store := kept.store
    rw [eq_freshId_of_add added, eq_freshId_of_add addedWithout]
    exact freshId_afterCalls_congr store keptLater keptWithout same

/-- A rule that cannot be written, since the file beside the rules cannot be made;
afterwards a rule goes and another one comes. -/
theorem unchanged_of_fails_repeated :
    (Call.add {}).fails repeatedSession = true ∧
      (Call.after repeatedSession (.add {})).store = repeatedSession.store ∧
      ((add {}).run ((repeatedSession.withWorld {}).afterCalls [.delete 7])).1 = .ok 8 ∧
      ((add {}).run ((Call.after repeatedSession (.add {})).afterCalls [.delete 7])).1.isOk = true ∧
      ∀ id, ((add {}).run ((Call.after repeatedSession (.add {})).afterCalls [.delete 7])).1 =
        .ok id → id = 8 := by
  have fails : (Call.add {}).fails repeatedSession = true := by decide +kernel
  have without : ((add {}).run ((repeatedSession.withWorld {}).afterCalls [.delete 7])).1 =
      .ok 8 := by decide +kernel
  have deletes : ((delete 7).run (Call.after repeatedSession (.add {}))).1 = .ok () := by
    decide +kernel
  have deletesWithout : ((delete 7).run (repeatedSession.withWorld {})).1 = .ok () := by
    decide +kernel
  have same : (Call.after repeatedSession (.add {})).changes [.delete 7] =
      (repeatedSession.withWorld {}).changes [.delete 7] := by
    simp only [changes, Call.change?, deletes, deletesWithout]
  obtain ⟨store, -, -, next⟩ := unchanged_of_fails repeatedSession (.add {}) fails
  refine ⟨fails, store, without, by decide +kernel, ?_⟩
  intro id added
  exact next {} [.delete 7] [.delete 7] rfl rfl same {} id 8 added without

end Session

end LogSieve
