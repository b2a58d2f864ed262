import LogSieve.Proofs.Durability
import LogSieve.Proofs.Store.Changes
import LogSieve.Source.Script

/-!
# Rules that survive

A process may be stopped at any moment of a call, and with it everything on the machine.
Whatever is left beside the file of the rules, a store that is opened afterwards has the rules
of before the call, or those that the call was about to write; and the latter if the call had
succeeded.  The same holds however often processes were stopped in this way before.
-/

namespace LogSieve

open LogSieve.Store LogSieve.Action

/-! ## Opening a store -/

/-- What the file at a path holds, if it can be read. -/
def Files.contents? (files : Files) (path : String) : Option Contents :=
  (files.read path).toOption.bind Contents.decode?

/-- A store that is opened at a path has the given contents, wherever the records are to come
from; nothing may keep the file from being read. -/
def Files.Yields (files : Files) (path : String) (contents : Contents) : Prop :=
  ∀ (σ : Type) (ignoredLabels : List String) (cooldown : Nat) (source : Option σ) (world : World),
    world.disk.files = files → world.disk.stopped = false →
    (∀ fault ∈ world.disk.faults.take 2, fault = none) →
    ∃ session, Session.loadIfThere.run
        (Session.create path ignoredLabels cooldown source world) = (.ok (), session) ∧
      session.store.ruleset.rules = contents.rules ∧
      session.store.ruleset.version = contents.version

namespace Session

variable {σ : Type}

/-- A store opens with the rules of its file. -/
theorem yields_of_read {files : Files} {path : String} {bytes : ByteArray}
    {contents : Contents} (read : files.read path = .ok bytes)
    (decoded : Contents.decode? bytes = some contents) : files.Yields path contents := by
  intro σ ignoredLabels cooldown source world same working clear
  subst same
  have created : (create path ignoredLabels cooldown source world).world.disk = world.disk := rfl
  have there : world.disk.files.exists? path = .ok true := by
    obtain ⟨location, found, file⟩ := Files.read_eq_ok_iff.mp read
    rw [Files.exists?, found]
    simp [file]
  have asked : world.disk.ask (·.exists? path) = (.ok true, world.disk.asked) := by
    rw [Disk.ask_of_no_fault _ working, there]
    intro fault member
    exact clear fault (by cases faults : world.disk.faults <;> simp_all)
  have answered : world.disk.asked.ask (·.read path) = (.ok bytes, world.disk.asked.asked) := by
    have second : ∀ fault ∈ world.disk.asked.faults.head?, fault = none := by
      intro fault member
      rw [Disk.asked] at member
      exact clear fault (by
        rcases faults : world.disk.faults with _ | ⟨one, _ | ⟨two, rest⟩⟩ <;> simp_all)
    have still : world.disk.asked.stopped = false := working
    rw [Disk.ask_of_no_fault _ still second]
    exact congrArg (·, world.disk.asked.asked) read
  have own : (create path ignoredLabels cooldown source world).store.path = path := rfl
  simp only [loadIfThere, load, run_bind, run_get, run_askFiles, created, own, asked, onDisk,
    answered, decoded, run_buildRuleset, run_note, run_measureRules, run_changeStore]
  exact ⟨_, rfl, rfl, rfl⟩

/-! ## What a call writes -/

/-- What a call is to write to the file of the rules, if anything. -/
def Call.writes? (session : Session σ) : Call → Option Contents
  | .add rule => some (session.changed (session.withAdded rule))
  | .addOrUpdate rule =>
      match session.store.ruleset.position? rule.id, session.store.ruleset.get? rule.id with
      | some position, some current =>
          if current.version = rule.version then
            some (session.changed (session.store.ruleset.rules.set position
              { rule with version := saturatingNext rule.version }))
          else none
      | _, _ => some (session.changed (session.withAdded rule))
  | .delete id =>
      (session.store.ruleset.position? id).map fun position =>
        session.changed (session.store.ruleset.rules.eraseIdx position)
  | .classify hash ham =>
      (session.store.buffer.find? hash).map fun record =>
        session.changed (session.withAdded (ruleFor session.store.ignoredLabels record ham))
  | .save => some ⟨session.store.ruleset.rules, session.store.ruleset.version⟩
  | _ => none

/-- Whether a call that is to change, to write or to read the rules succeeds. -/
def Call.succeeds (session : Session σ) : Call → Bool
  | .add rule => ((Session.add rule).run session).1.isOk
  | .addOrUpdate rule => ((Session.addOrUpdate rule).run session).1.isOk
  | .delete id => ((Session.delete id).run session).1.isOk
  | .classify hash ham => ((Session.classify hash ham).run session).1.isOk
  | .save => (Session.save.run session).1.isOk
  | .load => (Session.load.run session).1.isOk
  | _ => true

/-- Contents were to be written, with success or without.  If that succeeded, the file cannot lose
them, and the memory has them too; if it failed, the file keeps what it cannot lose. -/
inductive Replaced (contents : Contents) (before : Session σ) : Bool → Session σ → Prop
  | fresh {after : Session σ} (safe : after.world.disk.Safe before.store.path contents.encode)
      (memory : after.contents = contents.forget) : Replaced contents before true after
  | kept {after : Session σ}
      (keeps : before.world.disk.Keeps before.store.path after.world.disk) :
      Replaced contents before false after

theorem Replaced.of_eq {contents : Contents} {before middle after : Session σ} {succeeded : Bool}
    (replaced : Replaced contents before succeeded middle) (store : after.store = middle.store)
    (disk : after.world.disk = middle.world.disk) : Replaced contents before succeeded after := by
  cases replaced with
  | fresh safe memory =>
      rw [← disk] at safe
      rw [Session.contents, ← store] at memory
      exact .fresh safe memory
  | kept keeps =>
      rw [← disk] at keeps
      exact .kept keeps

theorem keeps_removeTemporary (path : String) (session : Session σ) :
    ∃ after, (removeTemporary path).run session = (.ok (), after) ∧
      session.world.disk.Keeps path after.world.disk := by
  have cleared : session.world.disk.Keeps path
      (session.world.disk.runAll [.remove (temporaryPath path)]).2 := by
    rw [Disk.runAll_singleton]
    exact session.world.disk.keeps_run_of_aside rfl
  simp only [removeTemporary, run_bind, run_runSteps]
  split <;> exact ⟨_, rfl, cleared⟩

/-- Rules that were written cannot be lost, and a failure to write them loses nothing. -/
theorem safe_persist_cases (ruleset : Ruleset) (before : Session σ) :
    (∃ after, (persist ruleset).run before = (.ok (), after) ∧
      after.world.disk.Safe before.store.path
        (Contents.encode ⟨ruleset.rules, ruleset.version⟩)) ∨
    (∃ error after, (persist ruleset).run before = (.error error, after) ∧
      before.world.disk.Keeps before.store.path after.world.disk) := by
  simp only [persist, run_bind, run_get, run_runSteps]
  generalize Contents.encode ⟨ruleset.rules, ruleset.version⟩ = bytes
  generalize laid : before.world.disk.runAll (writeSteps before.store.path bytes) = beside
  have aside : before.world.disk.Keeps before.store.path beside.2 := by
    rw [← laid]
    exact before.world.disk.keeps_runAll_of_aside fun _ => Disk.aside_of_mem_writeSteps
  cases written : beside.1 with
  | error error =>
      obtain ⟨after, removed, cleared⟩ :=
        keeps_removeTemporary before.store.path (before.onDisk beside.2)
      right
      simp only [run_bind, run_pure, removed, run_throw]
      exact ⟨_, after, rfl, aside.trans cleared⟩
  | ok done =>
      simp only [run_bind, run_runSteps, onDisk_disk, onDisk_onDisk, Disk.runAll_singleton]
      cases renamed : (beside.2.run
          (.rename (temporaryPath before.store.path) before.store.path)).1 with
      | error error =>
          obtain ⟨after, removed, cleared⟩ := keeps_removeTemporary before.store.path
            (before.onDisk (beside.2.run
              (.rename (temporaryPath before.store.path) before.store.path)).2)
          right
          simp only [run_bind, run_pure, removed, run_throw]
          exact ⟨_, after, rfl, aside.trans ((Disk.keeps_rename_of_error renamed).trans cleared)⟩
      | ok done =>
          subst laid
          left
          have given := Disk.ne_empty_of_rename renamed
          exact ⟨_, rfl, (Disk.safe_temporaryPath given written).of_rename renamed⟩

/-- Writing and installing rules replaces their file. -/
theorem replaced_commit (rules : List Rule) (nextId : Option UInt64) (action : String)
    (before : Session σ) :
    Replaced (before.changed rules) before ((commit rules nextId action).run before).1.isOk
      ((commit rules nextId action).run before).2 := by
  have written := safe_persist_cases
    (Ruleset.build rules (saturatingNext before.store.ruleset.version) before.world).1
    { before with world :=
        (Ruleset.build rules (saturatingNext before.store.ruleset.version) before.world).2 }
  simp only [commit, run_bind, run_get, run_buildRuleset, run_tryCatch]
  obtain ⟨after, ran, safe⟩ | ⟨error, after, ran, keeps⟩ := written
  · rw [ran]
    exact .fresh safe rfl
  · rw [ran]
    exact .kept keeps

theorem replaced_addAs (action : String) (rule : Rule) (before : Session σ) :
    Replaced (before.changed (before.withAdded rule)) before
      ((addAs action rule).run before).1.isOk ((addAs action rule).run before).2 := by
  have replaced := replaced_commit (before.withAdded rule)
    (some (saturatingNext (freshId before.store))) action before
  simp only [addAs, run_bind, run_get]
  rw [withAdded] at replaced
  generalize (commit _ _ _).run before = committed at replaced ⊢
  obtain ⟨error | done, after⟩ := committed <;> exact replaced.of_eq rfl rfl

variable [LogSource σ]

/-- A call that has something to write replaces the file by it. -/
theorem Call.replaced {call : Call} {session : Session σ} {contents : Contents}
    (writes : call.writes? session = some contents) :
    Replaced contents session (call.succeeds session) (call.after session) := by
  cases call with
  | add rule =>
      cases writes
      exact replaced_addAs "add" rule session
  | addOrUpdate rule =>
      have added := replaced_addAs "add" rule session
      simp only [Call.succeeds, Call.after, Session.addOrUpdate, run_bind, run_get]
      simp only [Call.writes?] at writes
      cases found : session.store.ruleset.position? rule.id with
      | none =>
          rw [found] at writes
          cases writes
          simp only [run_bind]
          generalize (addAs "add" rule).run session = outcome at added ⊢
          obtain ⟨error | done, after⟩ := outcome <;> exact added
      | some position =>
          obtain ⟨current, stands, first⟩ := get?_of_position?_eq_some found
          simp only [found, first] at writes
          split at writes
          · next same =>
              cases writes
              have replaced := replaced_commit (session.store.ruleset.rules.set position
                { rule with version := saturatingNext rule.version }) none "update" session
              simp only [stands, Option.map_some, Option.getD_some, same, ne_eq, not_true_eq_false,
                if_false, run_bind]
              generalize (commit _ _ _).run session = committed at replaced ⊢
              obtain ⟨error | done, after⟩ := committed
              · exact replaced
              · exact replaced.of_eq rfl rfl
          · cases writes
  | delete id =>
      obtain ⟨position, found, rfl⟩ := Option.map_eq_some_iff.mp writes
      have replaced := replaced_commit (session.store.ruleset.rules.eraseIdx position) none "delete"
        session
      simp only [Call.succeeds, Call.after, Session.delete, run_bind, run_get, found]
      generalize (commit _ _ _).run session = committed at replaced ⊢
      obtain ⟨error | done, after⟩ := committed
      · exact replaced
      · exact replaced.of_eq rfl rfl
  | classify hash ham =>
      obtain ⟨record, found, rfl⟩ := Option.map_eq_some_iff.mp writes
      have added :=
        replaced_addAs "classify" (ruleFor session.store.ignoredLabels record ham) session
      simp only [Call.succeeds, Call.after, Session.classify, run_bind, run_get, found]
      generalize (addAs _ _).run session = outcome at added ⊢
      obtain ⟨error | done, after⟩ := outcome
      · exact added
      · exact added.of_eq rfl rfl
  | save =>
      cases writes
      simp only [Call.succeeds, Call.after, run_save]
      obtain ⟨after, ran, safe⟩ | ⟨error, after, ran, keeps⟩ :=
        safe_persist_cases session.store.ruleset session
      · obtain ⟨other, same, stored⟩ | ⟨path, reason, other, fails, -⟩ :=
          persist_cases session.store.ruleset session
        · cases ran.symm.trans same
          rw [ran]
          refine .fresh safe ?_
          rw [Session.contents, stored.store]
          rfl
        · cases ran.symm.trans fails
      · rw [ran]
        exact .kept keeps
  | _ => cases writes

/-- A call that has nothing to write leaves the files alone. -/
theorem Call.files_of_writes?_eq_none {call : Call} {session : Session σ}
    (writes : call.writes? session = none) :
    (call.after session).world.disk.files = session.world.disk.files ∧
      (call.after session).world.disk.loose = session.world.disk.loose := by
  cases call with
  | add rule => cases writes
  | addOrUpdate rule =>
      simp only [Call.writes?] at writes
      split at writes
      · next position current found first =>
          obtain ⟨other, stands, same⟩ := get?_of_position?_eq_some found
          cases first.symm.trans same
          split at writes
          · cases writes
          · next outdated =>
              simp only [Call.after, Session.addOrUpdate, run_bind, run_get, found, stands,
                Option.map_some, Option.getD_some, ne_eq, outdated, not_false_eq_true, if_true]
              exact ⟨rfl, rfl⟩
      · cases writes
  | delete id =>
      have missing := Option.map_eq_none_iff.mp writes
      simp only [Call.after, Session.delete, run_bind, run_get, missing, run_throw, and_self]
  | classify hash ham =>
      have missing := Option.map_eq_none_iff.mp writes
      simp only [Call.after, Session.classify, run_bind, run_get, missing, run_throw, and_self]
  | save => cases writes
  | load =>
      have asked : ((session.world.disk.ask (·.read session.store.path)).2.files =
            session.world.disk.files) ∧
          (session.world.disk.ask (·.read session.store.path)).2.loose = session.world.disk.loose :=
        ⟨session.world.disk.files_ask _, session.world.disk.loose_ask _⟩
      simp only [Call.after, Session.load, run_bind, run_get, run_askFiles]
      split
      · exact asked
      · split
        · exact asked
        · exact asked
  | logs => simp only [Call.after, (reads_logs session).watched.world.disk, and_self]
  | logCount => simp only [Call.after, (reads_logCount session).watched.world.disk, and_self]
  | hitCount id => simp only [Call.after, (reads_hitCount id session).watched.world.disk, and_self]
  | summary top => simp only [Call.after, (reads_summary top session).watched.world.disk, and_self]
  | wait nanoseconds => exact ⟨rfl, rfl⟩

theorem path_after (call : Call) (session : Session σ) :
    (call.after session).store.path = session.store.path := by
  cases call.step session with
  | kept kept => rw [kept.store]
  | committed rules nextId committed => rw [committed.installed.store]
  | written written => rw [written.store]
  | loaded contents loaded => rw [loaded.installed.store]
  | read reads => exact reads.watched.path
  | waited nanoseconds waited => rw [waited]

end Session

/-- The file at a path has the given contents, and cannot lose them. -/
def Disk.Holds (disk : Disk) (path : String) (contents : Contents) : Prop :=
  ∃ bytes, disk.Safe path bytes ∧ Contents.decode? bytes = some contents

/-- The disk on which everything stops at an access, after some bytes if that is a write. -/
def Disk.stoppingAt (disk : Disk) (access written : Nat) : Disk :=
  { disk with faults := (List.range access).map (disk.faults.getD · none) ++
      [some { error := .busy, written, stops := true }] }

namespace Disk

variable {disk after left : Disk} {path : String} {contents written : Contents}

theorem Holds.contents?_eq (holds : disk.Holds path contents) :
    disk.files.contents? path = some contents := by
  obtain ⟨bytes, safe, read⟩ := holds
  rw [Files.contents?, safe.read_eq]
  exact read

theorem Holds.yields (holds : disk.Holds path contents) : disk.files.Yields path contents := by
  obtain ⟨bytes, safe, read⟩ := holds
  exact Session.yields_of_read safe.read_eq read

theorem Holds.of_keeps (holds : disk.Holds path contents) (keeps : disk.Keeps path after) :
    after.Holds path contents := by
  obtain ⟨bytes, safe, read⟩ := holds
  exact ⟨bytes, keeps bytes safe, read⟩

theorem holds_of_safe_encode (safe : disk.Safe path written.encode) :
    disk.Holds path written.forget :=
  ⟨written.encode, safe, Contents.decode?_encode written⟩

end Disk

namespace Session

variable {σ : Type}

/-! ## Processes that are stopped -/

/-- The session in which everything stops at an access to the disk. -/
def stoppingAt (session : Session σ) (access written : Nat) : Session σ :=
  session.onDisk (session.world.disk.stoppingAt access written)

variable [LogSource σ]

/-- The disk at some moment of a call, which may be that of its end. -/
def Call.Passes (call : Call) (session : Session σ) (moment : Disk) : Prop :=
  ∃ access written, moment = (call.after (session.stoppingAt access written)).world.disk

/-- What can come of a disk while processes work at a path, one after the other: with the
process at work, or without one after the last was stopped.  A process begins with any memory. -/
inductive Reached (path : String) (start : Disk) : Disk → Option (Session σ) → Prop
  | start : Reached path start start none
  | begun {disk : Disk} {session : Session σ} (reached : Reached path start disk none)
      (own : session.store.path = path) (files : session.world.disk.files = disk.files)
      (loose : session.world.disk.loose = disk.loose) :
      Reached path start session.world.disk (some session)
  | called {disk : Disk} {session : Session σ} (reached : Reached path start disk (some session))
      (call : Call) :
      Reached path start (call.after session).world.disk (some (call.after session))
  | stopped {disk moment left : Disk} {session : Session σ}
      (reached : Reached path start disk (some session)) {call : Call}
      (passes : call.Passes session moment) (leaves : moment.Leaves path left) :
      Reached path start left none

variable {disk moment left : Disk} {session : Session σ} {path : String} {contents : Contents}

/-- After a call that succeeded the file has what was to be written; after one that failed, or
that had nothing to write, it has the contents of before. -/
theorem Call.holds_after (call : Call)
    (holds : session.world.disk.Holds session.store.path contents) :
    (∃ written ∈ call.writes? session, call.succeeds session = true ∧
        (call.after session).contents = written.forget ∧
        (call.after session).world.disk.Holds session.store.path written.forget) ∨
      ((call.succeeds session = true → call.writes? session = none) ∧
        (call.after session).world.disk.Holds session.store.path contents) := by
  cases writes : call.writes? session with
  | none =>
      obtain ⟨files, loose⟩ := Call.files_of_writes?_eq_none writes
      exact .inr ⟨fun _ => rfl, holds.of_keeps (Disk.keeps_of_eq files loose)⟩
  | some written =>
      have replaced := Call.replaced writes
      generalize call.succeeds session = succeeded at replaced ⊢
      cases replaced with
      | fresh safe memory =>
          exact .inl ⟨written, rfl, rfl, memory, Disk.holds_of_safe_encode safe⟩
      | kept keeps => exact .inr ⟨by simp, holds.of_keeps keeps⟩

omit [LogSource σ] in
/-- What a call is to write does not depend on where everything stops. -/
theorem Call.writes?_stoppingAt (call : Call) (session : Session σ) (access written : Nat) :
    call.writes? (session.stoppingAt access written) = call.writes? session := by
  cases call <;> rfl

/-- At every moment of a call the file has the contents of before, or those to be written. -/
theorem Call.Passes.holds {call : Call} (passes : call.Passes session moment)
    (holds : session.world.disk.Holds session.store.path contents) :
    moment.Holds session.store.path contents ∨
      ∃ written ∈ call.writes? session, moment.Holds session.store.path written.forget := by
  obtain ⟨access, bytes, rfl⟩ := passes
  have start : (session.stoppingAt access bytes).world.disk.Holds session.store.path contents :=
    holds.of_keeps (Disk.keeps_of_eq rfl rfl)
  obtain ⟨written, writes, -, -, fresh⟩ | ⟨-, still⟩ := Call.holds_after call start
  · rw [Call.writes?_stoppingAt] at writes
    exact .inr ⟨written, writes, fresh⟩
  · exact .inl still

/-- However far things went, the file has some contents that cannot be lost. -/
theorem Reached.holds {start : Disk} {first : Contents} {running : Option (Session σ)}
    (reached : Reached path start disk running) (holds : start.Holds path first) :
    (∃ contents, disk.Holds path contents) ∧
      ∀ session ∈ running, session.store.path = path ∧ session.world.disk = disk := by
  induction reached with
  | start => exact ⟨⟨first, holds⟩, by simp⟩
  | @begun disk session _ own files loose ih =>
      obtain ⟨contents, held⟩ := ih.1
      refine ⟨⟨contents, held.of_keeps (Disk.keeps_of_eq files loose)⟩, ?_⟩
      rintro other ⟨⟩
      exact ⟨own, rfl⟩
  | @called disk session _ call ih =>
      obtain ⟨⟨contents, held⟩, running⟩ := ih
      obtain ⟨rfl, rfl⟩ := running session rfl
      constructor
      · obtain ⟨written, -, -, -, after⟩ | ⟨-, after⟩ := call.holds_after held
        · exact ⟨written.forget, after⟩
        · exact ⟨contents, after⟩
      · rintro other ⟨⟩
        exact ⟨path_after call session, rfl⟩
  | @stopped disk moment left session _ call passes leaves ih =>
      obtain ⟨⟨contents, held⟩, running⟩ := ih
      obtain ⟨rfl, rfl⟩ := running session rfl
      refine ⟨?_, by simp⟩
      obtain still | ⟨written, -, fresh⟩ := passes.holds held
      · exact ⟨contents, still.of_keeps leaves.keeps⟩
      · exact ⟨written.forget, fresh.of_keeps leaves.keeps⟩

/-- A store that is opened after everything stopped has the rules that its file had before the
call at work, or those that the call was writing, whatever is left of the file beside; the
latter if the call had succeeded, and the former if it had failed.  This holds for the calls of
every process, however many were stopped before it at any moment of theirs. -/
theorem yields_after_stop {start : Disk} {first : Contents} (holds : start.Holds path first)
    {running : Option (Session σ)} (reached : Reached path start disk running) :
    ∃ contents, disk.files.contents? path = some contents ∧
      disk.files.Yields path contents ∧
      ∀ session ∈ running, ∀ call : Call,
        (∀ moment left, call.Passes session moment → moment.Leaves path left →
          left.files.Yields path contents ∨
            ∃ written ∈ call.writes? session, left.files.Yields path written.forget) ∧
        (∀ left, (call.after session).world.disk.Leaves path left →
          (call.succeeds session = true → ∀ written ∈ call.writes? session,
            left.files.Yields path written.forget ∧
              (call.after session).contents = written.forget) ∧
          (call.succeeds session = false → left.files.Yields path contents)) := by
  obtain ⟨⟨contents, held⟩, running⟩ := reached.holds holds
  refine ⟨contents, held.contents?_eq, held.yields, ?_⟩
  intro session member call
  obtain ⟨rfl, rfl⟩ := running session member
  constructor
  · intro moment left passes leaves
    obtain still | ⟨written, writes, fresh⟩ := passes.holds held
    · exact .inl (still.of_keeps leaves.keeps).yields
    · exact .inr ⟨written, writes, (fresh.of_keeps leaves.keeps).yields⟩
  · intro left leaves
    obtain ⟨written, writes, succeeded, memory, fresh⟩ | ⟨idle, still⟩ := call.holds_after held
    · constructor
      · intro _ other member
        cases Option.some.inj (writes.symm.trans member)
        exact ⟨(fresh.of_keeps leaves.keeps).yields, memory⟩
      · intro failed
        rw [succeeded] at failed
        cases failed
    · constructor
      · intro succeeded written member
        rw [idle succeeded] at member
        cases member
      · intro _
        exact (still.of_keeps leaves.keeps).yields

/-- A file with two rules, and what some process left beside it. -/
def leftoverDisk : Disk :=
  { files := { nodes := [(["rules.json"], .file "[[[[7],[2]]]]".toUTF8),
      (["rules.json.tmp"], .file "[[".toUTF8)] } }

/-- A process that opened the file. -/
def stoppedSession : Session Script :=
  (loadIfThere.run (create "rules.json" [] 0 none { disk := leftoverDisk })).2

/-- The process was stopped while it added a rule: the file beside has five bytes of the new
rules. -/
def stoppedDisk : Disk := (Call.after (stoppedSession.stoppingAt 1 5) (.add {})).world.disk

/-- What is left then: the file beside has lost these bytes and has another one. -/
def restartedDisk : Disk :=
  { files := stoppedDisk.files.put ["rules.json.tmp"] (.file "?".toUTF8) }

/-- A process that opened the file after that. -/
def restartedSession : Session Script :=
  (loadIfThere.run (create "rules.json" [] 0 none { disk := restartedDisk })).2

theorem yields_after_stop_restarted :
    leftoverDisk.Holds "rules.json" { rules := [{ id := 7 }, { id := 2 }] } ∧
      Reached "rules.json" leftoverDisk restartedSession.world.disk (some restartedSession) ∧
      (Call.delete 7).succeeds restartedSession = true ∧
      ∃ written ∈ (Call.delete 7).writes? restartedSession, written.rules.map (·.id) = [2] ∧
        ((Call.delete 7).after restartedSession).world.disk.files.Yields "rules.json"
          written.forget := by
  have holds : leftoverDisk.Holds "rules.json" { rules := [{ id := 7 }, { id := 2 }] } := by
    refine ⟨"[[[[7],[2]]]]".toUTF8, ⟨["rules.json"], rfl, rfl, by simp [leftoverDisk]⟩, ?_⟩
    rw [Contents.decode?, Json.Tree.parseBytes?, Json.charsOf_toUTF8]
    rfl
  have passes : Call.Passes (.add {}) stoppedSession stoppedDisk := ⟨1, 5, rfl⟩
  have leaves : stoppedDisk.Leaves "rules.json" restartedDisk := Disk.leaves_put rfl rfl _
  have working : Reached "rules.json" leftoverDisk stoppedSession.world.disk
      (some stoppedSession) := by
    apply Reached.begun .start
    · rfl
    · rfl
    · rfl
  have reached : Reached "rules.json" leftoverDisk restartedSession.world.disk
      (some restartedSession) := by
    apply Reached.begun (.stopped working passes leaves)
    · rfl
    · rfl
    · rfl
  have succeeds : (Call.delete 7).succeeds restartedSession = true := by decide +kernel
  have writes : ∃ written ∈ (Call.delete 7).writes? restartedSession,
      written.rules.map (·.id) = [2] := ⟨_, rfl, by decide +kernel⟩
  obtain ⟨written, member, ids⟩ := writes
  obtain ⟨contents, -, -, calls⟩ := yields_after_stop holds reached
  have finished := (calls restartedSession rfl (.delete 7)).2 _ (Disk.leaves_self _ _)
  exact ⟨holds, reached, succeeds, written, member, ids,
    (finished.1 succeeds written member).1⟩

end Session

end LogSieve
