import LogSieve.Proofs.Action
import LogSieve.Proofs.Replacement

/-!
# Writing and installing rules

What the actions on the file of the rules do, one statement for each.  Writing
either puts the rules into their file or keeps what was there.  Installing rules
either changes the file and the memory together or neither of them.
-/

namespace LogSieve.Session

open LogSieve.Store LogSieve.Action

variable {σ : Type}

/-- What the file of the rules holds. -/
def stored (session : Session σ) : Except FileError ByteArray :=
  session.world.disk.files.read session.store.path

/-- Nothing changed but notes, metrics and what stands beside the file. -/
structure Kept (before after : Session σ) : Prop where
  store : after.store = before.store
  stored : after.stored = before.stored
  clock : after.world.clock = before.world.clock
  generations : before.world.generations ≤ after.world.generations

namespace Kept

variable {before middle after : Session σ}

theorem refl (session : Session σ) : Kept session session := ⟨rfl, rfl, rfl, Nat.le_refl _⟩

theorem trans (first : Kept before middle) (second : Kept middle after) : Kept before after where
  store := second.store.trans first.store
  stored := second.stored.trans first.stored
  clock := second.clock.trans first.clock
  generations := Nat.le_trans first.generations second.generations

theorem note (session : Session σ) (event : Event) :
    Kept session { session with world := session.world.note event } :=
  ⟨rfl, rfl, rfl, Nat.le_refl _⟩

theorem count (session : Session σ) (counter : Counter) (amount : Nat) :
    Kept session { session with world := session.world.count counter amount } :=
  ⟨rfl, rfl, rfl, Nat.le_refl _⟩

end Kept

/-! ## Steps on the files -/

/-- The session after steps on its files. -/
def onDisk (session : Session σ) (disk : Disk) : Session σ :=
  { session with world := { session.world with disk } }

@[simp] theorem onDisk_disk (session : Session σ) (disk : Disk) :
    (session.onDisk disk).world.disk = disk := rfl

@[simp] theorem onDisk_onDisk (session : Session σ) (first second : Disk) :
    (session.onDisk first).onDisk second = session.onDisk second := rfl

@[simp] theorem run_runSteps (steps : List FileStep) (session : Session σ) :
    (runSteps steps).run session =
      (.ok (session.world.disk.runAll steps).1,
        session.onDisk (session.world.disk.runAll steps).2) := rfl

theorem kept_onDisk (session : Session σ) {disk : Disk}
    (same : disk.files.read session.store.path = session.stored) :
    Kept session (session.onDisk disk) :=
  ⟨rfl, same, rfl, Nat.le_refl _⟩

theorem removeTemporary_kept {path : String} {before : Session σ} (own : before.store.path = path) :
    ∃ after, (removeTemporary path).run before = (.ok (), after) ∧ Kept before after := by
  subst own
  have aside : ∀ step ∈ [FileStep.remove (temporaryPath before.store.path)],
      step.Aside before.store.path := by
    intro step member
    rw [List.mem_singleton] at member
    subst member
    rfl
  have kept := before.kept_onDisk (before.world.disk.read_runAll_of_aside aside)
  simp only [removeTemporary, run_bind, run_runSteps]
  split
  · exact ⟨_, rfl, kept⟩
  · exact ⟨_, rfl, kept⟩
  · exact ⟨_, rfl, kept.trans (.note _ _)⟩

/-- Rules were written to their file. -/
structure Written (contents : Contents) (before after : Session σ) : Prop where
  store : after.store = before.store
  stored : after.stored = .ok contents.encode
  clock : after.world.clock = before.world.clock
  generations : before.world.generations ≤ after.world.generations

/-- Writing puts the rules into their file, or keeps the file. -/
theorem persist_cases (ruleset : Ruleset) (before : Session σ) :
    (∃ after, (persist ruleset).run before = (.ok (), after) ∧
      Written ⟨ruleset.rules, ruleset.version⟩ before after) ∨
    (∃ path reason after,
      (persist ruleset).run before = (.error (.persistence path reason), after) ∧
      Kept before after) := by
  simp only [persist, run_bind, run_get, run_runSteps]
  generalize encoded : Contents.encode ⟨ruleset.rules, ruleset.version⟩ = bytes
  generalize laid : before.world.disk.runAll (writeSteps before.store.path bytes) = beside
  -- Up to the rename every step is on the file beside, so a failure needs no undoing.
  have aside : beside.2.files.read before.store.path = before.stored := by
    rw [← laid]
    exact before.world.disk.read_runAll_of_aside fun _ => Disk.aside_of_mem_writeSteps
  cases written : beside.1 with
  | error error =>
      have kept := before.kept_onDisk aside
      obtain ⟨after, removed, cleared⟩ := removeTemporary_kept (congrArg Store.path kept.store)
      right
      simp only [run_bind, run_pure, removed, run_throw]
      exact ⟨_, _, after, rfl, kept.trans cleared⟩
  | ok done =>
      simp only [run_bind, run_runSteps, onDisk_disk, onDisk_onDisk]
      cases renamed : (beside.2.runAll
          [.rename (temporaryPath before.store.path) before.store.path]).1 with
      | error error =>
          have kept : Kept before (before.onDisk (beside.2.runAll
              [.rename (temporaryPath before.store.path) before.store.path]).2) :=
            before.kept_onDisk (by rw [Disk.files_runAll_rename_of_error renamed, aside])
          obtain ⟨after, removed, cleared⟩ := removeTemporary_kept (congrArg Store.path kept.store)
          right
          simp only [run_bind, run_pure, removed, run_throw]
          exact ⟨_, _, after, rfl, kept.trans cleared⟩
      | ok done =>
          subst laid
          left
          refine ⟨_, rfl, rfl, ?_, rfl, Nat.le_refl _⟩
          exact (Disk.read_runAll_rename written renamed).trans (congrArg Except.ok encoded.symm)

theorem run_save (session : Session σ) :
    save.run session = (persist session.store.ruleset).run session := by
  simp only [save, run_bind, run_get]

/-! ## Installing rules -/

/-- Rules were installed as a snapshot of their own. -/
structure Installed (contents : Contents) (nextId : Option UInt64) (before after : Session σ) :
    Prop where
  store : after.store = { before.store with
    ruleset := (Ruleset.build contents.rules contents.version before.world).1
    nextId
    hits := none }
  clock : after.world.clock = before.world.clock
  generations : before.world.generations + 1 ≤ after.world.generations

theorem Installed.trans_kept {contents : Contents} {nextId : Option UInt64}
    {before middle after : Session σ} (installed : Installed contents nextId before middle)
    (kept : Kept middle after) : Installed contents nextId before after where
  store := kept.store.trans installed.store
  clock := kept.clock.trans installed.clock
  generations := Nat.le_trans installed.generations kept.generations

/-- What the rules are after a change: a version further. -/
def changed (before : Session σ) (rules : List Rule) : Contents :=
  ⟨rules, saturatingNext before.store.ruleset.version⟩

/-- A change of the rules was written and installed. -/
structure Committed (rules : List Rule) (nextId : Option UInt64) (before after : Session σ) :
    Prop where
  installed : Installed (before.changed rules) nextId before after
  stored : after.stored = .ok (before.changed rules).encode

theorem Committed.trans_kept {rules : List Rule} {nextId : Option UInt64}
    {before middle after : Session σ} (committed : Committed rules nextId before middle)
    (kept : Kept middle after) : Committed rules nextId before after where
  installed := committed.installed.trans_kept kept
  stored := kept.stored.trans committed.stored

@[simp] theorem run_buildRuleset (rules : List Rule) (version : UInt64) (session : Session σ) :
    (buildRuleset rules version).run session =
      (.ok (Ruleset.build rules version session.world).1,
        { session with world := (Ruleset.build rules version session.world).2 }) := rfl

@[simp] theorem run_measureRules (ruleset : Ruleset) (session : Session σ) :
    (measureRules ruleset).run session =
      (.ok (), { session with
        world := (session.world.measure .rulesLoaded ruleset.rules.length).measure
          .rulesetVersion ruleset.version.toNat }) := rfl

theorem kept_build (session : Session σ) (rules : List Rule) (version : UInt64) :
    Kept session { session with world := (Ruleset.build rules version session.world).2 } :=
  ⟨rfl, rfl, rfl, Nat.le_succ _⟩

/-- A change of the rules is written and installed, or nothing changes. -/
theorem commit_cases (rules : List Rule) (nextId : Option UInt64) (action : String)
    (before : Session σ) :
    (∃ after, (commit rules nextId action).run before = (.ok (), after) ∧
      Committed rules (nextId.orElse fun _ => before.store.nextId) before after) ∨
    (∃ path reason after,
      (commit rules nextId action).run before = (.error (.persistence path reason), after) ∧
      Kept before after) := by
  simp only [commit, run_bind, run_get, run_buildRuleset, run_tryCatch]
  have built := before.kept_build rules (saturatingNext before.store.ruleset.version)
  obtain ⟨after, ran, written⟩ | ⟨path, reason, after, ran, kept⟩ :=
    persist_cases (Ruleset.build rules (saturatingNext before.store.ruleset.version) before.world).1
      { before with
        world := (Ruleset.build rules (saturatingNext before.store.ruleset.version) before.world).2 }
  · left
    simp only [ran, run_measureRules, run_changeWorld, run_changeStore]
    refine ⟨_, rfl, ⟨?_, written.clock, written.generations⟩, written.stored⟩
    rw [written.store]
    rfl
  · right
    simp only [ran, run_changeWorld, run_note, run_throw]
    exact ⟨path, reason, _, rfl, (built.trans kept).trans ((Kept.count _ _ _).trans (Kept.note _ _))⟩

@[simp] theorem run_askFiles {α : Type} (query : Files → Except FileError α)
    (session : Session σ) :
    (askFiles query).run session =
      (.ok (session.world.disk.ask query).1, session.onDisk (session.world.disk.ask query).2) := rfl

theorem kept_ask {α : Type} (session : Session σ) (query : Files → Except FileError α) :
    Kept session (session.onDisk (session.world.disk.ask query).2) :=
  session.kept_onDisk (congrArg (·.read session.store.path) (session.world.disk.files_ask query))

/-- Rules were taken from their file. -/
structure Loaded (contents : Contents) (before after : Session σ) : Prop where
  read : ∃ bytes, before.stored = .ok bytes ∧ Contents.decode? bytes = some contents
  installed : Installed contents none before after
  stored : after.stored = before.stored

/-- The rules are taken from their file as they stand there, or nothing changes. -/
theorem load_cases (before : Session σ) :
    (∃ contents after, load.run before = (.ok (), after) ∧ Loaded contents before after) ∨
    (∃ error after, load.run before = (.error error, after) ∧ Kept before after) := by
  have asked := before.kept_ask (·.read before.store.path)
  simp only [load, run_bind, run_get, run_askFiles]
  cases answer : (before.world.disk.ask (·.read before.store.path)).1 with
  | error error => exact .inr ⟨_, _, rfl, asked⟩
  | ok bytes =>
      have stands : before.stored = .ok bytes := Disk.eq_ok_of_ask answer
      cases read : Contents.decode? bytes with
      | none =>
          simp only [read, run_throw]
          exact .inr ⟨_, _, rfl, asked⟩
      | some contents =>
          simp only [read, run_bind, run_buildRuleset, run_note, run_measureRules, run_changeStore]
          exact .inl ⟨contents, _, rfl, ⟨bytes, stands, read⟩, ⟨rfl, rfl, Nat.le_refl _⟩,
            asked.stored⟩

/-- A store opens on the rules in its file, or without rules where there is no
file. -/
theorem loadIfThere_cases (before : Session σ) :
    (∃ contents after, loadIfThere.run before = (.ok (), after) ∧
      Loaded contents before after) ∨
    (∃ after, loadIfThere.run before = (.ok (), after) ∧
      before.stored = .error .notFound ∧ Kept before after) ∨
    (∃ error after, loadIfThere.run before = (.error error, after) ∧ Kept before after) := by
  have asked := before.kept_ask (·.exists? before.store.path)
  simp only [loadIfThere, run_bind, run_get, run_askFiles]
  cases answer : (before.world.disk.ask (·.exists? before.store.path)).1 with
  | error error => exact .inr (.inr ⟨_, _, rfl, asked⟩)
  | ok there =>
      cases there with
      | false =>
          have missing := Files.exists?_eq_ok_false_iff.mp (Disk.eq_ok_of_ask answer)
          exact .inr (.inl ⟨_, rfl, missing, asked.trans (.note _ _)⟩)
      | true =>
          obtain ⟨contents, after, ran, ⟨bytes, stands, read⟩, installed, stored⟩ |
            ⟨error, after, ran, kept⟩ :=
            load_cases (before.onDisk (before.world.disk.ask (·.exists? before.store.path)).2)
          · exact .inl ⟨contents, after, ran, ⟨bytes, asked.stored.symm.trans stands, read⟩,
              ⟨installed.store, installed.clock, installed.generations⟩,
              stored.trans asked.stored⟩
          · exact .inr (.inr ⟨error, after, ran, asked.trans kept⟩)

section Success

variable {before after : Session σ}

theorem exists_loaded_of_load (ran : load.run before = (.ok (), after)) :
    ∃ contents, Loaded contents before after := by
  obtain ⟨contents, other, loads, loaded⟩ | ⟨error, other, fails, -⟩ := load_cases before
  · cases ran.symm.trans loads
    exact ⟨contents, loaded⟩
  · cases ran.symm.trans fails

/-- A store that was opened has the rules of its file, or there is no file and it is as it was. -/
theorem loaded_or_missing_of_open (opened : loadIfThere.run before = (.ok (), after)) :
    (∃ contents, Loaded contents before after) ∨
      before.stored = .error .notFound ∧ Kept before after := by
  obtain ⟨contents, other, ran, loaded⟩ | ⟨other, ran, missing, kept⟩ | ⟨error, other, ran, -⟩ :=
    loadIfThere_cases before
  · cases opened.symm.trans ran
    exact .inl ⟨contents, loaded⟩
  · cases opened.symm.trans ran
    exact .inr ⟨missing, kept⟩
  · cases opened.symm.trans ran

end Success

end LogSieve.Session
