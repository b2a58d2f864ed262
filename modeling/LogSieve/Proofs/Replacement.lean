import LogSieve.Proofs.TemporaryFile

/-!
# Replacing a file

Bytes that were written beside a path and renamed are found at the path.  Any step
may fail on the way, and a failed write may leave some of its bytes; whatever
fails, the path keeps the bytes it had.
-/

namespace LogSieve

open LogSieve.Session

/-- A step on the file beside a path. -/
def FileStep.Aside (path : String) : FileStep → Prop
  | .create place | .write place _ | .sync place | .remove place => place = temporaryPath path
  | .rename _ _ => False

/-- Nothing happened to files, or it happened beside a path. -/
def Files.ChangedBeside (path : String) (files changed : Files) : Prop :=
  changed = files ∨ Files.ChangedAt (temporaryPath path) files changed

open Files in
theorem Files.ChangedBeside.read_eq {path : String} {files changed : Files}
    (beside : ChangedBeside path files changed) : changed.read path = files.read path := by
  obtain rfl | aside := beside
  · rfl
  · exact read_of_changedAt aside

open Files in
theorem FileStep.Aside.changedBeside_apply {path : String} {step : FileStep}
    (aside : step.Aside path) {files changed : Files} (applied : step.apply files = .ok changed) :
    ChangedBeside path files changed := by
  cases step with
  | create place =>
      subst aside
      exact .inr (changedAt_create applied)
  | write place bytes =>
      subst aside
      exact .inr (changedAt_append applied)
  | sync place =>
      cases applied
      exact .inl rfl
  | rename source target => exact aside.elim
  | remove place =>
      subst aside
      exact .inr (changedAt_remove applied)

open Files in
theorem FileStep.Aside.changedBeside_spoil {path : String} {step : FileStep}
    (aside : step.Aside path) (files : Files) (fault : Fault) :
    ChangedBeside path files (step.spoil files fault) := by
  cases step with
  | write place bytes =>
      subst aside
      simp only [FileStep.spoil]
      split
      · next changed appended => exact .inr (changedAt_append appended)
      · exact .inl rfl
  | create | sync | rename | remove => exact .inl rfl

namespace Disk

/-- A step succeeds, or fails without an effect, or is spoiled. -/
theorem run_cases (disk : Disk) (step : FileStep) :
    (∃ files, step.apply disk.files = .ok files ∧
      (disk.run step).1 = .ok () ∧ (disk.run step).2.files = files) ∨
    (∃ error, (disk.run step).1 = .error error ∧ (disk.run step).2.files = disk.files) ∨
    (∃ error fault, (disk.run step).1 = .error error ∧
      (disk.run step).2.files = step.spoil disk.files fault) := by
  rw [run]
  split
  · exact .inr (.inl ⟨_, rfl, rfl⟩)
  · split
    · exact .inr (.inr ⟨_, _, rfl, rfl⟩)
    · cases applied : step.apply disk.files with
      | ok files => exact .inl ⟨files, rfl, rfl, rfl⟩
      | error error => exact .inr (.inl ⟨error, rfl, rfl⟩)

theorem apply_of_run_eq_ok {disk : Disk} {step : FileStep} {done : Unit}
    (ran : (disk.run step).1 = .ok done) : step.apply disk.files = .ok (disk.run step).2.files := by
  obtain ⟨files, applied, -, rfl⟩ | ⟨error, failed, -⟩ | ⟨error, fault, failed, -⟩ :=
    disk.run_cases step
  · exact applied
  · rw [failed] at ran
    cases ran
  · rw [failed] at ran
    cases ran

variable {path : String}

theorem changedBeside_run (disk : Disk) {step : FileStep} (aside : step.Aside path) :
    Files.ChangedBeside path disk.files (disk.run step).2.files := by
  obtain ⟨files, applied, -, after⟩ | ⟨error, -, after⟩ | ⟨error, fault, -, after⟩ :=
    disk.run_cases step
  · rw [after]
    exact aside.changedBeside_apply applied
  · exact .inl after
  · rw [after]
    exact aside.changedBeside_spoil disk.files fault

theorem runAll_cons (disk : Disk) (step : FileStep) (rest : List FileStep) :
    disk.runAll (step :: rest) =
      match (disk.run step).1 with
      | .ok _ => (disk.run step).2.runAll rest
      | .error error => (.error error, (disk.run step).2) := by
  rw [runAll]
  cases outcome : disk.run step with
  | mk result after => cases result <;> rfl

theorem runAll_singleton (disk : Disk) (step : FileStep) : disk.runAll [step] = disk.run step := by
  rw [runAll_cons]
  cases outcome : disk.run step with
  | mk result after => cases result <;> rfl

theorem read_runAll_of_aside (disk : Disk) {steps : List FileStep}
    (aside : ∀ step ∈ steps, step.Aside path) :
    (disk.runAll steps).2.files.read path = disk.files.read path := by
  induction steps generalizing disk with
  | nil => rfl
  | cons step rest ih =>
      have first := (disk.changedBeside_run (aside step (by simp))).read_eq
      rw [runAll_cons]
      split
      · rw [ih _ fun step member => aside step (List.mem_cons_of_mem _ member), first]
      · exact first

theorem aside_of_mem_writeSteps {bytes : ByteArray} {step : FileStep}
    (member : step ∈ writeSteps path bytes) : step.Aside path := by
  simp only [writeSteps, List.mem_cons, List.not_mem_nil, or_false] at member
  obtain rfl | rfl | rfl := member <;> rfl

theorem run_eq_ok_of_runAll_cons {disk : Disk} {step : FileStep} {rest : List FileStep}
    {done : Unit} (ran : (disk.runAll (step :: rest)).1 = .ok done) :
    (disk.run step).1 = .ok () := by
  rw [runAll_cons] at ran
  cases first : (disk.run step).1 with
  | error error =>
      rw [first] at ran
      cases ran
  | ok one => rfl

/-- Steps that all succeeded, one by one. -/
theorem runAll_cons_eq_ok {disk : Disk} {step : FileStep} {rest : List FileStep} {done : Unit}
    (ran : (disk.runAll (step :: rest)).1 = .ok done) :
    step.apply disk.files = .ok (disk.run step).2.files ∧
      ((disk.run step).2.runAll rest).1 = .ok done ∧
      (disk.runAll (step :: rest)).2 = ((disk.run step).2.runAll rest).2 := by
  rw [runAll_cons] at ran ⊢
  cases first : (disk.run step).1 with
  | error error =>
      rw [first] at ran
      cases ran
  | ok one =>
      rw [first] at ran
      exact ⟨apply_of_run_eq_ok first, ran, rfl⟩

theorem read_runAll_writeSteps {disk : Disk} {bytes : ByteArray} {done : Unit} (given : path ≠ "")
    (written : (disk.runAll (writeSteps path bytes)).1 = .ok done) :
    (disk.runAll (writeSteps path bytes)).2.files.read (temporaryPath path) = .ok bytes := by
  obtain ⟨created, written, after⟩ := runAll_cons_eq_ok written
  rw [writeSteps, after]
  obtain ⟨appended, written, after⟩ := runAll_cons_eq_ok written
  rw [after]
  obtain ⟨synced, -, after⟩ := runAll_cons_eq_ok written
  rw [after, runAll, ← Except.ok.inj synced]
  exact Files.read_of_create_append given created appended

/-- Bytes that were written beside a path and renamed are found there. -/
theorem read_runAll_rename {disk : Disk} {bytes : ByteArray} {done : Unit}
    (written : (disk.runAll (writeSteps path bytes)).1 = .ok done)
    (renamed : ((disk.runAll (writeSteps path bytes)).2.runAll
      [.rename (temporaryPath path) path]).1 = .ok done) :
    ((disk.runAll (writeSteps path bytes)).2.runAll
      [.rename (temporaryPath path) path]).2.files.read path = .ok bytes := by
  obtain ⟨applied, -, after⟩ := runAll_cons_eq_ok renamed
  rw [after]
  have given : path ≠ "" := by
    rintro rfl
    exact Files.rename_empty_ne_ok applied
  exact Files.read_of_rename applied (read_runAll_writeSteps given written)

/-- A rename that fails does nothing. -/
theorem files_runAll_rename_of_error {disk : Disk} {source target : String} {error : FileError}
    (failed : (disk.runAll [.rename source target]).1 = .error error) :
    (disk.runAll [.rename source target]).2.files = disk.files := by
  rw [runAll_cons] at failed ⊢
  obtain ⟨files, -, ok, -⟩ | ⟨cause, ran, after⟩ | ⟨cause, fault, ran, after⟩ :=
    disk.run_cases (.rename source target)
  · rw [ok] at failed
    cases failed
  · rw [ran]
    exact after
  · rw [ran]
    exact after

/-- The disk after a question that met no failure. -/
def asked (disk : Disk) : Disk := { disk with faults := disk.faults.tail }

/-- What is asked of a disk at work is answered from its files. -/
theorem ask_of_no_fault {α : Type} {disk : Disk} (query : Files → Except FileError α)
    (working : disk.stopped = false) (clear : ∀ fault ∈ disk.faults.head?, fault = none) :
    disk.ask query = (query disk.files, disk.asked) := by
  rw [ask, if_neg (by simp [working])]
  split
  · next fault faults pending =>
      rw [pending] at clear
      exact absurd (clear (some fault) rfl) (by simp)
  · rfl

theorem files_ask {α : Type} (disk : Disk) (query : Files → Except FileError α) :
    (disk.ask query).2.files = disk.files := by
  rw [ask]
  split
  · rfl
  · split <;> rfl

theorem loose_ask {α : Type} (disk : Disk) (query : Files → Except FileError α) :
    (disk.ask query).2.loose = disk.loose := by
  rw [ask]
  split
  · rfl
  · split <;> rfl

theorem eq_ok_of_ask {α : Type} {disk : Disk} {query : Files → Except FileError α} {answer : α}
    (asked : (disk.ask query).1 = .ok answer) : query disk.files = .ok answer := by
  rw [ask] at asked
  split at asked
  · cases asked
  · split at asked
    · cases asked
    · exact asked

end Disk

end LogSieve
