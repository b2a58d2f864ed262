import LogSieve.Proofs.Replacement

/-!
# What a disk keeps

What a process wrote is on the medium for good only once the medium was told to keep it.  When
everything stops before that, the file is left with any bytes, or is gone, also where it has
been renamed in the meantime.

Bytes that cannot be lost are safe.  They stay so whatever happens beside their path, whichever
step fails and wherever everything stops.  Bytes that were written beside a path are safe once the
medium was told to keep them, and then a rename puts them safely into place.
-/

namespace LogSieve

open LogSieve.Session

namespace Files

variable {files changed : Files} {path : String} {location : Location}

theorem place?_of_locate (found : files.locate path = .ok location) :
    files.place? path = some location := by
  rw [place?, found]
  rfl

theorem locate_of_place? (found : files.place? path = some location) :
    files.locate path = .ok location := by
  rw [place?] at found
  cases place : files.locate path with
  | error error =>
      rw [place] at found
      cases found
  | ok other =>
      rw [place] at found
      exact congrArg Except.ok (Option.some.inj found)

/-- Ways through directories are the same where the directories are. -/
theorem descend_of_directories
    (same : ∀ location, changed.node? location = some .directory ↔
      files.node? location = some .directory) {here found : Location} {parts : List String}
    (reached : files.descend here parts = .ok found) :
    changed.descend here parts = .ok found := by
  induction parts generalizing here with
  | nil => exact reached
  | cons part rest ih =>
      simp only [Files.descend] at reached ⊢
      by_cases stays : part = "."
      · rw [if_pos stays] at reached ⊢
        exact ih reached
      rw [if_neg stays] at reached ⊢
      by_cases returns : part = ".."
      · rw [if_pos returns] at reached ⊢
        exact ih reached
      rw [if_neg returns] at reached ⊢
      by_cases long : 255 < part.utf8ByteSize
      · rw [if_pos long] at reached
        cases reached
      rw [if_neg long] at reached ⊢
      split at reached
      · next directory =>
          rw [(same _).mpr directory]
          exact ih reached
      · cases reached
      · cases reached

theorem locate_of_directories
    (same : ∀ location, changed.node? location = some .directory ↔
      files.node? location = some .directory)
    (found : files.locate path = .ok location) : changed.locate path = .ok location := by
  have given : path ≠ "" := by
    rintro rfl
    cases found
  obtain ⟨front, last, divides⟩ := Files.exists_divides given
  have admissible := Files.admissible_of_locate found
  rw [divides.locate_eq given admissible] at found ⊢
  cases reached : files.descend (Files.startOf path) front with
  | error error =>
      rw [reached] at found
      cases found
  | ok directory =>
      rw [reached] at found
      rw [descend_of_directories same reached]
      exact found

end Files

namespace Disk

/-- What can be left of a disk when everything stopped.  Files stay as they are where nothing may
be lost; what stands beside a path is left with anything. -/
structure Leaves (path : String) (disk left : Disk) : Prop where
  kept : ∀ location, location ∉ disk.loose →
    disk.files.place? (temporaryPath path) ≠ some location →
      left.files.node? location = disk.files.node? location
  directories : ∀ location, left.files.node? location = some .directory ↔
    disk.files.node? location = some .directory
  loose : ∀ location ∈ left.loose, location ∈ disk.loose

/-- A path has bytes that cannot be lost. -/
def Safe (disk : Disk) (path : String) (bytes : ByteArray) : Prop :=
  ∃ location, disk.files.locate path = .ok location ∧
    disk.files.node? location = some (.file bytes) ∧ location ∉ disk.loose

/-- Bytes at a path that could not be lost are still there and cannot be lost. -/
def Keeps (path : String) (disk after : Disk) : Prop :=
  ∀ bytes, disk.Safe path bytes → after.Safe path bytes

variable {disk middle after left : Disk} {path : String} {bytes old : ByteArray}

theorem Safe.read_eq (safe : disk.Safe path bytes) : disk.files.read path = .ok bytes := by
  obtain ⟨location, found, file, -⟩ := safe
  exact Files.read_eq_ok_iff.mpr ⟨location, found, file⟩

theorem keeps_of_eq (files : after.files = disk.files) (loose : after.loose = disk.loose) :
    disk.Keeps path after := by
  intro bytes safe
  rw [Safe, files, loose]
  exact safe

theorem Keeps.trans (first : disk.Keeps path middle) (second : middle.Keeps path after) :
    disk.Keeps path after :=
  fun bytes safe => second bytes (first bytes safe)

/-! ## What is left -/

/-- Safe bytes are left where they are. -/
theorem Leaves.keeps (leaves : disk.Leaves path left) : disk.Keeps path left := by
  rintro bytes ⟨location, found, file, kept⟩
  have apart : disk.files.place? (temporaryPath path) ≠ some location := by
    intro beside
    exact Files.locate_temporaryPath_ne found (Files.locate_of_place? beside) rfl
  refine ⟨location, Files.locate_of_directories leaves.directories found, ?_, ?_⟩
  · rw [leaves.kept location kept apart, file]
  · intro lost
    exact kept (leaves.loose location lost)

theorem leaves_self (path : String) (disk : Disk) : disk.Leaves path disk where
  kept _ _ _ := rfl
  directories _ := Iff.rfl
  loose _ lost := lost

/-- The file beside a path can be left with any bytes. -/
theorem leaves_put {location : Location}
    (beside : disk.files.place? (temporaryPath path) = some location)
    (file : disk.files.node? location = some (.file old)) (bytes : ByteArray) :
    disk.Leaves path { files := disk.files.put location (.file bytes) } := by
  have below : location ≠ [] := by
    rintro rfl
    cases file
  refine ⟨?_, ?_, by simp⟩
  · intro other _ apart
    apply Files.node?_put_of_ne
    rintro rfl
    exact apart beside
  · intro other
    change (disk.files.put location (.file bytes)).node? other = some .directory ↔ _
    by_cases same : other = location
    · subst same
      rw [Files.node?_put_self _ below, file]
      simp
    · rw [Files.node?_put_of_ne _ same]

/-! ## One step -/

/-- What may be lost is as the step leaves it, or as it was if everything had stopped before. -/
theorem loose_run_cases (disk : Disk) (step : FileStep) :
    (disk.run step).2.loose = step.loosens disk.files disk.loose (disk.run step).1.isOk ∨
      ((disk.run step).1.isOk = false ∧ (disk.run step).2.loose = disk.loose) := by
  rw [run]
  split
  · exact .inr ⟨rfl, rfl⟩
  · left
    split
    · rfl
    · cases step.apply disk.files with
      | ok files => rfl
      | error error => rfl

theorem loose_run_of_ok {step : FileStep} {done : Unit} (ran : (disk.run step).1 = .ok done) :
    (disk.run step).2.loose = step.loosens disk.files disk.loose true := by
  obtain loosens | ⟨failed, -⟩ := disk.loose_run_cases step
  · rw [loosens, ran]
    rfl
  · rw [ran] at failed
    cases failed

/-- A step beside a path makes nothing loose but what stands there. -/
theorem mem_loosens {files : Files} {loose : List Location} {step : FileStep}
    (aside : step.Aside path) {done : Bool} {location : Location}
    (lost : location ∈ step.loosens files loose done) :
    location ∈ loose ∨ files.place? (temporaryPath path) = some location := by
  cases step with
  | create place | write place bytes | remove place =>
      subst aside
      rw [FileStep.loosens, List.mem_append, Option.mem_toList] at lost
      exact lost.symm
  | sync place =>
      rw [FileStep.loosens] at lost
      split at lost
      · exact .inl (List.mem_of_mem_filter lost)
      · exact .inl lost
  | rename source target => exact aside.elim

/-- Safe bytes stay safe while something happens beside their path. -/
theorem keeps_run_of_aside (disk : Disk) {step : FileStep} (aside : step.Aside path) :
    disk.Keeps path (disk.run step).2 := by
  rintro bytes ⟨location, found, file, kept⟩
  have stillKept : location ∉ (disk.run step).2.loose := by
    intro lost
    obtain loosens | ⟨-, unchanged⟩ := disk.loose_run_cases step
    · rw [loosens] at lost
      obtain known | beside := mem_loosens aside lost
      · exact kept known
      · exact Files.locate_temporaryPath_ne found (Files.locate_of_place? beside) rfl
    · rw [unchanged] at lost
      exact kept lost
  obtain same | changed := disk.changedBeside_run aside
  · rw [← same] at found file
    exact ⟨location, found, file, stillKept⟩
  · obtain ⟨foundAfter, node⟩ := Files.locate_of_changedAt changed found
    exact ⟨location, foundAfter, node.trans file, stillKept⟩

theorem ne_empty_of_rename {source : String}
    (renamed : (disk.run (.rename source path)).1 = .ok ()) : path ≠ "" := by
  rintro rfl
  exact Files.rename_empty_ne_ok (apply_of_run_eq_ok renamed)

/-- A renamed file is as safe as it was. -/
theorem Safe.of_rename (safe : disk.Safe (temporaryPath path) bytes)
    (renamed : (disk.run (.rename (temporaryPath path) path)).1 = .ok ()) :
    (disk.run (.rename (temporaryPath path) path)).2.Safe path bytes := by
  have applied : disk.files.rename (temporaryPath path) path =
      .ok (disk.run (.rename (temporaryPath path) path)).2.files := apply_of_run_eq_ok renamed
  obtain ⟨location, found, foundAfter, file⟩ := Files.locate_of_rename applied safe.read_eq
  obtain ⟨place, foundBeside, -, kept⟩ := safe
  refine ⟨location, foundAfter, file, ?_⟩
  simp only [loose_run_of_ok renamed, FileStep.loosens, if_true, Files.place?_of_locate found,
    Files.place?_of_locate foundBeside, List.mem_filterMap, List.mem_filter, not_exists, not_and]
  rintro other ⟨lost, elsewhere⟩ moved
  by_cases source : some place = some other
  · cases source
    exact kept lost
  · rw [if_neg source, Option.some.injEq] at moved
    subst moved
    simp at elsewhere

/-- A rename that does not succeed leaves safe bytes safe, wherever they are. -/
theorem keeps_rename_of_error {source target : String} {error : FileError}
    (failed : (disk.run (.rename source target)).1 = .error error) :
    disk.Keeps path (disk.run (.rename source target)).2 := by
  apply keeps_of_eq
  · obtain ⟨files, -, ok, -⟩ | ⟨cause, -, unchanged⟩ | ⟨cause, fault, -, unchanged⟩ :=
      disk.run_cases (.rename source target)
    · rw [ok] at failed
      cases failed
    · exact unchanged
    · exact unchanged
  · obtain loosens | ⟨-, unchanged⟩ := disk.loose_run_cases (.rename source target)
    · rw [loosens, failed]
      rfl
    · exact unchanged

/-! ## Steps in turn -/

/-- Steps beside a path leave its bytes safe, however far they come. -/
theorem keeps_runAll_of_aside (disk : Disk) {steps : List FileStep}
    (aside : ∀ step ∈ steps, step.Aside path) : disk.Keeps path (disk.runAll steps).2 := by
  induction steps generalizing disk with
  | nil => exact fun _ safe => safe
  | cons step rest ih =>
      have first := disk.keeps_run_of_aside (aside step (by simp))
      rw [runAll_cons]
      split
      · exact first.trans (ih _ fun step member => aside step (List.mem_cons_of_mem _ member))
      · exact first

/-- The bytes beside a path are safe once they were written and the medium was told to keep
them. -/
theorem safe_temporaryPath (given : path ≠ "") {done : Unit}
    (written : (disk.runAll (writeSteps path bytes)).1 = .ok done) :
    (disk.runAll (writeSteps path bytes)).2.Safe (temporaryPath path) bytes := by
  have read := read_runAll_writeSteps given written
  obtain ⟨-, written, afterCreate⟩ := runAll_cons_eq_ok written
  obtain ⟨-, written, afterWrite⟩ := runAll_cons_eq_ok written
  obtain ⟨applied, rest, afterSync⟩ := runAll_cons_eq_ok written
  rw [writeSteps, afterCreate, afterWrite, afterSync, runAll] at read ⊢
  have synced := run_eq_ok_of_runAll_cons written
  generalize ((disk.run _).2.run _).2 = filled at read applied synced ⊢
  obtain ⟨location, found, file⟩ := Files.read_eq_ok_iff.mp read
  refine ⟨location, found, file, ?_⟩
  rw [← Except.ok.inj applied] at found
  simp [loose_run_of_ok synced, FileStep.loosens, Files.place?_of_locate found]

end Disk

end LogSieve
