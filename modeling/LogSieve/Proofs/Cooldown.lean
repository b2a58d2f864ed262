import Mathlib
import LogSieve.Proofs.Watermark

/-!
# The pause after a failure

A source that failed is left alone for a while.  Whether it is asked shows in the source only, so
the source is put under observation: it keeps its answers and behaves as before.  A run of polls
then has a history of questions, each with its answer and the times of both, and the last question
of that history alone decides whether the next poll asks again.  A pause begins with the failure,
however long the source took to fail.  Polls that are refused leave no trace in the history; so
they never prolong a pause.
-/

namespace LogSieve

/-- A source under observation: it keeps its answers and how long each took, the first one
first. -/
structure Observed (σ : Type) where
  source : σ
  answers : List (Nat × Except TriageError (List Record)) := []

instance {σ : Type} [LogSource σ] : LogSource (Observed σ) where
  kind observed := LogSource.kind observed.source
  fetch observed after :=
    let delay := LogSource.delay observed.source after
    let (answer, source) := LogSource.fetch observed.source after
    (answer, { source, answers := observed.answers ++ [(delay, answer)] })
  delay observed after := LogSource.delay observed.source after

namespace Observed

variable {σ : Type} [LogSource σ] {observed left : Observed σ} {after : Option Int64}
  {answer : Except TriageError (List Record)}

theorem answers_of_fetch (fetched : LogSource.fetch observed after = (answer, left)) :
    left.answers = observed.answers ++ [(LogSource.delay observed after, answer)] := by
  cases fetched
  rfl

theorem fetch_source (fetched : LogSource.fetch observed after = (answer, left)) :
    LogSource.fetch observed.source after = (answer, left.source) := by
  cases fetched
  rfl

end Observed

/-- A question that was put to a source: when it was asked, and when it was answered with
what. -/
structure Contact where
  asked : Nat
  answered : Nat
  answer : Except TriageError (List Record)

namespace Contact

/-- The source did not deliver anything. -/
def Failed (contact : Contact) : Prop := ∃ error, contact.answer = .error error

/-- When the source failed, if it did. -/
def failure? (contact : Contact) : Option Nat :=
  match contact.answer with
  | .error _ => some contact.answered
  | .ok _ => none

theorem failure?_eq_some_iff {contact : Contact} {clock : Nat} :
    contact.failure? = some clock ↔ contact.Failed ∧ contact.answered = clock := by
  rcases contact with ⟨asked, answered, error | batch⟩
  · simp [failure?, Failed]
  · simp [failure?, Failed]

end Contact

/-- A pause is what is left of the cooldown since the failure. -/
theorem Buffer.pause?_eq_some_iff {buffer : Buffer} {now pause : Nat} :
    buffer.pause? now = some pause ↔
      ∃ failure, buffer.lastFailure = some failure ∧ now - failure < buffer.cooldown ∧
        pause = buffer.cooldown - (now - failure) := by
  rw [pause?]
  cases buffer.lastFailure with
  | none => simp
  | some failure =>
      by_cases early : now - failure < buffer.cooldown
      · simp [early, eq_comm]
      · simp [early]

theorem Buffer.toNat_milliseconds (pause : Nat) :
    (UInt64.ofNat (milliseconds pause)).toNat = min (pause / 1000000) (2 ^ 64 - 1) := by
  have fits : milliseconds pause < 2 ^ 64 := by
    apply Nat.lt_of_le_of_lt (Nat.min_le_right _ _)
    decide
  exact UInt64.toNat_ofNat_of_lt' fits

namespace Intake

variable {σ : Type}

/-- The intake with its source unobserved. -/
def unobserved (intake : Intake (Observed σ)) : Intake σ :=
  ⟨intake.buffer, intake.source.source, intake.world⟩

variable [LogSource σ]

/-! ## One poll -/

/-- The questions of a poll: one for each answer that came while it ran. -/
def contactsAt (intake : Intake (Observed σ)) (clock : Nat) : List Contact :=
  ((intake.pollAt clock).2.source.answers.drop intake.source.answers.length).map
    fun (delay, answer) => ⟨clock, clock + delay, answer⟩

/-- How long the source takes to answer the next question. -/
def delay (intake : Intake (Observed σ)) : Nat :=
  LogSource.delay intake.source intake.buffer.watermark

theorem contactsAt_of_answered {intake left : Intake (Observed σ)} {clock : Nat}
    {outcome answer : Except TriageError (List Record)} {source : Observed σ}
    (ran : intake.pollAt clock = (outcome, left)) (kept : left.source = source)
    (fetched : LogSource.fetch intake.source intake.buffer.watermark = (answer, source)) :
    intake.contactsAt clock = [⟨clock, clock + intake.delay, answer⟩] := by
  rw [contactsAt, ran, kept, Observed.answers_of_fetch fetched, List.drop_left]
  rfl

/-- What a poll does: it is refused during a pause and leaves everything as it is; otherwise it
asks once, and when the answer comes it remembers whether the source failed. -/
theorem contactsAt_cases (intake : Intake (Observed σ)) (clock : Nat) :
    (∃ pause, intake.buffer.pause? clock = some pause ∧ intake.contactsAt clock = [] ∧
      intake.pollAt clock =
        (.error (.retryCooldown (.ofNat (Buffer.milliseconds pause))), intake.atTime clock)) ∨
    (∃ error left, intake.buffer.pause? clock = none ∧
      intake.contactsAt clock = [⟨clock, clock + intake.delay, .error error⟩] ∧
      intake.pollAt clock = (.error error, left) ∧ left.world.clock = clock + intake.delay ∧
      left.buffer = { intake.buffer with lastFailure := some (clock + intake.delay) }) ∨
    (∃ batch left, intake.buffer.pause? clock = none ∧
      intake.contactsAt clock = [⟨clock, clock + intake.delay, .ok batch⟩] ∧
      intake.pollAt clock = (.ok (intake.buffer.trim batch), left) ∧
      left.world.clock = clock + intake.delay ∧
      left.buffer = intake.buffer.accept (intake.buffer.trim batch)) := by
  rcases (intake.atTime clock).poll_cases with
    ⟨pause, paused, ran⟩ | ⟨error, source, ready, fetched, ran⟩ |
      ⟨batch, source, ready, fetched, ran⟩
  · have unasked : intake.contactsAt clock = [] := by
      rw [contactsAt, pollAt, ran]
      exact List.map_eq_nil_iff.mpr List.drop_length
    exact .inl ⟨pause, paused, unasked, ran⟩
  · have asked := contactsAt_of_answered ran rfl fetched
    exact .inr (.inl ⟨error, _, ready, asked, ran, rfl, rfl⟩)
  · have asked := contactsAt_of_answered ran rfl fetched
    have clocked : (((intake.atTime clock).afterAnswer source).accept
        (intake.buffer.trim batch)).world.clock = clock + intake.delay := by
      rw [accept]
      cases intake.buffer.trim batch <;> rfl
    exact .inr (.inr ⟨batch, _, ready, asked, ran, clocked, rfl⟩)

/-- Observing a source changes nothing for its polls. -/
theorem pollAt_unobserved (intake : Intake (Observed σ)) (clock : Nat) :
    intake.unobserved.pollAt clock =
      ((intake.pollAt clock).1, (intake.pollAt clock).2.unobserved) := by
  simp only [pollAt, poll, Action.run_bind, Action.run_get]
  have paused : (intake.unobserved.atTime clock).buffer.pause?
      (intake.unobserved.atTime clock).world.clock = intake.buffer.pause? clock := rfl
  have observed : (intake.atTime clock).buffer.pause? (intake.atTime clock).world.clock =
      intake.buffer.pause? clock := rfl
  rw [paused, observed]
  -- Both polls branch on the same pause, and then on the same answer.
  cases intake.buffer.pause? clock with
  | some pause => rfl
  | none =>
      rcases fetched : LogSource.fetch intake.source intake.buffer.watermark with ⟨outcome, left⟩
      have asked := Observed.fetch_source fetched
      simp only [unobserved, atTime, fetched, asked, afterAnswer]
      cases outcome with
      | error error => rfl
      | ok batch => rfl

/-! ## Runs of polls -/

/-- The questions of polls in turn. -/
def contacts (intake : Intake (Observed σ)) : List Nat → List Contact
  | [] => []
  | clock :: rest => intake.contactsAt clock ++ (intake.pollAt clock).2.contacts rest

theorem afterPolls_unobserved (intake : Intake (Observed σ)) (clocks : List Nat) :
    intake.unobserved.afterPolls clocks = (intake.afterPolls clocks).unobserved := by
  induction clocks generalizing intake with
  | nil => rfl
  | cons clock rest ih =>
      have first := congrArg Prod.snd (intake.pollAt_unobserved clock)
      calc intake.unobserved.afterPolls (clock :: rest)
        _ = (intake.unobserved.pollAt clock).2.afterPolls rest := rfl
        _ = (intake.pollAt clock).2.unobserved.afterPolls rest := by rw [first]
        _ = (intake.afterPolls (clock :: rest)).unobserved := ih _

/-- A question of a run is put by one of its polls, and answered later. -/
theorem asked_mem_of_mem_contacts {intake : Intake (Observed σ)} {clocks : List Nat}
    {contact : Contact} (member : contact ∈ intake.contacts clocks) :
    contact.asked ∈ clocks ∧ contact.asked ≤ contact.answered := by
  induction clocks generalizing intake with
  | nil => cases member
  | cons clock rest ih =>
      rw [contacts, List.mem_append] at member
      cases member with
      | inl now =>
          rcases List.mem_map.mp now with ⟨answer, -, rfl⟩
          exact ⟨List.mem_cons_self, Nat.le_add_right _ _⟩
      | inr later => exact ⟨List.mem_cons_of_mem _ (ih later).1, (ih later).2⟩

/-- A poll ends when its question is answered. -/
theorem answered_le_of_mem_contactsAt {intake : Intake (Observed σ)} {clock : Nat}
    {contact : Contact} (member : contact ∈ intake.contactsAt clock) :
    contact.answered ≤ (intake.pollAt clock).2.world.clock := by
  rcases intake.contactsAt_cases clock with
    ⟨pause, -, unasked, -⟩ | ⟨error, left, -, asked, ran, clocked, -⟩ |
      ⟨batch, left, -, asked, ran, clocked, -⟩
  · rw [unasked] at member
    cases member
  · rw [asked, List.mem_singleton] at member
    rw [ran, clocked, member]
  · rw [asked, List.mem_singleton] at member
    rw [ran, clocked, member]

/-- A poll does not end before it begins. -/
theorem le_clock_pollAt (intake : Intake (Observed σ)) (clock : Nat) :
    clock ≤ (intake.pollAt clock).2.world.clock := by
  rcases intake.contactsAt_cases clock with
    ⟨pause, -, -, ran⟩ | ⟨error, left, -, -, ran, clocked, -⟩ |
      ⟨batch, left, -, -, ran, clocked, -⟩
  · rw [ran]
    exact Nat.le_refl _
  · rw [ran, clocked]
    exact Nat.le_add_right _ _
  · rw [ran, clocked]
    exact Nat.le_add_right _ _

/-- Every poll begins when the one before has ended. -/
def InTurn (intake : Intake (Observed σ)) : List Nat → Prop
  | [] => True
  | clock :: rest => intake.world.clock ≤ clock ∧ (intake.pollAt clock).2.InTurn rest

/-- Of polls in turn, each begins when all questions before were answered. -/
theorem answered_le_of_inTurn {intake : Intake (Observed σ)} {clocks : List Nat} {clock : Nat}
    {past : List Contact} (known : ∀ contact ∈ past, contact.answered ≤ intake.world.clock)
    (inTurn : intake.InTurn (clocks ++ [clock])) :
    ∀ contact ∈ past ++ intake.contacts clocks, contact.answered ≤ clock := by
  induction clocks generalizing intake past with
  | nil =>
      rw [contacts, List.append_nil]
      intro contact member
      exact (known contact member).trans inTurn.1
  | cons first rest ih =>
      rw [contacts, ← List.append_assoc]
      apply ih _ inTurn.2
      intro contact member
      rcases List.mem_append.mp member with before | now
      · exact ((known contact before).trans inTurn.1).trans (intake.le_clock_pollAt first)
      · exact answered_le_of_mem_contactsAt now

/-- What a buffer knows of some questions: whether and when the last one failed. -/
structure Remembers (cooldown : Nat) (buffer : Buffer) (past : List Contact) : Prop where
  cooldown : buffer.cooldown = cooldown
  lastFailure : buffer.lastFailure = past.getLast?.bind Contact.failure?

section Remembers

variable {cooldown : Nat} {buffer : Buffer} {past : List Contact}

/-- There is a pause if the last question failed less than the cooldown ago. -/
theorem Remembers.pause?_eq_some_iff (remembers : Remembers cooldown buffer past)
    {clock pause : Nat} :
    buffer.pause? clock = some pause ↔
      ∃ last, past.getLast? = some last ∧ last.Failed ∧ clock - last.answered < cooldown ∧
        pause = cooldown - (clock - last.answered) := by
  rw [Buffer.pause?_eq_some_iff, remembers.lastFailure, remembers.cooldown]
  constructor
  · intro paused
    rcases paused with ⟨failure, known, early, length⟩
    rcases Option.bind_eq_some_iff.mp known with ⟨last, asked, dated⟩
    rcases Contact.failure?_eq_some_iff.mp dated with ⟨failed, rfl⟩
    exact ⟨last, asked, failed, early, length⟩
  · intro paused
    rcases paused with ⟨last, asked, failed, early, length⟩
    refine ⟨last.answered, ?_, early, length⟩
    rw [asked, Option.bind_some]
    exact Contact.failure?_eq_some_iff.mpr ⟨failed, rfl⟩

theorem Remembers.pause?_eq_none_iff (remembers : Remembers cooldown buffer past) {clock : Nat} :
    buffer.pause? clock = none ↔
      past.getLast? = none ∨
        ∃ last, past.getLast? = some last ∧
          (¬last.Failed ∨ cooldown ≤ clock - last.answered) := by
  rw [Option.eq_none_iff_forall_ne_some]
  simp only [ne_eq, remembers.pause?_eq_some_iff]
  cases past.getLast? with
  | none => simp
  | some last =>
      by_cases failed : last.Failed
      · simp [failed]
      · simp [failed]

end Remembers

theorem Remembers.pollAt {cooldown : Nat} {intake : Intake (Observed σ)} {past : List Contact}
    (remembers : Remembers cooldown intake.buffer past) (clock : Nat) :
    Remembers cooldown (intake.pollAt clock).2.buffer (past ++ intake.contactsAt clock) := by
  rcases intake.contactsAt_cases clock with
    ⟨pause, -, unasked, ran⟩ | ⟨error, left, -, asked, ran, -, kept⟩ |
      ⟨batch, left, -, asked, ran, -, kept⟩
  · rw [unasked, ran, List.append_nil]
    exact ⟨remembers.cooldown, remembers.lastFailure⟩
  · rw [asked, ran, kept]
    constructor
    · exact remembers.cooldown
    · rw [List.getLast?_concat]
      rfl
  · rw [asked, ran, kept]
    constructor
    · exact remembers.cooldown
    · rw [List.getLast?_concat]
      rfl

/-- After a run the buffer knows of the last question. -/
theorem Remembers.afterPolls {cooldown : Nat} {intake : Intake (Observed σ)} {past : List Contact}
    (remembers : Remembers cooldown intake.buffer past) (clocks : List Nat) :
    Remembers cooldown (intake.afterPolls clocks).buffer (past ++ intake.contacts clocks) := by
  -- The past grows with the run, so that a run of refused polls ends with the question before it.
  induction clocks generalizing intake past with
  | nil =>
      rw [contacts, List.append_nil]
      exact remembers
  | cons clock rest ih =>
      rw [contacts, ← List.append_assoc]
      exact ih (remembers.pollAt clock)

/-! ## What decides a poll -/

/-- A poll asks the source unless there is a pause. -/
theorem contactsAt_ne_nil_iff (intake : Intake (Observed σ)) (clock : Nat) :
    intake.contactsAt clock ≠ [] ↔ intake.buffer.pause? clock = none := by
  rcases intake.contactsAt_cases clock with
    ⟨pause, paused, unasked, -⟩ | ⟨error, left, ready, asked, -⟩ | ⟨batch, left, ready, asked, -⟩
  · simp [paused, unasked]
  · simp [ready, asked]
  · simp [ready, asked]

/-- A poll that asks nothing is refused: it tells how long the pause lasts, and all but the time
is as it was. -/
theorem pollAt_of_contactsAt_eq_nil {intake : Intake (Observed σ)} {clock : Nat}
    (unasked : intake.contactsAt clock = []) :
    ∃ pause, intake.buffer.pause? clock = some pause ∧
      intake.pollAt clock =
        (.error (.retryCooldown (.ofNat (Buffer.milliseconds pause))), intake.atTime clock) := by
  rcases intake.contactsAt_cases clock with
    ⟨pause, paused, -, ran⟩ | ⟨error, left, -, asked, -⟩ | ⟨batch, left, -, asked, -⟩
  · exact ⟨pause, paused, ran⟩
  · rw [asked] at unasked
    cases unasked
  · rw [asked] at unasked
    cases unasked

/-- A poll that fails changes at most the time of the last failure. -/
theorem buffer_of_pollAt_eq_error {intake left : Intake (Observed σ)} {clock : Nat}
    {error : TriageError} (failed : intake.pollAt clock = (.error error, left)) :
    ∃ lastFailure, left.buffer = { intake.buffer with lastFailure } := by
  rcases intake.contactsAt_cases clock with
    ⟨pause, -, -, ran⟩ | ⟨_, last, -, -, ran, -, kept⟩ | ⟨batch, last, -, -, ran, -⟩
  · rw [ran] at failed
    cases failed
    exact ⟨intake.buffer.lastFailure, rfl⟩
  · rw [ran] at failed
    cases failed
    exact ⟨_, kept⟩
  · rw [ran] at failed
    cases failed

end Intake

/-- The pause after a failure, over every run of polls of a new buffer.  A poll asks the source if
and only if nothing was asked before, or the last question did not fail, or it failed at least the
cooldown ago; the failure is at the time of the answer, however long the source took.  A poll that
does not ask is refused with the rest of the pause in whole milliseconds; it changes nothing, and
every later poll goes as if it had not been made.  A poll that fails, refused or not, brings
nothing.  All of this holds of the source as it is, since observing it changes nothing.  Where each
poll begins when the one before has ended, the last question was answered before the poll, so the
time between them is their difference. -/
theorem Intake.contactsAt_iff_cooled {σ : Type} [LogSource σ] (source : σ) (cooldown : Nat)
    (world : World) (clocks : List Nat) (clock : Nat) :
    let plain : Intake σ := ⟨{ cooldown }, source, world⟩
    let start : Intake (Observed σ) := ⟨{ cooldown }, { source }, world⟩
    let intake := start.afterPolls clocks
    let last? := (start.contacts clocks).getLast?
    let outcome := (intake.pollAt clock).1
    let left := (intake.pollAt clock).2
    (intake.contactsAt clock ≠ [] ↔
        last? = none ∨
          ∃ last, last? = some last ∧ (¬last.Failed ∨ cooldown ≤ clock - last.answered)) ∧
      (intake.contactsAt clock = [] →
        ∃ last milliseconds, last? = some last ∧ last.Failed ∧
          outcome = .error (.retryCooldown milliseconds) ∧
          milliseconds.toNat = min ((cooldown - (clock - last.answered)) / 1000000) (2 ^ 64 - 1) ∧
          left = intake.atTime clock ∧ ∀ later, left.pollAt later = intake.pollAt later) ∧
      (∀ error, outcome = .error error →
        left.buffer.entries = intake.buffer.entries ∧
          left.buffer.watermark = intake.buffer.watermark ∧
          left.buffer.polled = intake.buffer.polled ∧
          left.buffer.received = intake.buffer.received) ∧
      (∀ last, last? = some last → last.asked ∈ clocks ∧ last.asked ≤ last.answered ∧
        (start.InTurn (clocks ++ [clock]) → last.answered ≤ clock)) ∧
      plain.afterPolls clocks = intake.unobserved ∧
      (plain.afterPolls clocks).pollAt clock = (outcome, left.unobserved) := by
  intro plain start intake last? outcome left
  have begins : Remembers cooldown start.buffer [] := ⟨rfl, rfl⟩
  have remembers : Remembers cooldown intake.buffer (start.contacts clocks) :=
    begins.afterPolls clocks
  have unobserved : plain.afterPolls clocks = intake.unobserved :=
    start.afterPolls_unobserved clocks
  refine ⟨?_, ?_, ?_, ?_, unobserved, ?_⟩
  · rw [intake.contactsAt_ne_nil_iff, remembers.pause?_eq_none_iff]
  · intro unasked
    rcases pollAt_of_contactsAt_eq_nil unasked with ⟨pause, paused, ran⟩
    rcases remembers.pause?_eq_some_iff.mp paused with ⟨last, asked, failed, -, rfl⟩
    have refused : left = intake.atTime clock := congrArg Prod.snd ran
    refine ⟨last, _, asked, failed, congrArg Prod.fst ran, ?_, refused, ?_⟩
    · rw [Buffer.toNat_milliseconds]
    · intro later
      rw [refused]
      rfl
  · intro error failed
    have ran : intake.pollAt clock = (.error error, left) := Prod.ext failed rfl
    rcases buffer_of_pollAt_eq_error ran with ⟨lastFailure, kept⟩
    rw [kept]
    exact ⟨rfl, rfl, rfl, rfl⟩
  · intro last asked
    have member : last ∈ start.contacts clocks := List.mem_of_getLast? asked
    obtain ⟨put, later⟩ := asked_mem_of_mem_contacts member
    refine ⟨put, later, ?_⟩
    intro inTurn
    exact answered_le_of_inTurn (List.forall_mem_nil _) inTurn last member
  · rw [unobserved]
    exact intake.pollAt_unobserved clock

/-- A new buffer with a source that takes thirty milliseconds to fail, and then has a record. -/
def failingIntake : Intake (Observed Script) :=
  ⟨{ cooldown := 5000000 },
    { source :=
        { outcomes := [.error .sourceMissing, .ok [linedRecord 1 "a"]]
          delays := [30000000] } }, {}⟩

/-- A poll that begins a millisecond after the failure is refused, though the question was put
longer ago than the cooldown.  One nanosecond before the end of the pause a poll is refused, with
no whole millisecond left, and at its end the source is asked: the refused polls in between did not
prolong the pause. -/
theorem Intake.contactsAt_iff_cooled_boundary :
    failingIntake.InTurn [0, 31000000, 34999999, 35000000] ∧
      ((failingIntake.afterPolls [0]).pollAt 31000000).1 = .error (.retryCooldown 4) ∧
      ((failingIntake.afterPolls [0, 31000000]).pollAt 34999999).1 = .error (.retryCooldown 0) ∧
      (failingIntake.afterPolls [0, 31000000]).contactsAt 34999999 = [] ∧
      (failingIntake.afterPolls [0, 31000000, 34999999]).contactsAt 35000000 ≠ [] := by
  have inTurn : failingIntake.InTurn [0, 31000000, 34999999, 35000000] := by
    refine ⟨?_, ?_, ?_, ?_, trivial⟩ <;> decide +kernel
  have asked := (Intake.contactsAt_iff_cooled failingIntake.source.source 5000000 {}
    [0, 31000000, 34999999] 35000000).1
  refine ⟨inTurn, rfl, rfl, rfl,
    asked.mpr (.inr ⟨⟨0, 30000000, .error .sourceMissing⟩, rfl, .inr ?_⟩)⟩
  decide

end LogSieve
