import Mathlib.Data.List.Nodup
import Mathlib.Data.List.TakeWhile
import LogSieve.Proofs.Store.HitCounting
import LogSieve.Source.Script

/-!
# The watermark of a buffer

A source may deliver again what it delivered before.  Of every batch a buffer cuts
off what is not after its watermark.  As batches come with the newest record first,
cutting is the same as leaving out, record by record, what is not new; so the buffer
keeps its order, the watermark stays at its first record, and no poll brings a record
that an earlier one delivered.
-/

namespace LogSieve

/-- No record is older than one after it. -/
def NewestFirst (records : List Record) : Prop :=
  records.Pairwise fun first second => second.timestamp ≤ first.timestamp

instance (records : List Record) : Decidable (NewestFirst records) :=
  inferInstanceAs (Decidable (records.Pairwise _))

namespace LogSource

variable {σ : Type} [LogSource σ]

/-- What a source can become by questions. -/
abbrev Leads : σ → σ → Prop :=
  Relation.ReflTransGen fun source left => ∃ after, (fetch source after).2 = left

/-- Whatever a source is asked, now or later, it delivers the newest record first. -/
def Ordered (source : σ) : Prop :=
  ∀ later, Leads source later → ∀ after batch left,
    fetch later after = (.ok batch, left) → NewestFirst batch

theorem Ordered.of_leads {source left : σ} (ordered : Ordered source)
    (leads : Leads source left) : Ordered left := by
  intro later further
  exact ordered later (leads.trans further)

theorem Ordered.newestFirst {source left : σ} {after : Option Int64} {batch : List Record}
    (ordered : Ordered source) (fetched : fetch source after = (.ok batch, left)) :
    NewestFirst batch :=
  ordered source .refl after batch left fetched

end LogSource

/-! ## Cutting a batch -/

namespace Buffer

/-- Whether a record is after the watermark. -/
def isNew (buffer : Buffer) (record : Record) : Bool :=
  buffer.watermark.all (· < record.timestamp)

/-- What is not older than a new record is new. -/
theorem isNew_of_le {buffer : Buffer} {older newer : Record}
    (le : older.timestamp ≤ newer.timestamp) (new : buffer.isNew older = true) :
    buffer.isNew newer = true := by
  cases marked : buffer.watermark with
  | none => simp [isNew, marked]
  | some watermark =>
      simp only [isNew, marked, Option.all_some, decide_eq_true_eq, Int64.lt_iff_toInt_lt] at new ⊢
      rw [Int64.le_iff_toInt_le] at le
      omega

/-- A new record is later than one that is not new. -/
theorem lt_of_isNew {buffer : Buffer} {old new : Record} (known : buffer.isNew old = false)
    (isNew : buffer.isNew new = true) : old.timestamp < new.timestamp := by
  rw [← Int64.not_le]
  intro le
  rw [isNew_of_le le isNew] at known
  cases known

theorem trim_eq_takeWhile (buffer : Buffer) (batch : List Record) :
    buffer.trim batch = batch.takeWhile buffer.isNew := by
  cases marked : buffer.watermark with
  | none =>
      have all : ∀ record ∈ batch, buffer.isNew record = true := by simp [isNew, marked]
      simp only [trim, marked]
      exact (List.takeWhile_eq_self_iff.mpr all).symm
  | some watermark =>
      simp only [trim, marked]
      congr 1
      funext record
      simp [isNew, marked]

/-- Of a batch with the newest record first, cutting keeps the new records. -/
theorem trim_eq_filter (buffer : Buffer) {batch : List Record} (sorted : NewestFirst batch) :
    buffer.trim batch = batch.filter buffer.isNew := by
  rw [trim_eq_takeWhile]
  induction batch with
  | nil => rfl
  | cons newest rest ih =>
      obtain ⟨older, sortedRest⟩ := List.pairwise_cons.mp sorted
      by_cases new : buffer.isNew newest = true
      · rw [List.takeWhile_cons_of_pos new, List.filter_cons_of_pos new, ih sortedRest]
      · -- The cut is here, and nothing behind it is new.
        have none : ∀ record ∈ newest :: rest, ¬buffer.isNew record = true := by
          intro record member later
          obtain rfl | behind := List.mem_cons.mp member
          · exact new later
          · exact new (isNew_of_le (older record behind) later)
        rw [List.takeWhile_cons_of_neg new, List.filter_eq_nil_iff.mpr none]

/-! ## Taking in records -/

/-- The records are in order, the watermark is the time of the first one, and all that
came in are there. -/
structure Orderly (buffer : Buffer) : Prop where
  newestFirst : NewestFirst buffer.records
  watermark : buffer.watermark = buffer.records.head?.map (·.timestamp)
  received : buffer.received = buffer.records.length

/-- A record of the buffer is not new. -/
theorem Orderly.isNew_of_mem {buffer : Buffer} (orderly : Orderly buffer) {record : Record}
    (member : record ∈ buffer.records) : buffer.isNew record = false := by
  have sorted := orderly.newestFirst
  have marked := orderly.watermark
  cases stored : buffer.records with
  | nil =>
      rw [stored] at member
      cases member
  | cons first rest =>
      rw [stored] at sorted marked member
      have last : record.timestamp ≤ first.timestamp := by
        obtain rfl | behind := List.mem_cons.mp member
        · exact Int64.le_refl _
        · exact (List.pairwise_cons.mp sorted).1 record behind
      simpa [isNew, marked] using last

/-- Nothing came in. -/
structure Unfed (before after : Buffer) : Prop where
  records : after.records = before.records
  watermark : after.watermark = before.watermark
  received : after.received = before.received

theorem Orderly.of_unfed {before after : Buffer} (orderly : Orderly before)
    (unfed : Unfed before after) : Orderly after where
  newestFirst := by
    rw [unfed.records]
    exact orderly.newestFirst
  watermark := by rw [unfed.watermark, unfed.records, orderly.watermark]
  received := by rw [unfed.received, unfed.records, orderly.received]

/-- New records in order leave the buffer in order. -/
theorem Orderly.accept {buffer : Buffer} (orderly : Orderly buffer) {fresh : List Record}
    (sorted : NewestFirst fresh) (new : ∀ record ∈ fresh, buffer.isNew record = true) :
    Orderly (buffer.accept fresh) where
  newestFirst := by
    rw [Session.records_accept]
    refine List.pairwise_append.mpr ⟨sorted, orderly.newestFirst, ?_⟩
    intro record taken old stored
    have later := lt_of_isNew (orderly.isNew_of_mem stored) (new record taken)
    rw [Int64.lt_iff_toInt_lt] at later
    rw [Int64.le_iff_toInt_le]
    omega
  watermark := by
    rw [Session.records_accept]
    cases fresh with
    | nil => exact orderly.watermark
    | cons newest rest => rfl
  received := by
    rw [Session.records_accept, List.length_append, Nat.add_comm, ← orderly.received]
    rfl

/-- Taking in new records makes no record new. -/
theorem isNew_accept {buffer : Buffer} {fresh : List Record}
    (new : ∀ record ∈ fresh, buffer.isNew record = true) {record : Record}
    (known : buffer.isNew record = false) : (buffer.accept fresh).isNew record = false := by
  cases fresh with
  | nil => exact known
  | cons newest rest =>
      have later := lt_of_isNew known (new newest (by simp))
      have marked : (buffer.accept (newest :: rest)).watermark = some newest.timestamp := rfl
      rw [Int64.lt_iff_toInt_lt] at later
      simp only [isNew, marked, Option.all_some, decide_eq_false_iff_not, Int64.lt_iff_toInt_lt]
      omega

/-- After a batch was taken in, none of its records is new any more. -/
theorem isNew_accept_trim {buffer : Buffer} (orderly : Orderly buffer) {batch : List Record}
    (sorted : NewestFirst batch) {record : Record} (delivered : record ∈ batch) :
    (buffer.accept (buffer.trim batch)).isNew record = false := by
  rw [trim_eq_filter buffer sorted]
  have new : ∀ record ∈ batch.filter buffer.isNew, buffer.isNew record = true :=
    fun _ member => (List.mem_filter.mp member).2
  cases known : buffer.isNew record with
  | false => exact isNew_accept new known
  | true =>
      have after := orderly.accept (sorted.sublist List.filter_sublist) new
      apply after.isNew_of_mem
      rw [Session.records_accept, List.mem_append]
      exact .inl (List.mem_filter.mpr ⟨delivered, known⟩)

end Buffer

/-! ## Polls -/

namespace Intake

variable {σ : Type} [LogSource σ]

/-- The same at some time. -/
def atTime (intake : Intake σ) (clock : Nat) : Intake σ :=
  { intake with world := { intake.world with clock } }

/-- A poll at some time: its outcome, and what is left. -/
def pollAt (intake : Intake σ) (clock : Nat) : Except TriageError (List Record) × Intake σ :=
  poll.run (intake.atTime clock)

/-- What the source delivers to a poll at some time: nothing during a pause, and nothing
if it fails. -/
def delivery? (intake : Intake σ) (clock : Nat) : Option (List Record) :=
  match intake.buffer.pause? clock with
  | some _ => none
  | none => (LogSource.fetch intake.source intake.buffer.watermark).1.toOption

/-- A poll fails and brings nothing, or what is new in the batch delivered to it comes
in. -/
theorem pollAt_cases (intake : Intake σ) (clock : Nat) :
    (∃ error left, intake.pollAt clock = (.error error, left) ∧
      intake.delivery? clock = none ∧ intake.buffer.Unfed left.buffer ∧
      LogSource.Leads intake.source left.source) ∨
    (∃ batch left, intake.pollAt clock = (.ok (intake.buffer.trim batch), left) ∧
      intake.delivery? clock = some batch ∧
      left.buffer = intake.buffer.accept (intake.buffer.trim batch) ∧
      LogSource.fetch intake.source intake.buffer.watermark = (.ok batch, left.source)) := by
  have asked {outcome : Except TriageError (List Record)} {source : σ}
      (ready : intake.buffer.pause? clock = none)
      (fetched : LogSource.fetch intake.source intake.buffer.watermark = (outcome, source)) :
      intake.delivery? clock = outcome.toOption := by
    simp only [delivery?, ready, fetched]
  obtain ⟨pause, paused, ran⟩ | ⟨error, source, ready, fetched, ran⟩ |
    ⟨batch, source, ready, fetched, ran⟩ := (intake.atTime clock).poll_cases
  · have waits : intake.buffer.pause? clock = some pause := paused
    exact .inl ⟨_, _, ran, by simp only [delivery?, waits], ⟨rfl, rfl, rfl⟩, .refl⟩
  · have leads : LogSource.Leads intake.source source :=
      .single ⟨intake.buffer.watermark, congrArg Prod.snd fetched⟩
    exact .inl ⟨_, _, ran, asked ready fetched, ⟨rfl, rfl, rfl⟩, leads⟩
  · exact .inr ⟨batch, _, ran, asked ready fetched, rfl, fetched⟩

/-- Buffer and source are in order. -/
structure Orderly (intake : Intake σ) : Prop where
  buffer : intake.buffer.Orderly
  source : LogSource.Ordered intake.source

variable {intake : Intake σ}

/-- A poll leaves everything in order. -/
theorem Orderly.pollAt (orderly : Orderly intake) (clock : Nat) :
    Orderly (intake.pollAt clock).2 := by
  obtain ⟨error, left, ran, -, unfed, leads⟩ | ⟨batch, left, ran, -, taken, fetched⟩ :=
    intake.pollAt_cases clock
  · rw [ran]
    exact ⟨orderly.buffer.of_unfed unfed, orderly.source.of_leads leads⟩
  · rw [ran]
    have sorted := orderly.source.newestFirst fetched
    refine ⟨?_, orderly.source.of_leads (.single ⟨_, congrArg Prod.snd fetched⟩)⟩
    rw [taken, intake.buffer.trim_eq_filter sorted]
    exact orderly.buffer.accept (sorted.sublist List.filter_sublist)
      fun _ member => (List.mem_filter.mp member).2

/-- What one poll takes in: of the batch delivered to it the records after the watermark,
and nothing if none is delivered. -/
theorem Orderly.pollAt_eq (orderly : Orderly intake) (clock : Nat) :
    match intake.delivery? clock with
    | some batch =>
        (intake.pollAt clock).1 = .ok (batch.filter intake.buffer.isNew) ∧
          (intake.pollAt clock).2.buffer.records =
            batch.filter intake.buffer.isNew ++ intake.buffer.records
    | none =>
        (∃ error, (intake.pollAt clock).1 = .error error) ∧
          (intake.pollAt clock).2.buffer.records = intake.buffer.records := by
  obtain ⟨error, left, ran, missing, unfed, -⟩ | ⟨batch, left, ran, delivered, taken, fetched⟩ :=
    intake.pollAt_cases clock
  · rw [missing, ran]
    exact ⟨⟨error, rfl⟩, unfed.records⟩
  · have sorted := orderly.source.newestFirst fetched
    rw [delivered, ran, intake.buffer.trim_eq_filter sorted]
    refine ⟨rfl, ?_⟩
    rw [taken, Session.records_accept, intake.buffer.trim_eq_filter sorted]

/-- A record that is not new stays so. -/
theorem Orderly.isNew_pollAt (orderly : Orderly intake) (clock : Nat) {record : Record}
    (known : intake.buffer.isNew record = false) :
    (intake.pollAt clock).2.buffer.isNew record = false := by
  obtain ⟨error, left, ran, -, unfed, -⟩ | ⟨batch, left, ran, -, taken, fetched⟩ :=
    intake.pollAt_cases clock
  · rw [ran, Buffer.isNew, unfed.watermark]
    exact known
  · rw [ran, taken, intake.buffer.trim_eq_filter (orderly.source.newestFirst fetched)]
    exact Buffer.isNew_accept (fun _ member => (List.mem_filter.mp member).2) known

/-! ## Runs of polls -/

/-- What is left after polls at some times. -/
def afterPolls (intake : Intake σ) (clocks : List Nat) : Intake σ :=
  clocks.foldl (fun intake clock => (intake.pollAt clock).2) intake

/-- What was delivered to a poll, and what the poll took in. -/
structure Delivery where
  batch : List Record
  taken : List Record

/-- What a poll that is answered delivers and takes in. -/
def answered? (intake : Intake σ) (clock : Nat) : Option Delivery :=
  match intake.delivery? clock, (intake.pollAt clock).1 with
  | some batch, .ok taken => some ⟨batch, taken⟩
  | _, _ => none

/-- What the polls of a run deliver and take in, in turn. -/
def deliveries (intake : Intake σ) : List Nat → List Delivery
  | [] => []
  | clock :: rest =>
      (intake.answered? clock).toList ++ (intake.pollAt clock).2.deliveries rest

theorem Orderly.afterPolls (orderly : Orderly intake) (clocks : List Nat) :
    Orderly (intake.afterPolls clocks) := by
  induction clocks generalizing intake with
  | nil => exact orderly
  | cons clock rest ih => exact ih (orderly.pollAt clock)

/-- What an answered poll took in is what was new of its batch, and came before the other
records. -/
theorem Orderly.answered_eq_some (orderly : Orderly intake) {clock : Nat} {delivery : Delivery}
    (answered : intake.answered? clock = some delivery) :
    delivery.taken = delivery.batch.filter intake.buffer.isNew ∧
      (intake.pollAt clock).2.buffer.records = delivery.taken ++ intake.buffer.records ∧
      ∀ record ∈ delivery.batch, (intake.pollAt clock).2.buffer.isNew record = false := by
  obtain ⟨error, left, ran, missing, -⟩ | ⟨batch, left, ran, delivered, accepted, fetched⟩ :=
    intake.pollAt_cases clock
  · simp [answered?, missing] at answered
  · have sorted := orderly.source.newestFirst fetched
    simp only [answered?, delivered, ran, Option.some.injEq] at answered
    subst answered
    simp only [ran, accepted]
    refine ⟨intake.buffer.trim_eq_filter sorted, Session.records_accept _ _, ?_⟩
    intro record member
    exact Buffer.isNew_accept_trim orderly.buffer sorted member

/-- A poll that is not answered brings nothing. -/
theorem records_of_answered?_eq_none {clock : Nat} (unanswered : intake.answered? clock = none) :
    (intake.pollAt clock).2.buffer.records = intake.buffer.records := by
  obtain ⟨error, left, ran, -, unfed, -⟩ | ⟨batch, left, ran, delivered, -⟩ :=
    intake.pollAt_cases clock
  · rw [ran]
    exact unfed.records
  · simp [answered?, delivered, ran] at unanswered

/-- Polls take in nothing that is as old as a record that is not new. -/
theorem Orderly.lt_of_mem_deliveries (orderly : Orderly intake) {old : Record}
    (known : intake.buffer.isNew old = false) (clocks : List Nat) :
    ∀ delivery ∈ intake.deliveries clocks, ∀ new ∈ delivery.taken,
      old.timestamp < new.timestamp := by
  induction clocks generalizing intake with
  | nil => simp [deliveries]
  | cons clock rest ih =>
      intro delivery member new taken
      obtain now | later := List.mem_append.mp member
      · have answered := Option.mem_toList.mp now
        rw [(orderly.answered_eq_some answered).1] at taken
        exact Buffer.lt_of_isNew known (List.mem_filter.mp taken).2
      · have knownNext := orderly.isNew_pollAt clock known
        exact ih (orderly.pollAt clock) knownNext delivery later new taken

/-- What a poll takes in is later than all that was delivered before. -/
theorem Orderly.pairwise_deliveries (orderly : Orderly intake) (clocks : List Nat) :
    (intake.deliveries clocks).Pairwise fun earlier later =>
      ∀ old ∈ earlier.batch, ∀ new ∈ later.taken, old.timestamp < new.timestamp := by
  induction clocks generalizing intake with
  | nil => exact .nil
  | cons clock rest ih =>
      refine List.pairwise_append.mpr ⟨?_, ih (orderly.pollAt clock), ?_⟩
      · cases intake.answered? clock <;> simp
      · intro earlier now later member old delivered
        have answered := Option.mem_toList.mp now
        have known := (orderly.answered_eq_some answered).2.2 old delivered
        exact (orderly.pollAt clock).lt_of_mem_deliveries known rest later member

/-- The buffer holds what the polls took in, the last first. -/
theorem Orderly.records_afterPolls (orderly : Orderly intake) (clocks : List Nat) :
    (intake.afterPolls clocks).buffer.records =
      ((intake.deliveries clocks).map (·.taken)).reverse.flatten ++ intake.buffer.records := by
  induction clocks generalizing intake with
  | nil => rfl
  | cons clock rest ih =>
      have last : (intake.afterPolls (clock :: rest)).buffer.records =
          (((intake.pollAt clock).2.deliveries rest).map (·.taken)).reverse.flatten ++
            (intake.pollAt clock).2.buffer.records := ih (orderly.pollAt clock)
      rw [last, deliveries]
      cases answered : intake.answered? clock with
      | none => simp [records_of_answered?_eq_none answered]
      | some delivery => simp [(orderly.answered_eq_some answered).2.1]

/-- What is taken in was delivered. -/
theorem Orderly.taken_sublist (orderly : Orderly intake) (clocks : List Nat) :
    ∀ delivery ∈ intake.deliveries clocks, delivery.taken.Sublist delivery.batch := by
  induction clocks generalizing intake with
  | nil => simp [deliveries]
  | cons clock rest ih =>
      intro delivery member
      obtain now | later := List.mem_append.mp member
      · rw [(orderly.answered_eq_some (Option.mem_toList.mp now)).1]
        exact List.filter_sublist
      · exact ih (orderly.pollAt clock) delivery later

/-- If no batch has a record twice, the buffer has none twice, however often the same
records are delivered. -/
theorem Orderly.nodup_taken (orderly : Orderly intake) (clocks : List Nat)
    (single : ∀ delivery ∈ intake.deliveries clocks, delivery.batch.Nodup) :
    ((intake.deliveries clocks).map (·.taken)).reverse.flatten.Nodup := by
  have within := orderly.taken_sublist clocks
  have apart := orderly.pairwise_deliveries clocks
  refine List.nodup_flatten.mpr ⟨?_, ?_⟩
  · intro taken member
    obtain ⟨delivery, delivered, rfl⟩ := List.mem_map.mp (List.mem_reverse.mp member)
    exact (single delivery delivered).sublist (within delivery delivered)
  · refine List.pairwise_reverse.mpr (List.pairwise_map.mpr ?_)
    refine apart.imp_of_mem fun {earlier later} delivered _ separate => ?_
    intro record now before
    have stored := (within earlier delivered).subset before
    exact Int64.lt_irrefl (separate record stored record now)

end Intake

/-- A buffer that was just made is in order. -/
theorem Buffer.orderly_new (cooldown : Nat) : Orderly { cooldown } := ⟨.nil, rfl, rfl⟩

/-- A buffer stays in order, whatever is delivered again and whatever fails.  Its records
are the newest first, the watermark is the time of the first one, and all records that
came in are there.  A poll takes in exactly the records of its batch that are after the
watermark, before the others, and gives them back; so polls never bring records of one
time, and no record that an earlier poll delivered. -/
theorem Intake.orderly_afterPolls {σ : Type} [LogSource σ] (source : σ)
    (ordered : LogSource.Ordered source) (cooldown : Nat) (world : World) (clocks : List Nat) :
    let start : Intake σ := ⟨{ cooldown }, source, world⟩
    let intake := start.afterPolls clocks
    NewestFirst intake.buffer.records ∧
      intake.buffer.watermark = intake.buffer.records.head?.map (·.timestamp) ∧
      intake.buffer.received = intake.buffer.records.length ∧
      (∀ clock, match intake.delivery? clock with
        | some batch =>
            (intake.pollAt clock).1 = .ok (batch.filter intake.buffer.isNew) ∧
              (intake.pollAt clock).2.buffer.records =
                batch.filter intake.buffer.isNew ++ intake.buffer.records
        | none =>
            (∃ error, (intake.pollAt clock).1 = .error error) ∧
              (intake.pollAt clock).2.buffer.records = intake.buffer.records) ∧
      intake.buffer.records = ((start.deliveries clocks).map (·.taken)).reverse.flatten ∧
      ((start.deliveries clocks).Pairwise fun earlier later =>
        ∀ old ∈ earlier.batch, ∀ new ∈ later.taken, old.timestamp < new.timestamp) ∧
      (∀ delivery ∈ start.deliveries clocks, delivery.taken.Sublist delivery.batch) ∧
      ((∀ delivery ∈ start.deliveries clocks, delivery.batch.Nodup) →
        intake.buffer.records.Nodup) := by
  intro start intake
  have begins : Intake.Orderly start := ⟨Buffer.orderly_new cooldown, ordered⟩
  have ends : Intake.Orderly intake := begins.afterPolls clocks
  have records : intake.buffer.records =
      ((start.deliveries clocks).map (·.taken)).reverse.flatten := by
    rw [begins.records_afterPolls clocks]
    exact List.append_nil _
  refine ⟨ends.buffer.newestFirst, ends.buffer.watermark, ends.buffer.received, ends.pollAt_eq,
    records, begins.pairwise_deliveries clocks, begins.taken_sublist clocks, ?_⟩
  intro single
  rw [records]
  exact begins.nodup_taken clocks single

/-- A script is ordered if its batches are. -/
theorem Script.ordered_of_outcomes {script : Script}
    (sorted : ∀ batch, .ok batch ∈ script.outcomes → NewestFirst batch) :
    LogSource.Ordered script := by
  intro later leads
  have left : later.outcomes <:+ script.outcomes := by
    induction leads with
    | refl => exact List.suffix_refl _
    | @tail middle last _ asked ih =>
        obtain ⟨after, rfl⟩ := asked
        refine List.IsSuffix.trans ?_ ih
        cases remaining : middle.outcomes with
        | nil => simp [LogSource.fetch, Script.next, remaining]
        | cons outcome rest => simp [LogSource.fetch, Script.next, remaining]
  intro after batch rest fetched
  cases remaining : later.outcomes with
  | nil =>
      simp only [LogSource.fetch, Script.next, remaining, Prod.mk.injEq, Except.ok.injEq] at fetched
      rw [← fetched.1]
      exact .nil
  | cons outcome others =>
      simp only [LogSource.fetch, Script.next, remaining, Prod.mk.injEq] at fetched
      apply sorted
      apply left.subset
      simp [remaining, fetched.1]

/-- A record with a time and a payload. -/
def linedRecord (timestamp : Int64) (raw : String) : Record := .ofLine timestamp [] raw

/-- A source that delivers records of one time, fails, and delivers old records again, the
last time without anything new. -/
def overlappingScript : Script :=
  { outcomes :=
      [.ok [linedRecord 3 "c", linedRecord 3 "b", linedRecord 2 "a"],
        .error .sourceMissing,
        .ok [linedRecord 5 "e", linedRecord 3 "c", linedRecord 3 "late"],
        .ok [],
        .ok [linedRecord 5 "e", linedRecord 2 "a"]] }

/-- A new buffer with that source. -/
def overlappingIntake : Intake Script := ⟨{ cooldown := 10 }, overlappingScript, {}⟩

/-- Times of polls: the second fails, and the third comes too early. -/
def overlappingClocks : List Nat := [0, 1, 5, 20, 21, 22]

theorem Intake.orderly_afterPolls_overlapping :
    LogSource.Ordered overlappingScript ∧
      NewestFirst (overlappingIntake.afterPolls overlappingClocks).buffer.records ∧
      (overlappingIntake.afterPolls overlappingClocks).buffer.watermark = some 5 ∧
      (overlappingIntake.afterPolls overlappingClocks).buffer.records.map (·.raw) =
        ["e", "c", "b", "a"] ∧
      (overlappingIntake.deliveries overlappingClocks).map (·.taken.length) = [3, 1, 0, 0] := by
  have ordered : LogSource.Ordered overlappingScript := by
    apply Script.ordered_of_outcomes
    intro batch member
    simp only [overlappingScript, List.mem_cons, Except.ok.injEq, reduceCtorEq, List.not_mem_nil,
      false_or, or_false] at member
    obtain rfl | rfl | rfl | rfl := member <;> decide
  have general := Intake.orderly_afterPolls overlappingScript ordered 10 {} overlappingClocks
  exact ⟨ordered, general.1, general.2.1.trans (by decide +kernel), by decide +kernel,
    by decide +kernel⟩

end LogSieve
