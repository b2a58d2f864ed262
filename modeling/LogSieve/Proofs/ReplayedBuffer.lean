import Mathlib
import LogSieve.Proofs.Replay
import LogSieve.Proofs.Watermark

/-!
# A buffer that is fed by a replay

Polls of a replay bring its records into the buffer a chunk at a time.  The watermark is then the
time of the last record that was delivered, whether it was taken in or not.  So a record is lost
exactly if it has the time of the last record of the chunk before; records of different times all
come in, whatever the chunk.
-/

namespace LogSieve

/-- No record is later than one after it. -/
def OldestFirst (records : List Record) : Prop :=
  records.Pairwise fun first second => first.timestamp ≤ second.timestamp

instance (records : List Record) : Decidable (OldestFirst records) :=
  inferInstanceAs (Decidable (records.Pairwise _))

namespace Replay

/-- Whether a record with its position is kept when records are replayed by a size: it is one of the
first chunk, or later than the last record of the chunk before its own. -/
def isKept (records : List Record) (size : Nat) (entry : Record × Nat) : Bool :=
  entry.2 < size ||
    (records[entry.2 / size * size - 1]?).any (·.timestamp < entry.1.timestamp)

/-- The records that are kept when records are replayed by a size. -/
def kept (records : List Record) (size : Nat) : List Record :=
  (records.zipIdx.filter (isKept records size)).map (·.1)

/-- Of records with increasing times all are kept. -/
theorem kept_of_increasing {records : List Record} {size : Nat} (positive : 0 < size)
    (increasing : records.Pairwise fun first second => first.timestamp < second.timestamp) :
    kept records size = records := by
  have all : ∀ entry ∈ records.zipIdx, isKept records size entry = true := by
    intro entry member
    have stands : records[entry.2]? = some entry.1 := List.mem_zipIdx_iff_getElem?.mp member
    rcases List.getElem?_eq_some_iff.mp stands with ⟨within, here⟩
    rw [isKept, Bool.or_eq_true, decide_eq_true_eq]
    by_cases first : entry.2 < size
    · exact .inl first
    · -- The last record of the chunk before stands before the record.
      have chunks : 0 < entry.2 / size * size :=
        Nat.mul_pos (Nat.div_pos (Nat.le_of_not_lt first) positive) positive
      have whole : entry.2 / size * size ≤ entry.2 := Nat.div_mul_le_self entry.2 size
      have before : entry.2 / size * size - 1 < entry.2 := by omega
      have earlier := List.pairwise_iff_getElem.mp increasing _ _ (before.trans within) within before
      right
      rw [List.getElem?_eq_getElem (before.trans within), Option.any_some, decide_eq_true_eq, ← here]
      exact earlier
  rw [kept, List.filter_eq_self.mpr all, List.zipIdx_map_fst]

end Replay

/-! ## One batch -/

namespace Buffer

/-- After a batch the watermark is the time of the last record delivered, also if it was cut
off. -/
theorem watermark_accept_trim {buffer : Buffer} {delivered batch : List Record}
    (marked : buffer.watermark = delivered.getLast?.map (·.timestamp))
    (sorted : OldestFirst (delivered ++ batch.reverse)) :
    (buffer.accept (buffer.trim batch)).watermark =
      (delivered ++ batch.reverse).getLast?.map (·.timestamp) := by
  rw [List.getLast?_append, List.getLast?_reverse, trim_eq_takeWhile]
  cases batch with
  | nil => exact marked
  | cons newest older =>
      by_cases new : buffer.isNew newest = true
      · rw [List.takeWhile_cons_of_pos new]
        rfl
      · rw [List.takeWhile_cons_of_neg new]
        change buffer.watermark = some newest.timestamp
        -- There is a record before, not earlier by the cut and not later by the order.
        cases last : delivered.getLast? with
        | none =>
            rw [last] at marked
            apply absurd _ new
            simp [isNew, marked]
        | some before =>
            rw [last, Option.map_some] at marked
            have le : before.timestamp ≤ newest.timestamp :=
              (List.pairwise_append.mp sorted).2.2 before (List.mem_of_getLast? last) newest
                (by simp)
            have ge : newest.timestamp ≤ before.timestamp := by simpa [isNew, marked] using new
            rw [marked, Int64.le_antisymm le ge]

theorem accept_nil {buffer : Buffer} (calm : buffer.lastFailure = none) :
    buffer.accept [] = { buffer with polled := true } := by
  simp only [accept, calm, List.map_nil, List.nil_append, List.length_nil, Nat.add_zero]

/-- Of a chunk those records are kept that are after the time of the last record before it. -/
theorem isKept_eq_isNew {buffer : Buffer} {records : List Record} {size count : Nat}
    (positive : 0 < size)
    (marked : buffer.watermark = (records.take (count * size)).getLast?.map (·.timestamp))
    {entry : Record × Nat} (member : entry ∈ (records.zipIdx.drop (count * size)).take size) :
    Replay.isKept records size entry = buffer.isNew entry.1 := by
  rcases List.mem_iff_getElem?.mp member with ⟨index, found⟩
  rw [List.getElem?_take, Option.ite_none_right_eq_some, List.getElem?_drop,
    List.getElem?_zipIdx, Option.map_eq_some_iff] at found
  rcases found with ⟨small, record, stands, rfl⟩
  rcases List.getElem?_eq_some_iff.mp stands with ⟨within, -⟩
  rw [Nat.zero_add, Replay.isKept, isNew, marked, List.getLast?_take]
  cases count with
  | zero => simp [small]
  | succ count =>
      have later : ¬(count + 1) * size + index < size := by
        rw [Nat.succ_mul]
        omega
      have chunk : ((count + 1) * size + index) / size = count + 1 := by
        rw [Nat.mul_comm, Nat.mul_add_div positive, Nat.div_eq_of_lt small, Nat.add_zero]
      have before : (count + 1) * size - 1 < records.length := by omega
      have nonzero : (count + 1) * size ≠ 0 := Nat.mul_ne_zero (Nat.succ_ne_zero _) positive.ne'
      simp only [chunk, later, nonzero, List.getElem?_eq_getElem before, decide_false,
        Bool.false_or, if_false, Option.some_or, Option.map_some, Option.any_some,
        Option.all_some]

end Buffer

namespace Intake

/-- A poll of a source that has not failed takes in what it delivers. -/
theorem pollAt_of_fetch {σ : Type} [LogSource σ] {intake : Intake σ} {batch : List Record}
    {source : σ} (calm : intake.buffer.lastFailure = none)
    (fetched : LogSource.fetch intake.source intake.buffer.watermark = (.ok batch, source))
    (clock : Nat) :
    (intake.pollAt clock).1 = .ok (intake.buffer.trim batch) ∧
      (intake.pollAt clock).2.buffer = intake.buffer.accept (intake.buffer.trim batch) ∧
      (intake.pollAt clock).2.source = source := by
  have ready : intake.buffer.pause? clock = none := by rw [Buffer.pause?, calm]
  have delivers : intake.delivery? clock = some batch := by
    simp only [delivery?, ready, fetched]
    rfl
  rcases intake.pollAt_cases clock with
    ⟨error, left, -, missing, -⟩ | ⟨other, left, ran, delivered, accepted, asked⟩
  · rw [delivers] at missing
    cases missing
  · rw [delivers, Option.some.injEq] at delivered
    subst delivered
    rw [fetched, Prod.mk.injEq] at asked
    rw [ran]
    exact ⟨rfl, accepted, asked.2.symm⟩

/-! ## Runs of polls -/

/-- A buffer that was fed by some batches of a replay, whose records are in order and where the ends
of all chunks have numbers. -/
structure Replayed (records : List Record) (size count : Nat) (intake : Intake Replay) : Prop where
  sorted : OldestFirst records
  fits : records.length + size < UInt64.size
  source : Replay.Reached records size count intake.source
  taken : intake.buffer.records =
    (((records.zipIdx.take (count * size)).filter (Replay.isKept records size)).map (·.1)).reverse
  watermark : intake.buffer.watermark = (records.take (count * size)).getLast?.map (·.timestamp)
  lastFailure : intake.buffer.lastFailure = none
  polled : intake.buffer.polled = decide (0 < count)

variable {records : List Record} {size count : Nat} {intake : Intake Replay}

theorem replayed_new {records : List Record} {chunk : UInt64} (cooldown : Nat) (world : World)
    (sorted : OldestFirst records) (fits : records.length + max chunk.toNat 1 < UInt64.size) :
    Replayed records (max chunk.toNat 1) 0 ⟨{ cooldown }, .start records chunk, world⟩ := by
  constructor
  · exact sorted
  · exact fits
  · exact Replay.reached_start records chunk
  · simp [Buffer.records]
  · simp
  · rfl
  · rfl

/-- Each poll is answered by the next batch. -/
theorem Replayed.fetch (replayed : Replayed records size count intake) :
    ∃ left, LogSource.fetch intake.source intake.buffer.watermark =
        (.ok (Replay.batchAt records size count), left) ∧
      Replay.Reached records size (count + 1) left := by
  have small : min (count * size) records.length + size < UInt64.size :=
    Nat.lt_of_le_of_lt (Nat.add_le_add_right (Nat.min_le_right _ _) size) replayed.fits
  have next := replayed.source.next?
  rw [if_pos small] at next
  rcases next with ⟨left, delivered, reached⟩
  exact ⟨left, Replay.fetch_of_next?_eq_some delivered _, reached⟩

/-- What a poll takes in of the next batch are the records that are kept. -/
theorem Replayed.trim_batchAt (replayed : Replayed records size count intake) :
    intake.buffer.trim (Replay.batchAt records size count) =
      ((((records.zipIdx.drop (count * size)).take size).filter
        (Replay.isKept records size)).map (·.1)).reverse := by
  have newestFirst : NewestFirst (Replay.batchAt records size count) := by
    rw [Replay.batchAt, NewestFirst, List.pairwise_reverse]
    exact replayed.sorted.sublist ((List.take_sublist _ _).trans (List.drop_sublist _ _))
  have chunk : (records.drop (count * size)).take size =
      ((records.zipIdx.drop (count * size)).take size).map (·.1) := by
    rw [List.map_take, List.map_drop, List.zipIdx_map_fst]
  rw [intake.buffer.trim_eq_filter newestFirst, Replay.batchAt, List.filter_reverse, chunk,
    List.filter_map]
  congr 2
  apply List.filter_congr
  intro entry member
  exact (Buffer.isKept_eq_isNew replayed.source.positive replayed.watermark member).symm

theorem Replayed.pollAt (replayed : Replayed records size count intake) (clock : Nat) :
    Replayed records size (count + 1) (intake.pollAt clock).2 := by
  rcases replayed.fetch with ⟨left, fetched, reached⟩
  rcases pollAt_of_fetch replayed.lastFailure fetched clock with ⟨-, accepted, source⟩
  constructor
  · exact replayed.sorted
  · exact replayed.fits
  · rw [source]
    exact reached
  · rw [accepted, Session.records_accept, replayed.trim_batchAt, replayed.taken,
      ← List.reverse_append, ← List.map_append, ← List.filter_append, ← List.take_add,
      ← Nat.succ_mul]
  · rw [accepted, ← Replay.take_append_batchAt]
    apply Buffer.watermark_accept_trim replayed.watermark
    rw [Replay.take_append_batchAt]
    exact replayed.sorted.sublist (List.take_sublist _ _)
  · rw [accepted]
    rfl
  · rw [accepted]
    simp [Buffer.accept]

theorem Replayed.afterPolls (replayed : Replayed records size count intake) (clocks : List Nat) :
    Replayed records size (count + clocks.length) (intake.afterPolls clocks) := by
  induction clocks generalizing intake count with
  | nil => exact replayed
  | cons clock rest ih =>
      have next := ih (replayed.pollAt clock)
      rwa [Nat.add_right_comm, Nat.add_assoc] at next

/-- Nothing is left exactly if the chunks reach the last record. -/
theorem Replayed.remaining_eq_zero_iff (replayed : Replayed records size count intake) :
    intake.source.remaining = 0 ↔ records.length ≤ count * size := by
  have whole := replayed.source.offset_add_remaining
  have place := replayed.source.offset
  omega

/-- Once nothing is left, all that is kept is in the buffer. -/
theorem Replayed.records_of_exhausted (replayed : Replayed records size count intake)
    (exhausted : records.length ≤ count * size) :
    intake.buffer.records = (Replay.kept records size).reverse := by
  have whole : records.zipIdx.length ≤ count * size := by rwa [List.length_zipIdx]
  rw [replayed.taken, List.take_of_length_le whole, Replay.kept]

/-- Once nothing is left, a poll brings nothing and changes nothing, but that the source has now
been asked. -/
theorem Replayed.pollAt_of_exhausted (replayed : Replayed records size count intake)
    (exhausted : records.length ≤ count * size) (clock : Nat) :
    (intake.pollAt clock).1 = .ok [] ∧ (intake.pollAt clock).2.source = intake.source ∧
      (intake.pollAt clock).2.buffer = { intake.buffer with polled := true } := by
  rcases replayed.fetch with ⟨left, fetched, reached⟩
  have nothing : Replay.batchAt records size count = [] := by
    rw [Replay.batchAt, List.drop_of_length_le exhausted, List.take_nil, List.reverse_nil]
  have untrimmed : intake.buffer.trim [] = [] := by rw [Buffer.trim_eq_takeWhile, List.takeWhile_nil]
  have same : left = intake.source := by
    apply reached.eq replayed.source
    rw [Nat.succ_mul]
    omega
  rw [nothing] at fetched
  rcases pollAt_of_fetch replayed.lastFailure fetched clock with ⟨taken, accepted, source⟩
  rw [untrimmed] at taken accepted
  exact ⟨taken, source.trans same, accepted.trans (Buffer.accept_nil replayed.lastFailure)⟩

/-- Replaying records through a buffer, a chunk at a time.  Every poll is answered, and after
enough of them nothing is left.  The buffer then has, the newest first, the records of the first
chunk and those that are later than the last record of the chunk before their own; these are all
records if their times increase, whatever the chunk.  Further polls change nothing. -/
theorem records_of_replay (records : List Record) (chunk : UInt64) (cooldown : Nat)
    (world : World) (sorted : OldestFirst records)
    (fits : records.length + max chunk.toNat 1 < 2 ^ 64) :
    let size := max chunk.toNat 1
    let start : Intake Replay := ⟨{ cooldown }, .start records chunk, world⟩
    (∀ clocks clock, ∃ taken, ((start.afterPolls clocks).pollAt clock).1 = .ok taken) ∧
      (∀ clocks, (start.afterPolls clocks).source.remaining = 0 ↔
        records.length ≤ clocks.length * size) ∧
      ∀ clocks, (start.afterPolls clocks).source.remaining = 0 →
        let intake := start.afterPolls clocks
        intake.buffer.records = (Replay.kept records size).reverse ∧
          ((records.Pairwise fun first second => first.timestamp < second.timestamp) →
            intake.buffer.records = records.reverse) ∧
          ∀ clock, (intake.pollAt clock).1 = .ok [] ∧
            (intake.pollAt clock).2.source = intake.source ∧
            (intake.pollAt clock).2.buffer = { intake.buffer with polled := true } ∧
            (clocks ≠ [] → (intake.pollAt clock).2.buffer = intake.buffer) := by
  intro size start
  have replayed (clocks : List Nat) :
      Replayed records size clocks.length (start.afterPolls clocks) := by
    have run := (replayed_new cooldown world sorted fits).afterPolls clocks
    rwa [Nat.zero_add] at run
  refine ⟨?_, ?_, ?_⟩
  · intro clocks clock
    rcases (replayed clocks).fetch with ⟨left, fetched, -⟩
    exact ⟨_, (pollAt_of_fetch (replayed clocks).lastFailure fetched clock).1⟩
  · intro clocks
    exact (replayed clocks).remaining_eq_zero_iff
  · intro clocks finished intake
    have exhausted := (replayed clocks).remaining_eq_zero_iff.mp finished
    have kept := (replayed clocks).records_of_exhausted exhausted
    refine ⟨kept, ?_, ?_⟩
    · intro increasing
      rw [kept, Replay.kept_of_increasing (replayed clocks).source.positive increasing]
    · intro clock
      rcases (replayed clocks).pollAt_of_exhausted exhausted clock with
        ⟨taken, source, buffer⟩
      refine ⟨taken, source, buffer, ?_⟩
      intro nonempty
      have polled := (replayed clocks).polled
      rw [decide_eq_true (List.length_pos_of_ne_nil nonempty)] at polled
      rw [buffer, ← polled]

/-- Records of which three have one time. -/
def tiedRecords : List Record :=
  [linedRecord 1 "a", linedRecord 2 "b", linedRecord 2 "c", linedRecord 2 "d", linedRecord 3 "e"]

/-- A new buffer that is fed by these records, two at a time. -/
def tiedIntake : Intake Replay := ⟨{ cooldown := 10 }, .start tiedRecords 2, {}⟩

/-- The second chunk is lost, since both its records have the time of the last one before. -/
theorem records_of_replay_tied :
    OldestFirst tiedRecords ∧ (tiedIntake.afterPolls [0, 1, 2]).source.remaining = 0 ∧
      (tiedIntake.afterPolls [0, 1, 2]).buffer.records.map (·.raw) = ["e", "b", "a"] ∧
      ((tiedIntake.afterPolls [0, 1, 2]).pollAt 3).2.buffer =
        (tiedIntake.afterPolls [0, 1, 2]).buffer := by
  have sorted : OldestFirst tiedRecords := by decide
  have finished : (tiedIntake.afterPolls [0, 1, 2]).source.remaining = 0 := by decide +kernel
  rcases (records_of_replay tiedRecords 2 10 {} sorted (by decide)).2.2 [0, 1, 2] finished with
    ⟨kept, -, unchanged⟩
  refine ⟨sorted, finished, ?_, (unchanged 3).2.2.2 (List.cons_ne_nil _ _)⟩
  refine (congrArg (List.map (·.raw)) kept).trans ?_
  decide +kernel

end Intake

end LogSieve
