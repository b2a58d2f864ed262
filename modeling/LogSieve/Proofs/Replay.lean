import Mathlib
import LogSieve.Source.Replay

/-!
# Replaying records

A replay delivers its records a chunk at a time.  Its place after some batches is known from their
number alone, and with it what the next batch is: the records between that place and the end of the
chunk, or of the list.  The end of the chunk is a sum of two words, and there is no batch where the
sum does not fit a word.  As long as it fits, the batches are the records in their order; and it
always fits exactly if a chunk behind the last record would.
-/

namespace LogSieve.Replay

variable {records : List Record} {size count : Nat} {replay : Replay}

/-! ## One batch -/

/-- The batch that comes after some batches of a size, the newest record first. -/
def batchAt (records : List Record) (size count : Nat) : List Record :=
  ((records.drop (count * size)).take size).reverse

/-- A replay of records after some batches of a size. -/
structure Reached (records : List Record) (size count : Nat) (replay : Replay) : Prop where
  positive : 0 < size
  holds : replay.records = records
  chunk : replay.chunk.toNat = size
  offset : replay.offset.toNat = min (count * size) records.length

theorem reached_start (records : List Record) (chunk : UInt64) :
    Reached records (max chunk.toNat 1) 0 (start records chunk) := by
  constructor
  · exact Nat.lt_of_lt_of_le Nat.zero_lt_one (Nat.le_max_right _ _)
  · rfl
  · have larger : (start records chunk).chunk = if chunk ≤ 1 then 1 else chunk := rfl
    rw [larger, max_def, apply_ite UInt64.toNat]
    simp only [UInt64.le_iff_toNat_le]
    rfl
  · change (0 : UInt64).toNat = min (0 * max chunk.toNat 1) records.length
    rw [Nat.zero_mul, Nat.zero_min]
    rfl

/-- The places of all records are within the list, so what is left of it is told without loss. -/
theorem Reached.offset_add_remaining (reached : Reached records size count replay) :
    replay.offset.toNat + replay.remaining = records.length := by
  rw [remaining, reached.holds, reached.offset]
  omega

/-- There is one replay of records at a place. -/
theorem Reached.eq {other : Nat} {first second : Replay} (reached : Reached records size count first)
    (reachedOther : Reached records size other second)
    (same : min (count * size) records.length = min (other * size) records.length) :
    first = second := by
  have offset : first.offset = second.offset := by
    rw [← UInt64.toNat_inj, reached.offset, reachedOther.offset, same]
  have chunk : first.chunk = second.chunk := by
    rw [← UInt64.toNat_inj, reached.chunk, reachedOther.chunk]
  have holds : first.records = second.records := by rw [reached.holds, reachedOther.holds]
  cases first
  cases second
  simp_all

/-- What lies between the places before and after a batch. -/
theorem drop_take_min (records : List Record) (size count : Nat) :
    (records.take (min ((count + 1) * size) records.length)).drop
        (min (count * size) records.length) =
      (records.drop (count * size)).take size := by
  rw [Nat.succ_mul, List.drop_take]
  by_cases within : count * size ≤ records.length
  · rw [Nat.min_eq_left within, List.take_eq_take_iff, List.length_drop]
    omega
  · have behind : records.length ≤ count * size := by omega
    rw [Nat.min_eq_right behind, List.drop_length, List.drop_of_length_le behind, List.take_nil,
      List.take_nil]

/-- One batch is delivered, or its end has no number. -/
theorem Reached.next? (reached : Reached records size count replay) :
    if min (count * size) records.length + size < UInt64.size then
      ∃ left, replay.next? = some (batchAt records size count, left) ∧
        Reached records size (count + 1) left
    else replay.next? = none := by
  split
  · next fits =>
      have small : min (min (count * size) records.length + size) records.length < 2 ^ 64 :=
        Nat.lt_of_le_of_lt (Nat.min_le_left _ _) fits
      have stop : min (min (count * size) records.length + size) records.length =
          min ((count + 1) * size) records.length := by
        rw [Nat.succ_mul]
        omega
      have place : replay.nextOffset? =
          some (.ofNat (min ((count + 1) * size) records.length)) := by
        simp only [nextOffset?, reached.offset, reached.chunk, reached.holds, if_pos fits, stop]
      rw [stop] at small
      have number : (UInt64.ofNat (min ((count + 1) * size) records.length)).toNat =
          min ((count + 1) * size) records.length := UInt64.toNat_ofNat_of_lt' small
      refine ⟨{ replay with offset := .ofNat (min ((count + 1) * size) records.length) }, ?_, ?_⟩
      · simp only [Replay.next?, place, Option.bind_eq_bind, Option.bind_some, number,
          reached.holds, reached.offset, drop_take_min, batchAt]
      · exact ⟨reached.positive, reached.holds, reached.chunk, number⟩
  · next overflows =>
      have place : replay.nextOffset? = none := by
        simp only [nextOffset?, reached.offset, reached.chunk, if_neg overflows]
      simp only [Replay.next?, place, Option.bind_eq_bind, Option.bind_none]

theorem length_batchAt (records : List Record) (size count : Nat) :
    (batchAt records size count).length = min size (records.length - count * size) := by
  rw [batchAt, List.length_reverse, List.length_take, List.length_drop]

/-- The records of some batches, and those of the next one. -/
theorem take_append_batchAt (records : List Record) (size count : Nat) :
    records.take (count * size) ++ (batchAt records size count).reverse =
      records.take ((count + 1) * size) := by
  rw [batchAt, List.reverse_reverse, Nat.succ_mul, List.take_add]

/-- Batches put together are the records from the first on. -/
theorem flatten_reverse_batchAt (records : List Record) (size count : Nat) :
    (((List.range count).map (batchAt records size)).map List.reverse).flatten =
      records.take (count * size) := by
  induction count with
  | zero => simp
  | succ count ih =>
      rw [List.range_succ, List.map_append, List.map_append, List.flatten_append, ih,
        ← take_append_batchAt]
      simp

/-! ## Runs of questions -/

/-- What a replay delivers to questions that are put in turn, and what is left of it.  There is
nothing where the end of a chunk has no number. -/
def run? (replay : Replay) : List (Option Int64) → Option (List (List Record) × Replay)
  | [] => some ([], replay)
  | after :: rest =>
      match LogSource.fetch replay after with
      | (.ok batch, left) => (left.run? rest).map fun ran => (batch :: ran.1, ran.2)
      | (.error _, _) => none

theorem fetch_of_next?_eq_some {batch : List Record} {left : Replay}
    (next : replay.next? = some (batch, left)) (after : Option Int64) :
    LogSource.fetch replay after = (.ok batch, left) := by
  simp only [LogSource.fetch, next]

theorem fetch_of_next?_eq_none (next : replay.next? = none) (after : Option Int64) :
    LogSource.fetch replay after = (.error overflow, replay) := by
  simp only [LogSource.fetch, next]

/-- The ends of the chunks of some further batches have numbers. -/
def Fits (records : List Record) (size count further : Nat) : Prop :=
  ∀ index < further, min ((count + index) * size) records.length + size < UInt64.size

theorem fits_succ_iff {further : Nat} :
    Fits records size count (further + 1) ↔
      min (count * size) records.length + size < UInt64.size ∧
        Fits records size (count + 1) further := by
  constructor
  · intro fits
    constructor
    · exact fits 0 (Nat.succ_pos further)
    · intro index small
      have later := fits (index + 1) (Nat.succ_lt_succ small)
      rwa [← Nat.add_assoc, Nat.add_right_comm] at later
  · intro fits index small
    cases index with
    | zero => exact fits.1
    | succ index =>
        rw [← Nat.add_assoc, Nat.add_right_comm]
        exact fits.2 index (Nat.lt_of_succ_lt_succ small)

/-- While the ends of the chunks have numbers, every question is answered by the batch at its
turn. -/
theorem Reached.run?_of_fits (reached : Reached records size count replay)
    {asked : List (Option Int64)} (fits : Fits records size count asked.length) :
    ∃ left, replay.run? asked =
        some ((List.range' count asked.length).map (batchAt records size), left) ∧
      Reached records size (count + asked.length) left := by
  induction asked generalizing replay count with
  | nil => exact ⟨replay, rfl, reached⟩
  | cons after rest ih =>
      rw [List.length_cons, fits_succ_iff] at fits
      have next := reached.next?
      rw [if_pos fits.1] at next
      rcases next with ⟨middle, delivered, reachedNext⟩
      rcases ih reachedNext fits.2 with ⟨left, ran, reachedLast⟩
      refine ⟨left, ?_, ?_⟩
      · simp only [run?, fetch_of_next?_eq_some delivered, ran, Option.map_some, List.length_cons,
          List.range'_succ, List.map_cons]
      · rwa [List.length_cons, Nat.add_comm rest.length, ← Nat.add_assoc]

/-- A run in which the end of a chunk has no number comes to nothing. -/
theorem Reached.run?_of_not_fits (reached : Reached records size count replay)
    {asked : List (Option Int64)} (overflows : ¬Fits records size count asked.length) :
    replay.run? asked = none := by
  induction asked generalizing replay count with
  | nil =>
      apply absurd _ overflows
      intro index small
      cases small
  | cons after rest ih =>
      rw [List.length_cons, fits_succ_iff] at overflows
      have next := reached.next?
      by_cases fits : min (count * size) records.length + size < UInt64.size
      · rw [if_pos fits] at next
        rcases next with ⟨middle, delivered, reachedNext⟩
        have later := ih reachedNext fun further => overflows ⟨fits, further⟩
        simp only [run?, fetch_of_next?_eq_some delivered, later, Option.map_none]
      · rw [if_neg fits] at next
        simp only [run?, fetch_of_next?_eq_none next]

theorem isSome_run?_start_iff (records : List Record) (chunk : UInt64)
    (asked : List (Option Int64)) :
    ((start records chunk).run? asked).isSome ↔
      Fits records (max chunk.toNat 1) 0 asked.length := by
  have reached := reached_start records chunk
  constructor
  · intro answered
    by_contra overflows
    rw [reached.run?_of_not_fits overflows] at answered
    cases answered
  · intro fits
    rcases reached.run?_of_fits fits with ⟨left, ran, -⟩
    rw [ran]
    rfl

/-- A run that goes on behind the last record meets the end of a chunk there. -/
theorem forall_fits_iff (records : List Record) {size : Nat} (positive : 0 < size) :
    (∀ further, Fits records size 0 further) ↔ records.length + size < UInt64.size := by
  constructor
  · intro fits
    have behind := fits (records.length + 1) records.length (Nat.lt_succ_self _)
    rwa [Nat.zero_add, Nat.min_eq_right (Nat.le_mul_of_pos_right _ positive)] at behind
  · intro small further index _
    exact Nat.lt_of_le_of_lt (Nat.add_le_add_right (Nat.min_le_right _ _) size) small

/-- What a replay answers to questions, of whatever number.  It answers them all exactly if the end
of the chunk has a number before each of them; and it answers every question of every run exactly if
the number of records and the chunk have a sum that fits a word.  What it answers are its records in
their order: of those that are left a chunk at a time, and nothing once none is left.  Its place is
never behind the last record. -/
theorem isSome_run?_iff_fits (records : List Record) (chunk : UInt64) :
    let size := max chunk.toNat 1
    let source := start records chunk
    (∀ asked, (source.run? asked).isSome ↔
        ∀ count < asked.length, min (count * size) records.length + size < 2 ^ 64) ∧
      ((∀ asked, (source.run? asked).isSome) ↔ records.length + size < 2 ^ 64) ∧
      ∀ asked batches left, source.run? asked = some (batches, left) →
        batches.length = asked.length ∧
          (batches.map List.reverse).flatten = records.take (asked.length * size) ∧
          (∀ count batch, batches[count]? = some batch →
            batch.length = min size (records.length - count * size)) ∧
          left.offset.toNat = min (asked.length * size) records.length ∧
          left.offset.toNat + left.remaining = records.length := by
  intro size source
  have reached : Reached records size 0 source := reached_start records chunk
  have answered (asked : List (Option Int64)) := isSome_run?_start_iff records chunk asked
  refine ⟨?_, ?_, ?_⟩
  · intro asked
    rw [answered, Fits]
    simp only [Nat.zero_add]
    rfl
  · refine Iff.trans ?_ (forall_fits_iff records reached.positive)
    constructor
    · intro all further
      have fits := (answered (List.replicate further none)).mp (all _)
      rwa [List.length_replicate] at fits
    · intro fits asked
      exact (answered asked).mpr (fits asked.length)
  · intro asked batches left ran
    have fits := (answered asked).mp (by rw [ran]; rfl)
    rcases reached.run?_of_fits fits with ⟨last, answers, reachedLast⟩
    rw [ran, Option.some.injEq, Prod.mk.injEq, ← List.range_eq_range'] at answers
    rcases answers with ⟨rfl, rfl⟩
    rw [Nat.zero_add] at reachedLast
    refine ⟨?_, flatten_reverse_batchAt _ _ _, ?_, reachedLast.offset,
      reachedLast.offset_add_remaining⟩
    · rw [List.length_map, List.length_range]
    · intro count batch found
      rw [List.getElem?_map, Option.map_eq_some_iff] at found
      rcases found with ⟨index, turn, rfl⟩
      rcases List.getElem?_eq_some_iff.mp turn with ⟨_, same⟩
      rw [List.getElem_range] at same
      rw [← same, length_batchAt]

/-- Records of increasing times. -/
def numberedRecords (count : Nat) : List Record :=
  (List.range count).map fun index => .ofLine (.ofNat (index + 1)) [] ""

/-- Five records two at a time; the fourth question is put when nothing is left. -/
theorem isSome_run?_iff_fits_pairs :
    let ran := (start (numberedRecords 5) 2).run? [none, some 2, some 4, some 5]
    ran.map (fun ran => ran.1.map (·.map (·.timestamp))) = some [[2, 1], [4, 3], [5], []] ∧
      ∃ batches left, ran = some (batches, left) ∧
        (batches.map List.reverse).flatten = numberedRecords 5 ∧ left.offset = 5 := by
  intro ran
  have general := isSome_run?_iff_fits (numberedRecords 5) 2
  have answered : ran.isSome := (general.1 _).mpr (by decide)
  rcases Option.isSome_iff_exists.mp answered with ⟨⟨batches, left⟩, some⟩
  rcases general.2.2 _ batches left some with ⟨-, together, -, place, -⟩
  refine ⟨by decide +kernel, batches, left, some, together, ?_⟩
  rw [← UInt64.toNat_inj, place]
  rfl

/-- With the largest chunk one record is delivered, and then there is no answer, although nothing
is left. -/
theorem run?_of_largest_chunk :
    ((start (numberedRecords 1) (.ofNat (2 ^ 64 - 1))).run? [none]).map (·.2.remaining) = some 0 ∧
      (start (numberedRecords 1) (.ofNat (2 ^ 64 - 1))).run? [none, some 1] = none := by
  decide +kernel

end LogSieve.Replay
