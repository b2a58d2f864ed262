import Mathlib
import LogSieve.Proofs.Loki.Answer

/-!
# Records of an answer

An answer is read as a whole or not at all.  It is read if its status and the kind of its result
are right and each entry of each stream tells a time and a line; then every entry becomes one record
with the labels of its stream.  The records are sorted by time, the newest first, and rounding to
microseconds may give entries one time that had different ones; such records keep the order of the
answer.
-/

namespace LogSieve.Loki

open LogSieve.Json LogSieve.Text

/-! ## Entries -/

/-- An entry tells a time in nanoseconds, in decimal, and then a line.  What comes after them does
not count. -/
def Tells (entry : List Value) (nanoseconds : Int64) (line : String) : Prop :=
  ∃ time further, entry = .string time :: .string line :: further ∧
    Spells time.toList nanoseconds.toInt

/-- The record that an entry becomes in a stream with some labels: its time is cut to whole
microseconds, toward zero. -/
def Becomes (labels : Keyed String) (entry : List Value) (record : Record) : Prop :=
  ∃ nanoseconds line, Tells entry nanoseconds line ∧
    record.timestamp.toInt = nanoseconds.toInt.tdiv 1000 ∧ record.labels = labels ∧
      record.raw = line ∧ record = .ofLine record.timestamp labels.pairs line

theorem recordOfEntry_eq_ok_iff {labels : Keyed String} {entry : List Value} {record : Record} :
    recordOfEntry labels entry = .ok record ↔
      ∃ nanoseconds line, Tells entry nanoseconds line ∧
        record = .ofLine (nanoseconds / 1000) labels.pairs line := by
  constructor
  · intro read
    rw [recordOfEntry.eq_def] at read
    split at read
    · next time line further =>
        split at read
        · next nanoseconds readTime =>
            cases read
            exact ⟨nanoseconds, line, ⟨time, further, rfl, readInt64_eq_ok_iff.mp readTime⟩, rfl⟩
        · cases read
    · cases read
  · intro told
    rcases told with ⟨nanoseconds, line, ⟨time, further, rfl, spells⟩, rfl⟩
    simp only [recordOfEntry, readInt64_eq_ok_iff.mpr spells]

theorem becomes_of_recordOfEntry {labels : Keyed String} {entry : List Value} {record : Record}
    (read : recordOfEntry labels entry = .ok record) : Becomes labels entry record := by
  rcases recordOfEntry_eq_ok_iff.mp read with ⟨nanoseconds, line, tells, rfl⟩
  refine ⟨nanoseconds, line, tells, ?_, labels.ofList_pairs, rfl, rfl⟩
  exact Int64.toInt_div_of_ne_right nanoseconds 1000 (by decide)

theorem unavailable_of_recordOfEntry {labels : Keyed String} {entry : List Value}
    {error : TriageError} (failed : recordOfEntry labels entry = .error error) :
    ∃ reason, error = unavailable reason := by
  rw [recordOfEntry.eq_def] at failed
  split at failed
  · split at failed
    · cases failed
    · cases failed
      exact ⟨_, rfl⟩
  · cases failed
    exact ⟨_, rfl⟩

/-! ## Streams -/

/-- The entries of some streams with the labels of their streams, in the order of the answer. -/
def placed (streams : List Stream) : List (Keyed String × List Value) :=
  streams.flatMap fun stream => stream.entries.map (stream.labels, ·)

/-- The records of streams are those of their entries, in the order of the answer. -/
theorem forall₂_placed_of_mapM {streams : List Stream} {groups : List (List Record)}
    (read : streams.mapM Stream.records = .ok groups) :
    List.Forall₂ (fun place record => recordOfEntry place.1 place.2 = .ok record)
      (placed streams) groups.flatten := by
  rw [placed, List.flatMap_def]
  apply List.rel_flatten
  rw [List.forall₂_map_left_iff]
  refine (Traversal.mapM_eq_ok_iff.mp read).imp ?_
  intro stream group readGroup
  rw [List.forall₂_map_left_iff]
  exact Traversal.mapM_eq_ok_iff.mp readGroup

theorem exists_entry_of_mapM_eq_error {streams : List Stream} {error : TriageError}
    (failed : streams.mapM Stream.records = .error error) :
    ∃ stream ∈ streams, ∃ entry ∈ stream.entries,
      recordOfEntry stream.labels entry = .error error := by
  rcases Traversal.exists_of_mapM_eq_error failed with ⟨stream, member, reason⟩
  exact ⟨stream, member, Traversal.exists_of_mapM_eq_error reason⟩

theorem Response.unavailable_of_streams {response : Response} {error : TriageError}
    (failed : response.streams = .error error) : ∃ reason, error = unavailable reason := by
  rw [Response.streams] at failed
  split at failed
  · cases failed
    exact ⟨_, rfl⟩
  · split at failed
    · cases failed
      exact ⟨_, rfl⟩
    · split at failed
      · cases failed
        exact ⟨_, rfl⟩
      · cases failed

/-! ## Sorting -/

/-- Records of one time keep their order. -/
theorem filter_mergeSort_notOlder (records : List Record) (timestamp : Int64) :
    (records.mergeSort notOlder).filter (·.timestamp == timestamp) =
      records.filter (·.timestamp == timestamp) := by
  have level : (records.filter (·.timestamp == timestamp)).Pairwise
      fun first second => notOlder first second = true := by
    apply List.pairwise_of_forall_mem_list
    intro first firstMember second secondMember
    have firstTime := eq_of_beq (List.mem_filter.mp firstMember).2
    have secondTime := eq_of_beq (List.mem_filter.mp secondMember).2
    simp [notOlder, firstTime, secondTime]
  -- The sort keeps every sublist that is in order already.
  have kept := List.sublist_mergeSort notOlder_trans notOlder_total level List.filter_sublist
  have within := kept.filter (·.timestamp == timestamp)
  simp only [List.filter_filter, Bool.and_self] at within
  have perm := (List.mergeSort_perm records notOlder).filter (·.timestamp == timestamp)
  exact (within.eq_of_length perm.length_eq.symm).symm

/-! ## Answers -/

theorem Response.unavailable_of_records {response : Response} {error : TriageError}
    (failed : response.records = .error error) : ∃ reason, error = unavailable reason := by
  rw [Response.records] at failed
  cases listed : response.streams with
  | error cause =>
      rw [listed] at failed
      cases failed
      exact unavailable_of_streams listed
  | ok streams =>
      cases read : streams.mapM Stream.records with
      | error cause =>
          simp only [listed, bind, Except.bind, read] at failed
          cases failed
          rcases exists_entry_of_mapM_eq_error read with ⟨stream, -, entry, -, reason⟩
          exact unavailable_of_recordOfEntry reason
      | ok groups =>
          simp only [listed, bind, Except.bind, read] at failed
          cases failed

/-- An answer can be read: it succeeded, it holds streams, and every entry tells a time and a
line. -/
def Response.Readable (response : Response) : Prop :=
  response.status = "success" ∧ ∃ streams, response.data = some ⟨"streams", streams⟩ ∧
    ∀ stream ∈ streams, ∀ entry ∈ stream.entries, ∃ nanoseconds line, Tells entry nanoseconds line

theorem Response.exists_records_iff {response : Response} :
    (∃ records, response.records = .ok records) ↔ response.Readable := by
  constructor
  · intro read
    rcases read with ⟨records, read⟩
    rcases records_eq_ok_iff.mp read with ⟨streams, groups, listed, readAll, -⟩
    rcases streams_eq_ok_iff.mp listed with ⟨success, present⟩
    refine ⟨success, streams, present, ?_⟩
    intro stream streamMember entry entryMember
    rcases Traversal.exists_of_mapM_eq_ok readAll streamMember with ⟨group, readGroup⟩
    rcases Traversal.exists_of_mapM_eq_ok readGroup entryMember with ⟨record, readEntry⟩
    rcases recordOfEntry_eq_ok_iff.mp readEntry with ⟨nanoseconds, line, tells, -⟩
    exact ⟨nanoseconds, line, tells⟩
  · intro readable
    rcases readable with ⟨success, streams, present, told⟩
    have listed : response.streams = .ok streams := streams_eq_ok_iff.mpr ⟨success, present⟩
    cases readAll : streams.mapM Stream.records with
    | ok groups => exact ⟨_, records_eq_ok_iff.mpr ⟨streams, groups, listed, readAll, rfl⟩⟩
    | error error =>
        rcases exists_entry_of_mapM_eq_error readAll with
          ⟨stream, streamMember, entry, entryMember, failed⟩
        rcases told stream streamMember entry entryMember with ⟨nanoseconds, line, tells⟩
        rw [recordOfEntry_eq_ok_iff.mpr ⟨nanoseconds, line, tells, rfl⟩] at failed
        cases failed

/-- An answer that decodes is read as a whole or not at all: if and only if it succeeded, holds
streams, and every entry of every stream tells a time and a line.  What is read is one record for
each entry, with its time in whole microseconds, the labels of its stream and its line.  They come
with the newest first, and records of one time in the order of the answer, stream by stream.  All
other answers fail as a source that is not available. -/
theorem readResponse_iff_readable {bytes : ByteArray} {response : Response}
    (decodes : (Tree.parseBytes? bytes).bind Response.ofTree? = some response) :
    ((∃ records, readResponse bytes = .ok records) ↔ response.Readable) ∧
      (∀ records, readResponse bytes = .ok records →
        ∃ streams appearing, response.data = some ⟨"streams", streams⟩ ∧
          List.Forall₂ (fun place record => Becomes place.1 place.2 record) (placed streams)
            appearing ∧
          records.Perm appearing ∧ NewestFirst records ∧
          ∀ timestamp, records.filter (·.timestamp == timestamp) =
            appearing.filter (·.timestamp == timestamp)) ∧
      (¬response.Readable →
        ∃ reason, readResponse bytes = .error (.sourceUnavailable "loki" reason)) := by
  have read : readResponse bytes = response.records := by rw [readResponse, decodes]
  rw [read]
  refine ⟨Response.exists_records_iff, ?_, ?_⟩
  · intro records readRecords
    rcases Response.records_eq_ok_iff.mp readRecords with ⟨streams, groups, listed, readAll, rfl⟩
    rcases Response.streams_eq_ok_iff.mp listed with ⟨-, present⟩
    have each : List.Forall₂ (fun place record => Becomes place.1 place.2 record) (placed streams)
        groups.flatten :=
      (forall₂_placed_of_mapM readAll).imp fun _ _ => becomes_of_recordOfEntry
    refine ⟨streams, groups.flatten, present, each, ?_, ?_, ?_⟩
    · exact List.mergeSort_perm _ _
    · exact newestFirst_mergeSort _
    · exact filter_mergeSort_notOlder _
  · intro unreadable
    cases failed : response.records with
    | ok records => exact absurd (Response.exists_records_iff.mp ⟨records, failed⟩) unreadable
    | error error =>
        rcases Response.unavailable_of_records failed with ⟨reason, rfl⟩
        exact ⟨reason, rfl⟩

/-- Two streams: entries of both fall into one microsecond, and one entry is before the beginning of
1970 and tells more than a time and a line. -/
def roundedStreams : List Stream :=
  [⟨.ofList [("host", "a")],
      [[.string "2000", .string "x"], [.string "-1999", .string "z", .null]]⟩,
    ⟨.ofList [("host", "b")], [[.string "+2999", .string "y"]]⟩]

/-- An answer with these streams. -/
def roundedAnswer : Value :=
  .object [("status", .string "success"),
    ("data", .object [("resultType", .string "streams"),
      ("result", .array (roundedStreams.map fun stream =>
        .object [
          ("stream", .object (stream.labels.pairs.map fun label => (label.1, .string label.2))),
          ("values", .array (stream.entries.map .array))]))])]

theorem readResponse_iff_readable_rounded :
    let bytes := roundedAnswer.toLine.toUTF8
    let response : Response := ⟨"success", some ⟨"streams", roundedStreams⟩⟩
    (Tree.parseBytes? bytes).bind Response.ofTree? = some response ∧ response.Readable ∧
      ∃ records, readResponse bytes = .ok records ∧ NewestFirst records ∧ records.length = 3 := by
  intro bytes response
  have decodes : (Tree.parseBytes? bytes).bind Response.ofTree? = some response := by
    rw [Tree.parseBytes?, charsOf_toUTF8, Value.toLine, String.toList_ofList, Tree.parse?_compact]
    rfl
  have readable : response.Readable := by
    have first : Tells [.string "2000", .string "x"] 2000 "x" :=
      ⟨"2000", [], rfl, readInt64_eq_ok_iff.mp rfl⟩
    have second : Tells [.string "-1999", .string "z", .null] (-1999) "z" :=
      ⟨"-1999", [.null], rfl, readInt64_eq_ok_iff.mp rfl⟩
    have third : Tells [.string "+2999", .string "y"] 2999 "y" :=
      ⟨"+2999", [], rfl, readInt64_eq_ok_iff.mp rfl⟩
    refine ⟨rfl, roundedStreams, rfl, ?_⟩
    simp only [roundedStreams, List.forall_mem_cons, List.not_mem_nil, false_implies, implies_true,
      and_true]
    exact ⟨⟨⟨2000, "x", first⟩, ⟨-1999, "z", second⟩⟩, ⟨2999, "y", third⟩⟩
  rcases readResponse_iff_readable decodes with ⟨reads, told, -⟩
  rcases reads.mpr readable with ⟨records, read⟩
  rcases told records read with ⟨streams, appearing, present, each, perm, newestFirst, -⟩
  cases present
  refine ⟨decodes, readable, records, read, newestFirst, ?_⟩
  rw [perm.length_eq, ← each.length_eq]
  rfl

end LogSieve.Loki
