import Mathlib
import LogSieve.Loki.Query
import LogSieve.Proofs.Decimal
import LogSieve.Proofs.Record
import LogSieve.Proofs.RuleFormat
import LogSieve.Proofs.Traversal
import LogSieve.Proofs.Watermark

/-!
# Lines of a log server

A server holds lines, each with the labels of its stream and a time in nanoseconds.
An answer shows lines, in streams of any number and order; what is read from it are
the records of these lines, each once, with the newest first.
-/

namespace LogSieve

open LogSieve.Json LogSieve.Text

/-- A natural number in decimal is read back. -/
theorem Text.readInt64_toString {value : Nat} (fits : value < 2 ^ 63) :
    readInt64 (toString value) = .ok (.ofNat value) := by
  have digits : (toString value).toList = digitsOf value := String.toList_ofList
  have areDigits : AreDigits (digitsOf value) :=
    ⟨digitsOf_ne_nil value, fun _ => isDigit_of_mem_digitsOf value⟩
  have number : numberOf (digitsOf value) = value := by
    rw [← valueOfDigits_eq_numberOf, valueOfDigits_digitsOf]
  have spells := Spells.unsigned areDigits
  rw [readInt64_eq_ok_iff, digits, Int64.toInt_ofNat_of_lt fits]
  rw [number] at spells
  exact spells

namespace Loki

/-- A line that a server holds. -/
structure Line where
  labels : Keyed String
  /-- Nanoseconds since the beginning of 1970. -/
  nanoseconds : Nat
  text : String
  fits : nanoseconds < 2 ^ 63

namespace Line

/-- The time of a line in microseconds. -/
def microseconds (line : Line) : Nat := line.nanoseconds / 1000

/-- The record of a line. -/
def record (line : Line) : Record := .ofLine (.ofNat line.microseconds) line.labels.pairs line.text

theorem toInt_timestamp_record (line : Line) :
    line.record.timestamp.toInt = line.microseconds := by
  have fits := line.fits
  apply Int64.toInt_ofNat_of_lt
  rw [microseconds]
  omega

end Line

/-! ## Reading an answer -/

/-- An entry shows a line of a stream: its time in decimal, then its text. -/
def Shows (labels : Keyed String) (entry : List Value) (line : Line) : Prop :=
  line.labels = labels ∧
    ∃ further, entry = .string (toString line.nanoseconds) :: .string line.text :: further

/-- The lines that a stream shows. -/
def Stream.Shows (stream : Stream) (lines : List Line) : Prop :=
  List.Forall₂ (Loki.Shows stream.labels) stream.entries lines

/-- The lines that an answer shows: those of its streams together. -/
def Carries (bytes : ByteArray) (lines : List Line) : Prop :=
  ∃ streams shown,
    (Tree.parseBytes? bytes).bind Response.ofTree? =
        some ⟨"success", some ⟨"streams", streams⟩⟩ ∧
      List.Forall₂ Stream.Shows streams shown ∧ shown.flatten.Perm lines

theorem recordOfEntry_of_shows {labels : Keyed String} {entry : List Value} {line : Line}
    (shows : Shows labels entry line) : recordOfEntry labels entry = .ok line.record := by
  obtain ⟨rfl, further, rfl⟩ := shows
  have thousand : Int64.ofNat (line.nanoseconds / 1000) = .ofNat line.nanoseconds / 1000 :=
    Int64.ofNat_div line.fits (by decide)
  simp only [recordOfEntry, readInt64_toString line.fits, ← thousand]
  rfl

theorem Stream.records_of_shows {stream : Stream} {lines : List Line}
    (shows : stream.Shows lines) : stream.records = .ok (lines.map Line.record) := by
  apply Traversal.mapM_eq_ok_iff.mpr
  rw [List.forall₂_map_right_iff]
  exact List.Forall₂.imp (fun _ _ => recordOfEntry_of_shows) shows

theorem notOlder_trans (first second third : Record) (before : notOlder first second = true)
    (after : notOlder second third = true) : notOlder first third = true := by
  simp only [notOlder, decide_eq_true_eq] at before after ⊢
  exact Int64.le_trans after before

theorem notOlder_total (first second : Record) :
    (notOlder first second || notOlder second first) = true := by
  simp only [notOlder, Bool.or_eq_true, decide_eq_true_eq]
  exact Int64.le_total _ _

theorem newestFirst_mergeSort (records : List Record) :
    NewestFirst (records.mergeSort notOlder) := by
  have sorted := List.pairwise_mergeSort notOlder_trans notOlder_total records
  refine sorted.imp ?_
  intro first second before
  simpa only [notOlder, decide_eq_true_eq] using before

/-- An answer has streams if and only if its status and the kind of its result are right. -/
theorem Response.streams_eq_ok_iff {response : Response} {streams : List Stream} :
    response.streams = .ok streams ↔
      response.status = "success" ∧ response.data = some ⟨"streams", streams⟩ := by
  rcases response with ⟨status, data⟩
  rw [Response.streams]
  by_cases success : status = "success"
  · cases data with
    | none => simp [success]
    | some data =>
        rcases data with ⟨resultType, listed⟩
        by_cases kind : resultType = "streams"
        · simp [success, kind]
        · simp [success, kind]
  · simp [success]

/-- The records of an answer are those of its entries, sorted. -/
theorem Response.records_eq_ok_iff {response : Response} {records : List Record} :
    response.records = .ok records ↔
      ∃ streams groups, response.streams = .ok streams ∧
        streams.mapM Stream.records = .ok groups ∧
          records = groups.flatten.mergeSort notOlder := by
  rw [Response.records]
  cases listed : response.streams with
  | error error => simp [bind, Except.bind]
  | ok streams =>
      cases read : streams.mapM Stream.records with
      | error error => simp [bind, Except.bind, read]
      | ok groups => simp [bind, Except.bind, read, eq_comm]

/-- Records that are read have the newest first. -/
theorem newestFirst_of_readResponse {bytes : ByteArray} {records : List Record}
    (read : readResponse bytes = .ok records) : NewestFirst records := by
  rw [readResponse] at read
  split at read
  · rcases Response.records_eq_ok_iff.mp read with ⟨streams, groups, -, -, rfl⟩
    exact newestFirst_mergeSort _
  · cases read

/-- The records of an answer are those of its lines. -/
theorem readResponse_of_carries {bytes : ByteArray} {lines : List Line}
    (carries : Carries bytes lines) :
    ∃ records, readResponse bytes = .ok records ∧ records.Perm (lines.map Line.record) := by
  obtain ⟨streams, shown, decoded, shows, together⟩ := carries
  have groups : streams.mapM Stream.records = .ok (shown.map (·.map Line.record)) := by
    apply Traversal.mapM_eq_ok_iff.mpr
    rw [List.forall₂_map_right_iff]
    exact List.Forall₂.imp (fun _ _ => Stream.records_of_shows) shows
  refine ⟨(shown.map (·.map Line.record)).flatten.mergeSort notOlder, ?_, ?_⟩
  · rw [readResponse, decoded]
    have listed : Response.streams ⟨"success", some ⟨"streams", streams⟩⟩ = .ok streams :=
      Response.streams_eq_ok_iff.mpr ⟨rfl, rfl⟩
    exact Response.records_eq_ok_iff.mpr ⟨streams, _, listed, groups, rfl⟩
  · refine (List.mergeSort_perm _ _).trans ?_
    rw [← List.map_flatten]
    exact together.map Line.record

/-! ## Writing an answer -/

/-- A line as an entry. -/
def Line.entry (line : Line) : List Value :=
  [.string (toString line.nanoseconds), .string line.text]

/-- A line as a stream of its own. -/
def Line.toJson (line : Line) : Value :=
  .object [("stream", .object (line.labels.pairs.map fun (key, value) => (key, .string value))),
    ("values", .array [.array line.entry])]

/-- An answer with some lines. -/
def written (lines : List Line) : Value :=
  .object [("status", .string "success"),
    ("data", .object [("resultType", .string "streams"),
      ("result", .array (lines.map Line.toJson))])]

theorem map?_labels (labels : Keyed String) :
    Tree.map? Tree.string?
      (Value.object (labels.pairs.map fun (key, value) => (key, .string value))).tree =
      some labels := by
  have read (pairs : List (String × String)) :
      (memberTrees (pairs.map fun (key, value) => (key, .string value))).mapM
        (fun member => do some (← member.1, ← Tree.string? member.2)) = some pairs := by
    induction pairs with
    | nil => rfl
    | cons label rest ih =>
        simp only [List.map_cons, memberTrees, List.mapM_cons, ih]
        rfl
  simp only [Value.tree, Tree.map?, read]
  exact congrArg some labels.ofList_pairs

/-- The stream as which a written line is read. -/
def Line.stream (line : Line) : Stream :=
  { labels := line.labels, entries := [line.entry] }

theorem Line.ofTree?_toJson (line : Line) : Stream.ofTree? line.toJson.tree = some line.stream := by
  have fields : line.toJson.tree.fields? ["stream", "values"] =
      some ⟨false, [
        some (Value.object (line.labels.pairs.map fun (key, value) => (key, .string value))).tree,
        some (Value.array [.array line.entry]).tree]⟩ := rfl
  have entries : Tree.list? entryOfTree? (Value.array [.array line.entry]).tree =
      some [line.entry] := rfl
  simp [Stream.ofTree?, fields, Fields.optional?, Fields.get?, map?_labels, entries, Line.stream]

/-- An answer that is written is read as the streams of its lines. -/
theorem ofTree?_written (lines : List Line) :
    Response.ofTree? (written lines).tree =
      some ⟨"success", some ⟨"streams", lines.map Line.stream⟩⟩ := by
  have fields : (written lines).tree.fields? ["status", "data"] =
      some ⟨false, [some (.string (some "success")),
        some (Value.object [("resultType", .string "streams"),
          ("result", .array (lines.map Line.toJson))]).tree]⟩ := rfl
  have inner : (Value.object [("resultType", .string "streams"),
      ("result", .array (lines.map Line.toJson))]).tree.fields? ["resultType", "result"] =
      some ⟨false, [some (.string (some "streams")),
        some (Value.array (lines.map Line.toJson)).tree]⟩ := rfl
  have data : dataOfTree? (Value.object [("resultType", .string "streams"),
      ("result", .array (lines.map Line.toJson))]).tree =
      some (some ⟨"streams", lines.map Line.stream⟩) := by
    rw [dataOfTree?, ResponseData.ofTree?, inner]
    · simp [Fields.required?, Fields.optional?, Fields.get?, Tree.string?,
        list?_map_tree Line.ofTree?_toJson]
    · rintro ⟨⟩
  rw [Response.ofTree?, fields]
  simp [Fields.required?, Fields.optional?, Fields.get?, Tree.string?, data]

/-- An answer that is written carries its lines. -/
theorem carries_written (lines : List Line) :
    Carries (written lines).toLine.toUTF8 lines := by
  refine ⟨lines.map Line.stream, lines.map ([·]), ?_, ?_, ?_⟩
  · rw [Tree.parseBytes?, charsOf_toUTF8, Value.toLine, String.toList_ofList, Tree.parse?_compact,
      Option.bind_some, ofTree?_written]
  · rw [List.forall₂_map_left_iff, List.forall₂_map_right_iff, List.forall₂_same]
    intro line _
    exact .cons ⟨rfl, [], rfl⟩ .nil
  · rw [← List.flatMap_def, List.flatMap_singleton']

end Loki

end LogSieve
