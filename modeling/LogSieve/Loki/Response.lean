import LogSieve.Error
import LogSieve.Json.Bytes
import LogSieve.Record

/-!
# Answers of a log server

A server answers a query with streams: labels and entries, each a time in nanoseconds and a line.
Entries become records, the newest first; records of one moment keep their order.
-/

namespace LogSieve.Loki

open LogSieve.Json
open LogSieve.Text

/-- The kind of this source. -/
def kind : String := "loki"

/-- The failure of the server with a reason. -/
def unavailable (reason : String) : TriageError := .sourceUnavailable kind reason

/-- Entries of one stream. -/
structure Stream where
  labels : Keyed String
  entries : List (List Value)

/-- Streams with the kind of the result. -/
structure ResponseData where
  resultType : String
  streams : List Stream

/-- An answer. -/
structure Response where
  status : String
  data : Option ResponseData

/-- How many containers are open around the value of an entry. -/
def valueDepth : Nat := 6

/-- Reads an entry. -/
def entryOfTree? : Tree → Option (List Value) :=
  Tree.list? (Tree.value? (nestingLimit - valueDepth))

/-- Reads a stream. -/
def Stream.ofTree? (tree : Tree) : Option Stream := do
  let fields ← tree.fields? ["stream", "values"]
  some {
    labels := ← fields.optional? 0 ∅ (Tree.map? Tree.string?)
    entries := ← fields.optional? 1 [] (Tree.list? entryOfTree?) }

/-- Reads the streams of an answer. -/
def ResponseData.ofTree? (tree : Tree) : Option ResponseData := do
  let fields ← tree.fields? ["resultType", "result"]
  some {
    resultType := ← fields.required? 0 Tree.string?
    streams := ← fields.optional? 1 [] (Tree.list? Stream.ofTree?) }

/-- Reads streams that may be null. -/
def dataOfTree? : Tree → Option (Option ResponseData)
  | .null => some none
  | tree => (ResponseData.ofTree? tree).map some

/-- Reads an answer. Only an object may leave out the streams. -/
def Response.ofTree? (tree : Tree) : Option Response := do
  let fields ← tree.fields? ["status", "data"]
  some {
    status := ← fields.required? 0 Tree.string?
    data := ← if fields.positional then fields.required? 1 dataOfTree?
      else fields.optional? 1 none dataOfTree? }

/-- The record of an entry. Nanoseconds become microseconds, rounded toward zero. -/
def recordOfEntry (labels : Keyed String) : List Value → Except TriageError Record
  | .string time :: .string line :: _ =>
      match readInt64 time with
      | .ok nanoseconds => .ok (.ofLine (nanoseconds / 1000) labels.pairs line)
      | .error error =>
          .error (unavailable ("invalid timestamp " ++ quoted time ++ ": " ++ error.message))
  | _ => .error (unavailable "malformed stream value")

/-- The records of a stream in their order. -/
def Stream.records (stream : Stream) : Except TriageError (List Record) :=
  stream.entries.mapM (recordOfEntry stream.labels)

/-- The streams of an answer that holds some. -/
def Response.streams (response : Response) : Except TriageError (List Stream) :=
  if response.status ≠ "success" then
    .error (unavailable ("query status " ++ response.status))
  else
    match response.data with
    | none => .error (unavailable "response without data")
    | some data =>
        if data.resultType ≠ "streams" then
          .error (unavailable ("result type " ++ data.resultType))
        else .ok data.streams

/-- Whether a record may stand before another: it is not older. -/
def notOlder (first second : Record) : Bool := second.timestamp ≤ first.timestamp

/-- The records of an answer, the newest first. -/
def Response.records (response : Response) : Except TriageError (List Record) := do
  let records ← (← response.streams).mapM Stream.records
  .ok (records.flatten.mergeSort notOlder)

/-- The records of the bytes of an answer. -/
def readResponse (bytes : ByteArray) : Except TriageError (List Record) :=
  match (Tree.parseBytes? bytes).bind Response.ofTree? with
  | some response => response.records
  | none => .error (unavailable ("malformed response: " ++ TriageError.badJson))

end LogSieve.Loki
