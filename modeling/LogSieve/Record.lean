import LogSieve.Hash.XxHash64
import LogSieve.Json.Decode
import LogSieve.Text.Blank
import LogSieve.Text.Quoted
import LogSieve.Time.Calendar

/-!
# Log records

One log line: when it was emitted, the labels of its stream, and the payload. A payload that is a
JSON object with a textual message is taken apart into the message and further fields.
-/

namespace LogSieve

open LogSieve.Text

/-- A log line. -/
structure Record where
  /-- Microseconds since the beginning of 1970. -/
  timestamp : Int64
  labels : Keyed String
  message : String
  fields : Keyed Json.Value
  raw : String
deriving Inhabited

namespace Record

/-- The name under which the message is found. -/
def messageField : String := "message"

/-- The members of a payload that is a JSON object. -/
def members? (raw : String) : Option (Keyed Json.Value) :=
  (Json.Tree.parse? raw.toList).bind (Json.Tree.map? (Json.Tree.value? (Json.nestingLimit - 1)))

/-- Message and fields of a payload. The message and the labels of the stream are no fields; a
payload without a textual message is its own message and has no fields. -/
def readPayload (labels : Keyed String) (raw : String) : String × Keyed Json.Value :=
  match members? raw with
  | some members =>
      match members.get? messageField with
      | some (.string message) =>
          (message, members.filter fun member =>
            member.1 != messageField && (labels.get? member.1).isNone)
      | _ => (raw, ∅)
  | none => (raw, ∅)

/-- The record of a log line. -/
def ofLine (timestamp : Int64) (labels : List (String × String)) (raw : String) : Record :=
  let labels := Keyed.ofList labels
  let (message, fields) := readPayload labels raw
  { timestamp, labels, message, fields, raw }

/-- The hash of the payload, which tells records apart for people. -/
def hash (record : Record) : UInt64 := Hash.XxHash64.hash 0 record.raw.toUTF8.toList

/-- The name of a record. -/
def name (record : Record) : String := "log-" ++ String.ofList (digitsOf record.hash.toNat)

/-- The labels as text. -/
def labelText (record : Record) : String :=
  String.intercalate "," (record.labels.pairs.map fun (key, value) => key ++ "=" ++ value)

/-- When the record was emitted, in writing. -/
def time? (record : Record) : Option String := Time.format? record.timestamp.toInt

/-- What a record holds under a name: a label of the stream, else a textual field, else the message
under its own name. -/
def resolve? (record : Record) (field : String) : Option String :=
  match record.labels.get? field with
  | some value => some value
  | none =>
      match record.fields.get? field with
      | some (.string value) => some value
      | _ => if field = messageField then some record.message else none

/-- Whether a text occurs in the payload. -/
def mentions (record : Record) (needle : String) : Bool := contains record.raw needle

/-- A short description. -/
def describe (record : Record) : String :=
  "LogRecord \x7b timestamp: " ++ String.ofList (integerDigits record.timestamp.toInt) ++
    ", stream: " ++ quoted record.labelText ++ ", message: " ++ quoted record.message ++ ", .. \x7d"

end Record

end LogSieve
