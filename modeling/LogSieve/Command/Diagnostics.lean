import LogSieve.Event
import LogSieve.Json.Printer
import LogSieve.Text.Quoted

/-!
# Showing events

How an event is written, on one line for people or as JSON.
-/

namespace LogSieve.Command

open LogSieve.Text

/-- The value of a field for people. -/
def fieldText : FieldValue → String
  | .plain text => text
  | .text text => quoted text
  | .number value => toSignedDecimal value
  | .flag value => if value then "true" else "false"

/-- An event on one line. -/
def eventLine (event : Event) : String :=
  event.level.name ++ " " ++ event.message ++
    String.join (event.fields.map fun (key, value) => " " ++ key ++ "=" ++ fieldText value)

/-- The value of a field as JSON. -/
def fieldJson : FieldValue → Json.Value
  | .plain text | .text text => .string text
  | .number value => .integer value
  | .flag value => .bool value

/-- An event as JSON. -/
def eventJson (event : Event) : Json.Value :=
  .object [("level", .string event.level.name), ("target", .string event.target),
    ("fields", .object (("message", .string event.message) ::
      event.fields.map fun (key, value) => (key, fieldJson value)))]

/-- What is said of a format that is not known. -/
def unknownFormat (format : String) : String :=
  "unknown log format '" ++ format ++ "', expected 'json' or 'pretty'"

end LogSieve.Command
